import Rzmq.Socket.Receivers

/-! What the sessions are told about the messages that they deliver, against what becomes of them in
the queue and in the receive calls. -/

namespace Rzmq

open Option Function Transition

variable {α β : Type}

namespace Receivers

variable {toFrames : β → List (Msg α)} {s s' : Receivers β α}

def Patient : Action β → Prop
  | .expire _ => False
  | _ => True

/-- The messages for which `queue_item` returned `Ok` were taken, in order, or are in the queue, and
every other one is being queued or its session was told. -/
structure Accounted (toFrames : β → List (Msg α)) (s : Receivers β α) : Prop
    extends s.Lossless toFrames where
  acknowledged : s.acknowledged = s.taken ++ s.items
  reported : ∀ n < s.arrivals, (∃ p item, s.pushes p = some item ∧ item.1 = n) ∨
    n ∈ s.acknowledged.map Prod.fst ∨ n ∈ s.refused.map Prod.fst

structure Told (s : Receivers β α) : Prop where
  agreed : s.acknowledged = s.accepted
  reported : ∀ n < s.arrivals, (∃ p item, s.pushes p = some item ∧ item.1 = n) ∨
    n ∈ s.acknowledged.map Prod.fst ∨ n ∈ s.refused.map Prod.fst

lemma Told.of_same (told : s.Told) (acknowledged : s'.acknowledged = s.acknowledged)
    (accepted : s'.accepted = s.accepted) (refused : s'.refused = s.refused)
    (pushes : s'.pushes = s.pushes) (arrivals : s'.arrivals = s.arrivals) : s'.Told := by
  refine ⟨by rw [acknowledged, accepted, told.agreed], ?_⟩
  rw [acknowledged, refused, pushes, arrivals]
  exact told.reported

lemma Told.hand (told : s.Told) {pipe : Nat} {item : Nat × β} {acknowledged refused : List Nat}
    (waits : s.pushes pipe = some item)
    (known : ∀ n, n = item.1 ∨ n ∈ s.acknowledged.map Prod.fst ∨ n ∈ s.refused.map Prod.fst →
      n ∈ acknowledged ∨ n ∈ refused) :
    ∀ n < s.arrivals, (∃ p item', update s.pushes pipe none p = some item' ∧ item'.1 = n) ∨
      n ∈ acknowledged ∨ n ∈ refused := by
  intro n small
  rcases told.reported n small with ⟨p, item', waits', number⟩ | done
  · by_cases mine : p = pipe
    · subst mine
      rw [waits, some.injEq] at waits'
      exact .inr (known n (.inl (by rw [waits', number])))
    · exact .inl ⟨p, item', (update_of_ne mine _ _).trans waits', number⟩
  · exact .inr (known n (.inr done))

lemma told_step (s : Receivers β α) (a : Action β) (s' : Receivers β α) (told : s.Told)
    (patient : Patient a) (taken : s.step toFrames a = some s') : s'.Told := by
  cases step_cases taken with
  | @arrive pipe item vacant =>
    refine ⟨told.agreed, ?_⟩
    intro n small
    rcases Nat.lt_succ_iff_lt_or_eq.mp small with old | rfl
    · refine (told.reported n old).imp_left ?_
      rintro ⟨p, item', waits, number⟩
      have away : p ≠ pipe := by
        rintro rfl
        rw [vacant] at waits
        cases waits
      exact ⟨p, item', (update_of_ne away _ _).trans waits, number⟩
    · exact .inl ⟨pipe, _, update_self _ _ _, rfl⟩
  | @push pipe item waits =>
    refine ⟨congrArg (· ++ [item]) told.agreed, told.hand waits ?_⟩
    rintro n (rfl | old | old) <;> simp_all
  | refuse waits =>
    refine ⟨told.agreed, told.hand waits ?_⟩
    rintro n (rfl | old | old) <;> simp_all
  | giveUp waits => exact patient.elim
  | _ => exact told.of_same rfl rfl rfl rfl rfl

lemma Kept.accounted (kept : s.Kept toFrames) (told : s.Told) : s.Accounted toFrames where
  toLossless := kept.toLossless
  acknowledged := told.agreed.trans kept.queued
  reported := told.reported

lemma patient_of_accounted {a} (accounted : s.Accounted toFrames)
    (taken : s.step toFrames a = some s') (after : s'.Accounted toFrames) : Patient a := by
  cases step_cases taken with
  | @giveUp pipe item waits =>
    have extra := after.acknowledged
    change s.acknowledged ++ [item] = s.taken ++ s.items at extra
    rw [accounted.acknowledged] at extra
    simp at extra
  | _ => trivial

def Alone (s : Receivers β α) : Action β → Prop
  | .recvBegin _ _ | .multiBegin _ _ => ∀ t, s.calls t = .idle
  | _ => True

/-- One call at a time, and what it has taken is the only message still to be delivered. -/
structure Ordered (s : Receivers β α) : Prop where
  single : ∀ t t', s.calls t ≠ .idle → s.calls t' ≠ .idle → t = t'
  order : s.taken = s.delivered ∨ ∃ t item, s.held t = some item ∧ s.taken = s.delivered ++ [item]

section

variable (ordered : s.Ordered)
include ordered

lemma Ordered.single_update {t : Nat} (c : ReceiveCall α)
    (mine : s.calls t ≠ .idle ∨ ∀ t', s.calls t' = .idle) (t₁ t₂ : Nat)
    (busy₁ : update s.calls t c t₁ ≠ .idle) (busy₂ : update s.calls t c t₂ ≠ .idle) : t₁ = t₂ := by
  have only : ∀ t', update s.calls t c t' ≠ .idle → t' = t := by
    intro t' busy
    by_contra away
    rw [update_of_ne away] at busy
    rcases mine with mine | idle
    · exact away (ordered.single t' t busy mine)
    · exact busy (idle t')
  rw [only t₁ busy₁, only t₂ busy₂]

lemma Ordered.all_delivered (kept : s.Kept toFrames) {t : Nat} (busy : s.calls t ≠ .idle)
    (free : s.held t = none) : s.taken = s.delivered := by
  rcases ordered.order with all | ⟨t', item, has, -⟩
  · exact all
  · obtain ⟨-, -, ⟨rcvtimeo, call⟩, -⟩ := kept.held t' item has
    have same := ordered.single t' t (by simp [call]) busy
    rw [same, free] at has
    cases has

lemma Ordered.of_same (calls : s'.calls = s.calls) (taken : s'.taken = s.taken)
    (delivered : s'.delivered = s.delivered) (held : s'.held = s.held) : s'.Ordered := by
  obtain ⟨single, order⟩ := ordered
  rw [← calls] at single
  rw [← taken, ← delivered, ← held] at order
  exact ⟨single, order⟩

lemma Ordered.move (t : Nat) {c} (mine : s.calls t ≠ .idle ∨ ∀ t', s.calls t' = .idle)
    (calls : s'.calls = update s.calls t c) (taken : s'.taken = s.taken)
    (delivered : s'.delivered = s.delivered) (held : s'.held = s.held) : s'.Ordered := by
  refine ⟨?_, ?_⟩
  · rw [calls]
    exact ordered.single_update c mine
  · rw [taken, delivered, held]
    exact ordered.order

lemma Ordered.stores (kept : s.Kept toFrames) {t : Nat} {rcvtimeo frames}
    (call : s.calls t = .message rcvtimeo (.storing frames)) :
    s.taken = s.delivered ++ (s.held t).toList := by
  obtain ⟨item, has, -⟩ := kept.holds_storing call
  rcases ordered.order with all | ⟨t', item', has', order⟩
  · obtain ⟨mem, new, -⟩ := kept.held t item has
    rw [all] at mem
    exact absurd mem new
  · obtain ⟨-, -, ⟨_, call'⟩, -⟩ := kept.held t' item' has'
    have same := ordered.single t' t (by simp [call']) (by simp [call])
    rw [same] at has'
    rw [order, has', toList_some]

end

lemma ordered_step {a} (kept : s.Kept toFrames) (ordered : s.Ordered)
    (gentle : s.Gentle a) (alone : s.Alone a) (taken : s.step toFrames a = some s') :
    s'.Ordered := by
  cases step_cases taken with
  | recvStart call | multiStart call => exact ordered.move _ (.inr alone) rfl rfl rfl rfl
  | lock call | popFailed call | multiLock call | popWholeFailed call | recvTimeout call
  | multiTimeout call => exact ordered.move _ (.inl (by simp [call])) rfl rfl rfl rfl
  | @frame t _ _ _ call buffer =>
    have free := kept.free (t := t) (by simp [call])
    refine ordered.move t (.inl (by simp [call])) rfl rfl ?_ (release_free free)
    show s.delivered ++ (s.held t).toList = s.delivered
    rw [free, toList_none, List.append_nil]
  | @pop t _ item rest call items =>
    have busy : s.calls t ≠ .idle := by simp [call]
    have free := kept.free (t := t) (by simp [call])
    refine ⟨ordered.single_update _ (.inl busy), .inr ⟨t, item, update_self _ _ _, ?_⟩⟩
    show s.taken ++ [item] = s.delivered ++ [item]
    rw [ordered.all_delivered kept busy free]
  | storeNone call | store call =>
    exact ⟨ordered.single_update _ (.inl (by simp [call])), .inl (ordered.stores kept call)⟩
  | @popWhole t _ item rest call items =>
    have busy : s.calls t ≠ .idle := by simp [call]
    have free := kept.free (t := t) (by simp [call])
    refine ⟨ordered.single_update _ (.inl busy), .inl ?_⟩
    exact congrArg (· ++ [item]) (ordered.all_delivered kept busy free)
  | cancel busy =>
    exact ordered.move _ (.inl busy) rfl rfl rfl (release_free (kept.free gentle))
  | arrive | push | refuse | giveUp | clearBegin | clear | close =>
    exact ordered.of_same rfl rfl rfl rfl

/-- In every run in which no push is given up and whose steps are gentle, every acknowledged message
is taken in order or still queued, and delivered once; exactly such steps keep it so.  Receive calls
one at a time deliver in order. -/
theorem acknowledged_not_lost (rcvhwm : Nat) (reached : Reaches (step toFrames)
      (fun s a => Posed toFrames a ∧ s.Gentle a ∧ Patient a) (start rcvhwm) s) :
    s.Accounted toFrames ∧
      (∀ a s', Posed toFrames a → s.step toFrames a = some s' →
        (s'.Accounted toFrames ↔ s.Gentle a ∧ Patient a)) ∧
      (Reaches (step toFrames) (fun s a => Posed toFrames a ∧ s.Gentle a ∧ Patient a ∧ s.Alone a)
        (start rcvhwm) s → s.delivered <+: s.acknowledged) := by
  have told_start : (start rcvhwm : Receivers β α).Told := ⟨rfl, by simp [start]⟩
  have kept : s.Kept toFrames :=
    (reached.weaken fun _ _ allowed => ⟨allowed.1, allowed.2.1⟩).invariant kept_step
      (kept_start rcvhwm)
  have told : s.Told :=
    (reached.weaken fun _ _ allowed => allowed.2.2).invariant told_step told_start
  have accounted := kept.accounted told
  refine ⟨accounted, fun a s' posed taken => ⟨fun after => ?_, ?_⟩, fun alone => ?_⟩
  · exact ⟨gentle_of_lossless kept taken after.toLossless,
      patient_of_accounted accounted taken after⟩
  · rintro ⟨gentle, patient⟩
    exact (kept_step s a s' kept ⟨posed, gentle⟩ taken).accounted
      (told_step s a s' told patient taken)
  · have both : s.Kept toFrames ∧ s.Ordered := by
      have keeps : ∀ (s : Receivers β α) a s', s.Kept toFrames ∧ s.Ordered →
          Posed toFrames a ∧ s.Gentle a ∧ Patient a ∧ s.Alone a →
          s.step toFrames a = some s' → s'.Kept toFrames ∧ s'.Ordered := by
        rintro s a s' ⟨kept, ordered⟩ ⟨posed, gentle, -, alone⟩ taken
        exact ⟨kept_step s a s' kept ⟨posed, gentle⟩ taken,
          ordered_step kept ordered gentle alone taken⟩
      exact alone.invariant keeps
        ⟨kept_start rcvhwm, fun _ _ busy => (busy rfl).elim, .inl rfl⟩
    rw [accounted.acknowledged]
    rcases both.2.order with all | ⟨t, item, -, left⟩
    · exact ⟨s.items, by rw [all]⟩
    · exact ⟨item :: s.items, by rw [left]; simp⟩

/-- A queue for one message, with a receiver that comes after the first message and again later. -/
theorem acknowledged_not_lost_slow : ∃ s : Receivers (List (Msg UInt8)) UInt8,
      run (step id) (start 1) [.arrive 1 (pair 7), .push 1, .arrive 2 (pair 8),
        .multiBegin 1 .infinite, .multiPoll 1, .multiPoll 1, .push 2] = some s ∧
      s.wholes.map Prod.snd = [pair 7] ∧ s.items = [(1, pair 8)] ∧ s.Accounted id := by
  refine exists_of_permitted ?_ rfl fun reached =>
    ⟨by decide +kernel, by decide +kernel, (acknowledged_not_lost 1 reached).1⟩
  exact ⟨⟨⟨rfl, rfl⟩, trivial, trivial⟩, _, rfl, ⟨trivial, trivial, trivial⟩, _, rfl,
    ⟨⟨rfl, rfl⟩, trivial, trivial⟩, _, rfl, ⟨trivial, trivial, trivial⟩, _, rfl,
    ⟨trivial, fun _ _ => rfl, trivial⟩, _, rfl, ⟨trivial, fun _ _ => rfl, trivial⟩, _, rfl,
    ⟨trivial, trivial, trivial⟩, _, rfl, trivial⟩

/-- The queue stays full for the second that a push waits: its session is told `Ok`, and the message
is gone. -/
theorem acknowledged_and_dropped : ∃ s : Receivers (List (Msg UInt8)) UInt8,
      run (step id) (start 1) [.arrive 1 (pair 7), .push 1, .arrive 2 (pair 8), .expire 2] =
        some s ∧
      s.acknowledged = [(0, pair 7), (1, pair 8)] ∧ s.items = [(0, pair 7)] ∧ s.taken = [] ∧
      s.refused = [] ∧ ¬ s.Accounted id := by
  refine ⟨_, rfl, by decide +kernel, by decide +kernel, rfl, rfl, ?_⟩
  intro accounted
  have acknowledged := accounted.acknowledged
  revert acknowledged
  decide +kernel

end Receivers

end Rzmq
