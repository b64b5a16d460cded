import Rzmq.Socket.Dealer

/-! The callers of `send_multipart` that wait for the message which another task sends frame by
frame.  A caller clones the notifier of that transaction under the lock and registers with it
afterwards; the last `send` notifies after an await, where its future may be dropped. -/

namespace Rzmq

open List Option Transition

inductive DealerEnding where
  | none
  | awaiting (k : Nat)
  | notifying (k : Nat)
deriving DecidableEq

/-- The current transaction with its number of parts, those that callers have cloned the notifier
of, and those that they are registered with. -/
structure DealerTransactions where
  next : Nat
  current : Option (Nat × Nat)
  ending : DealerEnding
  cloned : List Nat
  parked : List Nat

namespace DealerTransactions

def new : DealerTransactions := ⟨0, none, .none, [], []⟩

inductive Action where
  | sendMore
  | sendLast
  /-- `send_logical_message` returns. -/
  | sent
  /-- The future of the last `send` is dropped. -/
  | cancel
  | notifyWaiters
  | look
  | register (k : Nat)
  /-- The socket closes. -/
  | closing (k : Nat)

variable (s : DealerTransactions)

def step : Action → Option DealerTransactions
  | .sendMore =>
    if s.ending ≠ .none then none
    else
      match s.current with
      | none => some { s with current := some (s.next, 1), next := s.next + 1 }
      | some (k, parts) =>
        if Dealer.maxDealerSendBufferParts ≤ parts then
          some { s with current := none, ending := .notifying k }
        else some { s with current := some (k, parts + 1) }
  | .sendLast =>
    if s.ending ≠ .none then none
    else
      match s.current with
      | none => some s
      | some (k, _) => some { s with current := none, ending := .awaiting k }
  | .sent =>
    match s.ending with
    | .awaiting k => some { s with ending := .notifying k }
    | _ => none
  | .cancel =>
    match s.ending with
    | .awaiting _ => some { s with ending := .none }
    | _ => none
  | .notifyWaiters =>
    match s.ending with
    | .notifying k => some { s with ending := .none, parked := s.parked.filter (· ≠ k) }
    | _ => none
  | .look =>
    match s.current with
    | none => some s
    | some (k, _) => some { s with cloned := k :: s.cloned }
  | .register k =>
    if k ∈ s.cloned then
      some { s with cloned := s.cloned.erase k, parked := k :: s.parked }
    else none
  | .closing k => if k ∈ s.parked then some { s with parked := s.parked.erase k } else none

/-- The transaction is under way, or the notification of its end is still due. -/
def Live (k : Nat) : Prop :=
  (∃ parts, s.current = some (k, parts)) ∨ s.ending = .awaiting k ∨ s.ending = .notifying k

def Abandoned : Prop := ∃ k ∈ s.parked, ¬ s.Live k

/-- A notification finds every caller registered, and the last `send` is not dropped while a caller
has the notifier. -/
def Heard : Action → Prop
  | .notifyWaiters => ∀ k ∈ s.cloned, s.ending ≠ .notifying k
  | .cancel => ∀ k ∈ s.cloned ++ s.parked, s.ending ≠ .awaiting k
  | _ => True

structure Kept : Prop where
  live : ∀ k ∈ s.cloned ++ s.parked, s.Live k
  busy : s.ending ≠ .none → s.current = none

variable {s t : DealerTransactions} {a : Action}

lemma Kept.live_ending (kept : s.Kept) (ends : s.ending ≠ .none) {k : Nat} (live : s.Live k) :
    s.ending = .awaiting k ∨ s.ending = .notifying k := by
  refine live.resolve_left fun ⟨parts, current⟩ => ?_
  rw [kept.busy ends] at current
  cases current

lemma live_current (idle : s.ending = .none) {k : Nat} (live : s.Live k) :
    ∃ parts, s.current = some (k, parts) :=
  live.resolve_right fun ends => by simp [idle] at ends

lemma Kept.sendMore (kept : s.Kept) (taken : s.step .sendMore = some t) : t.Kept := by
  obtain ⟨idle, taken⟩ := ite_none_left_eq_some.mp taken
  rw [not_not] at idle
  have live : ∀ k ∈ s.cloned ++ s.parked, ∃ parts, s.current = some (k, parts) :=
    fun k mem => live_current idle (kept.live k mem)
  split at taken
  · rename_i none
    cases taken
    exact ⟨fun k mem => by simp [none] at live; simp_all, fun ends => absurd idle ends⟩
  · rename_i j parts current
    have same : ∀ k ∈ s.cloned ++ s.parked, j = k := fun k mem => by
      obtain ⟨_, mine⟩ := live k mem
      rw [current] at mine
      exact (Prod.mk.inj (some.inj mine)).1
    split at taken <;> cases taken
    · exact ⟨fun k mem => .inr (.inr (congrArg _ (same k mem))), fun _ => rfl⟩
    · exact ⟨fun k mem => .inl ⟨_, by rw [same k mem]⟩, fun ends => absurd idle ends⟩

lemma Kept.step (kept : s.Kept) (heard : s.Heard a) (taken : s.step a = some t) : t.Kept := by
  cases a with
  | sendMore => exact kept.sendMore taken
  | sendLast =>
    obtain ⟨idle, taken⟩ := ite_none_left_eq_some.mp taken
    rw [not_not] at idle
    split at taken <;> cases taken
    · exact kept
    · rename_i current
      refine ⟨fun k mem => .inr (.inl ?_), fun _ => rfl⟩
      obtain ⟨_, mine⟩ := live_current idle (kept.live k mem)
      rw [current] at mine
      exact congrArg _ (Prod.mk.inj (some.inj mine)).1
  | sent =>
    dsimp only [step] at taken
    split at taken <;> cases taken
    rename_i ends
    refine ⟨fun k mem => .inr (.inr ?_), fun _ => kept.busy (by simp [ends])⟩
    have live := kept.live_ending (by simp [ends]) (kept.live k mem)
    simpa [ends] using live
  | cancel =>
    dsimp only [step] at taken
    split at taken <;> cases taken
    rename_i ends
    refine ⟨fun k mem => absurd ?_ (heard k mem), fun other => absurd rfl other⟩
    have live := kept.live_ending (by simp [ends]) (kept.live k mem)
    simpa [ends] using live
  | notifyWaiters =>
    dsimp only [step] at taken
    split at taken <;> cases taken
    rename_i j ends
    have only : ∀ k ∈ s.cloned ++ s.parked, j = k := fun k mem => by
      have live := kept.live_ending (by simp [ends]) (kept.live k mem)
      simpa [ends] using live
    refine ⟨fun k mem => ?_, fun other => absurd rfl other⟩
    rcases mem_append.mp mem with mem | mem
    · exact absurd (ends.trans (congrArg _ (only k (mem_append_left _ mem)))) (heard k mem)
    · obtain ⟨mem, other⟩ := mem_filter.mp mem
      exact absurd (only k (mem_append_right _ mem)).symm (by simpa using other)
  | look =>
    dsimp only [step] at taken
    split at taken <;> cases taken
    · exact kept
    · rename_i j parts current
      refine ⟨fun k mem => ?_, kept.busy⟩
      rcases mem_cons.mp mem with rfl | mem
      · exact .inl ⟨parts, current⟩
      · exact kept.live k mem
  | register j =>
    obtain ⟨mine, ⟨⟩⟩ := ite_none_right_eq_some.mp taken
    refine ⟨fun k mem => kept.live k ?_, kept.busy⟩
    simp only [mem_append, mem_cons] at mem ⊢
    rcases mem with mem | rfl | mem
    · exact .inl (mem_of_mem_erase mem)
    · exact .inl mine
    · exact .inr mem
  | closing j =>
    obtain ⟨_, ⟨⟩⟩ := ite_none_right_eq_some.mp taken
    refine ⟨fun k mem => kept.live k ?_, kept.busy⟩
    simp only [mem_append] at mem ⊢
    exact mem.imp id mem_of_mem_erase

lemma abandoned_of_cloned {k : Nat} (dead : ¬ s.Live k) (mem : k ∈ s.cloned ++ s.parked) :
    ∃ u, Reaches step (fun _ _ => True) s u ∧ u.Abandoned := by
  rcases mem_append.mp mem with mem | mem
  · exact ⟨_, Reaches.refl.tail trivial (a := .register k) (if_pos mem), k, mem_cons_self, dead⟩
  · exact ⟨s, .refl, k, mem, dead⟩

/-- No caller waits for a transaction that nobody will notify, as long as each notification is
heard. -/
theorem waiters_released (s : DealerTransactions) (reached : Reaches step Heard new s) :
    ¬ s.Abandoned ∧ ∀ a t, s.step a = some t → ¬ s.Heard a →
      ∃ u, Reaches step (fun _ _ => True) t u ∧ u.Abandoned := by
  have kept : s.Kept :=
    reached.invariant (fun _ _ _ kept heard taken => kept.step heard taken) ⟨nofun, fun _ => rfl⟩
  refine ⟨fun ⟨k, mem, dead⟩ => ?_, fun a t taken unheard => ?_⟩
  · exact dead (kept.live k (mem_append_right _ mem))
  · have busy := kept.busy
    cases a with
    | notifyWaiters =>
      simp only [Heard, not_forall, not_not] at unheard
      obtain ⟨k, mem, ends⟩ := unheard
      simp only [step, ends] at taken
      cases taken
      refine abandoned_of_cloned (k := k) ?_ (mem_append_left _ mem)
      simp [Live, busy (by simp [ends])]
    | cancel =>
      simp only [Heard, not_forall, not_not] at unheard
      obtain ⟨k, mem, ends⟩ := unheard
      simp only [step, ends] at taken
      cases taken
      refine abandoned_of_cloned (k := k) ?_ mem
      simp [Live, busy (by simp [ends])]
    | _ => exact absurd trivial unheard

theorem waiters_released_notified :
    ∃ s, run step new [.sendMore, .look, .register 0] = some s ∧ s.parked = [0] ∧
      ∃ t, run step s [.sendLast, .sent, .notifyWaiters] = some t ∧ t.parked = [] ∧
        ¬ t.Abandoned := by
  have permitted : Permitted step Heard new
      [.sendMore, .look, .register 0, .sendLast, .sent, .notifyWaiters] := by
    iterate 5 refine ⟨trivial, _, rfl, ?_⟩
    exact ⟨fun _ mem => absurd mem not_mem_nil, _, rfl, trivial⟩
  have reached := reaches_of_permitted permitted rfl
  exact ⟨_, rfl, rfl, _, rfl, rfl, (waiters_released _ reached).1⟩

theorem cancelled_send_abandons :
    ∃ s, run step new [.sendMore, .look, .register 0, .sendLast, .cancel] = some s ∧ s.Abandoned :=
  ⟨_, rfl, 0, by decide, by rintro (⟨_, ⟨⟩⟩ | ⟨⟨⟩⟩ | ⟨⟨⟩⟩)⟩

end DealerTransactions

end Rzmq
