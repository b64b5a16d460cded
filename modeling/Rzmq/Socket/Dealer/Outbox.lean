import Rzmq.Lib.Outbox
import Rzmq.Socket.Dealer

/-! The sending side of a DEALER is an outbox: a message is promised when its call returns `Ok`, and
the processor is the worker.  The order of the messages and the account of them follow. -/

namespace Rzmq

open List Option Bool Function Transition Outbox

variable {α : Type}

namespace Dealer

def Processor.hand : Processor α → List (Logical α)
  | .waiting | .woken | .stopped => []
  | .counting message | .requeueing message => [message]
  | .checking c | .picking c | .located c _ | .acquiring c _ _ _ | .delivering c _ _ _ =>
    [c.message]
  | .closing message => [message, message]

def Processor.attempts : Processor α → Bool
  | .picking _ | .located _ _ | .acquiring _ _ _ _ | .delivering _ _ _ _ => true
  | _ => false

def outbox (s : Dealer α) : Outbox (Logical α) where
  promised := s.okayed
  queue := s.pendingOutgoingQueue
  hand := s.processor.hand
  delivered := s.accepted.map Prod.snd
  live := s.running || s.processor.attempts

def event (s : Dealer α) : Action α → Event (Logical α)
  | .advance t =>
    match s.calls t with
    | .pushing d => .enqueue (s.promise d.wire)
    | _ => .quiet
  | .accept t =>
    match s.calls t with
    | .delivering d _ _ _ => .direct (s.promise d.wire)
    | _ => .quiet
  | .processorAdvance =>
    match s.processor with
    | .woken =>
      if s.pendingOutgoingQueue ≠ [] ∧ s.loadBalancer.hasConnections = true then .pop else .quiet
    | .checking c => if c.attempts < c.maxAttempts ∧ s.running = false then .copy else .quiet
    | .closing _ | .requeueing _ => .putBack
    | _ => .quiet
  | .processorAccept => .deliver
  | _ => .quiet

def Numbered (s : Dealer α) : Prop := ∀ m ∈ s.okayed, m.number < s.okayed.length

variable {s s' : Dealer α} {a : Action α}

lemma Numbered.fresh (numbered : s.Numbered) (frames) :
    s.promise frames ∉ s.okayed := fun mem => Nat.lt_irrefl _ (numbered _ mem)

lemma Numbered.promise (numbered : s.Numbered) (frames) :
    ∀ m ∈ s.okayed ++ [s.promise frames], m.number < (s.okayed ++ [s.promise frames]).length := by
  intro m mem
  rw [length_append, length_singleton]
  rcases mem_append.mp mem with old | new
  · exact Nat.lt_succ_of_lt (numbered m old)
  · rw [mem_singleton.mp new]
    exact Nat.lt_succ_self _

/-! What the steps of the calls leave alone -/

lemma outbox_setProcessor (p : Processor α) : (s.setProcessor p).outbox =
      { s.outbox with hand := p.hand, live := s.running || p.attempts } := rfl

lemma outbox_lockTransaction (t : Nat) (m : Msg α) : (s.lockTransaction t m).outbox = s.outbox := by
  unfold lockTransaction
  split
  · rfl
  · split <;> rfl
  · rfl
  · rfl

lemma outbox_permitDenied (t : Nat) (d : Direct α) (uri : String) (e : ZmqError) :
    (s.permitDenied t d uri e).outbox = s.outbox := by
  unfold permitDenied
  split <;> rfl

lemma outbox_advance {t : Nat} (taken : s.advance t = some s')
    (other : ∀ d, s.calls t ≠ .pushing d) : s'.outbox = s.outbox := by
  unfold advance at taken
  split at taken <;> try cases taken
  · exact outbox_lockTransaction _ _
  · unfold lockMultipart
    split <;> rfl
  · unfold start
    split <;> rfl
  · unfold attempt
    split
    · rfl
    · split <;> rfl
  · unfold pick
    split
    · rfl
    · dsimp only
      split <;> rfl
  · unfold locate
    split <;> rfl
  · unfold acquire at taken
    obtain ⟨answer, -, rfl⟩ := map_eq_some_iff.mp taken
    cases answer with
    | ok permits => rfl
    | error e => exact outbox_permitDenied _ _ _ _
  · unfold queueCheck
    split <;> rfl
  · unfold measure
    split
    · rfl
    · split <;> rfl
  · rename_i d call
    exact absurd call (other d)

/-! Every step is a step of the outbox -/

lemma quiet_of_outbox (same : s'.outbox = s.outbox) : Step s.outbox .quiet s'.outbox := by
  rw [same]
  exact .quiet id

lemma quiet_setProcessor {p} (held : p.hand = s.processor.hand)
    (allowed : p.attempts = true → s.running = true ∨ s.processor.attempts = true) :
    Step s.outbox .quiet (s.setProcessor p).outbox := by
  rw [outbox_setProcessor, held]
  refine .quiet fun alive => ?_
  rcases or_eq_true_iff.mp alive with runs | attempts
  · exact or_eq_true_iff.mpr (.inl runs)
  · exact or_eq_true_iff.mpr (allowed attempts)

lemma processorPop_step (call : s.processor = .woken) :
    Step s.outbox (s.event .processorAdvance) s.processorPop.outbox := by
  have free : s.outbox.hand = [] := by rw [outbox, call]; rfl
  have quiet : Step s.outbox .quiet (s.setProcessor .waiting).outbox :=
    quiet_setProcessor (by rw [call]; rfl) nofun
  simp only [event, call, processorPop]
  cases queue : s.pendingOutgoingQueue with
  | nil => simpa using quiet
  | cons message rest =>
    by_cases connected : s.loadBalancer.hasConnections = true
    · have popped := Outbox.Step.pop (s := s.outbox) queue free
      simpa [connected, outbox, setProcessor, call, Processor.attempts, Processor.hand]
        using popped
    · simpa [connected] using quiet

lemma processorCheck_step {c} (call : s.processor = .checking c) :
    Step s.outbox (s.event .processorAdvance) (s.processorCheck c).outbox := by
  have held : s.outbox.hand = [c.message] := by rw [outbox, call]; rfl
  have kept : Step s.outbox .quiet (s.setProcessor (.requeueing c.message)).outbox :=
    quiet_setProcessor (by rw [call]; rfl) nofun
  simp only [event, call, processorCheck]
  by_cases left : c.attempts < c.maxAttempts
  · cases runs : s.running with
    | false =>
      have dead : s.outbox.live = false := by rw [outbox, call, runs]; rfl
      have copied := Outbox.Step.copy held dead
      simpa [left, outbox, setProcessor, call, runs, Processor.attempts, Processor.hand]
        using copied
    | true =>
      have goes : Step s.outbox .quiet
          (s.setProcessor (.picking { c with attempts := c.attempts + 1 })).outbox :=
        quiet_setProcessor (by rw [call]; rfl) fun _ => .inl runs
      simpa [left] using goes
  · simpa [left] using kept

lemma processorDenied_step {c uri} (e : ZmqError) (held : s.processor.hand = [c.message]) :
    Step s.outbox .quiet (s.processorDenied c uri e).outbox := by
  unfold processorDenied
  split
  · exact quiet_setProcessor (s := s.removeConnection uri) held.symm nofun
  · exact quiet_setProcessor held.symm nofun

lemma putBack_step {message p}
    (held : s.processor.hand = message :: p.hand) (rests : p.attempts = false)
    (rested : s.processor.attempts = false) :
    Step s.outbox .putBack ((s.pushFront message).setProcessor p).outbox := by
  have back := Outbox.Step.putBack (s := s.outbox) held
  simpa [outbox, setProcessor, pushFront, rests, rested] using back

lemma processorAdvance_step (taken : s.processorAdvance = some s') :
    Step s.outbox (s.event .processorAdvance) s'.outbox := by
  unfold processorAdvance at taken
  split at taken <;> try cases taken
  · rename_i call
    exact processorPop_step call
  · rename_i message call
    simp only [event, call]
    exact quiet_setProcessor (by rw [call]; rfl) nofun
  · rename_i c call
    exact processorCheck_step call
  · rename_i c call
    simp only [event, call, processorPick]
    split
    · rename_i uri loadBalancer next
      exact quiet_setProcessor (s := { s with loadBalancer }) (p := .located c uri)
        (by rw [call]; rfl) fun _ => .inr (by rw [call]; rfl)
    · exact quiet_setProcessor (by rw [call]; rfl) nofun
  · rename_i c uri call
    simp only [event, call, processorLocate]
    split
    · exact quiet_setProcessor (by rw [call]; rfl) fun _ => .inr (by rw [call]; rfl)
    · exact quiet_setProcessor (s := s.removeConnection uri) (by rw [removeConnection, call]; rfl)
        nofun
  · rename_i c uri connection pipe call
    simp only [event, call]
    unfold processorAcquire at taken
    obtain ⟨answer, -, rfl⟩ := map_eq_some_iff.mp taken
    cases answer with
    | ok permits =>
      exact quiet_setProcessor (s := { s with pipeSendCoordinator := permits })
        (p := .delivering c uri connection pipe) (by rw [call]; rfl)
        fun _ => .inr (by rw [call]; rfl)
    | error e => exact processorDenied_step e (by rw [call]; rfl)
  · rename_i message call
    simp only [event, call]
    exact putBack_step (by rw [call]; rfl) rfl (by rw [call]; rfl)
  · rename_i message call
    simp only [event, call]
    exact putBack_step (by rw [call]; rfl) rfl (by rw [call]; rfl)

lemma outbox_step (numbered : s.Numbered) (taken : s.step a = some s') :
    Step s.outbox (s.event a) s'.outbox := by
  cases a with
  | advance t =>
    by_cases pushing : ∃ d, s.calls t = .pushing d
    · obtain ⟨d, call⟩ := pushing
      simp only [step, advance, call] at taken
      cases taken
      simp only [event, call]
      exact .enqueue (numbered.fresh d.wire)
    · have other : ∀ d, s.calls t ≠ .pushing d := fun d call => pushing ⟨d, call⟩
      have quiet : s.event (.advance t) = .quiet := by simp only [event]
      rw [quiet]
      exact quiet_of_outbox (outbox_advance taken other)
  | accept t =>
    simp only [step, accept] at taken
    split at taken
    · rename_i d uri connection pipe call
      cases taken
      simp only [event, call]
      have direct : Step s.outbox (.direct (s.promise d.wire)) _ :=
        .direct (numbered.fresh d.wire)
      simpa [outbox, release, setCall] using direct
    · cases taken
  | processorAdvance => exact processorAdvance_step taken
  | processorAccept =>
    simp only [step, processorAccept] at taken
    split at taken
    · rename_i c uri connection pipe call
      cases taken
      have held : s.outbox.hand = [c.message] := by rw [outbox, call]; rfl
      have working : s.outbox.live = true := by simp [outbox, call, Processor.attempts]
      have delivered := @Outbox.Step.deliver _ s.outbox _ s.running held working
      simpa [event, outbox, release, setProcessor, Processor.hand, Processor.attempts]
        using delivered
    · cases taken
  | processorWake =>
    simp only [step, processorWake] at taken
    split at taken
    · rename_i call
      split at taken <;> cases taken
      · exact quiet_setProcessor (by rw [call]; rfl) nofun
      · exact quiet_setProcessor (by rw [call]; rfl) nofun
    · cases taken
  | processorPermitExpire =>
    simp only [step, processorPermitExpire] at taken
    split at taken
    · rename_i c uri connection pipe call
      split at taken <;> cases taken
      exact processorDenied_step .timeout (by rw [call]; rfl)
    · cases taken
  | processorRefuse e =>
    simp only [step, processorRefuse] at taken
    split at taken
    · rename_i c uri connection pipe call
      split at taken
      · cases taken
        exact quiet_setProcessor (s := s.release pipe) (by rw [release, call]; rfl) nofun
      · split at taken <;> cases taken
        · exact quiet_setProcessor (s := (s.removeConnection uri).removePipe pipe)
            (by rw [removePipe, removeConnection, call]; rfl) nofun
        · exact quiet_setProcessor (s := s.release pipe) (by rw [release, call]; rfl) nofun
    · cases taken
  | shutdown =>
    cases taken
    have fades : s.processor.attempts = true → s.outbox.live = true :=
      fun alive => or_eq_true_iff.mpr (.inr alive)
    exact Outbox.Step.quiet fades
  | sendBegin t m =>
    simp only [step, sendBegin] at taken
    split at taken
    · split at taken <;> cases taken <;> exact quiet_of_outbox rfl
    · cases taken
  | sendMultipartBegin t frames =>
    simp only [step, sendMultipartBegin] at taken
    split at taken
    · split at taken <;> cases taken <;> exact quiet_of_outbox rfl
    · cases taken
  | transactionDone t =>
    simp only [step, transactionDone] at taken
    split at taken <;> cases taken
    exact quiet_of_outbox rfl
  | transactionExpire t =>
    simp only [step, transactionExpire] at taken
    split at taken <;> cases taken
    exact quiet_of_outbox rfl
  | transactionClosing t =>
    simp only [step, transactionClosing] at taken
    split at taken
    · split at taken <;> cases taken
      exact quiet_of_outbox rfl
    · cases taken
  | permitExpire t =>
    simp only [step, permitExpire] at taken
    split at taken
    · split at taken <;> cases taken
      exact quiet_of_outbox (outbox_permitDenied _ _ _ _)
    · cases taken
  | refuse t e =>
    simp only [step, refuse] at taken
    split at taken
    · split at taken
      · cases taken
        exact quiet_of_outbox rfl
      · split at taken <;> cases taken <;> exact quiet_of_outbox rfl
    · cases taken
  | queueWake t =>
    simp only [step, queueWake] at taken
    split at taken <;> cases taken
    exact quiet_of_outbox rfl
  | queueExpire t =>
    simp only [step, queueExpire] at taken
    split at taken
    · split at taken <;> cases taken
      exact quiet_of_outbox rfl
    · cases taken
  | attach p =>
    cases taken
    unfold attach
    split <;> exact quiet_of_outbox rfl
  | detach p =>
    cases taken
    unfold detach
    dsimp only
    split <;> exact quiet_of_outbox rfl
  | setEndpoint uri info | setPipeUri p uri | setOptions sndtimeo sndhwm | setManual | stop =>
    cases taken
    exact quiet_of_outbox rfl

lemma event_promise {m} (promises : s.event a = .direct m ∨ s.event a = .enqueue m) :
    ∃ t d, m = s.promise d.wire ∧
      ((∃ uri connection pipe, s.calls t = .delivering d uri connection pipe) ∨
        s.calls t = .pushing d) := by
  unfold event at promises
  split at promises
  · split at promises
    · rename_i t _ d call
      exact ⟨t, d, by simpa [eq_comm] using promises, .inr call⟩
    · simp at promises
  · split at promises
    · rename_i t _ d uri connection pipe call
      exact ⟨t, d, by simpa [eq_comm] using promises, .inl ⟨uri, connection, pipe, call⟩⟩
    · simp at promises
  · split at promises
    · split at promises <;> simp at promises
    · split at promises <;> simp at promises
    · simp at promises
    · simp at promises
    · simp at promises
  · simp at promises
  · simp at promises

lemma numbered_step (numbered : s.Numbered) (taken : s.step a = some s') : s'.Numbered := by
  have moved := outbox_step numbered taken
  generalize happens : s.event a = e at moved
  generalize becomes : s'.outbox = after at moved
  have okayed : s'.okayed = after.promised := by rw [← becomes]; rfl
  unfold Numbered
  rw [okayed]
  cases moved with
  | @direct m fresh =>
    obtain ⟨t, d, rfl, -⟩ := event_promise (.inl happens)
    exact numbered.promise d.wire
  | @enqueue m fresh =>
    obtain ⟨t, d, rfl, -⟩ := event_promise (.inr happens)
    exact numbered.promise d.wire
  | quiet | pop | copy | putBack | deliver => exact numbered

/-! The order of the messages -/

/-- A call that hands its message to a connection finds no message in the queue or with the
processor. -/
def InOrder (s : Dealer α) : Action α → Prop
  | .accept t => ∀ d uri connection pipe, s.calls t = .delivering d uri connection pipe →
      s.pendingOutgoingQueue = [] ∧ s.processor.hand = []
  | _ => True

lemma inTurn_iff (s : Dealer α) (a : Action α) :
    s.outbox.InTurn (s.event a) ↔ s.InOrder a := by
  cases a with
  | accept t =>
    simp only [event, InOrder]
    split
    · rename_i d uri connection pipe call
      simp only [InTurn, waiting, outbox, append_eq_nil_iff]
      constructor
      · rintro ⟨hand, queue⟩ _ _ _ _ -
        exact ⟨queue, hand⟩
      · intro none
        exact (none d uri connection pipe call).symm
    · rename_i other
      exact ⟨fun _ d uri connection pipe call => absurd call (other d uri connection pipe),
        fun _ => trivial⟩
  | advance t =>
    simp only [event, InOrder]
    split <;> exact ⟨fun _ => trivial, fun _ => trivial⟩
  | processorAdvance =>
    simp only [event, InOrder]
    split
    · split <;> exact ⟨fun _ => trivial, fun _ => trivial⟩
    · split <;> exact ⟨fun _ => trivial, fun _ => trivial⟩
    all_goals exact ⟨fun _ => trivial, fun _ => trivial⟩
  | _ => exact ⟨fun _ => trivial, fun _ => trivial⟩

structure Ranked (s : Dealer α) : Prop where
  numbered : s.Numbered
  ordered : s.outbox.Ordered

lemma ranked_step (s : Dealer α) (a : Action α) (s' : Dealer α) (ranked : s.Ranked)
    (inOrder : s.InOrder a) (taken : s.step a = some s') : s'.Ranked :=
  ⟨numbered_step ranked.numbered taken,
    (outbox_step ranked.numbered taken).ordered ranked.ordered ((s.inTurn_iff a).mpr inOrder)⟩

/-- The messages whose calls returned `Ok` reach the connections in the order of the calls, in every
run in which no call hands its message over past others that wait; and exactly such steps keep the
order. -/
theorem messages_in_order {sndtimeo : Timeout} {sndhwm : Nat} {s : Dealer α}
    (reached : Reaches step InOrder (new sndtimeo sndhwm) s) :
    s.accepted.map Prod.snd <+: s.okayed ∧
    ∀ a s', s.step a = some s' → (s'.accepted.map Prod.snd <+: s'.okayed ↔ s.InOrder a) := by
  have ranked : s.Ranked := reached.invariant ranked_step
    ⟨nofun, fun _ => Nat.zero_le 1, [], rfl, fun _ => Iff.rfl, fun _ => rfl⟩
  refine ⟨ranked.ordered.delivered_first, fun a s' taken => ?_⟩
  rw [← s.inTurn_iff a]
  exact (outbox_step ranked.numbered taken).inTurn_iff ranked.ordered

def connecting (p : Nat) (uri : String) : List (Action α) :=
  [.setEndpoint uri (some ⟨p, some (p + 1, p), p, none⟩), .setPipeUri p (some uri), .attach p]

def queueing (m : Msg α) : List (Action α) :=
  [.sendBegin 0 m, .advance 0, .advance 0, .advance 0, .advance 0, .advance 0, .advance 0,
    .advance 0]

def handing (m : Msg α) : List (Action α) :=
  [.sendBegin 0 m, .advance 0, .advance 0, .advance 0, .advance 0, .advance 0, .advance 0,
    .accept 0]

def draining : List (Action α) :=
  [.processorWake, .processorAdvance, .processorAdvance, .processorAdvance, .processorAdvance,
    .processorAdvance, .processorAdvance, .processorAccept]

def delimited (n : UInt8) : List (Msg UInt8) := [Msg.new.setMore true, octet n false]

theorem messages_in_order_late_peer : ∃ s : Dealer UInt8,
      run step (new .infinite 1)
        (queueing (octet 1 false) ++ connecting 1 "a" ++ draining ++ handing (octet 2 false)) =
      some s ∧
      s.accepted = [(1, ⟨0, delimited 1⟩), (1, ⟨1, delimited 2⟩)] ∧
      s.accepted.map Prod.snd <+: s.okayed := by
  refine exists_of_permitted ?_ rfl fun reached =>
    ⟨by decide +kernel, (messages_in_order reached).1⟩
  iterate 26 refine ⟨trivial, _, rfl, ?_⟩
  exact ⟨fun _ _ _ _ _ => ⟨rfl, rfl⟩, _, rfl, trivial⟩

theorem message_overtakes : ∃ s : Dealer UInt8,
      run step (new .infinite 1)
        (queueing (octet 1 false) ++ connecting 1 "a" ++ handing (octet 2 false) ++ draining) =
      some s ∧
      s.accepted = [(1, ⟨1, delimited 2⟩), (1, ⟨0, delimited 1⟩)] ∧
      ¬ s.accepted.map Prod.snd <+: s.okayed :=
  ⟨_, rfl, by decide +kernel, by decide +kernel⟩

/-! Every message once -/

def FindsRunning (s : Dealer α) : Action α → Prop
  | .processorAdvance =>
    ∀ c, s.processor = .checking c → c.attempts < c.maxAttempts → s.running = true
  | _ => True

lemma event_ne_copy (finds : s.FindsRunning a) : s.event a ≠ .copy := by
  intro copies
  unfold event at copies
  split at copies
  · split at copies <;> cases copies
  · split at copies <;> cases copies
  · split at copies
    · split at copies <;> cases copies
    · rename_i c call
      split at copies
      · rename_i stopped
        have runs := finds c call stopped.1
        rw [stopped.2] at runs
        cases runs
      · cases copies
    all_goals cases copies
  · cases copies
  · cases copies

structure Accounts (s : Dealer α) : Prop where
  numbered : s.Numbered
  accounted : s.outbox.Accounted

lemma accounts_step (s : Dealer α) (a : Action α) (s' : Dealer α) (accounts : s.Accounts)
    (finds : s.FindsRunning a) (taken : s.step a = some s') : s'.Accounts :=
  ⟨numbered_step accounts.numbered taken,
    ((outbox_step accounts.numbered taken).accounted_iff accounts.accounted).mpr
      (event_ne_copy finds)⟩

lemma doubled_of_stopped (taken : s.step a = some s') (finds : ¬ s.FindsRunning a) :
    ∃ c, s.processor = .checking c ∧ ∃ s'',
      run step s' [.processorAdvance, .processorAdvance] = some s'' ∧ s''.processor = .waiting ∧
      s''.pendingOutgoingQueue = c.message :: c.message :: s.pendingOutgoingQueue := by
  cases a with
  | processorAdvance =>
    simp only [FindsRunning, not_forall] at finds
    obtain ⟨c, call, left, stopped⟩ := finds
    have halts : s.running = false := eq_false_iff.mpr stopped
    have closing : s' = s.setProcessor (.closing c.message) := by
      simpa [step, processorAdvance, call, processorCheck, left, halts] using taken.symm
    subst closing
    exact ⟨c, call, _, rfl, rfl, rfl⟩
  | _ => exact absurd trivial finds

/-- Between two turns of the processor, every message whose call returned `Ok` is queued once or was
taken once, in every run in which the processor finds the core running at each attempt.  The first
time that it does not, its message is queued twice. -/
theorem messages_once {sndtimeo : Timeout} {sndhwm : Nat} {s : Dealer α}
    (reached : Reaches step FindsRunning (new sndtimeo sndhwm) s) :
    (s.processor = .waiting ∨ s.processor = .stopped →
      s.okayed.Nodup ∧ (s.pendingOutgoingQueue ++ s.accepted.map Prod.snd).Perm s.okayed) ∧
    ∀ a s', s.step a = some s' → ¬ s.FindsRunning a →
      ∃ message s'', message ∈ s.okayed ∧
        run step s' [.processorAdvance, .processorAdvance] = some s'' ∧
        s''.processor = .waiting ∧
        s''.pendingOutgoingQueue = message :: message :: s.pendingOutgoingQueue := by
  have accounts : s.Accounts :=
    reached.invariant accounts_step ⟨nofun, nodup_nil, .refl []⟩
  have once := accounts.accounted.once
  refine ⟨fun between => ⟨accounts.accounted.distinct, ?_⟩, fun a s' taken finds => ?_⟩
  · have free : s.outbox.waiting = s.pendingOutgoingQueue := by
      rcases between with waiting | stopped
      · rw [Outbox.waiting, outbox, waiting]
        rfl
      · rw [waiting, outbox, stopped]
        rfl
    rw [free] at once
    exact once
  · obtain ⟨c, call, s'', ran, ends, twice⟩ := doubled_of_stopped taken finds
    refine ⟨c.message, s'', ?_, ran, ends, twice⟩
    have held : c.message ∈ s.outbox.waiting ++ s.outbox.delivered := by
      simp [waiting, outbox, call, Processor.hand]
    exact once.subset held

/-- A message in the queue, one handed over directly, and the first one drained. -/
theorem messages_once_late_peer : ∃ s : Dealer UInt8,
      run step (new .infinite 1)
        (queueing (octet 1 false) ++ connecting 1 "a" ++ handing (octet 2 false) ++ draining) =
      some s ∧
      s.accepted.map Prod.snd = [⟨1, delimited 2⟩, ⟨0, delimited 1⟩] ∧
      (s.pendingOutgoingQueue ++ s.accepted.map Prod.snd).Perm s.okayed := by
  refine exists_of_permitted ?_ rfl fun reached =>
    ⟨by decide +kernel, ((messages_once reached).1 (.inl rfl)).2⟩
  iterate 20 refine ⟨trivial, _, rfl, ?_⟩
  iterate 6 refine ⟨fun _ _ _ => rfl, _, rfl, ?_⟩
  exact ⟨trivial, _, rfl, trivial⟩

/-- The core stops while the processor has a message in hand: it is in the queue twice. -/
theorem message_doubled : ∃ s : Dealer UInt8,
      run step (new .infinite 1)
        (queueing (octet 1 false) ++ connecting 1 "a" ++
          [.processorWake, .processorAdvance, .processorAdvance, .shutdown, .processorAdvance,
            .processorAdvance, .processorAdvance]) = some s ∧
      s.processor = .waiting ∧ s.okayed = [⟨0, delimited 1⟩] ∧
      s.pendingOutgoingQueue = [⟨0, delimited 1⟩, ⟨0, delimited 1⟩] :=
  ⟨_, rfl, rfl, by decide +kernel, by decide +kernel⟩

end Dealer

end Rzmq
