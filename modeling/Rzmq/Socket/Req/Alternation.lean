import Rzmq.Socket.Req.Alert

/-! Requests and replies in turn.  Two sends can pass the check of the state together; calls that do
not overlap keep requests and replies in step, as long as no `recv` fails without an excuse. -/

namespace Rzmq

open Option Function Transition

variable {α : Type}

namespace Watched

def Paired (w : Watched α) : Prop := w.answered ≤ w.accepted ∧ w.accepted ≤ w.answered + 1

inductive Stage where
  | rest
  | asking
  | asked
  | waiting
  | returning (last : Bool)
  | failing

def stage : ReqCall α → Stage
  | .idle => .rest
  | .sendChecked _ _ | .sendPicked _ _ | .sendTo _ _ _ => .asking
  | .sendAccepted _ _ => .asked
  | .recvReturning (.ok m) _ => .returning !m.isMore
  | .recvReturning (.error _) _ => .failing
  | _ => .waiting

def Level (w : Watched α) : Stage → Prop
  | .rest => w.req.state = .readyToSend ∧ w.accepted = w.answered ∨
      w.req.state = .readyToSend ∧ w.accepted = w.answered + 1 ∧ w.req.running = false ∨
      w.req.state ≠ .readyToSend ∧ w.accepted = w.answered + 1
  | .asking => w.req.state = .readyToSend ∧ w.accepted = w.answered
  | .asked => w.req.state = .readyToSend ∧ w.accepted = w.answered + 1
  | .waiting => w.req.state ≠ .readyToSend ∧ w.accepted = w.answered + 1
  | .returning last => (w.req.state = .readyToSend ↔ last = true) ∧ w.accepted = w.answered + 1
  | .failing => w.req.state = .readyToSend ∧ w.accepted = w.answered + 1 ∧ w.req.running = false

structure InStep (w : Watched α) : Prop extends w.Alert where
  there : w.lost = false
  busy : ∀ t, w.req.calls t ≠ .idle → w.Level (stage (w.req.calls t))
  rest : (∀ t, w.req.calls t = .idle) → w.Level .rest

variable {f : Replier α} {w w' : Watched α} {t p : Nat}

lemma inStep_start (sndtimeo : Timeout) : (start sndtimeo : Watched α).InStep where
  toAlert := alert_start sndtimeo
  there := rfl
  busy _ busy := absurd rfl busy
  rest _ := .inl ⟨rfl, rfl⟩

lemma Level.paired {stage} (level : w.Level stage) : w.Paired := by
  unfold Paired
  cases stage with
  | rest =>
    rcases level with ⟨-, even⟩ | ⟨-, owed, -⟩ | ⟨-, owed⟩
    · omega
    · omega
    · omega
  | asking =>
    have even := level.2
    omega
  | asked | waiting | returning last =>
    have owed := level.2
    omega
  | failing =>
    have owed := level.2.1
    omega

lemma InStep.paired (inStep : w.InStep) : w.Paired := by
  by_cases idle : ∀ t, w.req.calls t = .idle
  · exact (inStep.rest idle).paired
  · push Not at idle
    obtain ⟨t, busy⟩ := idle
    exact (inStep.busy t busy).paired

variable {result : Except ZmqError (Msg α)} {s : Req α} {c : ReqCall α}

lemma InStep.of_call (inStep : w.InStep) (call : w.req.calls t = c) (busy : c ≠ .idle) :
    (w.req.calls t ≠ .idle ∨ ∀ u, w.req.calls u = .idle) ∧ w.Level (stage c) := by
  subst call
  exact ⟨.inl busy, inStep.busy t busy⟩

lemma InStep.lone (inStep : w.InStep)
    (mine : w.req.calls t ≠ .idle ∨ ∀ u, w.req.calls u = .idle) (alert : w'.Alert)
    (there : w'.lost = w.lost)
    (others : ∀ u, u ≠ t → w.req.calls u = .idle → w'.req.calls u = .idle)
    (level : w'.Level (stage (w'.req.calls t))) : w'.InStep where
  toAlert := alert
  there := there.trans inStep.there
  busy u busy := by
    have same : u = t := by
      by_contra ne
      exact busy (others u ne (inStep.idle_of_ne mine ne))
    rw [same]
    exact level
  rest idle := by
    rw [idle t] at level
    exact level

lemma InStep.move (inStep : w.InStep) (mine : w.req.calls t ≠ .idle ∨ ∀ u, w.req.calls u = .idle)
    (alert : w'.Alert) (there : w'.lost = w.lost) (calls : w'.req.calls = update w.req.calls t c)
    (level : w'.Level (stage c)) : w'.InStep := by
  refine inStep.lone mine alert there (others_setCall calls) ?_
  rw [calls, update_self]
  exact level

lemma stage_wakeCall (wake : Wake) (c : ReqCall α) : stage (Req.wakeCall wake c) = stage c := by
  cases c with
  | _ => rfl

section

variable (inStep : w.InStep)
include inStep

lemma InStep.beside (alert : w'.Alert) (there : w'.lost = w.lost)
    (calls : ∀ t, w'.req.calls t = w.req.calls t ∨
      ∃ wake, w'.req.calls t = Req.wakeCall wake (w.req.calls t))
    (state : w'.req.state = w.req.state) (accepted : w'.accepted = w.accepted)
    (answered : w'.answered = w.answered)
    (running : w'.req.running = w.req.running ∨ w'.req.running = false) : w'.InStep := by
  have idle : ∀ t, w'.req.calls t = .idle ↔ w.req.calls t = .idle := by
    intro t
    rcases calls t with same | ⟨wake, woken⟩
    · rw [same]
    · rw [woken]
      exact Req.wakeCall_eq_idle
  have stages : ∀ t, stage (w'.req.calls t) = stage (w.req.calls t) := by
    intro t
    rcases calls t with same | ⟨wake, woken⟩
    · rw [same]
    · rw [woken]
      exact stage_wakeCall wake _
  have kept : ∀ stage, w.Level stage → w'.Level stage := by
    have stopped : w.req.running = false → w'.req.running = false := by
      intro stopped
      rcases running with same | stopped'
      · exact same.trans stopped
      · exact stopped'
    intro stage level
    cases stage with
    | rest =>
      unfold Level at level ⊢
      rw [state, accepted, answered]
      exact level.imp_right fun level => level.imp_left fun ⟨ready, owed, before⟩ =>
        ⟨ready, owed, stopped before⟩
    | failing =>
      unfold Level at level ⊢
      rw [state, accepted, answered]
      exact ⟨level.1, level.2.1, stopped level.2.2⟩
    | asking | asked | waiting | returning last =>
      unfold Level at level ⊢
      rw [state, accepted, answered]
      exact level
  refine ⟨alert, there.trans inStep.there, ?_, ?_⟩
  · intro t busy
    rw [stages t]
    exact kept _ (inStep.busy t fun still => busy ((idle t).mpr still))
  · intro all
    exact kept _ (inStep.rest fun t => (idle t).mp (all t))

lemma InStep.told (alert : Alert { w with req := s.notifyOne }) (calls : s.calls = w.req.calls)
    (state : s.state = w.req.state) (running : s.running = w.req.running) :
    InStep { w with req := s.notifyOne } := by
  obtain ⟨calls', permit, waiters, told, woken⟩ := s.notifyOne_eq
  rw [told] at alert ⊢
  refine inStep.beside alert rfl ?_ state rfl rfl (.inl running)
  intro t
  have woken := woken t
  rw [calls] at woken
  exact woken.imp_right fun woken => ⟨.one, woken⟩

lemma InStep.owed (rest : ∀ u, w.req.calls u = .idle) (expecting : w.req.state ≠ .readyToSend) :
    w.Level .waiting := by
  rcases inStep.rest rest with ⟨ready, -⟩ | ⟨ready, -⟩ | ⟨-, owed⟩
  · exact absurd ready expecting
  · exact absurd ready expecting
  · exact ⟨expecting, owed⟩

lemma InStep.even (rest : ∀ u, w.req.calls u = .idle) (running : w.req.running = true)
    (ready : w.req.state = .readyToSend) : w.Level .asking := by
  rcases inStep.rest rest with even | ⟨-, -, stopped⟩ | ⟨expecting, -⟩
  · exact even
  · rw [running] at stopped
    cases stopped
  · exact absurd ready expecting

lemma InStep.waits (alert : w'.Alert) {c d} (call : w.req.calls t = c)
    (before : stage c = .waiting) (after : stage d = .waiting) (there : w'.lost = w.lost)
    (calls : w'.req.calls = update w.req.calls t d) (same : w.Level .waiting → w'.Level .waiting) :
    w'.InStep := by
  obtain ⟨mine, level⟩ := inStep.of_call call (by rintro rfl; cases before)
  rw [before] at level
  refine inStep.move mine alert there calls ?_
  rw [after]
  exact same level

lemma InStep.dropped {wake : Wake} (call : w.req.calls t = c) (before : stage c = .waiting)
    (alert : Alert { w with req := (s.dropNotified t wake).setCall t (.recvDone result) })
    (calls : s.calls = w.req.calls) (state : s.state = w.req.state) :
    InStep { w with req := (s.dropNotified t wake).setCall t (.recvDone result) } := by
  obtain ⟨mine, level⟩ := inStep.of_call call (by rintro rfl; cases before)
  rw [before] at level
  obtain ⟨calls', permit, waiters, dropped, -⟩ := s.dropNotified_eq t wake
  have others := others_dropNotified (t := t) wake (.recvDone result) calls
  rw [dropped] at others alert ⊢
  refine inStep.lone mine alert rfl others ?_
  show Level _ (stage (update calls' t (.recvDone result) t))
  rw [update_self]
  exact ⟨fun ready => level.1 (state.symm.trans ready), level.2⟩

lemma InStep.giveBack (call : w.req.calls t = .recvDone result)
    (last : Req.concludes result = true) :
    Level { w with req := { w.req.setCall t (.recvReturning result true) with
      state := .readyToSend } } (stage (.recvReturning result true)) := by
  obtain ⟨-, -, owed⟩ := inStep.of_call call (by simp)
  cases result with
  | error e =>
    have stopped : w.req.running = false := by
      rcases inStep.toAlert.of_call call with stopped | closed | lost
      · exact stopped
      · rw [inStep.opened] at closed
        cases closed
      · rw [inStep.there] at lost
        cases lost
    exact ⟨rfl, owed, stopped⟩
  | ok m =>
    have last : (!m.isMore) = true := last
    rw [stage, last]
    exact ⟨⟨fun _ => rfl, fun _ => rfl⟩, owed⟩

lemma InStep.keepState (call : w.req.calls t = .recvDone result)
    (keeps : Req.concludes result = true → w.req.state = .readyToSend) :
    w.Level (stage (.recvReturning result false)) := by
  obtain ⟨-, expecting, owed⟩ := inStep.of_call call (by simp)
  cases result with
  | error e => exact absurd (keeps rfl) expecting
  | ok m =>
    have more : (!m.isMore) = false := by
      cases last : !m.isMore with
      | true => exact absurd (keeps last) expecting
      | false => rfl
    rw [stage, more]
    exact ⟨⟨fun ready => absurd ready expecting, fun wrong => by cases wrong⟩, owed⟩

lemma InStep.returns {shouldNotify : Bool}
    (call : w.req.calls t = .recvReturning result shouldNotify) (state : s.state = w.req.state)
    (running : s.running = w.req.running) : (w.note s (.recvReturn t)).Level .rest := by
  obtain ⟨-, level⟩ := inStep.of_call call (by simp)
  show Level { w with
    req := s
    answered := if endsReply (w.req.calls t) then w.answered + 1 else w.answered } .rest
  rw [call]
  unfold Level
  rw [state, running]
  cases result with
  | error e => exact .inr (.inl level)
  | ok m =>
    obtain ⟨ready, owed⟩ := level
    cases more : m.isMore with
    | false =>
      refine .inl ⟨ready.mpr (by simp [more]), ?_⟩
      simp [endsReply, more, owed]
    | true =>
      refine .inr (.inr ⟨fun wrong => by simpa [more] using ready.mp wrong, ?_⟩)
      simp [endsReply, more, owed]

lemma InStep.tells {r} (busy : w.req.calls t ≠ .idle) (alert : w'.Alert)
    (there : w'.lost = w.lost) (req : w'.req = s.notifyWaiters.finish t r)
    (calls : s.calls = w.req.calls) (level : w'.Level .rest) : w'.InStep := by
  refine inStep.lone (.inl busy) alert there ?_ ?_
  · rw [req]
    exact others_notifyWaiters calls
  · have ended : w'.req.calls t = .idle := by
      rw [req]
      exact update_self _ _ _
    rw [ended]
    exact level

end

lemma inStep_step (f : Replier α) (w : Watched α) (a : ReqAction α) (w' : Watched α)
    (inStep : w.InStep) (allowed : w.Cycle a ∧ w.Attentive a ∧ Undisturbed a)
    (taken : w.step f a = some w') : w'.InStep := by
  obtain ⟨cycle, attentive, undisturbed⟩ := allowed
  have alert : w'.Alert := alert_step f w a w' inStep.toAlert ⟨cycle, attentive⟩ taken
  obtain ⟨s, moved, rfl⟩ := map_eq_some_iff.mp taken
  cases Req.step_cases moved with
  | sendRejected e call | recvRejected e call | multiRejected e call =>
    exact inStep.move (c := .idle) (.inr cycle) alert rfl rfl (inStep.rest cycle)
  | check call running ready =>
    exact inStep.move (c := .sendChecked _ _) (.inr cycle) alert rfl rfl
      (inStep.even cycle running ready)
  | pickFailed e call | sendTimeout call | refuse e call | refuseClosed e call
  | resolveFailed e call =>
    obtain ⟨mine, level⟩ := inStep.of_call call (by simp)
    exact inStep.move (c := .idle) mine alert rfl rfl (.inl level)
  | pick call balanced attached =>
    obtain ⟨mine, level⟩ := inStep.of_call call (by simp)
    exact inStep.move (c := .sendPicked _ _) mine alert rfl rfl level
  | resolve call found =>
    obtain ⟨mine, level⟩ := inStep.of_call call (by simp)
    exact inStep.move (c := .sendTo _ _ _) mine alert rfl rfl level
  | accept call =>
    obtain ⟨mine, ready, even⟩ := inStep.of_call call (by simp)
    exact inStep.move (c := .sendAccepted _ _) mine alert rfl rfl ⟨ready, congrArg (· + 1) even⟩
  | expect call =>
    obtain ⟨mine, -, owed⟩ := inStep.of_call call (by simp)
    rw [note, call] at alert ⊢
    exact inStep.move (c := .sendReset _) mine alert inStep.there.symm rfl ⟨by simp, owed⟩
  | sent call =>
    obtain ⟨mine, level⟩ := inStep.of_call call (by simp)
    exact inStep.move (c := .idle) mine alert rfl rfl (.inr (.inr level))
  | select call running expecting =>
    exact inStep.move (c := .recvSelect _ _ _) (.inr cycle) alert rfl rfl
      (inStep.owed cycle expecting)
  | wakeByPermit call | wake call =>
    exact inStep.waits (d := .recvNotified) alert call rfl rfl rfl rfl id
  | selectOn call polled =>
    exact inStep.waits (d := .recvSelect _ _ _) alert call rfl rfl rfl rfl id
  | recheck call | pollOn call =>
    exact inStep.waits (d := .recvPoll _) alert call rfl rfl rfl rfl id
  | recheckClosed call | polled call =>
    exact inStep.waits (d := .recvDone _) alert call rfl rfl rfl rfl id
  | selected call polled => exact inStep.dropped call rfl alert rfl rfl
  | giveBack call last expecting =>
    obtain ⟨mine, -⟩ := inStep.of_call call (by simp)
    exact inStep.move (c := .recvReturning _ true) mine alert rfl rfl (inStep.giveBack call last)
  | keepState call keeps =>
    obtain ⟨mine, -⟩ := inStep.of_call call (by simp)
    exact inStep.move (c := .recvReturning _ false) mine alert rfl rfl (inStep.keepState call keeps)
  | recvTells call =>
    exact inStep.tells (s := w.req) (by simp [call]) alert rfl rfl rfl (inStep.returns call rfl rfl)
  | recvReturns call =>
    obtain ⟨mine, -⟩ := inStep.of_call call (by simp)
    exact inStep.move (c := .idle) mine alert rfl rfl (inStep.returns call rfl rfl)
  | recvTimeout call => cases (inStep.toAlert.of_call call).1
  | multiStart call running expecting =>
    exact inStep.move (c := .multiRecv _ _) (.inr cycle) alert rfl rfl
      (inStep.owed cycle expecting)
  | multiOn call polled =>
    exact inStep.waits (d := .multiRecv _ _) alert call rfl rfl rfl rfl id
  | multiPolled call polled =>
    exact inStep.waits (d := .multiPopped _) alert call rfl rfl rfl rfl id
  | @multiReturns t frames call =>
    obtain ⟨-, -, owed⟩ := inStep.of_call call (by simp)
    refine inStep.tells (s := { w.req with state := .readyToSend }) (by simp [call]) alert rfl rfl
      rfl (.inl ⟨rfl, ?_⟩)
    show w.accepted = if endsReply (w.req.calls t) then w.answered + 1 else w.answered
    rw [call]
    exact owed
  | multiTimeout call => cases (inStep.toAlert.of_call call : Timeout.finite = .infinite)
  | multiFails call | multiFailsTelling call => exact (inStep.toAlert.of_call call).elim
  | drop | dropSelect => exact cycle.elim
  | pushRefused handler refused =>
    exact absurd refused (IncomingMessageOrchestrator.queueItem_open inStep.opened _ _)
  | pushDropped | detachUnknown | detachTarget | detachOther => exact undisturbed.elim
  | notifyRefused handler => exact absurd handler (inStep.unrefused _)
  | notify handler | detachTells detach => exact inStep.told alert rfl rfl rfl
  | stop =>
    refine inStep.beside alert rfl ?_ rfl rfl rfl (.inr rfl)
    intro t
    by_cases waits : t ∈ w.req.waiters
    · exact .inr ⟨.all, if_pos waits⟩
    · exact .inl (if_neg waits)
  | skip | discard | locate | expected | unexpected | collect | assemble | push | attach
  | attachUnknown | detachSilent | clear | reset | lose | setEndpoint | setPipeUri | setTimeouts =>
    exact { inStep with toAlert := alert }

/-! The results -/

lemma sends_overlap (m m' : Msg α) {t' : Nat} (ne : t ≠ t') (idle : w.req.calls t = .idle)
    (idle' : w.req.calls t' = .idle) (running : w.req.running = true)
    (ready : w.req.state = .readyToSend) (connected : w.req.loadBalancer.connectionUris ≠ [])
    (attached : ∀ uri ∈ w.req.loadBalancer.connectionUris, (w.req.endpoints uri).isSome) :
    ∃ w', run (step f) w [.sendBegin t m, .sendBegin t' m', .sendPick t, .sendPick t',
        .sendResolve t, .sendResolve t', .sendAccept t, .sendAccept t'] = some w' ∧
      w'.accepted = w.accepted + 2 ∧ w'.answered = w.answered := by
  obtain ⟨uri, rest, balanced⟩ := List.exists_cons_of_ne_nil connected
  obtain ⟨uri', rest', rotated⟩ := List.exists_cons_of_ne_nil
    (show rest ++ [uri] ≠ [] by simp)
  have first : uri ∈ w.req.loadBalancer.connectionUris := by simp [balanced]
  have second : uri' ∈ w.req.loadBalancer.connectionUris := by
    have mem : uri' ∈ rest ++ [uri] := by simp [rotated]
    simpa [balanced, or_comm] using mem
  obtain ⟨pipe, found⟩ := isSome_iff_exists.mp (attached uri first)
  obtain ⟨pipe', found'⟩ := isSome_iff_exists.mp (attached uri' second)
  generalize ran : run (step f) w _ = result
  simp [run, step, Req.step, Req.sendBegin, idle, idle', running, ready, Req.setCall, note, ne,
    ne.symm, Req.sendPick, LoadBalancer.getNextConnectionUri, balanced, rotated, found, found',
    Req.sendResolve, Req.sendAccept] at ran
  subst ran
  exact ⟨_, rfl, rfl, rfl⟩

/-- In every run of calls that do not overlap, in which no `recv` starts on a wake-up that brings
nothing or is woken while it holds a message, at most one request is without its reply.  Two sends
that start together leave two without. -/
theorem requests_and_replies_paired {sndtimeo : Timeout}
    (reached : Reaches (step f) (fun w a => w.Cycle a ∧ w.Attentive a ∧ Undisturbed a)
      (start sndtimeo) w) :
    w.Paired ∧ ∀ t t' m m', t ≠ t' → w.req.calls t = .idle → w.req.calls t' = .idle →
      w.req.running = true → w.req.state = .readyToSend → w.req.loadBalancer.connectionUris ≠ [] →
      (∀ uri ∈ w.req.loadBalancer.connectionUris, (w.req.endpoints uri).isSome) →
      ∃ w', run (step f) w [.sendBegin t m, .sendBegin t' m', .sendPick t, .sendPick t',
        .sendResolve t, .sendResolve t', .sendAccept t, .sendAccept t'] = some w' ∧
        ¬ w'.Paired := by
  have inStep : w.InStep := reached.invariant (inStep_step f) (inStep_start sndtimeo)
  refine ⟨inStep.paired, ?_⟩
  intro t t' m m' ne idle idle' running ready connected attached
  obtain ⟨w', ran, accepted, answered⟩ :=
    sends_overlap (f := f) m m' ne idle idle' running ready connected attached
  have paired := inStep.paired.1
  exact ⟨w', ran, fun paired' => by have := paired'.2; omega⟩

theorem requests_and_replies_paired_once : ∃ w : Watched UInt8,
    run (step Req.echo) (start .infinite) exchange = some w ∧
      w.accepted = 1 ∧ w.answered = 1 ∧ w.Paired :=
  exists_of_permitted exchange_permitted rfl fun reached =>
    ⟨rfl, rfl, (requests_and_replies_paired reached).1⟩

/-- Two tasks send on a socket with one peer; its connection takes both requests. -/
theorem overlapping_sends_accepted : ∃ w : Watched UInt8,
      run (step Req.echo) (start .infinite) (Req.connecting 1 "a" ++
        [.sendBegin 1 Req.firstRequest, .sendBegin 2 Req.firstRequest, .sendPick 1, .sendPick 2,
          .sendResolve 1, .sendResolve 2, .sendAccept 1, .sendAccept 2]) = some w ∧
      w.accepted = 2 ∧ w.answered = 0 ∧ ¬ w.Paired :=
  ⟨_, rfl, rfl, rfl, fun paired => Nat.not_succ_le_self 1 paired.2⟩

end Watched

end Rzmq
