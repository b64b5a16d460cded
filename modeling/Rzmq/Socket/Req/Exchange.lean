import Rzmq.Socket.Req.Delivery

/-! One request and its reply on a REQ socket: a task that calls `send` and then `recv`, beside the
sessions that deliver frames.  `Cycle` lists the states of such an exchange in which no session
looks at the state before `send` has written it. -/

namespace Rzmq.Req

open Function

variable {α : Type}

structure Fresh (s : Req α) : Prop where
  running : s.running = true
  permit : s.permit = false
  closed : s.orchestrator.mainIncomingQueue.closed = false
  room : 0 < s.orchestrator.mainIncomingQueue.hwm
  queue : s.orchestrator.mainIncomingQueue.items = []
  attached : ∀ uri p, s.endpoints uri = some p → s.pipeReadToEndpointUri p = some uri
  pipe : ∀ p, s.pending p = []
  handler : ∀ p, s.handlers p = .idle

/-- One task calls `send` once and then `recv` once; there is no detach, timeout, cancellation or
close.  A zero `rcvtimeo` expires when `recv` finds nothing. -/
def Scene (s₀ : Req α) (t : Nat) (s : Req α) : ReqAction α → Prop
  | .sendPick u | .sendResolve u | .sendAccept u | .sendRefuse u _ | .sendExpect u
  | .sendFinish u | .recvWake u | .recvUpdate u | .recvReturn u => u = t
  | .recvAdvance u => u = t ∧ ∀ wake, s.calls t = .recvSelect wake .zero .popping →
      s.orchestrator.mainIncomingQueue.items ≠ []
  | .recvBegin u => u = t ∧ ∃ m, s.returned = .sent m :: s₀.returned
  | .deliver _ | .checkExpected _ | .accumulate _ | .queueReply _ | .notifyQueued _ => True
  | _ => False

/-- No session looks at the state while a `send` has yet to write it, and `recv` drops no future
that holds an item. -/
def Orderly (s : Req α) : ReqAction α → Prop
  | .checkExpected _ => ∀ t m uri, s.calls t ≠ .sendAccepted m uri
  | .recvWake t => ∀ wake rcvtimeo frames, s.calls t ≠ .recvSelect wake rcvtimeo (.storing frames)
  | _ => True

def Asks (m : Msg α) (s : Req α) : ReqCall α → Prop
  | .sendChecked m' _ => m' = m
  | .sendPicked m' _ => m' = m
  | .sendTo m' uri p => m' = m ∧ s.pipeReadToEndpointUri p = some uri
  | _ => False

/-- The call while the reply has not been taken.  A wake-up comes only after the reply is queued. -/
def Waits (s₀ : Req α) (m : Msg α) (d : Delivery) (s : Req α) : ReqCall α → Prop
  | .sendReset m' => m' = m ∧ s.returned = s₀.returned ∧ (s.permit = true → d = .notified)
  | .idle => s.returned = .sent m :: s₀.returned ∧
      s.orchestrator.currentRecvFramesBuffer = [] ∧ (s.permit = true → d = .notified)
  | .recvSelect wake _ fut => s.returned = .sent m :: s₀.returned ∧
      s.orchestrator.currentRecvFramesBuffer = [] ∧ (fut = .locking ∨ fut = .popping) ∧
      (s.permit = true ∨ wake ≠ .pending → d = .notified)
  | .recvNotified => s.returned = .sent m :: s₀.returned ∧
      s.orchestrator.currentRecvFramesBuffer = [] ∧ d = .notified
  | .recvPoll fut => s.returned = .sent m :: s₀.returned ∧
      s.orchestrator.currentRecvFramesBuffer = [] ∧ (fut = .locking ∨ fut = .popping) ∧
      d = .notified
  | _ => False

def Takes (s₀ : Req α) (m : Msg α) (payload : List (Msg α)) (s : Req α) : ReqCall α → Prop
  | .recvSelect _ _ fut => fut = .storing payload ∧ s.returned = .sent m :: s₀.returned
  | .recvPoll fut => fut = .storing payload ∧ s.returned = .sent m :: s₀.returned
  | .recvDone result => ∃ first rest, payload = first :: rest ∧ result = .ok first ∧
      s.returned = .sent m :: s₀.returned
  | .recvReturning result _ => ∃ first rest, payload = first :: rest ∧ result = .ok first ∧
      s.returned = .sent m :: s₀.returned
  | .idle => ∃ first rest, payload = first :: rest ∧
      s.returned = .received [first] :: .sent m :: s₀.returned
  | _ => False

inductive Cycle (f : Replier α) (s₀ : Req α) (t : Nat) (m : Msg α) (s : Req α) : Prop where
  | asking (fresh : Fresh s) (call : Asks m s (s.calls t)) (returned : s.returned = s₀.returned)
  | failed (fresh : Fresh s) (call : s.calls t = .idle) (e : ZmqError)
      (returned : s.returned = .failed e :: s₀.returned)
  | accepted (p : Nat) (uri : String) (link : Link p uri (f.reply m) .collecting false s)
      (call : s.calls t = .sendAccepted m uri) (unseen : ∀ frame, s.handlers p ≠ .expected frame)
      (permit : s.permit = false) (returned : s.returned = s₀.returned)
  | waiting (p : Nat) (uri : String) (d : Delivery) (link : Link p uri (f.reply m) d false s)
      (expects : s.state = .expectingReply uri) (call : Waits s₀ m d s (s.calls t))
  | taken (p : Nat) (uri : String) (d : Delivery) (link : Link p uri (f.reply m) d true s)
      (call : Takes s₀ m (f.reply m) s (s.calls t))

section Steps

variable {f : Replier α} {s₀ s s' : Req α} {t : Nat} {m : Msg α}

lemma Fresh.wire (h : Fresh s) (q : Nat) : s.wire q = [] := by
  have empty := h.pipe q
  simp only [pending, List.append_eq_nil_iff] at empty
  exact empty.2.2

def Session : ReqAction α → Prop
  | .deliver _ | .checkExpected _ | .accumulate _ | .queueReply _ | .notifyQueued _ => True
  | _ => False

lemma Fresh.no_session (h : Fresh s) {a} (session : Session a) :
    step f s a = none := by
  cases a with
  | deliver q => simp [step, deliver, h.wire q, h.handler q]
  | checkExpected q => simp [step, checkExpected, h.handler q]
  | accumulate q => simp [step, accumulate, h.handler q]
  | queueReply q => simp [step, queueReply, h.handler q]
  | notifyQueued q => simp [step, notifyQueued, h.handler q]
  | _ => exact session.elim

namespace Cycle

/-! What the stage of the call says about the scenario. -/

lemma of_asking (h : Cycle f s₀ t m s) (asks : s.phases t = .asking) :
    Fresh s ∧ Asks m s (s.calls t) ∧ s.returned = s₀.returned := by
  unfold phases at asks
  cases h with
  | asking fresh call returned => exact ⟨fresh, call, returned⟩
  | failed fresh call e returned | accepted p uri link call unseen permit returned =>
    simp [call, phase] at asks
  | waiting p uri d link expects call =>
    cases here : s.calls t <;> simp [here, phase, Waits] at asks call
  | taken p uri d link call =>
    cases here : s.calls t <;> simp [here, phase, Takes] at asks call

lemma of_receiving (h : Cycle f s₀ t m s) (receives : s.phases t = .receiving) :
    (∃ p uri d, Link p uri (f.reply m) d false s ∧ s.state = .expectingReply uri ∧
      Waits s₀ m d s (s.calls t)) ∨
    ∃ p uri d, Link p uri (f.reply m) d true s ∧ Takes s₀ m (f.reply m) s (s.calls t) := by
  unfold phases at receives
  cases h with
  | asking fresh call returned =>
    cases here : s.calls t <;> simp [here, phase, Asks] at receives call
  | failed fresh call e returned | accepted p uri link call unseen permit returned =>
    simp [call, phase] at receives
  | waiting p uri d link expects call => exact .inl ⟨p, uri, d, link, expects, call⟩
  | taken p uri d link call => exact .inr ⟨p, uri, d, link, call⟩

lemma of_reset (h : Cycle f s₀ t m s) {m'} (resets : s.calls t = .sendReset m') :
    ∃ p uri d, Link p uri (f.reply m) d false s ∧ s.state = .expectingReply uri ∧
      Waits s₀ m d s (s.calls t) := by
  cases h with
  | asking fresh call returned => simp [resets, Asks] at call
  | failed fresh call e returned | accepted p uri link call unseen permit returned =>
    simp [resets] at call
  | waiting p uri d link expects call => exact ⟨p, uri, d, link, expects, call⟩
  | taken p uri d link call => simp [resets, Takes] at call

/-! `send` -/

lemma fails (fresh : Fresh s) (returned : s.returned = s₀.returned) (e : ZmqError) :
    Cycle f s₀ t m (s.finish t (.failed e)) := by
  refine .failed { fresh with } ?_ e ?_
  · simp [finish, setCall]
  · simp [finish, returned]

section

variable (h : Cycle f s₀ t m s)
include h

lemma sendPick (taken : s.sendPick t = some s') : Cycle f s₀ t m s' := by
  unfold Req.sendPick at taken
  split at taken
  · rename_i m' sndtimeo checked
    obtain ⟨fresh, call, returned⟩ := h.of_asking (by simp [phases, checked, phase])
    rw [checked] at call
    split at taken
    · rename_i uri next balanced
      have rotated : Fresh { s with loadBalancer := next } := { fresh with }
      dsimp only at taken
      split at taken <;> cases taken
      · refine .asking { rotated with } ?_ returned
        simpa [setCall, Asks] using call
      · refine .asking { rotated with } ?_ returned
        simpa [removeConnection, checked, Asks] using call
    · (repeat' split at taken) <;> cases taken
      · exact fails fresh returned _
      · exact fails fresh returned _
  · cases taken

lemma sendResolve (taken : s.sendResolve t = some s') : Cycle f s₀ t m s' := by
  unfold Req.sendResolve at taken
  split at taken
  · rename_i m' uri picked
    obtain ⟨fresh, call, returned⟩ := h.of_asking (by simp [phases, picked, phase])
    rw [picked] at call
    split at taken <;> cases taken
    · rename_i p found
      refine .asking { fresh with } ?_ returned
      simpa [setCall, Asks] using ⟨call, fresh.attached uri p found⟩
    · have removed : Fresh (s.removeConnection uri) := { fresh with }
      exact fails removed returned _
  · cases taken

lemma sendRefuse {e} (taken : s.sendRefuse t e = some s') : Cycle f s₀ t m s' := by
  unfold Req.sendRefuse at taken
  split at taken
  · rename_i m' uri p sends
    obtain ⟨fresh, call, returned⟩ := h.of_asking (by simp [phases, sends, phase])
    have removed : Fresh (s.removeConnection uri) := { fresh with }
    split at taken <;> cases taken
    · exact fails removed returned _
    · exact fails fresh returned _
  · cases taken

lemma sendAccept (taken : sendAccept f s t = some s') : Cycle f s₀ t m s' := by
  unfold Req.sendAccept at taken
  split at taken <;> cases taken
  rename_i m' uri p sends
  obtain ⟨fresh, call, returned⟩ := h.of_asking (by simp [phases, sends, phase])
  rw [sends] at call
  obtain ⟨rfl, source⟩ := call
  have empty := fresh.pipe p
  simp only [pending, List.append_eq_nil_iff] at empty
  refine .accepted p uri ⟨fresh.running, fresh.closed, fresh.room, source, fun q ne => ?_, rfl, ?_,
    ?_, fresh.queue, ?_⟩ ?_ ?_ fresh.permit returned
  · simpa [setCall, ne] using ⟨fresh.wire q, fresh.handler q⟩
  · simp [setCall, fresh.handler p, Collecting]
  · simp [pending, setCall, empty]
  · simp [setCall, empty]
  · simp [setCall]
  · simp [setCall, fresh.handler p]

lemma sendExpect (taken : s.sendExpect t = some s') : Cycle f s₀ t m s' := by
  unfold Req.sendExpect at taken
  split at taken <;> cases taken
  rename_i m' uri' accepts
  cases h with
  | asking fresh call returned => simp [accepts, Asks] at call
  | failed fresh call e returned => simp [accepts] at call
  | accepted p uri link call unseen permit returned =>
    rw [accepts] at call
    cases call
    refine .waiting p _ .collecting { link with } rfl ?_
    simp [setCall, Waits, returned, permit]
  | waiting p uri d link expects call => simp [accepts, Waits] at call
  | taken p uri d link call => simp [accepts, Takes] at call

lemma sendFinish (taken : s.sendFinish t = some s') : Cycle f s₀ t m s' := by
  unfold Req.sendFinish at taken
  split at taken <;> cases taken
  rename_i m' resets
  obtain ⟨p, uri, d, link, expects, call⟩ := h.of_reset resets
  rw [resets] at call
  obtain ⟨rfl, returned, permit⟩ := call
  refine .waiting p uri d ⟨link.running, link.closed, link.room, link.source, link.elsewhere,
    ?_⟩ expects ?_
  · cases d <;> exact link.stands
  · simp only [finish, setCall, update_self, Waits]
    exact ⟨by rw [returned], rfl, permit⟩

end

/-! `recv` -/

lemma recvBegin (h : Cycle f s₀ t m s) {m'} (sent : s.returned = .sent m' :: s₀.returned)
    (taken : s.recvBegin t = some s') : Cycle f s₀ t m s' := by
  unfold Req.recvBegin Req.receiveBegin at taken
  split at taken
  · rename_i idle
    cases h with
    | asking fresh call returned => simp [idle, Asks] at call
    | failed fresh call e returned => simp [sent] at returned
    | accepted p uri link call unseen permit returned => simp [idle] at call
    | taken p uri d link call =>
      rw [idle] at call
      obtain ⟨first, rest, -, returned⟩ := call
      simp [sent] at returned
    | waiting p uri d link expects call =>
      rw [idle] at call
      obtain ⟨returned, buffer, permit⟩ := call
      simp only [link.running, expects] at taken
      cases taken
      refine .waiting p uri d { link with } expects ?_
      simpa [setCall, Waits] using ⟨returned, buffer, permit⟩
  · cases taken

lemma recvWake (h : Cycle f s₀ t m s) (orderly : s.Orderly (.recvWake t))
    (taken : s.recvWake t = some s') : Cycle f s₀ t m s' := by
  unfold Req.recvWake at taken
  have woken {wake : Wake} {rcvtimeo : Timeout} {fut : RecvMessage α}
      (selects : s.calls t = .recvSelect wake rcvtimeo fut)
      (wakes : s.permit = true ∨ wake ≠ .pending) {s' : Req α}
      (same : s' = { s.setCall t .recvNotified with permit := s'.permit, waiters := s'.waiters }) :
      Cycle f s₀ t m s' := by
    obtain ⟨p, uri, d, link, expects, call⟩ | ⟨p, uri, d, link, call⟩ :=
      h.of_receiving (by simp [phases, selects, phase])
    · rw [selects] at call
      obtain ⟨returned, buffer, -, notified⟩ := call
      rw [same]
      refine .waiting p uri d { link with } expects ?_
      simpa [setCall, Waits] using ⟨returned, buffer, notified wakes⟩
    · rw [selects] at call
      obtain ⟨rfl, -⟩ := call
      exact absurd selects (orderly _ _ _)
  split at taken
  · rename_i selects
    split at taken <;> cases taken
    rename_i permit
    exact woken selects (.inl permit) rfl
  · rename_i wake rcvtimeo fut notPending selects
    cases taken
    refine woken selects (.inr ?_) rfl
    rintro rfl
    exact notPending rfl
  · cases taken

variable {o : IncomingMessageOrchestrator (List (Msg α)) α}
  {next : RecvMessage α ⊕ Except ZmqError (Msg α)} {payload : List (Msg α)} {d : Delivery}
  {c : ReqCall α}

lemma poll_waiting {p : Nat} {uri : String} {rcvtimeo : Timeout} {fut : RecvMessage α}
    (link : Link p uri (f.reply m) d false s) (buffer : s.orchestrator.currentRecvFramesBuffer = [])
    (stage : fut = .locking ∨ fut = .popping)
    (waits : rcvtimeo = .zero → fut = .popping → s.orchestrator.mainIncomingQueue.items ≠ [])
    (polled : fut.poll id rcvtimeo s.orchestrator = some (next, o)) :
    (next = .inl .popping ∧ o = s.orchestrator) ∨ (next = .inl (.storing (f.reply m)) ∧
      Link p uri (f.reply m) d true { s with orchestrator := o }) := by
  cases RecvMessage.poll_cases polled with
  | unbuffered => exact .inl ⟨rfl, rfl⟩
  | buffered some => cases buffer.symm.trans some
  | popped items =>
    obtain ⟨rfl, kept⟩ := link.pop items
    exact .inr ⟨rfl, kept⟩
  | failed empty why =>
    rw [link.closed, or_iff_right Bool.false_ne_true] at why
    exact absurd empty (waits why rfl)
  | nothing | stored => cases stage <;> contradiction

lemma poll_taken {p : Nat} {uri rcvtimeo} (link : Link p uri (f.reply m) d true s)
    (polled : (RecvMessage.storing (f.reply m)).poll id rcvtimeo s.orchestrator = some (next, o)) :
    ∃ first rest, f.reply m = first :: rest ∧ next = .inr (.ok first) ∧
      Link p uri (f.reply m) d true { s with orchestrator := o } := by
  have framed := f.framed m
  cases reply : f.reply m with
  | nil =>
    rw [reply] at framed
    exact framed.elim
  | cons first rest =>
    rw [reply] at polled link
    cases polled
    refine ⟨first, rest, rfl, rfl, link.running, link.closed, link.room, link.source,
      link.elsewhere, ?_⟩
    cases d <;> exact link.stands

lemma recvAdvance (h : Cycle f s₀ t m s) (scene : Scene s₀ t s (.recvAdvance t))
    (taken : s.recvAdvance t = some s') : Cycle f s₀ t m s' := by
  unfold Req.recvAdvance at taken
  split at taken
  · rename_i wake rcvtimeo fut selects
    obtain ⟨p, uri, d, link, expects, call⟩ | ⟨p, uri, d, link, call⟩ :=
      h.of_receiving (by simp [phases, selects, phase])
    · rw [selects] at call
      obtain ⟨returned, buffer, stage, notified⟩ := call
      have waits : rcvtimeo = .zero → fut = .popping →
          s.orchestrator.mainIncomingQueue.items ≠ [] := by
        rintro rfl rfl
        exact scene.2 wake selects
      split at taken
      · cases taken
      all_goals
        rename_i next o polled
        obtain ⟨eq, rfl⟩ | ⟨eq, kept⟩ := poll_waiting link buffer stage waits polled
      · cases eq
        cases taken
        refine .waiting p uri d { link with } expects ?_
        simpa [setCall, Waits] using ⟨returned, buffer, notified⟩
      · cases eq
        cases taken
        refine .taken p uri d { kept with } ?_
        simpa [setCall, Takes] using returned
      · cases eq
      · cases eq
    · rw [selects] at call
      obtain ⟨rfl, returned⟩ := call
      split at taken
      · cases taken
      all_goals
        rename_i next o polled
        obtain ⟨first, rest, reply, eq, kept⟩ := poll_taken link polled
      · cases eq
      · cases eq
        cases taken
        refine .taken p uri d { kept.dropNotified t wake with } ?_
        simpa [setCall, Takes] using ⟨⟨rest, reply⟩, returned⟩
  · rename_i notified
    obtain ⟨p, uri, d, link, expects, call⟩ | ⟨p, uri, d, link, call⟩ :=
      h.of_receiving (by simp [phases, notified, phase])
    · rw [notified] at call
      rw [if_pos link.running] at taken
      cases taken
      refine .waiting p uri d { link with } expects ?_
      simpa [setCall, Waits] using call
    · simp [notified, Takes] at call
  · rename_i fut polls
    obtain ⟨p, uri, d, link, expects, call⟩ | ⟨p, uri, d, link, call⟩ :=
      h.of_receiving (by simp [phases, polls, phase])
    · rw [polls] at call
      obtain ⟨returned, buffer, stage, rfl⟩ := call
      have queue := link.stands.2.2
      split at taken
      · cases taken
      all_goals
        rename_i next o polled
        obtain ⟨eq, rfl⟩ | ⟨eq, kept⟩ :=
          poll_waiting link buffer stage (fun _ _ => by simp [queue]) polled
      · cases eq
        cases taken
        refine .waiting p uri .notified { link with } expects ?_
        simpa [setCall, Waits] using ⟨returned, buffer⟩
      · cases eq
        cases taken
        refine .taken p uri .notified { kept with } ?_
        simpa [setCall, Takes] using returned
      · cases eq
      · cases eq
    · rw [polls] at call
      obtain ⟨rfl, returned⟩ := call
      split at taken
      · cases taken
      all_goals
        rename_i next o polled
        obtain ⟨first, rest, reply, eq, kept⟩ := poll_taken link polled
      · cases eq
      · cases eq
        cases taken
        refine .taken p uri d { kept with } ?_
        simpa [setCall, Takes, pollResult] using ⟨⟨rest, reply⟩, returned⟩
  · cases taken

lemma recvUpdate (h : Cycle f s₀ t m s) (taken : s.recvUpdate t = some s') :
    Cycle f s₀ t m s' := by
  unfold Req.recvUpdate at taken
  split at taken
  · rename_i result done
    obtain ⟨p, uri, d, link, expects, call⟩ | ⟨p, uri, d, link, call⟩ :=
      h.of_receiving (by simp [phases, done, phase])
    · simp [done, Waits] at call
    · rw [done] at call
      split at taken <;> cases taken
      · refine .taken p uri d { link with } ?_
        simpa [setCall, Takes] using call
      · refine .taken p uri d { link with } ?_
        simpa [setCall, Takes] using call
  · cases taken

lemma recvReturn (h : Cycle f s₀ t m s) (taken : s.recvReturn t = some s') :
    Cycle f s₀ t m s' := by
  unfold Req.recvReturn at taken
  split at taken
  · rename_i result shouldNotify returns
    obtain ⟨p, uri, d, link, expects, call⟩ | ⟨p, uri, d, link, call⟩ :=
      h.of_receiving (by simp [phases, returns, phase])
    · simp [returns, Waits] at call
    · rw [returns] at call
      obtain ⟨first, rest, reply, rfl, returned⟩ := call
      cases taken
      split
      · refine .taken p uri d { link.notifyWaiters with } ?_
        simpa [finish, setCall, Takes] using ⟨first, ⟨rest, reply⟩, rfl, returned⟩
      · refine .taken p uri d { link with } ?_
        simpa [finish, setCall, Takes] using ⟨first, ⟨rest, reply⟩, rfl, returned⟩
  · cases taken

/-! The sessions -/

lemma waits_mono {d d'} (later : d = .notified → d' = .notified)
    (h : Waits s₀ m d s c) : Waits s₀ m d' s c := by
  cases c with
  | sendReset m' | idle => exact ⟨h.1, h.2.1, fun permit => later (h.2.2 permit)⟩
  | recvSelect wake rcvtimeo fut => exact ⟨h.1, h.2.1, h.2.2.1, fun wakes => later (h.2.2.2 wakes)⟩
  | recvNotified => exact ⟨h.1, h.2.1, later h.2.2⟩
  | recvPoll fut => exact ⟨h.1, h.2.1, h.2.2.1, later h.2.2.2⟩
  | _ => exact h.elim

lemma waits_congr (h : Waits s₀ m d s c) (returned : s'.returned = s.returned)
    (buffer : s'.orchestrator.currentRecvFramesBuffer = s.orchestrator.currentRecvFramesBuffer)
    (permit : s'.permit = true → s.permit = true ∨ d = .notified) : Waits s₀ m d s' c := by
  have early : (s.permit = true → d = .notified) → s'.permit = true → d = .notified :=
    fun before now => (permit now).elim before id
  cases c with
  | sendReset m' => exact ⟨h.1, returned.trans h.2.1, early h.2.2⟩
  | idle => exact ⟨returned.trans h.1, buffer.trans h.2.1, early h.2.2⟩
  | recvSelect wake rcvtimeo fut =>
    refine ⟨returned.trans h.1, buffer.trans h.2.1, h.2.2.1, ?_⟩
    rintro (now | woken)
    · exact early (fun before => h.2.2.2 (.inl before)) now
    · exact h.2.2.2 (.inr woken)
  | recvNotified | recvPoll fut => exact ⟨returned.trans h.1, buffer.trans h.2.1, h.2.2⟩
  | _ => exact h.elim

lemma takes_congr (h : Takes s₀ m payload s c)
    (returned : s'.returned = s.returned) : Takes s₀ m payload s' c := by
  cases c <;> first
    | exact False.elim h
    | simpa only [Takes, returned] using h

lemma waits_notifyOne (h : Waits s₀ m .notified s (s.calls t)) :
    Waits s₀ m .notified s.notifyOne (s.notifyOne.calls t) := by
  refine waits_congr (s := s) ?_ (returned_notifyOne s) (by rw [orchestrator_notifyOne])
    (fun _ => .inr rfl)
  rcases calls_notifyOne s t with same | woken
  · rw [same]
    exact h
  · rw [woken]
    cases here : s.calls t <;> rw [here] at h
    case recvSelect => exact ⟨h.1, h.2.1, h.2.2.1, fun _ => rfl⟩
    all_goals exact h

lemma takes_notifyOne (h : Takes s₀ m payload s (s.calls t)) :
    Takes s₀ m payload s.notifyOne (s.notifyOne.calls t) := by
  refine takes_congr (s := s) ?_ (returned_notifyOne s)
  rcases calls_notifyOne s t with same | woken
  · rw [same]
    exact h
  · rw [woken]
    cases here : s.calls t <;> rw [here] at h <;> exact h

lemma waits_same (same : SameTask s s') (h : Waits s₀ m d s (s.calls t)) :
    Waits s₀ m d s' (s'.calls t) := by
  rw [same.calls]
  exact waits_congr h same.returned same.buffer (fun now => .inl (same.permit.symm.trans now))

lemma takes_same (same : SameTask s s')
    (h : Takes s₀ m payload s (s.calls t)) : Takes s₀ m payload s' (s'.calls t) := by
  rw [same.calls]
  exact takes_congr h same.returned

lemma session (h : Cycle f s₀ t m s) {a} (session : Session a)
    (orderly : s.Orderly a) (taken : step f s a = some s') : Cycle f s₀ t m s' := by
  cases h with
  | asking fresh call returned | failed fresh call e returned =>
    rw [fresh.no_session session] at taken
    cases taken
  | accepted p uri link call unseen permit returned =>
    cases a with
    | deliver q =>
      obtain ⟨-, kept, same, frame, located⟩ := link.deliver taken
      refine .accepted p uri kept (same.calls ▸ call) ?_ (same.permit ▸ permit)
        (same.returned.trans returned)
      simp [located]
    | checkExpected q => exact absurd call (orderly t m uri)
    | accumulate q =>
      simp only [step, Req.accumulate] at taken
      split at taken
      · rename_i frame expected
        obtain rfl := link.pipe_eq (q := q) (.inr (by simp [expected]))
        exact absurd expected (unseen frame)
      · cases taken
    | queueReply q => cases (link.queueReply taken).1
    | notifyQueued q => cases (link.notifyQueued taken).1
    | _ => exact session.elim
  | waiting p uri d link expects call =>
    cases a with
    | deliver q =>
      obtain ⟨-, kept, same, -⟩ := link.deliver taken
      exact .waiting p uri d kept (same.state.trans expects) (waits_same same call)
    | checkExpected q =>
      obtain ⟨-, kept, same⟩ := link.checkExpected (fun _ => expects) taken
      exact .waiting p uri d kept (same.state.trans expects) (waits_same same call)
    | accumulate q =>
      obtain ⟨rfl, d', kept, same⟩ := link.accumulate (f.framed m) taken
      exact .waiting p uri d' kept (same.state.trans expects)
        (waits_same same (waits_mono (by simp) call))
    | queueReply q =>
      obtain ⟨rfl, kept, same⟩ := link.queueReply taken
      exact .waiting p uri .queued kept (same.state.trans expects)
        (waits_same same (waits_mono (by simp) call))
    | notifyQueued q =>
      obtain ⟨rfl, mid, kept, same, rfl⟩ := link.notifyQueued taken
      have told := waits_notifyOne (waits_same same (waits_mono (by simp) call))
      refine .waiting p uri .notified kept.notifyOne ?_ told
      rw [state_notifyOne, same.state, expects]
    | _ => exact session.elim
  | taken p uri d link call =>
    cases a with
    | deliver q =>
      obtain ⟨-, kept, same, -⟩ := link.deliver taken
      exact .taken p uri d kept (takes_same same call)
    | checkExpected q =>
      obtain ⟨-, kept, same⟩ := link.checkExpected (by simp) taken
      exact .taken p uri d kept (takes_same same call)
    | accumulate q =>
      obtain ⟨-, d', kept, same⟩ := link.accumulate (f.framed m) taken
      exact .taken p uri d' kept (takes_same same call)
    | queueReply q =>
      obtain ⟨-, kept, same⟩ := link.queueReply taken
      exact .taken p uri .queued kept (takes_same same call)
    | notifyQueued q =>
      obtain ⟨-, mid, kept, same, rfl⟩ := link.notifyQueued taken
      exact .taken p uri .notified kept.notifyOne (takes_notifyOne (takes_same same call))
    | _ => exact session.elim

lemma step (h : Cycle f s₀ t m s) {a} (scene : Scene s₀ t s a)
    (orderly : s.Orderly a) (taken : step f s a = some s') : Cycle f s₀ t m s' := by
  cases a with
  | deliver q => exact h.session (a := .deliver q) scene orderly taken
  | checkExpected q => exact h.session (a := .checkExpected q) scene orderly taken
  | accumulate q => exact h.session (a := .accumulate q) scene orderly taken
  | queueReply q => exact h.session (a := .queueReply q) scene orderly taken
  | notifyQueued q => exact h.session (a := .notifyQueued q) scene orderly taken
  | sendPick u => cases scene; exact h.sendPick taken
  | sendResolve u => cases scene; exact h.sendResolve taken
  | sendAccept u => cases scene; exact h.sendAccept taken
  | sendRefuse u e => cases scene; exact h.sendRefuse taken
  | sendExpect u => cases scene; exact h.sendExpect taken
  | sendFinish u => cases scene; exact h.sendFinish taken
  | recvWake u => cases scene; exact h.recvWake orderly taken
  | recvUpdate u => cases scene; exact h.recvUpdate taken
  | recvReturn u => cases scene; exact h.recvReturn taken
  | recvAdvance u =>
    obtain ⟨rfl, -⟩ := id scene
    exact h.recvAdvance scene taken
  | recvBegin u =>
    obtain ⟨rfl, m', sent⟩ := scene
    exact h.recvBegin sent taken
  | _ => exact scene.elim

lemma sendBegin (fresh : Fresh s₀) (taken : s₀.sendBegin t m = some s) :
    Cycle f s₀ t (m.setMore false) s := by
  unfold Req.sendBegin at taken
  split at taken
  · (repeat' split at taken) <;> cases taken
    · exact fails fresh rfl _
    · exact fails fresh rfl _
    · refine .asking { fresh with } ?_ rfl
      simp [setCall, Asks]
  · cases taken

end Cycle

end Steps

end Rzmq.Req
