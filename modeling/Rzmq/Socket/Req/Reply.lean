import Rzmq.Socket.Req.Exchange

/-! `recv` returns the reply: once the whole reply has been handed over, each step of the exchange
brings the call nearer to its end, and a step is enabled until then. -/

namespace Rzmq.Req

open Function Transition

variable {α : Type}

section Steps

variable {f : Replier α} {s₀ s s' : Req α} {t : Nat} {m : Msg α}

def futRank : RecvMessage α → Nat
  | .locking => 2
  | .popping => 1
  | .storing _ => 0

def callRank : ReqCall α → Nat
  | .idle => 10
  | .recvSelect _ _ (.storing _) => 3
  | .recvSelect _ _ fut => 7 + futRank fut
  | .recvNotified => 6
  | .recvPoll fut => 3 + futRank fut
  | .recvDone _ => 2
  | .recvReturning _ _ => 1
  | _ => 0

lemma poll_rank {fut fut' : RecvMessage α} {rcvtimeo : Timeout}
    {o o' : IncomingMessageOrchestrator (List (Msg α)) α}
    (polled : fut.poll id rcvtimeo o = some (.inl fut', o')) : futRank fut' < futRank fut := by
  cases fut with
  | locking | popping =>
    simp only [RecvMessage.poll] at polled
    split at polled <;> cases polled
    simp [futRank]
  | storing frames => cases frames <;> cases polled

structure Advances (t : Nat) (s s' : Req α) : Prop where
  falls : callRank (s'.calls t) < callRank (s.calls t)
  wire : s'.wire = s.wire
  handlers : s'.handlers = s.handlers
  returned : s'.returned = s.returned

lemma recvWake_advances (orderly : s.Orderly (.recvWake t)) (taken : s.recvWake t = some s') :
    Advances t s s' := by
  have woken {wake : Wake} {rcvtimeo : Timeout} {fut : RecvMessage α}
      (selects : s.calls t = .recvSelect wake rcvtimeo fut) :
      callRank (.recvNotified : ReqCall α) < callRank (s.calls t) := by
    rw [selects]
    cases fut with
    | storing frames => exact absurd selects (orderly _ _ _)
    | locking | popping => simp [callRank, futRank]
  unfold recvWake at taken
  split at taken
  · rename_i selects
    split at taken <;> cases taken
    exact ⟨by simpa [setCall] using woken selects, rfl, rfl, rfl⟩
  · rename_i selects
    cases taken
    exact ⟨by simpa [setCall] using woken selects, rfl, rfl, rfl⟩
  · cases taken

lemma recvAdvance_advances (taken : s.recvAdvance t = some s') : Advances t s s' := by
  unfold recvAdvance at taken
  split at taken
  · rename_i wake rcvtimeo fut selects
    split at taken
    · cases taken
    · rename_i fut' o polled
      cases taken
      refine ⟨?_, rfl, rfl, rfl⟩
      have less := poll_rank polled
      simp only [setCall, update_self, selects]
      cases fut <;> cases fut' <;> simp_all [callRank, futRank]
    · rename_i result o polled
      cases taken
      refine ⟨?_, by simp [setCall], by simp [setCall], by simp [setCall]⟩
      simp only [setCall, update_self, selects]
      cases fut <;> simp [callRank, futRank]
  · rename_i notified
    split at taken <;> cases taken <;>
      exact ⟨by simp [setCall, notified, callRank, futRank], rfl, rfl, rfl⟩
  · rename_i fut polls
    split at taken
    · cases taken
    · rename_i fut' o polled
      cases taken
      refine ⟨?_, rfl, rfl, rfl⟩
      have less := poll_rank polled
      simp [setCall, polls, callRank]
      omega
    · cases taken
      refine ⟨?_, rfl, rfl, rfl⟩
      simp [setCall, polls, callRank]
      omega
  · cases taken

lemma recvUpdate_advances (taken : s.recvUpdate t = some s') : Advances t s s' := by
  unfold recvUpdate at taken
  split at taken
  · rename_i result done
    split at taken <;> cases taken <;>
      exact ⟨by simp [setCall, done, callRank], rfl, rfl, rfl⟩
  · cases taken

def Got (f : Replier α) (s₀ : Req α) (m : Msg α) (s : Req α) : Prop :=
  ∃ first rest, f.reply m = first :: rest ∧ s.returned = .received [first] :: .sent m :: s₀.returned

/-- `send` has returned, and every frame of the reply has been handed over and dealt with. -/
structure Due (f : Replier α) (s₀ : Req α) (t : Nat) (m : Msg α) (s : Req α) : Prop where
  cycle : Cycle f s₀ t m s
  sent : ∃ later, s.returned = later ++ .sent m :: s₀.returned
  handed : ∀ p, s.wire p = [] ∧ s.handlers p = .idle

namespace Due

section

variable (h : Due f s₀ t m s)
include h

lemma cases : (∃ p uri, Link p uri (f.reply m) .notified false s ∧ s.state = .expectingReply uri ∧
      Waits s₀ m .notified s (s.calls t) ∧ s.returned = .sent m :: s₀.returned) ∨
    ∃ p uri, Link p uri (f.reply m) .notified true s ∧ Takes s₀ m (f.reply m) s (s.calls t) := by
  obtain ⟨later, sent⟩ := h.sent
  have short (returned : s.returned = s₀.returned) : False := by
    have := congrArg List.length (returned.symm.trans sent)
    simp at this
    omega
  cases h.cycle with
  | asking fresh call returned | accepted p uri link call unseen permit returned =>
    exact (short returned).elim
  | failed fresh call e returned =>
    rw [sent] at returned
    cases later with
    | nil => simp at returned
    | cons first rest =>
      have := congrArg List.length returned
      simp at this
      omega
  | waiting p uri d link expects call =>
    obtain rfl := link.notified_of_handed (f.framed m) (h.handed p)
    refine .inl ⟨p, uri, link, expects, call, ?_⟩
    cases here : s.calls t <;> rw [here] at call
    case sendReset => exact (short call.2.1).elim
    case idle => exact call.1
    case recvSelect => exact call.1
    case recvNotified => exact call.1
    case recvPoll => exact call.1
    all_goals exact call.elim
  | taken p uri d link call =>
    obtain rfl := link.notified_of_handed (f.framed m) (h.handed p)
    exact .inr ⟨p, uri, link, call⟩

lemma queued (idle : s.calls t = .idle) (returned : s.returned = .sent m :: s₀.returned) :
    s.orchestrator.mainIncomingQueue.items = [f.reply m] := by
  obtain ⟨p, uri, link, -, -, -⟩ | ⟨p, uri, link, call⟩ := h.cases
  · exact link.stands.2.2
  · rw [idle] at call
    obtain ⟨first, rest, -, got⟩ := call
    simp [returned] at got

lemma enabled : Got f s₀ m s ∨
    ∃ a s', (Scene s₀ t s a ∧ s.Orderly a) ∧ Req.step f s a = some s' := by
  have takes (a : ReqAction α) (scene : Scene s₀ t s a) (orderly : s.Orderly a)
      (enabled : (Req.step f s a).isSome) :
      ∃ a s', (Scene s₀ t s a ∧ s.Orderly a) ∧ Req.step f s a = some s' := by
    obtain ⟨s', taken⟩ := Option.isSome_iff_exists.mp enabled
    exact ⟨a, s', ⟨scene, orderly⟩, taken⟩
  obtain ⟨p, uri, link, expects, call, returned⟩ | ⟨p, uri, link, call⟩ := h.cases
  · right
    have items := link.stands.2.2
    have advances := takes (.recvAdvance t) ⟨rfl, fun _ _ => by simp [items]⟩ trivial
    have pops (rcvtimeo : Timeout) : ∃ o,
        s.orchestrator.recvItemFromMainQueue rcvtimeo = some (.ok (f.reply m), o) := by
      cases rcvtimeo <;> simp [IncomingMessageOrchestrator.recvItemFromMainQueue,
        FairQueue.popItem, FairQueue.tryPopItem, items]
    cases here : s.calls t <;> rw [here] at call
    case idle =>
      refine takes (.recvBegin t) ⟨rfl, m, returned⟩ trivial ?_
      simp [Req.step, recvBegin, receiveBegin, here, link.running, expects]
    case recvSelect wake rcvtimeo fut =>
      obtain ⟨-, buffer, rfl | rfl, -⟩ := call
      · exact advances (by simp [Req.step, recvAdvance, here, RecvMessage.poll, buffer])
      · obtain ⟨o, ready⟩ := pops rcvtimeo
        exact advances (by simp [Req.step, recvAdvance, here, RecvMessage.poll, ready])
    case recvNotified => exact advances (by simp [Req.step, recvAdvance, here, link.running])
    case recvPoll fut =>
      obtain ⟨-, buffer, rfl | rfl, -⟩ := call
      · exact advances (by simp [Req.step, recvAdvance, here, RecvMessage.poll, buffer])
      · obtain ⟨o, ready⟩ := pops .zero
        exact advances (by simp [Req.step, recvAdvance, here, RecvMessage.poll, ready])
    case sendReset =>
      have := congrArg List.length (call.2.1.symm.trans returned)
      simp at this
    all_goals exact False.elim call
  · obtain ⟨first, rest, reply⟩ : ∃ first rest, f.reply m = first :: rest := by
      have framed := f.framed m
      cases reply : f.reply m with
      | nil =>
        rw [reply] at framed
        exact framed.elim
      | cons first rest => exact ⟨first, rest, rfl⟩
    cases here : s.calls t <;> rw [here] at call
    case idle => exact .inl call
    case recvSelect wake rcvtimeo fut =>
      obtain ⟨rfl, -⟩ := call
      refine .inr (takes (.recvAdvance t) ⟨rfl, by simp [here]⟩ trivial ?_)
      simp [Req.step, recvAdvance, here, reply, RecvMessage.poll]
    case recvPoll fut =>
      obtain ⟨rfl, -⟩ := call
      refine .inr (takes (.recvAdvance t) ⟨rfl, by simp [here]⟩ trivial ?_)
      simp [Req.step, recvAdvance, here, reply, RecvMessage.poll]
    case recvDone result =>
      refine .inr (takes (.recvUpdate t) rfl trivial ?_)
      simp only [Req.step, recvUpdate, here]
      split <;> rfl
    case recvReturning result shouldNotify =>
      refine .inr (takes (.recvReturn t) rfl trivial ?_)
      simp [Req.step, recvReturn, here]
    all_goals exact False.elim call

lemma falls (before : ¬ Got f s₀ m s) {a} (scene : Scene s₀ t s a) (orderly : s.Orderly a)
    (taken : Req.step f s a = some s') :
    Due f s₀ t m s' ∧ (Got f s₀ m s' ∨ callRank (s'.calls t) < callRank (s.calls t)) := by
  have cycle := h.cycle.step scene orderly taken
  have advances (h' : Advances t s s') :
      Due f s₀ t m s' ∧ (Got f s₀ m s' ∨ callRank (s'.calls t) < callRank (s.calls t)) :=
    ⟨⟨cycle, h'.returned ▸ h.sent, by rw [h'.wire, h'.handlers]; exact h.handed⟩, .inr h'.falls⟩
  have receiving : s.phases t = .receiving ∨ s.calls t = .idle := by
    obtain ⟨p, uri, link, expects, call, returned⟩ | ⟨p, uri, link, call⟩ := h.cases
    all_goals
      unfold phases
      cases here : s.calls t <;> rw [here] at call
    all_goals first
      | exact .inr rfl
      | exact .inl rfl
      | exact False.elim call
      | exact absurd (congrArg List.length (call.2.1.symm.trans returned)) (by simp)
  have sends {P : Prop} {c : ReqCall α} (here : s.calls t = c)
      (sending : phase c ≠ .receiving ∧ c ≠ .idle) : P := by
    subst here
    exact (receiving.elim sending.1 sending.2).elim
  cases a with
  | deliver q => simp [Req.step, Req.deliver, h.handed q] at taken
  | checkExpected q => simp [Req.step, Req.checkExpected, h.handed q] at taken
  | accumulate q => simp [Req.step, Req.accumulate, h.handed q] at taken
  | queueReply q => simp [Req.step, Req.queueReply, h.handed q] at taken
  | notifyQueued q => simp [Req.step, Req.notifyQueued, h.handed q] at taken
  | sendPick u | sendResolve u | sendAccept u | sendRefuse u e | sendExpect u | sendFinish u =>
    cases scene
    simp only [Req.step, sendPick, sendResolve, sendAccept, sendRefuse, sendExpect, sendFinish]
      at taken
    split at taken
    · exact sends (by assumption) (by simp [phase])
    · cases taken
  | recvWake u =>
    cases scene
    exact advances (recvWake_advances orderly taken)
  | recvAdvance u =>
    obtain ⟨rfl, -⟩ := scene
    exact advances (recvAdvance_advances taken)
  | recvUpdate u =>
    cases scene
    exact advances (recvUpdate_advances taken)
  | recvBegin u =>
    obtain ⟨rfl, -⟩ := scene
    simp only [Req.step, recvBegin, receiveBegin] at taken
    split at taken
    · rename_i idle
      obtain ⟨p, uri, link, expects, call, returned⟩ | ⟨p, uri, link, call⟩ := h.cases
      · simp only [link.running, expects] at taken
        cases taken
        refine advances ⟨?_, rfl, rfl, rfl⟩
        simp [setCall, idle, callRank, futRank]
      · rw [idle] at call
        exact absurd call before
    · cases taken
  | recvReturn u =>
    cases scene
    simp only [Req.step, recvReturn] at taken
    split at taken
    · rename_i result shouldNotify returns
      obtain ⟨p, uri, link, expects, call, returned⟩ | ⟨p, uri, link, call⟩ := h.cases
      · rw [returns] at call
        exact False.elim call
      · rw [returns] at call
        obtain ⟨first, rest, reply, rfl, returned⟩ := call
        have after : s'.returned = .received [first] :: s.returned ∧ s'.wire = s.wire ∧
            s'.handlers = s.handlers := by
          cases taken
          split <;> exact ⟨rfl, rfl, rfl⟩
        obtain ⟨got, wire, handlers⟩ := after
        rw [returned] at got
        refine ⟨⟨cycle, ⟨[.received [first]], got⟩, ?_⟩, .inl ⟨first, rest, reply, got⟩⟩
        rw [wire, handlers]
        exact h.handed
    · cases taken
  | _ => exact scene.elim

end

end Due

end Steps

def OrderlyScene (s₀ : Req α) (t : Nat) (s : Req α) (a : ReqAction α) : Prop :=
  Scene s₀ t s a ∧ s.Orderly a

/-- In every run of orderly steps on a fresh socket: once `send` has returned `Ok` and the whole
reply has been handed over, it is queued if `recv` has not begun, and `recv` returns it. -/
theorem reply_received {f : Replier α} {s₀ s₁ s : Req α} {t : Nat} {m : Msg α} (fresh : Fresh s₀)
    (begun : step f s₀ (.sendBegin t m) = some s₁)
    (reached : Reaches (step f) (OrderlyScene s₀ t) s₁ s)
    (sent : ∃ later, s.returned = later ++ .sent (m.setMore false) :: s₀.returned)
    (handed : ∀ p, s.wire p = [] ∧ s.handlers p = .idle) :
    (s.calls t = .idle → s.returned = .sent (m.setMore false) :: s₀.returned →
      s.orchestrator.mainIncomingQueue.items = [f.reply (m.setMore false)]) ∧
    Inevitable (step f) (OrderlyScene s₀ t) (Got f s₀ (m.setMore false)) s := by
  have cycle := reached.invariant
    (fun _ _ _ cycle permitted taken => Cycle.step cycle permitted.1 permitted.2 taken)
    (Cycle.sendBegin (f := f) fresh begun)
  have due : Due f s₀ t (m.setMore false) s := ⟨cycle, sent, handed⟩
  refine ⟨due.queued, ?_⟩
  refine Inevitable.of_rank (fun s => callRank (s.calls t)) (fun _ due => due.enabled) ?_ due
  intro s a s' due before permitted taken
  exact due.falls before permitted.1 permitted.2 taken

/-- The session hands over the reply while `send` has yet to write the state: both frames are
dropped. -/
theorem reply_dropped : ∃ s s', run (step echo) (new .infinite .infinite)
        (connecting 0 "tcp://peer:1" ++ [.sendBegin 0 firstRequest, .sendPick 0, .sendResolve 0,
          .sendAccept 0, .deliver 0, .checkExpected 0, .deliver 0, .checkExpected 0,
          .sendExpect 0, .sendFinish 0]) = some s ∧
      s.returned = [.sent firstRequest] ∧ s.wire 0 = [] ∧ s.handlers 0 = .idle ∧
      s.orchestrator.mainIncomingQueue.items = [] ∧
      run (step echo) s [.recvBegin 0, .recvAdvance 0] = some s' ∧
      step echo s' (.recvAdvance 0) = none ∧ step echo s' (.recvWake 0) = none :=
  ⟨_, _, rfl, rfl, rfl, rfl, rfl, rfl, rfl, rfl⟩

def connected (p : Nat) (uri : String) : Req α :=
  { new .infinite .infinite with
    endpoints := update (fun _ => none) uri (some p)
    pipeUri := update (fun _ => none) p (some uri)
    loadBalancer := ⟨[uri]⟩
    pipeReadToEndpointUri := update (fun _ => none) p (some uri) }

lemma fresh_connected (p : Nat) (uri : String) : Fresh (connected p uri : Req α) where
  running := rfl
  permit := rfl
  closed := rfl
  room := Nat.one_pos
  queue := rfl
  attached := by
    intro uri' p' found
    by_cases same : uri' = uri
    · subst same
      simp only [connected, update_self, Option.some.injEq] at found
      subst found
      simp [connected]
    · simp [connected, same] at found
  pipe _ := rfl
  handler _ := rfl

lemma orderly_check {s₀ s : Req α} {t q : Nat}
    (written : ∀ t m uri, s.calls t ≠ .sendAccepted m uri) :
    OrderlyScene s₀ t s (.checkExpected q) := ⟨trivial, written⟩

theorem reply_received_once :
    ∃ s, Reaches (step echo) (fun _ _ => True) (connected 0 "tcp://peer:1") s ∧
      s.returned = [.sent firstRequest] ∧
      Inevitable (step echo) (OrderlyScene (connected 0 "tcp://peer:1") 0)
        (Got echo (connected 0 "tcp://peer:1") firstRequest) s := by
  have start : Reaches (step (echo (α := UInt8))) (OrderlyScene (connected 0 "tcp://peer:1") 0)
      ((connected 0 "tcp://peer:1").setCall 0 (.sendChecked firstRequest .infinite)) _ := .refl
  have first := start.trans (reaches_of_run ((sending 0 firstRequest).tail ++ [.deliver 0])
    (by simp [sending, OrderlyScene, Scene, Orderly]) rfl)
  have checked := first.tail (a := .checkExpected 0) (orderly_check (by
    intro t m uri
    cases t <;> exact fun eq => by cases eq)) rfl
  have second := checked.trans (reaches_of_run [.accumulate 0, .deliver 0]
    (by simp [OrderlyScene, Scene, Orderly]) rfl)
  have again := second.tail (a := .checkExpected 0) (orderly_check (by
    intro t m uri
    cases t <;> exact fun eq => by cases eq)) rfl
  have queued := again.trans (reaches_of_run [.accumulate 0, .queueReply 0, .notifyQueued 0]
    (by simp [OrderlyScene, Scene, Orderly]) rfl)
  refine ⟨_, (Reaches.refl.tail (a := .sendBegin 0 firstRequest) trivial rfl).trans
    (queued.weaken fun _ _ _ => trivial), rfl, ?_⟩
  refine (reply_received (fresh_connected 0 "tcp://peer:1") (m := firstRequest) rfl queued
    ⟨[], rfl⟩ ?_).2
  intro p
  cases p <;> exact ⟨rfl, rfl⟩

end Rzmq.Req
