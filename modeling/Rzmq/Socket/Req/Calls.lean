import Rzmq.Socket.Req.Outstanding

/-! What each step of a REQ socket does to the calls in progress and to what they return. -/

namespace Rzmq.Req

open Function

variable {α : Type}

/-- A call that asks has not handed its request to a connection; one that asked has. -/
inductive Phase (α : Type) where
  | idle
  | asking
  | asked (m : Msg α)
  | receiving

def phase : ReqCall α → Phase α
  | .idle => .idle
  | .sendChecked _ _ => .asking
  | .sendPicked _ _ => .asking
  | .sendTo _ _ _ => .asking
  | .sendAccepted m _ => .asked m
  | .sendReset m => .asked m
  | _ => .receiving

def phases (s : Req α) (t : Nat) : Phase α := phase (s.calls t)

@[simp] lemma phase_wakeCall (wake : Wake) (c : ReqCall α) :
    phase (wakeCall wake c) = phase c := by
  cases c <;> rfl

section

variable (s : Req α)
include s

@[simp] lemma phases_setCall (t : Nat) (c) :
    (s.setCall t c).phases = update s.phases t (phase c) := by
  funext u
  by_cases same : u = t
  · subst same
    simp [phases, setCall]
  · simp [phases, setCall, same]

@[simp] lemma phases_notifyOne : s.notifyOne.phases = s.phases := by
  funext u
  unfold notifyOne
  split
  · rfl
  · rename_i t rest waiting
    by_cases same : u = t
    · subst same
      simp [phases, setCall]
    · simp [phases, setCall, same]

@[simp] lemma phases_notifyWaiters : s.notifyWaiters.phases = s.phases := by
  funext u
  by_cases waits : u ∈ s.waiters
  · simp [phases, notifyWaiters, waits]
  · simp [phases, notifyWaiters, waits]

@[simp] lemma phases_dropNotified (t : Nat) (wake : Wake) :
    (s.dropNotified t wake).phases = s.phases := by
  unfold dropNotified
  split
  · exact phases_notifyOne _
  · rfl

@[simp] lemma state_notifyOne : s.notifyOne.state = s.state := by
  unfold notifyOne
  split <;> rfl

@[simp] lemma orchestrator_notifyOne : s.notifyOne.orchestrator = s.orchestrator := by
  unfold notifyOne
  split <;> rfl

@[simp] lemma wire_notifyOne : s.notifyOne.wire = s.wire := by
  unfold notifyOne
  split <;> rfl

@[simp] lemma handlers_notifyOne : s.notifyOne.handlers = s.handlers := by
  unfold notifyOne
  split <;> rfl

lemma calls_notifyOne (t : Nat) :
    s.notifyOne.calls t = s.calls t ∨ s.notifyOne.calls t = wakeCall .one (s.calls t) := by
  unfold notifyOne
  split
  · exact .inl rfl
  · rename_i u rest waiting
    by_cases same : t = u
    · subst same
      exact .inr (by simp [setCall])
    · exact .inl (by simp [setCall, same])

@[simp] lemma returned_notifyOne : s.notifyOne.returned = s.returned := by
  unfold notifyOne
  split <;> rfl

@[simp] lemma returned_dropNotified (t : Nat) (wake : Wake) :
    (s.dropNotified t wake).returned = s.returned := by
  unfold dropNotified
  split
  · exact returned_notifyOne _
  · rfl

@[simp] lemma wire_dropNotified (t : Nat) (wake : Wake) :
    (s.dropNotified t wake).wire = s.wire := by
  unfold dropNotified
  split
  · exact wire_notifyOne _
  · rfl

@[simp] lemma handlers_dropNotified (t : Nat) (wake : Wake) :
    (s.dropNotified t wake).handlers = s.handlers := by
  unfold dropNotified
  split
  · exact handlers_notifyOne _
  · rfl

end

inductive Change (s s' : Req α) : ReqAction α → Prop where
  | quiet (notAccept : ∀ t, a ≠ .sendAccept t) (phases : s'.phases = s.phases)
      (returned : s'.returned = s.returned) : Change s s' a
  | ask (running : s.running = true) (ready : s.state = .readyToSend)
      (phases : s'.phases = update s.phases t .asking) (returned : s'.returned = s.returned) :
      Change s s' (.sendBegin t m)
  | accept (asking : s.calls t = .sendTo m uri p)
      (phases : s'.phases = update s.phases t (.asked m)) (returned : s'.returned = s.returned) :
      Change s s' (.sendAccept t)
  | receive (begins : a = .recvBegin t ∨ a = .multiBegin t)
      (phases : s'.phases = update s.phases t .receiving) (returned : s'.returned = s.returned) :
      Change s s' a
  | drop (phases : s'.phases = update s.phases t .idle)
      (returned : s'.returned = s.returned) : Change s s' (.cancel t)
  | fail (notAccept : ∀ t, a ≠ .sendAccept t)
      (before : ∀ m, s.phases t ≠ .asked m) (phases : s'.phases = update s.phases t .idle)
      (returned : s'.returned = .failed e :: s.returned) : Change s s' a
  | sent (asked : s.phases t = .asked m)
      (phases : s'.phases = update s.phases t .idle)
      (returned : s'.returned = .sent m :: s.returned) : Change s s' (.sendFinish t)
  | received (notAccept : ∀ t, a ≠ .sendAccept t) (receiving : s.phases t = .receiving)
      (held : ∀ o, CallHolds o (s.calls t) → ∃ r, o = some r ∧ frames.flatMap Msg.body = r.body)
      (phases : s'.phases = update s.phases t .idle)
      (returned : s'.returned = .received frames :: s.returned) : Change s s' a

variable {t : Nat} {s s' : Req α}

lemma phases_within {s : Req α} {c d} (here : s.calls t = c)
    (same : phase c = phase d) : (s.setCall t d).phases = s.phases := by
  rw [phases_setCall, ← same, ← here]
  exact update_eq_self t s.phases

lemma phases_of_call {s : Req α} {c} (call : s.calls t = c) :
    s.phases t = phase c := by
  rw [phases, call]

lemma change_fail {a c e}
    (notAccept : ∀ t, a ≠ .sendAccept t) (call : s.calls t = c) (before : ∀ m, phase c ≠ .asked m)
    (phases : s'.phases = update s.phases t .idle)
    (returned : s'.returned = .failed e :: s.returned) : Change s s' a := by
  refine .fail notAccept ?_ phases returned
  rw [phases_of_call call]
  exact before

lemma phases_tells (s : Req α) (t : Nat) (r : Returned α) :
    (s.notifyWaiters.finish t r).phases = update s.phases t .idle :=
  (phases_setCall _ _ _).trans (by rw [phases_notifyWaiters]; rfl)

lemma phases_dropSelect {s : Req α} (wake : Wake) (c) :
    ((s.dropNotified t wake).setCall t c).phases = update s.phases t (phase c) :=
  (phases_setCall _ _ _).trans (by rw [phases_dropNotified])

lemma recvReturn_change {result} {shouldNotify : Bool}
    (call : s.calls t = .recvReturning result shouldNotify)
    (phases : s'.phases = update s.phases t .idle)
    (returned : s'.returned = outcome (result.map fun m => [m]) :: s.returned) :
    Change s s' (.recvReturn t) := by
  cases result with
  | error e => exact change_fail (by simp) call (by simp [phase]) phases returned
  | ok m =>
    refine .received (by simp) (phases_of_call call) (fun o held => ?_) phases returned
    rw [call] at held
    obtain ⟨r, eq, same⟩ := held
    exact ⟨r, eq, by simpa using same⟩

lemma step_change {f a} (taken : step f s a = some s') : Change s s' a := by
  cases step_cases taken with
  | check call running ready => exact .ask running ready (phases_setCall _ _ _) rfl
  | accept call => exact .accept call (phases_setCall s _ (.sendAccepted _ _)) rfl
  | sent call => exact .sent (phases_of_call call) (phases_setCall _ _ _) rfl
  | select call running expecting =>
    exact .receive (.inl rfl) (phases_setCall s _ (.recvSelect _ _ _)) rfl
  | multiStart call running expecting => exact .receive (.inr rfl) (phases_setCall _ _ _) rfl
  | sendRejected e call | recvRejected e call | multiRejected e call =>
    exact change_fail (by simp) call (by simp [phase]) (phases_setCall _ _ _) rfl
  | pickFailed e call | sendTimeout call | refuse e call | refuseClosed e call
  | resolveFailed e call | multiFails call =>
    exact change_fail (by simp) call (by simp [phase]) (phases_setCall _ _ _) rfl
  | multiFailsTelling call expecting =>
    exact change_fail (by simp) call (by simp [phase]) (phases_tells _ _ _) rfl
  | recvTells call => exact recvReturn_change call (phases_tells _ _ _) rfl
  | recvReturns call => exact recvReturn_change call (phases_setCall _ _ _) rfl
  | multiReturns call =>
    refine .received (by simp) (phases_of_call call) (fun o held => ?_) (phases_tells _ _ _) rfl
    rw [call] at held
    exact Payload.body held
  | drop call => exact .drop (phases_setCall _ _ _) rfl
  | dropSelect call => exact .drop (phases_dropSelect _ _) (returned_dropNotified _ _ _)
  | pick call | resolve call | expect call | wakeByPermit call | wake call | selectOn call
  | recheck call | recheckClosed call | pollOn call | polled call | giveBack call | keepState call
  | multiOn call | multiPolled call | multiTimeout call =>
    exact .quiet (by simp) (phases_within (s := s) call rfl) rfl
  | selected call | recvTimeout call =>
    refine .quiet (by simp) ?_ (returned_dropNotified _ _ _)
    rw [phases_dropSelect]
    exact (phases_setCall s _ _).symm.trans (phases_within call rfl)
  | notify handler | detachTells detach =>
    exact .quiet (by simp) (phases_notifyOne _) (returned_notifyOne _)
  | notifyRefused handler | stop => exact .quiet (by simp) (phases_notifyWaiters _) rfl
  | skip | discard | locate | expected | unexpected | collect | assemble | push | pushRefused
  | pushDropped | attach | attachUnknown | detachUnknown | detachTarget | detachOther
  | detachSilent | clear | reset | lose | setEndpoint | setPipeUri | setTimeouts =>
    exact .quiet (by simp) rfl rfl

end Rzmq.Req
