import Rzmq.Security.Negotiate

/-! A mechanism that waits for its peer.  `produce_token` is called again whenever the handshake
starts over, so it has to answer again that there is nothing to send, and to change nothing. -/

namespace Rzmq

open Octet Curve Frame
open SnowHandshake (buildResponder intoTransportMode isHandshakeFinished isMyTurn writeMessage)

variable {SK Key H T α : Type}

def RespondersWait (H : Type) {T α : Type} [SnowHandshake H T α] : Prop :=
  ∀ sk seed (h : H), buildResponder sk seed = .ok h → isMyTurn h = false

namespace NoiseXxMechanism

def Started (m : NoiseXxMechanism H T α) : Prop := m.currentStatus ≠ .initializing

lemma setReason_started (reason : String) :
    Stays Started (setReason reason : MechanismM (NoiseXxMechanism H T α) Unit) :=
  stays_modify fun _ _ => nofun

variable [SnowHandshake H T α] {m m' : NoiseXxMechanism H T α}

def Patient (m : NoiseXxMechanism H T α) : Prop :=
  m.currentStatus = .initializing → m.pendingOutgoingHandshakeMsg = none ∧
    (m.isServerRole = true → ∃ h, m.state = some h ∧ isMyTurn h = false)

lemma initializeNoiseXx_patient (responders : RespondersWait H) {isServer : Bool}
    {localSk remotePk} {seed : Nat}
    (built : initializeNoiseXx isServer localSk remotePk seed = .ok m) : m.Patient := by
  intro _
  unfold initializeNoiseXx at built
  split at built
  · next sk _ =>
    simp only [bind, Except.bind, pure, Except.pure] at built
    cases isServer with
    | true =>
      simp only [if_true] at built
      split at built
      · cases built
      · next h responder =>
        cases built
        exact ⟨rfl, fun _ => ⟨h, rfl, responders _ _ _ responder⟩⟩
    | false =>
      simp only [Bool.false_eq_true, if_false] at built
      split at built
      · split at built
        · cases built
        · cases built
          exact ⟨rfl, nofun⟩
      · cases built
  · cases built

variable [DecidableEq α]

omit [SnowHandshake H T α] in
lemma verifyServerKey_started (pk : List α) :
    Stays Started (verifyServerKey pk : MechanismM (NoiseXxMechanism H T α) Unit) := by
  refine stays_bind stays_get fun m => ?_
  split
  · exact stays_pure _
  · split
    · split
      · exact stays_bind (setReason_started _) fun _ => stays_throw _
      · exact stays_pure _
    · exact stays_bind (setReason_started _) fun _ => stays_throw _

lemma transitionToFinalState_started :
    Stays Started (transitionToFinalState : MechanismM (NoiseXxMechanism H T α) Unit) := by
  refine stays_bind stays_get fun m => ?_
  have missing : Stays Started (throwSnow .handshakeNotFinished :
      MechanismM (NoiseXxMechanism H T α) Unit) := stays_throw _
  split
  · exact stays_throw _
  · split
    · exact stays_guard missing (stays_bind (setReason_started _) fun _ => stays_throw _)
    · next pk _ =>
      refine stays_guard missing (stays_bind (stays_modify fun _ start => start) fun _ =>
        stays_bind (verifyServerKey_started pk) fun _ =>
        stays_bind (stays_modify fun _ start => start) fun _ => ?_)
      split
      · exact stays_modify fun _ _ => nofun
      · exact stays_bind (setReason_started _) fun _ => stays_throw _

lemma readToken_started (token : List α) :
    Stays Started (readToken token : MechanismM (NoiseXxMechanism H T α) ProcessTokenAction) := by
  refine stays_bind stays_get fun m => ?_
  split
  · exact stays_throw _
  · refine stays_bind (stays_modify fun _ start => start) fun _ => ?_
    split
    · exact stays_throw _
    · split
      · exact stays_bind transitionToFinalState_started fun _ => stays_pure _
      · split
        · refine stays_bind (stays_modify fun _ start => start) fun _ => ?_
          split
          · exact stays_throw _
          · exact stays_bind (stays_modify fun _ start => start) fun _ => stays_pure _
        · exact stays_bind (stays_modify fun _ start => start) fun _ => stays_pure _

lemma processToken_started {token : List α} {action : ProcessTokenAction}
    (called : processToken token m = .ok action m') : m'.Started := by
  obtain ⟨_, _, got, called⟩ := bind_ok called
  cases got
  cases status : m.currentStatus <;> simp only [status] at called
  case error | ready => cases called
  case initializing =>
    obtain ⟨_, _, set, called⟩ := bind_ok called
    cases set
    exact readToken_started token (by simp [Started]) called
  case handshaking | authenticating =>
    exact readToken_started token (by simp [Started, status]) called

lemma produceNew_started :
    Stays Started (produceNew : MechanismM (NoiseXxMechanism H T α) (Option (List α))) := by
  refine stays_bind stays_get fun m => ?_
  split
  · exact stays_throw _
  · split
    · refine stays_bind (stays_modify fun _ start => start) fun _ => ?_
      split
      · exact stays_throw _
      · refine stays_bind stays_get fun m => ?_
        split
        · exact stays_bind transitionToFinalState_started fun _ => stays_pure _
        · exact stays_pure _
    · exact stays_pure _

lemma produceNew_none (called : produceNew m = .ok none m') :
    m' = m ∧ ∃ h, m.state = some h ∧ isMyTurn h = false := by
  obtain ⟨_, _, got, called⟩ := bind_ok called
  cases got
  cases state : m.state with
  | none =>
    simp only [state] at called
    cases called
  | some h =>
    cases turn : isMyTurn h with
    | false =>
      simp only [state, turn] at called
      cases called
      exact ⟨rfl, h, rfl, turn⟩
    | true =>
      simp only [state, turn, if_true] at called
      obtain ⟨_, _, -, called⟩ := bind_ok called
      cases written : (writeMessage h).1 with
      | error e =>
        simp only [written] at called
        cases called
      | ok msg =>
        simp only [written] at called
        obtain ⟨n, _, -, called⟩ := bind_ok called
        cases last : isHandshakeFinished (writeMessage h).2 &&
          n.isServerRole <;> simp only [last] at called
        · cases called
        · obtain ⟨_, _, -, ⟨⟩⟩ := bind_ok called

lemma produceNew_idle {h : H} (state : m.state = some h)
    (waits : isMyTurn h = false) : produceNew m = .ok none m := by
  simp [produceNew, bind, EStateM.bind, get_eq, state, waits, pure_eq]

lemma produceToken_started (patient : m.Patient) {token : Option (List α)}
    (called : produceToken m = .ok token m') : m'.Started := by
  obtain ⟨_, _, got, called⟩ := bind_ok called
  cases got
  cases pending : m.pendingOutgoingHandshakeMsg with
  | some msg =>
    have start : m.Started := fun init => by simp [(patient init).1] at pending
    simp only [pending] at called
    obtain ⟨_, _, set, called⟩ := bind_ok called
    cases set
    cases last : !m.isServerRole && m.state.any isHandshakeFinished <;> simp only [last] at called
    · cases called
      exact start
    · obtain ⟨_, _, final, ⟨⟩⟩ := bind_ok called
      exact transitionToFinalState_started (by exact start) final
  | none =>
    cases status : m.currentStatus <;> simp only [pending, status] at called
    case ready | error =>
      cases called
      simp [Started, status]
    case handshaking | authenticating =>
      exact produceNew_started (by simp [Started, status]) called
    case initializing =>
      obtain ⟨_, _, set, called⟩ := bind_ok called
      cases set
      cases role : m.isServerRole <;> simp only [role] at called
      · exact produceNew_started (by simp [Started]) called
      · cases called
        simp [Started]

lemma produceToken_handshaking (pending : m.pendingOutgoingHandshakeMsg = none)
    (status : m.currentStatus = .handshaking) : produceToken m = produceNew m := by
  simp [produceToken, bind, EStateM.bind, get_eq, pending, status]

lemma produceToken_none (patient : m.Patient)
    (going : m.currentStatus ≠ .ready ∧ m.currentStatus ≠ .error)
    (called : produceToken m = .ok none m') :
    (m'.currentStatus ≠ .ready ∧ m'.currentStatus ≠ .error) ∧ produceToken m' = .ok none m' := by
  have whole := called
  obtain ⟨_, _, got, called⟩ := bind_ok called
  cases got
  cases pending : m.pendingOutgoingHandshakeMsg with
  | some msg =>
    simp only [pending] at called
    obtain ⟨_, _, -, called⟩ := bind_ok called
    cases last : !m.isServerRole && m.state.any isHandshakeFinished <;> simp only [last] at called
    · cases called
    · obtain ⟨_, _, -, ⟨⟩⟩ := bind_ok called
  | none =>
    cases status : m.currentStatus <;> simp only [pending, status] at called
    case ready => exact absurd status going.1
    case error => exact absurd status going.2
    case handshaking | authenticating =>
      obtain ⟨rfl, -⟩ := produceNew_none called
      exact ⟨going, whole⟩
    case initializing =>
      obtain ⟨_, _, set, called⟩ := bind_ok called
      cases set
      have idle {h : H} (state : m.state = some h) (waits : isMyTurn h = false) :
          produceToken { m with currentStatus := .handshaking } =
            .ok none { m with currentStatus := .handshaking } :=
        (produceToken_handshaking (m := { m with currentStatus := .handshaking }) pending rfl).trans
          (produceNew_idle state waits)
      by_cases role : m.isServerRole = true
      · rw [if_pos role] at called
        cases called
        obtain ⟨h, state, waits⟩ := (patient status).2 role
        exact ⟨by simp, idle state waits⟩
      · rw [if_neg role] at called
        obtain ⟨rfl, h, state, waits⟩ := produceNew_none called
        exact ⟨by simp, idle state waits⟩

end NoiseXxMechanism

lemma PlainMechanism.produceToken_none [Octet α] {m n}
    (called : (Option.map (bytes (α := α)) <$> produceToken) m = .ok none n) : n = m := by
  simp only [produceToken, Functor.map, EStateM.map, bind, EStateM.bind, get_eq] at called
  cases state : m.state <;> simp [state, set_eq, pure_eq, EStateM.bind] at called
  all_goals exact called.symm

lemma Curve.CurveMechanism.produceToken_none [Octet α] [CryptoBox Key α] [CurveSuite SK Key α]
    {m n : CurveMechanism SK Key α} (called : produceToken m = .ok none n) : n = m := by
  obtain ⟨_, _, got, called⟩ := bind_ok called
  cases got
  cases phase : m.handshake.phase <;> simp only [phase] at called
  case clientStart | serverReadyToProduceWelcome =>
    obtain ⟨_, _, -, called⟩ := bind_ok called
    obtain ⟨_, _, -, ⟨⟩⟩ := bind_ok called
  case clientReadyToProduceInitiate =>
    obtain ⟨_, _, -, called⟩ := bind_ok called
    obtain ⟨_, _, -, called⟩ := bind_ok called
    obtain ⟨_, _, -, ⟨⟩⟩ := bind_ok called
  all_goals
    cases called
    rfl

namespace SecurityMechanism

def Started : SecurityMechanism SK Key H T α → Prop
  | .noiseXx m => m.Started
  | _ => True

lemma lift_ok {μ β : Type} {box : μ → SecurityMechanism SK Key H T α} {call : MechanismM μ β}
    {m : μ} {b : β} {m' : SecurityMechanism SK Key H T α} (called : lift box call m = (.ok b, m')) :
    ∃ n, call m = .ok b n ∧ m' = box n := by
  unfold lift at called
  split at called
  · next result => cases called; exact ⟨_, result, rfl⟩
  · cases called

variable [SnowHandshake H T α]

def Patient : SecurityMechanism SK Key H T α → Prop
  | .noiseXx m => m.Patient
  | _ => True

variable {m : SecurityMechanism SK Key H T α} {config : ZmtpEngineConfig SK α}
  {entropy : Entropy SK}

lemma Started.patient (started : m.Started) : m.Patient := by
  cases m with
  | noiseXx m => exact fun init => absurd init started
  | null | plain | curve => trivial

lemma initializer_patient (responders : RespondersWait H) {kind} {isServer : Bool}
    (created : initializer kind isServer config entropy = .ok m) : m.Patient := by
  cases kind with
  | null | plain =>
    cases created
    trivial
  | curve =>
    simp only [initializer, Except.map] at created
    split at created <;> cases created
    trivial
  | noiseXx =>
    simp only [initializer, Except.map] at created
    split at created <;> cases created
    next m built =>
    exact NoiseXxMechanism.initializeNoiseXx_patient responders built

lemma negotiateSecurityMechanism_patient (responders : RespondersWait H) {isServer : Bool}
    {peerGreeting}
    (negotiated : negotiateSecurityMechanism isServer config peerGreeting entropy = .ok m) :
    m.Patient := by
  unfold negotiateSecurityMechanism at negotiated
  split at negotiated
  · split at negotiated
    · exact initializer_patient responders negotiated
    · cases negotiated
  · cases negotiated

variable [Octet α] [CryptoBox Key α] [CurveSuite SK Key α] [DecidableEq α]
  {m m' : SecurityMechanism SK Key H T α}

structure Dormant (m : SecurityMechanism SK Key H T α) : Prop where
  going : m.status ≠ .ready ∧ m.status ≠ .error
  silent : m.produceToken = (.ok none, m)

lemma produceToken_started (patient : m.Patient) {token : Option (List α)}
    (called : m.produceToken = (.ok token, m')) : m'.Started := by
  cases m with
  | null => cases called; trivial
  | plain m | curve m =>
    obtain ⟨n, -, rfl⟩ := lift_ok called
    trivial
  | noiseXx m =>
    obtain ⟨n, inner, rfl⟩ := lift_ok called
    exact NoiseXxMechanism.produceToken_started patient inner

lemma processToken_started {token : List α} {action : ProcessTokenAction}
    (called : m.processToken token = (.ok action, m')) : m'.Started := by
  cases m with
  | null => cases called; trivial
  | plain m | curve m =>
    obtain ⟨n, -, rfl⟩ := lift_ok called
    trivial
  | noiseXx m =>
    obtain ⟨n, inner, rfl⟩ := lift_ok called
    exact NoiseXxMechanism.processToken_started inner

lemma produceToken_dormant (patient : m.Patient) (going : m.status ≠ .ready ∧ m.status ≠ .error)
    (called : m.produceToken = (.ok none, m')) : m'.Dormant := by
  have same (unchanged : m' = m) : m'.Dormant := ⟨unchanged ▸ going, unchanged ▸ unchanged ▸ called⟩
  cases m with
  | null => exact absurd rfl going.1
  | plain m =>
    obtain ⟨n, inner, rfl⟩ := lift_ok called
    refine same (congrArg _ ?_)
    exact PlainMechanism.produceToken_none inner
  | curve m =>
    obtain ⟨n, inner, rfl⟩ := lift_ok called
    refine same (congrArg _ ?_)
    exact CurveMechanism.produceToken_none inner
  | noiseXx m =>
    obtain ⟨n, inner, rfl⟩ := lift_ok called
    obtain ⟨going, silent⟩ := NoiseXxMechanism.produceToken_none patient going inner
    refine ⟨going, ?_⟩
    rw [produceToken, lift, silent]

end SecurityMechanism
end Rzmq
