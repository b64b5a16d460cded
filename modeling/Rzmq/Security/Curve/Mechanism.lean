import Rzmq.Security.Curve.Handshake
import Rzmq.Security.Framer

/-! The CURVE mechanism of `security/curve/mechanism.rs`, and the handshake of a client with a
server that both run it. -/

namespace Rzmq.Curve

open Octet Frame CurveHandshake
open CurveSuite (beforenm publicKey)

structure CurveMechanism (SK Key α : Type) where
  handshake : CurveHandshake SK Key α
  status : MechanismStatus

namespace CurveMechanism

variable {SK Key α : Type}

def initializeCurve (isServer : Bool) (curveLocalSecretKey : Option SK)
    (curveRemotePublicKey : Option (PublicKey α)) (ephemeral : SK) :
    Except ZmqError (CurveMechanism SK Key α) :=
  match new isServer curveLocalSecretKey curveRemotePublicKey ephemeral with
  | .error e => .error e
  | .ok handshake => .ok ⟨handshake, .handshaking⟩

def onHandshake {β : Type} (step : Step SK Key α β) :
    MechanismM (CurveMechanism SK Key α) β := fun m =>
  match step m.handshake with
  | .ok b handshake => .ok b { m with handshake }
  | .error e handshake => .error e { m with handshake }

def setPhase (phase : CurveHandshakePhase) : MechanismM (CurveMechanism SK Key α) Unit :=
  modify fun m => { m with handshake := { m.handshake with phase } }

def setReady : MechanismM (CurveMechanism SK Key α) Unit :=
  modify fun m => { m with status := .ready }

def setError : MechanismM (CurveMechanism SK Key α) Unit :=
  modify fun m =>
    if m.status ≠ .error then
      { m with status := .error, handshake := { m.handshake with phase := .error } }
    else m

lemma onHandshake_ok {β : Type} {step} {b : β} {h} (hs : step m.handshake = .ok b h) :
    onHandshake step m = .ok b { m with handshake := h } := by
  rw [onHandshake, hs]

variable [Octet α] [CryptoBox Key α] [CurveSuite SK Key α]

def produceToken : MechanismM (CurveMechanism SK Key α) (Option (List α)) := do
  match (← get).handshake.phase with
  | .clientStart =>
    let hello ← onHandshake buildClientHello
    setPhase .clientSentHello
    return some hello
  | .serverReadyToProduceWelcome =>
    let welcome ← onHandshake buildServerWelcome
    setPhase .serverAwaitingInitiate
    return some welcome
  | .clientReadyToProduceInitiate =>
    let initiate ← onHandshake buildClientInitiate
    setPhase .complete
    setReady
    return some initiate
  | _ => return none

def processToken (token : List α) : MechanismM (CurveMechanism SK Key α) ProcessTokenAction := do
  match (← get).handshake.phase with
  | .serverStart =>
    onHandshake (processClientHello token)
    setPhase .serverReadyToProduceWelcome
    return .produceAndSend
  | .clientSentHello =>
    onHandshake (processServerWelcome token)
    setPhase .clientReadyToProduceInitiate
    return .produceAndSend
  | .serverAwaitingInitiate =>
    onHandshake (processClientInitiate token)
    setPhase .complete
    setReady
    return .handshakeComplete
  | _ => throw (.error (.invalidState "Received handshake token at an unexpected time."))

omit [Octet α] [CryptoBox Key α] in
def peerIdentity (m : CurveMechanism SK Key α) : Option (List α) :=
  m.handshake.remoteStaticPublicKey.map (·.1)

omit [Octet α] [CryptoBox Key α] in
def intoFramer (m : CurveMechanism SK Key α) (maxMsgSize : Int) :
    Except ZmqError (LengthPrefixedFramer (CurveDataCipher Key) α × Option (List α)) :=
  if m.status ≠ .ready then .error (.invalidState "Curve handshake is not complete.")
  else
    match m.handshake.intoDataCipher with
    | .error e => .error e
    | .ok cipher => .ok (.new cipher maxMsgSize, m.peerIdentity)

/-! ### The calls of each phase -/

section Calls

variable {m : CurveMechanism SK Key α}

lemma produceToken_hello (hp : m.handshake.phase = .clientStart) :
    produceToken m = .ok (some (command (192 + 6) helloPrefix publicKeyClientName
        (publicKey m.handshake.localEphemeralKeypair).1))
      { m with handshake := { m.handshake with phase := .clientSentHello } } := by
  simp only [produceToken, bind, EStateM.bind, get_eq, hp]
  rfl

lemma processToken_hello (hp : m.handshake.phase = .serverStart) (pk) :
    processToken (command (192 + 6) helloPrefix publicKeyClientName pk.1) m =
      .ok .produceAndSend { m with handshake := { m.handshake with
        phase := .serverReadyToProduceWelcome
        remoteEphemeralPublicKey := some pk } } := by
  simp only [processToken, bind, EStateM.bind, get_eq, hp,
    onHandshake_ok (processClientHello_command m.handshake pk)]
  rfl

lemma produceToken_welcome (hp : m.handshake.phase = .serverReadyToProduceWelcome)
    {pk} (eph : m.handshake.remoteEphemeralPublicKey = some pk) :
    produceToken m = .ok (some (command (128 + 8) welcomePrefix cookieName
        (sealedBox (beforenm pk m.handshake.localStaticKeypair) cookieNonce
          (publicKey m.handshake.localEphemeralKeypair).1)))
      { m with handshake := { m.handshake with phase := .serverAwaitingInitiate } } := by
  simp only [produceToken, bind, EStateM.bind, get_eq, hp,
    onHandshake_ok (buildServerWelcome_command eph)]
  rfl

lemma processToken_welcome [LawfulCryptoBox Key] (hp : m.handshake.phase = .clientSentHello)
    {server} (static : m.handshake.remoteStaticPublicKey = some server)
    (pk) :
    processToken (command (128 + 8) welcomePrefix cookieName (sealedBox
        (beforenm server m.handshake.localEphemeralKeypair) cookieNonce pk.1)) m =
      .ok .produceAndSend { m with handshake := { m.handshake with
        phase := .clientReadyToProduceInitiate
        remoteEphemeralPublicKey := some pk
        precomputedKey := some (beforenm pk m.handshake.localStaticKeypair) } } := by
  simp only [processToken, bind, EStateM.bind, get_eq, hp,
    onHandshake_ok (processServerWelcome_command static pk)]
  rfl

lemma produceToken_initiate (hp : m.handshake.phase = .clientReadyToProduceInitiate)
    {server} (static : m.handshake.remoteStaticPublicKey = some server) :
    produceToken m = .ok (some (command (128 + 9) initiatePrefix ciphertextName (sealedBox
        (beforenm server m.handshake.localEphemeralKeypair)
        (commandNonce m.handshake.sendNonce)
        (encodeMetadata [(publicKeyClientName, (publicKey m.handshake.localStaticKeypair).1)]))))
      { handshake := { m.handshake with
          phase := .complete
          sendNonce := m.handshake.sendNonce + 1 }
        status := .ready } := by
  simp only [produceToken, bind, EStateM.bind, get_eq, hp,
    onHandshake_ok (buildClientInitiate_command static)]
  rfl

lemma processToken_initiate [LawfulCryptoBox Key]
    (hp : m.handshake.phase = .serverAwaitingInitiate) {client}
    (eph : m.handshake.remoteEphemeralPublicKey = some client) (pk) :
    processToken (command (128 + 9) initiatePrefix ciphertextName (sealedBox
        (beforenm client m.handshake.localStaticKeypair)
        (commandNonce m.handshake.recvNonce) (encodeMetadata [(publicKeyClientName, pk.1)]))) m =
      .ok .handshakeComplete
        { handshake := { m.handshake with
            phase := .complete
            recvNonce := m.handshake.recvNonce + 1
            remoteStaticPublicKey := some pk
            precomputedKey := some (beforenm pk m.handshake.localEphemeralKeypair) }
          status := .ready } := by
  simp only [processToken, bind, EStateM.bind, get_eq, hp,
    onHandshake_ok (processClientInitiate_command eph pk)]
  rfl

end Calls

section Role

def KeepsRole {β : Type} (x : MechanismM (CurveMechanism SK Key α) β) : Prop :=
  Keeps (·.handshake.isServer) x

omit [Octet α] [CryptoBox Key α] [CurveSuite SK Key α] in
lemma onHandshake_keepsRole {β : Type} {step : Step SK Key α β}
    (h : CurveHandshake.KeepsRole step) : KeepsRole (onHandshake step) := by
  intro m b m' hm
  unfold onHandshake at hm
  split at hm
  · rename_i b' handshake hs
    simp only [EStateM.Result.ok.injEq] at hm
    rw [← hm.2]
    exact h hs
  · simp at hm

lemma produceToken_keepsRole :
    KeepsRole (produceToken : MechanismM (CurveMechanism SK Key α) _) := by
  obtain ⟨hello, welcome, initiate⟩ := (@elementary_role SK Key α).build
  refine keeps_bind keeps_get fun m => ?_
  split
  · exact keeps_bind (onHandshake_keepsRole hello.keeps) fun _ =>
      keeps_bind (keeps_modify fun _ => rfl) fun _ => keeps_pure _
  · exact keeps_bind (onHandshake_keepsRole welcome.keeps) fun _ =>
      keeps_bind (keeps_modify fun _ => rfl) fun _ => keeps_pure _
  · exact keeps_bind (onHandshake_keepsRole initiate.keeps) fun _ =>
      keeps_bind (keeps_modify fun _ => rfl) fun _ =>
      keeps_bind (keeps_modify fun _ => rfl) fun _ =>
      keeps_pure _
  · exact keeps_pure _

lemma processToken_keepsRole (token : List α) :
    KeepsRole (processToken token : MechanismM (CurveMechanism SK Key α) _) := by
  obtain ⟨hello, welcome, initiate⟩ := (@elementary_role SK Key α).process token
  refine keeps_bind keeps_get fun m => ?_
  split
  · exact keeps_bind (onHandshake_keepsRole hello.keeps) fun _ =>
      keeps_bind (keeps_modify fun _ => rfl) fun _ => keeps_pure _
  · exact keeps_bind (onHandshake_keepsRole welcome.keeps) fun _ =>
      keeps_bind (keeps_modify fun _ => rfl) fun _ => keeps_pure _
  · exact keeps_bind (onHandshake_keepsRole initiate.keeps) fun _ =>
      keeps_bind (keeps_modify fun _ => rfl) fun _ =>
      keeps_bind (keeps_modify fun _ => rfl) fun _ =>
      keeps_pure _
  · exact keeps_throw _

end Role

end CurveMechanism

end Rzmq.Curve
