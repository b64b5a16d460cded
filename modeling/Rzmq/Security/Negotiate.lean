import Rzmq.Security.Curve.Mechanism
import Rzmq.Security.NoiseXx
import Rzmq.Security.Plain
import Rzmq.Wire.Greeting

/-! The mechanisms and framers behind their trait objects, and `negotiate_security_mechanism` of
`security/mod.rs`.  Features are on: all four mechanisms are known. -/

namespace Rzmq

open Octet Curve

inductive MechanismKind where
  | null
  | plain
  | curve
  | noiseXx
deriving DecidableEq

namespace MechanismKind

def name : MechanismKind → String
  | .null => "NULL"
  | .plain => "PLAIN"
  | .curve => "CURVE"
  | .noiseXx => "NOISE_XX"

def nameBytes (k : MechanismKind) : List UInt8 :=
  utf8 k.name ++ List.replicate (mechanismLength - (utf8 k.name).length) 0

end MechanismKind

structure ZmtpEngineConfig (SK α : Type) where
  routingId : Option (List α)
  socketTypeName : String
  securityEnabled : Bool
  useNoiseXx : Bool
  noiseXxLocalSk : Option (List UInt8)
  noiseXxRemotePk : Option (List α)
  useCurve : Bool
  curveLocalSecretKey : Option SK
  curveRemotePublicKey : Option (PublicKey α)
  usePlain : Bool
  plainUsername : Option String
  plainPassword : Option String
  maxMsgSize : Int
  allowZmtp2 : Bool

def ZmtpEngineConfig.enables {SK α : Type} (config : ZmtpEngineConfig SK α) :
    MechanismKind → Bool
  | .null => !config.securityEnabled
  | .plain => config.usePlain
  | .curve => config.useCurve
  | .noiseXx => config.useNoiseXx

lemma ZmtpEngineConfig.enables_ne_null {SK α : Type} {config : ZmtpEngineConfig SK α}
    (secured : config.securityEnabled = true) {kind : MechanismKind}
    (enabled : config.enables kind = true) : kind ≠ .null := by
  rintro rfl
  simp [enables, secured] at enabled

/-- `determine_own_greeting_mechanism_impl`, and `security_mechanism_bytes_to_propose` of the
io_uring backend. -/
def ZmtpEngineConfig.ownMechanism {SK α : Type} (config : ZmtpEngineConfig SK α)
    (isServer : Bool) : MechanismKind :=
  let canProposeNoise :=
    config.noiseXxLocalSk.isSome && (isServer || config.noiseXxRemotePk.isSome)
  if config.useNoiseXx && canProposeNoise then .noiseXx
  else if config.useCurve then .curve
  else if config.usePlain then .plain
  else .null

structure Entropy (SK : Type) where
  curveEphemeral : SK
  noiseSeed : Nat

inductive SecurityMechanism (SK Key H T α : Type) where
  | null
  | plain (m : PlainMechanism)
  | curve (m : CurveMechanism SK Key α)
  | noiseXx (m : NoiseXxMechanism H T α)

inductive SecureFramer (Key T α : Type) where
  | null (f : NullFramer)
  | lengthPrefixed (f : LengthPrefixedFramer (BoxedCipher Key T) α)

namespace SecureFramer

variable {Key T α : Type} [Octet α] [CryptoBox Key α] [SnowTransport T α]

def tryReadMsg (framer : SecureFramer Key T α) (net : List α) :
    Except ZmqError (Option (Msg α)) × SecureFramer Key T α × List α :=
  match framer with
  | .null f => let (result, f', rest) := f.tryReadMsg net; (result, .null f', rest)
  | .lengthPrefixed f =>
    let (result, f', rest) := f.tryReadMsg net; (result, .lengthPrefixed f', rest)

def writeMsgMultipart (framer : SecureFramer Key T α) (msgs : List (Msg α)) :
    Except ZmqError (List α) × SecureFramer Key T α :=
  match framer with
  | .null f => (f.writeMsgMultipart msgs, .null f)
  | .lengthPrefixed f => let (result, f') := f.writeMsgMultipart msgs; (result, .lengthPrefixed f')

end SecureFramer

namespace SecurityMechanism

variable {SK Key H T α : Type}

def kind : SecurityMechanism SK Key H T α → MechanismKind
  | .null => .null
  | .plain _ => .plain
  | .curve _ => .curve
  | .noiseXx _ => .noiseXx

def status : SecurityMechanism SK Key H T α → MechanismStatus
  | .null => .ready
  | .plain m => m.status
  | .curve m => m.status
  | .noiseXx m => m.currentStatus

def errorReason : SecurityMechanism SK Key H T α → Option String
  | .null => none
  | .plain m => m.errorReason
  | .curve _ => none
  | .noiseXx m => m.errorReason

def lift {μ β : Type} (box : μ → SecurityMechanism SK Key H T α) (call : MechanismM μ β) (m : μ) :
    Except Fault β × SecurityMechanism SK Key H T α :=
  match call m with
  | .ok b m' => (.ok b, box m')
  | .error e m' => (.error e, box m')

variable [Octet α] [CryptoBox Key α] [CurveSuite SK Key α] [SnowHandshake H T α] [DecidableEq α]

def produceToken : SecurityMechanism SK Key H T α →
    Except Fault (Option (List α)) × SecurityMechanism SK Key H T α
  | .null => (.ok none, .null)
  | .plain m => lift .plain (Option.map bytes <$> PlainMechanism.produceToken) m
  | .curve m => lift .curve CurveMechanism.produceToken m
  | .noiseXx m => lift .noiseXx NoiseXxMechanism.produceToken m

def processToken (token : List α) : SecurityMechanism SK Key H T α →
    Except Fault ProcessTokenAction × SecurityMechanism SK Key H T α
  | .null => (.ok .handshakeComplete, .null)
  | .plain m => lift .plain (PlainMechanism.processToken (reading token)) m
  | .curve m => lift .curve (CurveMechanism.processToken token) m
  | .noiseXx m => lift .noiseXx (NoiseXxMechanism.processToken token) m

def intoFramer (maxMsgSize : Int) : SecurityMechanism SK Key H T α →
    Except ZmqError (SecureFramer Key T α × Option (List α))
  | .null => .ok (.null (.new maxMsgSize), none)
  | .plain m =>
    if m.status ≠ .ready then .error (.invalidState "PLAIN handshake not complete.")
    else .ok (.null (.new maxMsgSize), m.username.map bytes)
  | .curve m =>
    match m.intoFramer maxMsgSize with
    | .error e => .error e
    | .ok (f, id) => .ok (.lengthPrefixed ⟨.curve f.cipher, f.parser, f.decryptedBuffer⟩, id)
  | .noiseXx m =>
    match m.intoDataCipher with
    | .error e => .error e
    | .ok (cipher, id) => .ok (.lengthPrefixed (.new (.noise cipher) maxMsgSize), id)

def initializer (kind : MechanismKind) (isServer : Bool) (config : ZmtpEngineConfig SK α)
    (entropy : Entropy SK) : Except ZmqError (SecurityMechanism SK Key H T α) :=
  match kind with
  | .null => .ok .null
  | .plain => .ok (.plain (.initializePlain isServer config.plainUsername config.plainPassword))
  | .curve => (CurveMechanism.initializeCurve isServer config.curveLocalSecretKey
      config.curveRemotePublicKey entropy.curveEphemeral).map .curve
  | .noiseXx => (NoiseXxMechanism.initializeNoiseXx isServer config.noiseXxLocalSk
      config.noiseXxRemotePk entropy.noiseSeed).map .noiseXx

end SecurityMechanism

def knownMechanisms : List MechanismKind := [.null, .plain, .curve, .noiseXx]

def proposedName (mechanism : List UInt8) : String :=
  match String.fromUTF8? ⟨mechanism.toArray⟩ with
  | some name => String.ofList (name.toList.reverse.dropWhile (· = '\x00')).reverse
  | none => "<invalid_utf8>"

section Negotiation

variable {SK Key H T α : Type} [SnowHandshake H T α]

def negotiateSecurityMechanism (isServer : Bool) (config : ZmtpEngineConfig SK α)
    (peerGreeting : ZmtpGreeting) (entropy : Entropy SK) :
    Except ZmqError (SecurityMechanism SK Key H T α) :=
  match knownMechanisms.find? (·.nameBytes = peerGreeting.mechanism) with
  | some kind =>
    if config.enables kind then SecurityMechanism.initializer kind isServer config entropy
    else
      .error (.securityError (s!"Peer proposed mechanism '{kind.name}', but it is not enabled " ++
        "in the local configuration."))
  | none =>
    .error (.securityError (s!"Unsupported or unknown security mechanism " ++
      s!"'{proposedName peerGreeting.mechanism}' proposed by peer."))

variable {m : SecurityMechanism SK Key H T α} {config : ZmtpEngineConfig SK α}
  {entropy : Entropy SK}

lemma SecurityMechanism.initializer_kind {kind} {isServer : Bool}
    (created : initializer kind isServer config entropy = .ok m) :
    m.kind = kind := by
  cases kind with
  | null | plain =>
    cases created
    rfl
  | curve | noiseXx =>
    simp only [initializer, Except.map] at created
    split at created <;> cases created
    rfl

lemma negotiateSecurityMechanism_enabled {isServer : Bool} {peerGreeting}
    (negotiated : negotiateSecurityMechanism isServer config peerGreeting entropy = .ok m) :
    config.enables m.kind = true := by
  unfold negotiateSecurityMechanism at negotiated
  split at negotiated
  · split at negotiated
    · rename_i enabled
      rw [SecurityMechanism.initializer_kind negotiated]
      exact enabled
    · cases negotiated
  · cases negotiated

end Negotiation

end Rzmq
