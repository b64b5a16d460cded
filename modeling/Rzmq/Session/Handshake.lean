import Rzmq.Security.Negotiate

/-! The handshake of a tokio session: `sessionx/protocol_handler/handshake.rs` and `v2_path.rs`.  A
future of `advance_handshake` that waits is a value of `Await`: what it waits for is all that it
knows beside the handler, so that dropping it keeps the handler. -/

namespace Rzmq

open Octet Curve

inductive HandshakeSubPhase where
  | greetingExchange
  | waitingForPeerRevision
  | waitingForGreeting
  | securityHandshake
  | readyExchange
  | clientSentReady
  | serverReceivedReady
  | v2IdentityExchange
  | done
deriving DecidableEq

inductive HandshakeProgress (α : Type) where
  | inProgress
  | identityReady (identity : List α)
  | handshakeComplete

inductive HandshakeRead where
  | revision
  | greeting
  | token
  | ready
  | v2Greeting
  | v2Identity
deriving DecidableEq

inductive HandshakeWrite where
  | signature
  | v2Tail
  | v3Tail
  | token
  | clientReady
  | serverReady
  | v2Identity

def HandshakeWrite.flushes : HandshakeWrite → Bool
  | .signature | .v2Tail | .v3Tail | .v2Identity => true
  | .token | .clientReady | .serverReady => false

/-- What a future of `advance_handshake` waits for.  `again` is no wait: the loop of
`perform_security_handshake_step_impl` goes round. -/
inductive Await (α : Type) where
  | read (what : HandshakeRead)
  | write (left : List α) (what : HandshakeWrite)
  | flush (what : HandshakeWrite)
  | again

inductive Poll (α : Type) where
  | pending (await : Await α)
  | ready (result : Except Fault (HandshakeProgress α))

namespace Poll

variable {α : Type}

def ok (progress : HandshakeProgress α) : Poll α := .ready (.ok progress)

def fail (e : ZmqError) : Poll α := .ready (.error (.error e))

end Poll

/-- `ZmtpProtocolHandlerX`, as far as the handshake uses it.  `completed` is the mechanism that the
framer was made of, which the source drops. -/
structure ZmtpProtocolHandler (SK Key H T α : Type) where
  config : ZmtpEngineConfig SK α
  isServer : Bool
  entropy : Entropy SK
  networkReadBuffer : List α
  subPhase : HandshakeSubPhase
  peerSocketType : Option String
  peerIdentityFromReady : Option (List α)
  securityMechanism : SecurityMechanism SK Key H T α
  pendingPeerGreeting : Option ZmtpGreeting
  negotiatedVersion : Option NegotiatedVersion
  zmtpManualParser : ZmtpManualParser
  framer : SecureFramer Key T α
  completed : Option (SecurityMechanism SK Key H T α)

namespace ZmtpProtocolHandler

variable {SK Key H T α : Type}

def new (config : ZmtpEngineConfig SK α) (isServer : Bool) (entropy : Entropy SK) :
    ZmtpProtocolHandler SK Key H T α where
  config
  isServer
  entropy
  networkReadBuffer := []
  subPhase := .greetingExchange
  peerSocketType := none
  peerIdentityFromReady := none
  securityMechanism := .null
  pendingPeerGreeting := none
  negotiatedVersion := none
  zmtpManualParser := .new config.maxMsgSize
  framer := .null (.new config.maxMsgSize)
  completed := none

def clearHandshakeState (h : ZmtpProtocolHandler SK Key H T α) :
    ZmtpProtocolHandler SK Key H T α :=
  { h with
    pendingPeerGreeting := none
    negotiatedVersion := none
    networkReadBuffer := []
    securityMechanism := .null
    framer := .null (.new h.config.maxMsgSize) }

def commandMsg (body : List α) : Msg α :=
  if h : body.length < 2 ^ 64 then .fromBytes body commandFlags h
  else ⟨none, commandFlags, Msg.none_size⟩

variable [Octet α]

def commandFrame (body : List α) : List α := ZmtpCodec.encode (commandMsg body)

lemma commandFrame_ne_nil (body : List α) : commandFrame body ≠ [] := by
  rw [commandFrame, ZmtpCodec.encode, ZmtpCodec.header]
  split <;> simp

variable (h : ZmtpProtocolHandler SK Key H T α)

def readHandshakeCommandFrame :
    Except ZmqError (Option (Msg α)) × ZmtpProtocolHandler SK Key H T α :=
  if h.networkReadBuffer.isEmpty then (.ok none, h)
  else
    let (result, parser, rest) := h.zmtpManualParser.decodeFromBuffer h.networkReadBuffer
    let h := { h with zmtpManualParser := parser, networkReadBuffer := rest }
    match result with
    | .error e => (.error e, h)
    | .ok none => (.ok none, h)
    | .ok (some msg) =>
      if msg.isCommand then (.ok (some msg), h)
      else (.error (.protocolViolation "Expected COMMAND frame in handshake"), h)

/-! ### The greeting -/

def writeV2Tail : Poll α :=
  if !h.config.allowZmtp2 then
    .fail (.protocolViolation "peer advertised ZMTP/2.0 but allow_zmtp2 is disabled")
  else
    match socketTypeCode h.config.socketTypeName with
    | none => .fail (.protocolViolation
        ("no ZMTP/2.0 socket-type byte for socket type " ++ h.config.socketTypeName.quote))
    | some code => .pending (.write [ofByte code] .v2Tail)

def waitForPeerRevision : Poll α :=
  if h.networkReadBuffer.length < signatureLength + 1 then .pending (.read .revision)
  else
    match peekRevision (reading (h.networkReadBuffer.take (signatureLength + 1))) with
    | .error e => .fail e
    | .ok revision =>
      if revision = v2Revision then h.writeV2Tail
      else if greetingVersionMajorByte ≤ revision then
        .pending (.write (encodeV3TailPostMajor (h.config.ownMechanism h.isServer).nameBytes
          h.isServer) .v3Tail)
      else .fail (.protocolViolation
        s!"Unsupported ZMTP revision {hex revision} (only 0x01 and 0x03+ are supported)")

def receiveGreeting : ZmtpProtocolHandler SK Key H T α × Poll α :=
  if h.networkReadBuffer.length < greetingLength then (h, .pending (.read .greeting))
  else
    let (result, rest) := ZmtpGreeting.decode h.networkReadBuffer
    let h := { h with networkReadBuffer := rest }
    match result with
    | .error e => (h, .fail e)
    | .ok none => (h, .fail (.protocolViolation "g decode"))
    | .ok (some greeting) =>
      if greeting.version.1 < 3 then
        (h, .fail (.protocolViolation s!"V {greeting.version.1}.{greeting.version.2}"))
      else
        ({ h with
          negotiatedVersion := some (.v3 greeting.version.2)
          pendingPeerGreeting := some greeting
          subPhase := .securityHandshake }, .ok .inProgress)

/-! ### READY -/

/-- `build_ready_properties`, in the order of its insertions: the map of the source has none. -/
def buildReadyProperties : Metadata α :=
  let identity := h.config.routingId.getD []
  (utf8 "Socket-Type", bytes (utf8 h.config.socketTypeName)) ::
    if h.config.socketTypeName ∈ ["REQ", "DEALER", "ROUTER"] ∧ identity.length ≤ 255 then
      [(utf8 "Identity", identity)]
    else []

def parsePeerReadyIdentity (properties : Metadata α) : Option (List α) :=
  (properties.get (utf8 "Identity")).filter fun id => !id.isEmpty && id.length ≤ 255

def parsePeerSocketType (properties : Metadata α) : Option String :=
  (properties.get (utf8 "Socket-Type")).bind fun value =>
    String.fromUTF8? ⟨(reading value).toArray⟩

def receivePeerReady : Except ZmqError (Option (Metadata α)) × ZmtpProtocolHandler SK Key H T α :=
  match h.readHandshakeCommandFrame with
  | (.error e, h) => (.error e, h)
  | (.ok none, h) => (.ok none, h)
  | (.ok (some msg), h) =>
    match ZmtpCommand.parse msg with
    | some (.ready properties) =>
      (.ok (some properties), { h with
        peerSocketType := (parsePeerSocketType properties).or h.peerSocketType })
    | _ => (.error (.protocolViolation "Expected READY"), h)

def completion (identity : Option (List α)) : Poll α :=
  .ok (identity.elim .handshakeComplete .identityReady)

/-- Both ends wait for READY in the same way, and then go on each in its own. -/
def receiveReady (goOn : Metadata α → ZmtpProtocolHandler SK Key H T α →
    ZmtpProtocolHandler SK Key H T α × Poll α) : ZmtpProtocolHandler SK Key H T α × Poll α :=
  match h.receivePeerReady with
  | (.error e, h) => (h, .fail e)
  | (.ok none, h) => (h, .pending (.read .ready))
  | (.ok (some properties), h) => goOn properties h

def serverReceiveReady : ZmtpProtocolHandler SK Key H T α × Poll α :=
  h.receiveReady fun properties h =>
    ({ h with
      peerIdentityFromReady := parsePeerReadyIdentity properties
      subPhase := .serverReceivedReady }, .ok .inProgress)

def clientReceiveReady : ZmtpProtocolHandler SK Key H T α × Poll α :=
  h.receiveReady fun properties h =>
    ({ h with subPhase := .done }, completion (parsePeerReadyIdentity properties))

def readyFrame : List α :=
  commandFrame (readyBody h.buildReadyProperties)

/-! ### ZMTP/2.0 -/

def exchangeV2Identity : ZmtpProtocolHandler SK Key H T α × Poll α :=
  if h.networkReadBuffer.length < v2GreetingLength then (h, .pending (.read .v2Greeting))
  else
    let socketType := (reading h.networkReadBuffer).getD 11 0
    let h := { h with networkReadBuffer := h.networkReadBuffer.drop v2GreetingLength }
    match validateV2SocketTypeCompat h.config.socketTypeName socketType with
    | .error e => (h, .fail e)
    | .ok name =>
      ({ h with peerSocketType := some name }, .pending (.write (bytes [0, 0]) .v2Identity))

def enforceV2IdentityConstraints (msg : Msg α) : Except ZmqError Unit :=
  if msg.isCommand then .error (.protocolViolation
    "ZMTP/2.0 identity frame had COMMAND flag set (commands do not exist in v2)")
  else if msg.isMore then .error (.protocolViolation
    "ZMTP/2.0 identity frame had MORE flag set (identity is a single frame)")
  else if 255 < msg.size then .error (.protocolViolation
    "ZMTP/2.0 identity frame exceeded 255 bytes")
  else .ok ()

def readV2IdentityFrame : ZmtpProtocolHandler SK Key H T α × Poll α :=
  if h.networkReadBuffer.isEmpty then (h, .pending (.read .v2Identity))
  else
    let (result, parser, rest) := h.zmtpManualParser.decodeFromBuffer h.networkReadBuffer
    let h := { h with zmtpManualParser := parser, networkReadBuffer := rest }
    match result with
    | .error e => (h, .fail e)
    | .ok none => (h, .pending (.read .v2Identity))
    | .ok (some msg) =>
      match enforceV2IdentityConstraints msg with
      | .error e => (h, .fail e)
      | .ok () =>
        let identity := if msg.body.isEmpty then h.peerIdentityFromReady else some msg.body
        ({ h with peerIdentityFromReady := none, subPhase := .done }, completion identity)

/-! ### The security handshake -/

variable [CryptoBox Key α] [CurveSuite SK Key α] [SnowHandshake H T α] [DecidableEq α]
  (h : ZmtpProtocolHandler SK Key H T α)

def setMechanism (securityMechanism : SecurityMechanism SK Key H T α) :
    ZmtpProtocolHandler SK Key H T α :=
  { h with securityMechanism }

/-- The end of the loop of `perform_security_handshake_step_impl`: the mechanism becomes a framer.
-/
def finalizeMechanism : ZmtpProtocolHandler SK Key H T α × Poll α :=
  match h.securityMechanism.intoFramer h.config.maxMsgSize with
  | .error e => (h.setMechanism .null, .fail e)
  | .ok (framer, identity) =>
    ({ h.setMechanism .null with
      framer
      subPhase := .readyExchange
      completed := some h.securityMechanism },
      .ok (identity.elim .inProgress .identityReady))

def processPeerToken (token : List α) : ZmtpProtocolHandler SK Key H T α × Poll α :=
  match h.securityMechanism.processToken token with
  | (.error f, m) => (h.setMechanism m, .ready (.error f))
  | (.ok .continueWaiting, m) => (h.setMechanism m, .pending .again)
  | (.ok .handshakeComplete, m) => (h.setMechanism m, .pending .again)
  | (.ok .produceAndSend, m) =>
    match m.produceToken with
    | (.error f, m) => (h.setMechanism m, .ready (.error f))
    | (.ok (some reply), m) => (h.setMechanism m, .pending (.write (commandFrame reply) .token))
    | (.ok none, m) => (h.setMechanism m, .fail (.internal
        "Mechanism requested ProduceAndSend but then produced no token."))

def receiveToken : ZmtpProtocolHandler SK Key H T α × Poll α :=
  match h.readHandshakeCommandFrame with
  | (.error e, h) => (h, .fail e)
  | (.ok none, h) => (h, .pending (.read .token))
  | (.ok (some msg), h) => h.processPeerToken msg.body

def securityRound : ZmtpProtocolHandler SK Key H T α × Poll α :=
  match h.securityMechanism.status with
  | .ready => h.finalizeMechanism
  | .error => (h, .fail (.securityError
      (h.securityMechanism.errorReason.getD "Unknown security error")))
  | _ =>
    match h.securityMechanism.produceToken with
    | (.error f, m) => (h.setMechanism m, .ready (.error f))
    | (.ok (some token), m) => (h.setMechanism m, .pending (.write (commandFrame token) .token))
    | (.ok none, m) => (h.setMechanism m).receiveToken

def performSecurityHandshake : ZmtpProtocolHandler SK Key H T α × Poll α :=
  if h.securityMechanism.kind = .null then
    match h.pendingPeerGreeting with
    | none => (h, .fail (.internal "Handshake entered security phase without a peer greeting"))
    | some greeting =>
      match negotiateSecurityMechanism h.isServer h.config greeting h.entropy with
      | .error e => (h, .fail e)
      | .ok m => (h.setMechanism m).securityRound
  else h.securityRound

/-! ### The steps -/

def advanceHandshake : ZmtpProtocolHandler SK Key H T α × Poll α :=
  match h.subPhase with
  | .greetingExchange =>
    (h, .pending (.write (encodeSignature ++ bytes [greetingVersionMajorByte]) .signature))
  | .waitingForPeerRevision => (h, h.waitForPeerRevision)
  | .waitingForGreeting => h.receiveGreeting
  | .securityHandshake => h.performSecurityHandshake
  | .readyExchange =>
    if h.isServer then h.serverReceiveReady else (h, .pending (.write h.readyFrame .clientReady))
  | .clientSentReady => h.clientReceiveReady
  | .serverReceivedReady => (h, .pending (.write h.readyFrame .serverReady))
  | .v2IdentityExchange => h.exchangeV2Identity
  | .done => (h, .ok .handshakeComplete)

def resumeRead : HandshakeRead → ZmtpProtocolHandler SK Key H T α × Poll α
  | .revision => (h, h.waitForPeerRevision)
  | .greeting => h.receiveGreeting
  | .token => h.receiveToken
  | .ready =>
    if h.subPhase = .readyExchange then h.serverReceiveReady else h.clientReceiveReady
  | .v2Greeting => h.exchangeV2Identity
  | .v2Identity => h.readV2IdentityFrame

def resumeWrite : HandshakeWrite → ZmtpProtocolHandler SK Key H T α × Poll α
  | .signature =>
    ({ h with networkReadBuffer := [], subPhase := .waitingForPeerRevision }, .ok .inProgress)
  | .v2Tail =>
    ({ h with negotiatedVersion := some .v2, subPhase := .v2IdentityExchange }, .ok .inProgress)
  | .v3Tail => ({ h with subPhase := .waitingForGreeting }, .ok .inProgress)
  | .token => h.securityRound
  | .clientReady => ({ h with subPhase := .clientSentReady }, .ok .inProgress)
  | .serverReady =>
    ({ h with peerIdentityFromReady := none, subPhase := .done },
      completion h.peerIdentityFromReady)
  | .v2Identity => h.readV2IdentityFrame

end ZmtpProtocolHandler

end Rzmq
