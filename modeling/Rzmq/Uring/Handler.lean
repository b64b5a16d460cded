import Rzmq.Lib.Transition
import Rzmq.Session.Handshake

/-! The ZMTP handler of the io_uring backend.  The worker calls it with bytes and with the
completions of its sends; `process_buffered_reads` then goes through its loop, one round at a time
here.  Application messages, heartbeats and the clock are left out. -/

namespace Rzmq

open Octet Curve

inductive ZmtpHandlerPhase where
  | initial
  | sendSignature
  | waitPeerRevision
  | sendV3Tail
  | waitV3Greeting
  | sendV2Tail
  | v2GreetingExchange
  | v2SendIdentity
  | v2WaitIdentity
  | securityExchange
  | readyClientSend
  | readyClientWaitServer
  | readyServerWaitClient
  | readyServerSend
  | dataPhase
  | error
  | closing
  | closed
deriving DecidableEq

inductive UpstreamEvent (α : Type) where
  | handshakeComplete (peerIdentity : Option (List α))
  | error (f : Fault)
  | data (msg : Msg α)

/-- `sent` are the bytes that it asks the worker to send, `received` those that it was given,
`looping` says that `process_buffered_reads` is not done, `completed` is the mechanism that the
framer was made of. -/
structure ZmtpUringHandler (SK Key H T α : Type) where
  config : ZmtpEngineConfig SK α
  isServer : Bool
  entropy : Entropy SK
  phase : ZmtpHandlerPhase
  greetingBuffer : List α
  networkReadAccumulator : List α
  securityMechanism : Option (SecurityMechanism SK Key H T α)
  framer : SecureFramer Key T α
  peerIdentityFromSecurity : Option (List α)
  peerIdentityFromReady : Option (List α)
  negotiatedVersion : Option NegotiatedVersion
  sent : List α
  upstream : List (UpstreamEvent α)
  received : List α
  looping : Bool
  completed : Option (SecurityMechanism SK Key H T α)

/-- How a round of the loop ends: at its end, having made progress or not, at a `break`, or with an
error. -/
inductive Round where
  | next (progress : Bool)
  | stop
  | fail (f : Fault)

def Round.refuse (e : ZmqError) : Round := .fail (.error e)

namespace ZmtpUringHandler

variable {SK Key H T α : Type}

def new (config : ZmtpEngineConfig SK α) (isServer : Bool) (entropy : Entropy SK) :
    ZmtpUringHandler SK Key H T α where
  config
  isServer
  entropy
  phase := .initial
  greetingBuffer := []
  networkReadAccumulator := []
  securityMechanism := none
  framer := .null (.new config.maxMsgSize)
  peerIdentityFromSecurity := none
  peerIdentityFromReady := none
  negotiatedVersion := none
  sent := []
  upstream := []
  received := []
  looping := false
  completed := none

variable (h : ZmtpUringHandler SK Key H T α)

def setPhase (phase : ZmtpHandlerPhase) : ZmtpUringHandler SK Key H T α := { h with phase }

def setMechanism (m : SecurityMechanism SK Key H T α) :
    ZmtpUringHandler SK Key H T α := { h with securityMechanism := some m }

def requestSend (data : List α) : ZmtpUringHandler SK Key H T α := { h with sent := h.sent ++ data }

/-- `transition_to_error`; the data phase and the final phases have reported already. -/
def transitionToError (f : Fault) : ZmtpUringHandler SK Key H T α :=
  match h.phase with
  | .error | .closed => { h with looping := false }
  | .dataPhase => { h with phase := .error, looping := false }
  | _ => { h with phase := .error, looping := false, upstream := h.upstream ++ [.error f] }

def signalUpstreamHandshakeComplete : ZmtpUringHandler SK Key H T α :=
  let identity := h.peerIdentityFromReady.or h.peerIdentityFromSecurity
  { h with upstream := h.upstream ++ [.handshakeComplete identity] }

def fillGreeting (len : Nat) : ZmtpUringHandler SK Key H T α :=
  let needed := len - h.greetingBuffer.length
  { h with
    greetingBuffer := h.greetingBuffer ++ h.networkReadAccumulator.take needed
    networkReadAccumulator := h.networkReadAccumulator.drop needed }

variable [Octet α] (h : ZmtpUringHandler SK Key H T α)

/-- Unlike the tokio handshake this leaves an empty identity out and announces one for every socket
type. -/
def buildReadyProperties : Metadata α :=
  (utf8 "Socket-Type", bytes (utf8 h.config.socketTypeName)) ::
    match h.config.routingId with
    | some id => if !id.isEmpty && id.length ≤ 255 then [(utf8 "Identity", id)] else []
    | none => []

def peekRound : ZmtpUringHandler SK Key H T α × Round :=
  let h := h.fillGreeting (signatureLength + 1)
  if h.greetingBuffer.length < signatureLength + 1 then (h, .stop)
  else
    match peekRevision (reading (h.greetingBuffer.take (signatureLength + 1))) with
    | .error e => (h, .refuse e)
    | .ok revision =>
      if revision = v2Revision then
        if !h.config.allowZmtp2 then
          (h, .refuse (.protocolViolation "peer advertised ZMTP/2.0 but allow_zmtp2 is disabled"))
        else
          match socketTypeCode h.config.socketTypeName with
          | none => (h, .refuse (.protocolViolation
              ("no ZMTP/2.0 socket-type byte for socket type " ++ h.config.socketTypeName.quote)))
          | some code =>
            ({ h.requestSend [ofByte code] with
              negotiatedVersion := some .v2
              phase := .sendV2Tail }, .next true)
      else if greetingVersionMajorByte ≤ revision then
        let tail := encodeV3TailPostMajor (h.config.ownMechanism h.isServer).nameBytes h.isServer
        ((h.requestSend tail).setPhase .sendV3Tail, .next true)
      else (h, .refuse (.protocolViolation
        s!"Unsupported ZMTP revision {hex revision} (only 0x01 and 0x03+ are supported)"))

def v2GreetingRound : ZmtpUringHandler SK Key H T α × Round :=
  let h := h.fillGreeting v2GreetingLength
  if h.greetingBuffer.length < v2GreetingLength then (h, .stop)
  else
    let socketType := (reading h.greetingBuffer).getD 11 0
    let h := { h with greetingBuffer := h.greetingBuffer.drop v2GreetingLength }
    match validateV2SocketTypeCompat h.config.socketTypeName socketType with
    | .error e => (h, .refuse e)
    | .ok _ => ((h.requestSend (bytes [0, 0])).setPhase .v2SendIdentity, .next true)

variable [CryptoBox Key α] [SnowTransport T α] (h : ZmtpUringHandler SK Key H T α)

def tryReadMsg : Except ZmqError (Option (Msg α)) × ZmtpUringHandler SK Key H T α :=
  let (result, framer, networkReadAccumulator) := h.framer.tryReadMsg h.networkReadAccumulator
  (result, { h with framer, networkReadAccumulator })

def sendMsg (msg : Msg α) : Except ZmqError Unit × ZmtpUringHandler SK Key H T α :=
  match h.framer.writeMsgMultipart [msg] with
  | (.error e, framer) => (.error e, { h with framer })
  | (.ok data, framer) => (.ok (), { h with framer }.requestSend data)

def sendReady : Except ZmqError Unit × ZmtpUringHandler SK Key H T α :=
  h.sendMsg (ZmtpProtocolHandler.commandMsg (readyBody h.buildReadyProperties))

def v2IdentityRound : ZmtpUringHandler SK Key H T α × Round :=
  if h.networkReadAccumulator.isEmpty then (h, .stop)
  else
    match h.tryReadMsg with
    | (.error e, h) => (h, .refuse e)
    | (.ok none, h) => (h, .stop)
    | (.ok (some msg), h) =>
      if msg.isCommand then
        (h, .refuse (.protocolViolation "ZMTP/2.0 identity frame had COMMAND flag set"))
      else if msg.isMore then
        (h, .refuse (.protocolViolation "ZMTP/2.0 identity frame had MORE flag set"))
      else if 255 < msg.size then
        (h, .refuse (.protocolViolation "ZMTP/2.0 identity frame exceeded 255 bytes"))
      else
        let identity := if msg.body.isEmpty then h.peerIdentityFromReady else some msg.body
        ({ h with peerIdentityFromReady := identity, phase := .dataPhase
          }.signalUpstreamHandshakeComplete, .next true)

def receiveReady (unexpected : String) : Except ZmqError Bool × ZmtpUringHandler SK Key H T α :=
  match h.tryReadMsg with
  | (.error e, h) => (.error e, h)
  | (.ok none, h) => (.ok false, h)
  | (.ok (some msg), h) =>
    match ZmtpCommand.parse msg with
    | some (.ready properties) =>
      (.ok true, { h with
        peerIdentityFromReady :=
          (properties.get (utf8 "Identity")).or h.peerIdentityFromReady })
    | _ => (.error (.protocolViolation unexpected), h)

def readyServerRound : ZmtpUringHandler SK Key H T α × Round :=
  if h.networkReadAccumulator.isEmpty then (h, .stop)
  else
    match h.receiveReady "S: Expected READY from client, got other/unparseable" with
    | (.error e, h) => (h, .refuse e)
    | (.ok false, h) => (h, .stop)
    | (.ok true, h) =>
      match h.sendReady with
      | (.error e, h) => (h, .refuse e)
      | (.ok (), h) => (h.setPhase .readyServerSend, .next true)

def readyClientRound : ZmtpUringHandler SK Key H T α × Round :=
  if h.networkReadAccumulator.isEmpty then (h, .stop)
  else
    match h.receiveReady "C: Expected READY from server, got other/unparseable" with
    | (.error e, h) => (h, .refuse e)
    | (.ok false, h) => (h, .stop)
    | (.ok true, h) =>
      ((h.setPhase .dataPhase).signalUpstreamHandshakeComplete, .next true)

def dataRound : ZmtpUringHandler SK Key H T α × Round :=
  match h.tryReadMsg with
  | (.error e, h) => (h, .refuse e)
  | (.ok none, h) => (h, .next false)
  | (.ok (some msg), h) =>
    if !msg.isCommand then ({ h with upstream := h.upstream ++ [.data msg] }, .next true)
    else if h.negotiatedVersion = some .v2 then
      (h, .refuse (.protocolViolation "received COMMAND-flagged frame on a ZMTP/2.0 session"))
    else
      match ZmtpCommand.parse msg with
      | some (.ping context) =>
        match h.sendMsg (ZmtpProtocolHandler.commandMsg (createPong context)) with
        | (.error e, h) => (h, .refuse e)
        | (.ok (), h) => (h, .next true)
      | some .error => (h, .refuse (.protocolViolation "Peer sent ZMTP ERROR command"))
      | _ => (h, .next true)

variable [CurveSuite SK Key α] [SnowHandshake H T α] [DecidableEq α]
  (h : ZmtpUringHandler SK Key H T α)

def greetingRound : ZmtpUringHandler SK Key H T α × Round :=
  let h := h.fillGreeting greetingLength
  if h.greetingBuffer.length < greetingLength then (h, .stop)
  else
    let (result, rest) := ZmtpGreeting.decode h.greetingBuffer
    let h := { h with greetingBuffer := rest }
    match result with
    | .error e => (h, .refuse e)
    | .ok none => (h, .next false)
    | .ok (some greeting) =>
      if h.isServer = greeting.asServer then
        (h, .refuse (.securityError "Role mismatch in greeting"))
      else
        let h := { h with negotiatedVersion := some (.v3 greeting.version.2) }
        match negotiateSecurityMechanism h.isServer h.config greeting h.entropy with
        | .error e => (h, .refuse e)
        | .ok m => ((h.setMechanism m).setPhase .securityExchange, .next true)

variable (m : SecurityMechanism SK Key H T α)

def produceAndSend :
    Except Fault Bool × SecurityMechanism SK Key H T α × ZmtpUringHandler SK Key H T α :=
  match m.produceToken with
  | (.error f, m) => (.error f, m, h.setMechanism m)
  | (.ok none, m) => (.ok false, m, h.setMechanism m)
  | (.ok (some token), m) =>
    match (h.setMechanism m).sendMsg (ZmtpProtocolHandler.commandMsg token) with
    | (.error e, h) => (.error (.error e), m, h)
    | (.ok (), h) => (.ok true, m, h)

/-- The read of the `SecurityExchange` arm: a token of the peer, if one is there, and the reply. -/
def consumeToken :
    Except Fault Bool × SecurityMechanism SK Key H T α × ZmtpUringHandler SK Key H T α :=
  if h.networkReadAccumulator.isEmpty then (.ok false, m, h)
  else
    match h.tryReadMsg with
    | (.error e, h) => (.error (.error (.securityError
        ("Failed to parse ZMTP frame for security token: " ++ e.display))), m, h)
    | (.ok none, h) => (.ok false, m, h)
    | (.ok (some msg), h) =>
      if !msg.isCommand then
        (.error (.error (.securityError "Expected ZMTP COMMAND for security token")), m, h)
      else
        match m.processToken msg.body with
        | (.error f, m) => (.error f, m, h.setMechanism m)
        | (.ok _, m) =>
          match (h.setMechanism m).produceAndSend m with
          | (.error f, m, h) => (.error f, m, h)
          | (.ok _, m, h) => (.ok true, m, h)

def leaveSecurityExchange : ZmtpUringHandler SK Key H T α × Round :=
  let h := { h with securityMechanism := none }
  match m.intoFramer h.config.maxMsgSize with
  | .error e => (h, .refuse e)
  | .ok (framer, identity) =>
    let h := { h with
      framer
      peerIdentityFromSecurity := h.peerIdentityFromSecurity.or identity
      completed := some m }
    if h.isServer then (h.setPhase .readyServerWaitClient, .next true)
    else
      match (h.setPhase .readyClientSend).sendReady with
      | (.error e, h) => (h, .refuse e)
      | (.ok (), h) => (h, .next true)

def securityRound : ZmtpUringHandler SK Key H T α × Round :=
  match h.securityMechanism with
  | none => (h, .refuse (.invalidState
      "CRITICAL: Security mechanism is None while in SecurityExchange phase."))
  | some m =>
    if m.status = .ready then h.leaveSecurityExchange m
    else
      match h.produceAndSend m with
      | (.error f, _, h) => (h, .fail f)
      | (.ok produced, m, h) =>
        match h.consumeToken m with
        | (.error f, _, h) => (h, .fail f)
        | (.ok consumed, m, h) =>
          if m.status = .ready then h.leaveSecurityExchange m
          else if m.status = .error then
            (h, .refuse (.securityError
              (m.errorReason.getD "Unknown security error from mechanism")))
          else if !produced && !consumed && h.networkReadAccumulator.isEmpty then (h, .stop)
          else (h, .next (produced || consumed))

def round : ZmtpUringHandler SK Key H T α × Round :=
  match h.phase with
  | .initial => (h, .refuse (.invalidState "ZmtpHandler in Initial phase during data processing"))
  | .sendSignature | .sendV3Tail | .sendV2Tail | .v2SendIdentity | .readyClientSend
  | .readyServerSend | .closing | .error | .closed => (h, .stop)
  | .waitPeerRevision => h.peekRound
  | .waitV3Greeting => h.greetingRound
  | .v2GreetingExchange => h.v2GreetingRound
  | .v2WaitIdentity => h.v2IdentityRound
  | .securityExchange => h.securityRound
  | .readyServerWaitClient => h.readyServerRound
  | .readyClientWaitServer => h.readyClientRound
  | .dataPhase => h.dataRound

def acknowledged : ZmtpHandlerPhase → ZmtpHandlerPhase
  | .sendSignature => .waitPeerRevision
  | .sendV3Tail => .waitV3Greeting
  | .sendV2Tail => .v2GreetingExchange
  | .v2SendIdentity => .v2WaitIdentity
  | .readyClientSend => .readyClientWaitServer
  | .readyServerSend => .dataPhase
  | phase => phase

end ZmtpUringHandler

inductive UringAction (α : Type) where
  | connectionReady
  | ringRead (bytes : List α)
  /-- A completion with a result that is not negative, or with EAGAIN. -/
  | completion
  | completionError (e : ZmqError)
  | round
  | handshakeTimeout
  | closeInitiated
  | fdClosed

namespace ZmtpUringHandler

variable {SK Key H T α : Type} [Octet α] [CryptoBox Key α] [SnowTransport T α]
  [CurveSuite SK Key α] [SnowHandshake H T α] [DecidableEq α]

def runRound (h : ZmtpUringHandler SK Key H T α) : ZmtpUringHandler SK Key H T α :=
  match h.round with
  | (h', .fail f) => h'.transitionToError f
  | (h', .stop) => { h' with looping := false }
  | (h', .next progress) =>
    let unchanged := h'.greetingBuffer.length = h.greetingBuffer.length ∧
      h'.networkReadAccumulator.length = h.networkReadAccumulator.length
    if unchanged ∧ !progress then { h' with looping := false } else h'

def step (h : ZmtpUringHandler SK Key H T α) (a : UringAction α) :
    Option (ZmtpUringHandler SK Key H T α) :=
  match a, h.looping with
  | .connectionReady, false =>
    if h.phase = .initial then
      some ((h.requestSend (encodeSignature ++ bytes [greetingVersionMajorByte])).setPhase
        .sendSignature)
    else none
  | .ringRead bytes, false =>
    if bytes.isEmpty then
      let reported := if h.phase = .dataPhase then [.error (.error .connectionClosed)] else []
      let h := h.transitionToError (.error .connectionClosed)
      some { h with upstream := h.upstream ++ reported }
    else some { h with
      networkReadAccumulator := h.networkReadAccumulator ++ bytes
      received := h.received ++ bytes
      looping := true }
  | .completion, false =>
    let next := h.setPhase (acknowledged h.phase)
    let next := if h.phase = .readyServerSend then next.signalUpstreamHandshakeComplete else next
    let changed := next.phase ≠ h.phase
    some { next with
      looping := changed && !(next.greetingBuffer.isEmpty && next.networkReadAccumulator.isEmpty) }
  | .completionError e, false => some (h.transitionToError (.error e))
  | .round, true => some h.runRound
  | .handshakeTimeout, _ =>
    if h.phase = .dataPhase then none else some (h.transitionToError (.error .timeout))
  | .closeInitiated, false => some (h.setPhase .closing)
  | .fdClosed, false => some (h.setPhase .closed)
  | _, _ => none

end ZmtpUringHandler

end Rzmq
