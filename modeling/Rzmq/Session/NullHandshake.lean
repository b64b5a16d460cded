import Rzmq.Session.Metadata

/-! The handshake of two tokio handlers without security.  Each end writes a fixed script (its
greeting in two parts and its READY command), and where it stands is told by the bytes that it has
written and received. -/

namespace Rzmq

open List Option Nat Bool Octet Curve Incremental ZmtpManualParser
open ZmtpProtocolHandler (buildReadyProperties clientReceiveReady commandFrame commandFrame_ne_nil
  commandMsg completion finalizeMechanism parsePeerReadyIdentity parsePeerSocketType
  performSecurityHandshake readHandshakeCommandFrame readyFrame receiveGreeting receivePeerReady
  receivePeerReady_empty receiveReady securityRound serverReceiveReady setMechanism
  waitForPeerRevision)

inductive SocketType where
  | pub
  | sub
  | req
  | rep
  | dealer
  | router
  | push
  | pull

def SocketType.name : SocketType → String
  | .pub => "PUB"
  | .sub => "SUB"
  | .req => "REQ"
  | .rep => "REP"
  | .dealer => "DEALER"
  | .router => "ROUTER"
  | .push => "PUSH"
  | .pull => "PULL"

variable {SK Key H T α : Type}

structure ZmtpEngineConfig.Unsecured (c : ZmtpEngineConfig SK α) : Prop where
  security : c.securityEnabled = false
  noise : c.useNoiseXx = false
  curve : c.useCurve = false
  plain : c.usePlain = false
  unlimited : c.maxMsgSize = -1
  socketType : ∃ type : SocketType, c.socketTypeName = type.name

def ZmtpEngineConfig.announcedId (c : ZmtpEngineConfig SK α) : Option (List α) :=
  if c.socketTypeName ∈ ["REQ", "DEALER", "ROUTER"] then
    c.routingId.filter fun id => !id.isEmpty && id.length ≤ 255
  else none

namespace NullHandshake

section Script

variable [Octet α]

def opening : List α := encodeSignature ++ bytes [greetingVersionMajorByte]

def greeting (isServer : Bool) : List α :=
  opening ++ encodeV3TailPostMajor MechanismKind.null.nameBytes isServer

def greets (isServer : Bool) : ZmtpGreeting := ⟨(3, 0), MechanismKind.null.nameBytes, isServer⟩

lemma opening_length : (opening : List α).length = 11 := by
  simp [opening, encodeSignature]

lemma greeting_eq (isServer : Bool) :
    (greeting isServer : List α) = ZmtpGreeting.encode MechanismKind.null.nameBytes isServer :=
  append_assoc ..

lemma greeting_length (isServer : Bool) : (greeting isServer : List α).length = greetingLength := by
  rw [greeting_eq]
  exact ZmtpGreeting.encode_length (by decide) isServer

lemma decode_greeting (isServer : Bool) (rest : List α) :
    ZmtpGreeting.decode (greeting isServer ++ rest) = (.ok (some (greets isServer)), rest) := by
  rw [greeting_eq]
  exact ZmtpGreeting.decode_encode (by decide) isServer rest

lemma peekRevision_opening {buffer : List α} (known : opening <+: buffer) :
    peekRevision (reading (buffer.take (signatureLength + 1))) = .ok greetingVersionMajorByte := by
  obtain ⟨rest, rfl⟩ := known
  have read : reading (opening : List α) = 0xFF :: replicate 8 0 ++ [0x7F, 3] := by
    simp only [opening, encodeSignature, reading_append, reading_bytes]
    rfl
  rw [take_left' (by rw [opening_length]; rfl), read]
  rfl

variable (h : ZmtpProtocolHandler SK Key H T α)

lemma buildReadyProperties_formed (unsecured : h.config.Unsecured) :
    h.buildReadyProperties.WellFormed := by
  have typeName : (utf8 "Socket-Type").length ≤ 255 ∧ validUtf8 (utf8 "Socket-Type") = true := by
    decide
  have idName : (utf8 "Identity").length ≤ 255 ∧ validUtf8 (utf8 "Identity") = true := by decide
  have short : (utf8 h.config.socketTypeName).length < 2 ^ 32 := by
    obtain ⟨type, name⟩ := unsecured.socketType
    rw [name]
    cases type <;> decide
  intro entry mem
  simp only [buildReadyProperties, mem_cons] at mem
  obtain rfl | mem := mem
  · exact ⟨typeName.1, typeName.2, by simpa using short⟩
  · split at mem
    · next announced =>
      cases mem_singleton.mp mem
      exact ⟨idName.1, idName.2, by have := announced.2; simp only; omega⟩
    · cases mem

lemma parsePeerSocketType_ready :
    parsePeerSocketType h.buildReadyProperties = some h.config.socketTypeName := by
  have other : utf8 "Identity" ≠ utf8 "Socket-Type" := by decide
  have found : h.buildReadyProperties.get (utf8 "Socket-Type") =
      some (bytes (utf8 h.config.socketTypeName)) := by
    simp only [buildReadyProperties, Metadata.get]
    split <;> simp [other]
  rw [parsePeerSocketType, found, bind_some, reading_bytes]
  exact dif_pos h.config.socketTypeName.isValidUTF8

lemma parsePeerReadyIdentity_ready :
    parsePeerReadyIdentity h.buildReadyProperties = h.config.announcedId := by
  have other : utf8 "Socket-Type" ≠ utf8 "Identity" := by decide
  unfold parsePeerReadyIdentity ZmtpEngineConfig.announcedId
    buildReadyProperties Metadata.get
  by_cases named : h.config.socketTypeName ∈ ["REQ", "DEALER", "ROUTER"]
  · by_cases short : (h.config.routingId.getD []).length ≤ 255
    · cases id : h.config.routingId <;> simp_all
    · cases id : h.config.routingId <;> simp_all
      simp [Option.filter, Nat.not_le.mpr short]
  · simp [named, other]

lemma readyBody_length (unsecured : h.config.Unsecured) :
    (readyBody h.buildReadyProperties).length < 2 ^ 64 := by
  have short : (utf8 h.config.socketTypeName).length ≤ 6 := by
    obtain ⟨type, name⟩ := unsecured.socketType
    rw [name]
    cases type <;> decide
  have names : (commandName "READY").length = 6 ∧ (utf8 "Socket-Type").length = 11 ∧
      (utf8 "Identity").length = 8 := by decide
  simp only [readyBody, buildReadyProperties]
  split
  · next announced =>
    simp [encodeEntry, names]
    omega
  · simp [encodeEntry, names]
    omega

lemma decode_readyFrame (unsecured : h.config.Unsecured) (more : List α) :
    (decoder α).decode (new (-1)) (h.readyFrame ++ more) =
      (.ok (some (commandMsg (readyBody h.buildReadyProperties))), new (-1), more) := by
  have received : (commandMsg (readyBody h.buildReadyProperties)).received =
      commandMsg (readyBody h.buildReadyProperties) := by
    rw [commandMsg, dif_pos (readyBody_length h unsecured)]
    rfl
  have admitted : admits (-1)
      (commandMsg (readyBody h.buildReadyProperties)).size := nofun
  have decoded := decode_encode admitted more
  rw [received] at decoded
  simp only [readyFrame, commandFrame, decoder]
  rw [decoded]

lemma receivePeerReady_part {h peer : ZmtpProtocolHandler SK Key H T α}
    (unsecured : peer.config.Unsecured) {seen tail : List α}
    (reads : Reads (decoder α) (new (-1)) seen h.zmtpManualParser h.networkReadBuffer)
    (fresh : h.networkReadBuffer = [] → seen = []) (part : seen <+: peer.readyFrame ++ tail) :
    (∃ rest, seen = peer.readyFrame ++ rest ∧
      h.receivePeerReady = (.ok (some peer.buildReadyProperties), { h with
        zmtpManualParser := new (-1)
        networkReadBuffer := rest
        peerSocketType := some peer.config.socketTypeName })) ∨
    ∃ parser buffer,
      h.receivePeerReady = (.ok none, { h with
        zmtpManualParser := parser, networkReadBuffer := buffer }) ∧
      Reads (decoder α) (new (-1)) seen parser buffer ∧ ¬ peer.readyFrame <+: seen := by
  have made : commandMsg (readyBody peer.buildReadyProperties) =
      .fromBytes (readyBody peer.buildReadyProperties) commandFlags
        (readyBody_length peer unsecured) := dif_pos (readyBody_length peer unsecured)
  have parsed : ZmtpCommand.parse
      (commandMsg (readyBody peer.buildReadyProperties)) =
        some (.ready peer.buildReadyProperties) := by
    rw [made]
    exact parse_readyBody (buildReadyProperties_formed peer unsecured) rfl rfl
  have command : (commandMsg
      (readyBody peer.buildReadyProperties)).isCommand = true := by
    rw [made]
    rfl
  by_cases empty : h.networkReadBuffer = []
  · refine .inr ⟨h.zmtpManualParser, h.networkReadBuffer, ?_, reads, ?_⟩
    · exact receivePeerReady_empty empty
    · rw [fresh empty, prefix_nil]
      exact commandFrame_ne_nil _
  · have filled : h.networkReadBuffer.isEmpty = false := by simpa using empty
    obtain ⟨rest, whole, decoded⟩ | ⟨parser, buffer, decoded, later, short⟩ :=
      reads.decode decoder_resumable (decode_readyFrame peer unsecured) part
    · refine .inl ⟨rest, whole, ?_⟩
      change h.zmtpManualParser.decodeFromBuffer h.networkReadBuffer = _ at decoded
      simp [receivePeerReady, readHandshakeCommandFrame, filled, decoded, command, parsed,
        parsePeerSocketType_ready]
    · refine .inr ⟨parser, buffer, ?_, later, short⟩
      change h.zmtpManualParser.decodeFromBuffer h.networkReadBuffer = _ at decoded
      simp [receivePeerReady, readHandshakeCommandFrame, filled, decoded]

end Script

/-! ### Where an end stands -/

section Phases

variable [Octet α]

def script (me : ZmtpProtocolHandler SK Key H T α) : List α :=
  greeting me.isServer ++ me.readyFrame

def underWay (handler : ZmtpProtocolHandler SK Key H T α) (await : Option (Await α))
    (written received : List α) : Session SK Key H T α where
  handler
  await
  currentPhase := .handshakeInProgress
  pendingPeerIdentity := none
  attached := false
  reported := none
  written
  received

variable (me peer : ZmtpProtocolHandler SK Key H T α) (subPhase : HandshakeSubPhase)
  (buffer : List α)

def greeter : ZmtpProtocolHandler SK Key H T α :=
  { me with subPhase, networkReadBuffer := buffer }

def met : ZmtpProtocolHandler SK Key H T α :=
  { greeter me .securityHandshake buffer with
    negotiatedVersion := some (.v3 0), pendingPeerGreeting := some (greets peer.isServer) }

def framing (parser : ZmtpManualParser) (buffer : List α) : ZmtpProtocolHandler SK Key H T α :=
  { met me peer buffer with subPhase, zmtpManualParser := parser, completed := some .null }

def informed (identity : Option (List α)) : ZmtpProtocolHandler SK Key H T α :=
  { framing me peer subPhase (new (-1)) buffer with
    peerSocketType := some peer.config.socketTypeName, peerIdentityFromReady := identity }

def concluded : Session SK Key H T α where
  handler := informed me peer .done buffer none
  await := none
  currentPhase := .waitingForPipes
  pendingPeerIdentity := peer.config.announcedId
  attached := false
  reported := none
  written := script me
  received := script peer ++ buffer

inductive Phase : Session SK Key H T α → Prop where
  | start : Phase (underWay (greeter me .greetingExchange []) none [] [])
  | hello {written left : _} (whole : written ++ left = opening) (more : left ≠ []) :
      Phase (underWay (greeter me .greetingExchange []) (some (.write left .signature)) written [])
  | helloFlush :
      Phase (underWay (greeter me .greetingExchange []) (some (.flush .signature)) opening [])
  | revision (received : List α) :
      Phase (underWay (greeter me .waitingForPeerRevision received) none opening received)
  | awaitRevision {received : _} (short : received.length < signatureLength + 1) :
      Phase (underWay (greeter me .waitingForPeerRevision received) (some (.read .revision))
        opening received)
  | tail {written left : _} (received : List α) (whole : written ++ left = greeting me.isServer)
      (more : left ≠ []) :
      Phase (underWay (greeter me .waitingForPeerRevision received) (some (.write left .v3Tail))
        written received)
  | tailFlush (received : List α) :
      Phase (underWay (greeter me .waitingForPeerRevision received) (some (.flush .v3Tail))
        (greeting me.isServer) received)
  | peerGreeting (received : List α) :
      Phase (underWay (greeter me .waitingForGreeting received) none
        (greeting me.isServer) received)
  | awaitGreeting {received : _} (short : received.length < greetingLength) :
      Phase (underWay (greeter me .waitingForGreeting received) (some (.read .greeting))
        (greeting me.isServer) received)
  | security (buffer : List α) :
      Phase (underWay (met me peer buffer) none (greeting me.isServer)
        (greeting peer.isServer ++ buffer))
  | ready (buffer : List α) :
      Phase (underWay (framing me peer .readyExchange (new (-1)) buffer) none
        (greeting me.isServer) (greeting peer.isServer ++ buffer))
  | clientReady {written left : _} (buffer : List α) (client : me.isServer = false)
      (whole : written ++ left = script me) (more : left ≠ []) :
      Phase (underWay (framing me peer .readyExchange (new (-1)) buffer)
        (some (.write left .clientReady)) written (greeting peer.isServer ++ buffer))
  | clientSent (buffer : List α) (client : me.isServer = false) :
      Phase (underWay (framing me peer .clientSentReady (new (-1)) buffer) none (script me)
        (greeting peer.isServer ++ buffer))
  | clientAwaits {parser buffer seen : _} (client : me.isServer = false)
      (reads : Reads (decoder α) (new (-1)) seen parser buffer) (short : ¬ peer.readyFrame <+: seen)
      :
      Phase (underWay (framing me peer .clientSentReady parser buffer) (some (.read .ready))
        (script me) (greeting peer.isServer ++ seen))
  | serverAwaits {parser buffer seen : _} (server : me.isServer = true)
      (reads : Reads (decoder α) (new (-1)) seen parser buffer) (short : ¬ peer.readyFrame <+: seen)
      :
      Phase (underWay (framing me peer .readyExchange parser buffer) (some (.read .ready))
        (greeting me.isServer) (greeting peer.isServer ++ seen))
  | serverReceived (buffer : List α) (server : me.isServer = true) :
      Phase (underWay (informed me peer .serverReceivedReady buffer peer.config.announcedId) none
        (greeting me.isServer) (script peer ++ buffer))
  | serverReady {written left : _} (buffer : List α) (server : me.isServer = true)
      (whole : written ++ left = script me) (more : left ≠ []) :
      Phase (underWay (informed me peer .serverReceivedReady buffer peer.config.announcedId)
        (some (.write left .serverReady)) written (script peer ++ buffer))
  | done (buffer : List α) : Phase (concluded me peer buffer)

def phaseRank : HandshakeSubPhase → Nat
  | .greetingExchange => 6
  | .waitingForPeerRevision => 5
  | .waitingForGreeting => 4
  | .securityHandshake => 3
  | .readyExchange => 2
  | .clientSentReady | .serverReceivedReady => 1
  | .v2IdentityExchange | .done => 0

def awaitRank : Option (Await α) → Nat
  | none => 3
  | some (.write _ _) | some (.read _) => 2
  | some (.flush _) => 1
  | some .again => 0

omit [Octet α] in
def stage (s : Session SK Key H T α) : Nat :=
  4 * phaseRank s.handler.subPhase + awaitRank s.await

structure Fresh : Prop where
  config : me.config.Unsecured
  mechanism : me.securityMechanism = .null
  framer : me.framer = .null (.new (-1))
  parser : me.zmtpManualParser = new (-1)
  identity : me.peerIdentityFromReady = none

variable {h h' : ZmtpProtocolHandler SK Key H T α} {written received : List α}
  {await : Option (Await α)}

omit [Octet α] in
lemma settle_inProgress (going : h'.subPhase ≠ .done) :
    (underWay h await written received).settle (h', .ok .inProgress) =
      underWay h' none written received := by
  simp [Session.settle, Poll.ok, Session.handleProgress, Session.checkComplete, going, underWay]

omit [Octet α] in
lemma settle_completion (ended : h'.subPhase = .done) (identity) :
    (underWay h await written received).settle (h', completion identity) =
      ⟨h', none, .waitingForPipes, identity, false, none, written, received⟩ := by
  cases identity <;> simp [Session.settle, completion, Poll.ok,
    Session.handleProgress, Session.checkComplete, Session.checkOperational, ended, underWay]

variable {me peer} {received tail : List α} {parser : ZmtpManualParser}

lemma heard_opening (heard : received <+: script peer ++ tail)
    (long : signatureLength + 1 ≤ received.length) : opening <+: received := by
  have first : opening <+: script peer ++ tail := by
    simp only [script, greeting, append_assoc]
    exact prefix_append _ _
  exact prefix_of_prefix_length_le first heard (by rw [opening_length]; exact long)

lemma heard_greeting (heard : received <+: script peer ++ tail)
    (long : greetingLength ≤ received.length) :
    ∃ buffer, received = greeting peer.isServer ++ buffer := by
  have first : greeting peer.isServer <+: script peer ++ tail := by
    rw [script, append_assoc]
    exact prefix_append _ _
  obtain ⟨buffer, whole⟩ :=
    prefix_of_prefix_length_le first heard (by rw [greeting_length]; exact long)
  exact ⟨buffer, whole.symm⟩

lemma heard_ready {seen tail} (heard : greeting peer.isServer ++ seen <+: script peer ++ tail) :
    seen <+: peer.readyFrame ++ tail := by
  rwa [script, append_assoc, prefix_append_right_inj] at heard

def Within (me peer : ZmtpProtocolHandler SK Key H T α) (n : Nat) (s : Session SK Key H T α) :
    Prop := Phase me peer s ∧ stage s ≤ n

lemma phase_revision (fresh : Fresh me) (heard : received <+: script peer ++ tail)
    (await) :
    Within me peer 22 ((underWay (greeter me .waitingForPeerRevision received) await opening
      received).settle (greeter me .waitingForPeerRevision received,
        (greeter me .waitingForPeerRevision received).waitForPeerRevision)) := by
  unfold waitForPeerRevision
  split
  · next short => exact ⟨.awaitRevision short, le_refl _⟩
  · next long =>
    have known := heard_opening heard (Nat.le_of_not_lt long)
    have own : me.config.ownMechanism me.isServer = .null := by
      simp [ZmtpEngineConfig.ownMechanism, fresh.config.noise, fresh.config.curve,
        fresh.config.plain]
    have revision : peekRevision (reading ((greeter me .waitingForPeerRevision
        received).networkReadBuffer.take (signatureLength + 1))) = .ok greetingVersionMajorByte :=
      peekRevision_opening known
    have notV2 : greetingVersionMajorByte ≠ v2Revision := by decide
    simp only [revision, notV2, if_false]
    refine ⟨Phase.tail received ?_ ?_, le_refl _⟩
    · change opening ++ encodeV3TailPostMajor (me.config.ownMechanism me.isServer).nameBytes
        me.isServer = greeting me.isServer
      rw [own, greeting]
    · simp [encodeV3TailPostMajor, bytes]

lemma phase_greeting (heard : received <+: script peer ++ tail) (await) :
    Within me peer 18 ((underWay (greeter me .waitingForGreeting received) await
      (greeting me.isServer) received).settle
        (greeter me .waitingForGreeting received).receiveGreeting) := by
  unfold receiveGreeting
  split
  · next short => exact ⟨.awaitGreeting short, le_refl _⟩
  · next long =>
    obtain ⟨buffer, rfl⟩ := heard_greeting heard (Nat.le_of_not_lt long)
    have decoded : ZmtpGreeting.decode (greeter me .waitingForGreeting
        (greeting peer.isServer ++ buffer)).networkReadBuffer =
          (.ok (some (greets peer.isServer)), buffer) := decode_greeting peer.isServer buffer
    have current : ¬ (greets peer.isServer).version.1 < 3 := by simp [greets]
    simp only [decoded, current, if_false]
    rw [settle_inProgress]
    · exact ⟨.security buffer, le_of_ble_eq_true rfl⟩
    · simp

lemma phase_serverReceive (other : peer.config.Unsecured) (server : me.isServer = true)
    {buffer seen tail : List α} (reads : Reads (decoder α) (new (-1)) seen parser buffer)
    (filled : buffer = [] → seen = [])
    (heard : greeting peer.isServer ++ seen <+: script peer ++ tail) (await) :
    Within me peer 10 ((underWay (framing me peer .readyExchange parser buffer) await
      (greeting me.isServer) (greeting peer.isServer ++ seen)).settle
        (framing me peer .readyExchange parser buffer).serverReceiveReady) := by
  unfold serverReceiveReady receiveReady
  obtain ⟨rest, rfl, taken⟩ | ⟨parser', buffer', waits, later, short⟩ :=
    receivePeerReady_part (h := framing me peer .readyExchange parser buffer) other reads filled
      (heard_ready heard)
  · simp only [taken, parsePeerReadyIdentity_ready]
    rw [settle_inProgress, ← append_assoc]
    · exact ⟨.serverReceived rest server, le_of_ble_eq_true rfl⟩
    · simp
  · simp only [waits]
    exact ⟨.serverAwaits server later short, le_refl _⟩

lemma phase_clientReceive (fresh : Fresh me) (other : peer.config.Unsecured)
    (client : me.isServer = false) {buffer seen tail : List α}
    (reads : Reads (decoder α) (new (-1)) seen parser buffer) (filled : buffer = [] → seen = [])
    (heard : greeting peer.isServer ++ seen <+: script peer ++ tail) (await) :
    Within me peer 6 ((underWay (framing me peer .clientSentReady parser buffer) await
      (script me) (greeting peer.isServer ++ seen)).settle
        (framing me peer .clientSentReady parser buffer).clientReceiveReady) := by
  unfold clientReceiveReady receiveReady
  obtain ⟨rest, rfl, taken⟩ | ⟨parser', buffer', waits, later, short⟩ :=
    receivePeerReady_part (h := framing me peer .clientSentReady parser buffer) other reads filled
      (heard_ready heard)
  · simp only [taken, parsePeerReadyIdentity_ready]
    rw [settle_completion, ← append_assoc]
    · have same := fresh.identity
      have ended : Within me peer 6 (concluded me peer rest) :=
        ⟨.done rest, le_of_ble_eq_true rfl⟩
      simp only [concluded, informed, framing, met, greeter, script] at ended ⊢
      rw [same]
      exact ended
    · simp
  · simp only [waits]
    exact ⟨.clientAwaits client later short, le_refl _⟩

end Phases

section Steps

variable [Octet α] [CryptoBox Key α] [CurveSuite SK Key α] [SnowHandshake H T α] [DecidableEq α]
  {me peer : ZmtpProtocolHandler SK Key H T α} {s s' : Session SK Key H T α}

lemma phase_security (fresh : Fresh me) (buffer : List α) :
    Within me peer 14 ((underWay (met me peer buffer) none (greeting me.isServer)
      (greeting peer.isServer ++ buffer)).settle
        (met me peer buffer).performSecurityHandshake) := by
  have negotiated : negotiateSecurityMechanism me.isServer me.config (greets peer.isServer)
      me.entropy = .ok (.null : SecurityMechanism SK Key H T α) := by
    have enabled : me.config.enables .null = true := by
      simp [ZmtpEngineConfig.enables, fresh.config.security]
    have found : knownMechanisms.find? (·.nameBytes = (greets peer.isServer).mechanism) =
        some .null := by
      change knownMechanisms.find? (·.nameBytes = MechanismKind.null.nameBytes) = some .null
      decide
    unfold negotiateSecurityMechanism
    rw [found]
    exact if_pos enabled
  have round : (met me peer buffer).performSecurityHandshake =
      (framing me peer .readyExchange (new (-1)) buffer, .ok .inProgress) := by
    have limit := fresh.config.unlimited
    simp [performSecurityHandshake, SecurityMechanism.kind, negotiated, securityRound, setMechanism,
      SecurityMechanism.status, finalizeMechanism, SecurityMechanism.intoFramer, framing, met,
      greeter, limit, fresh.framer, fresh.parser, fresh.mechanism]
  rw [round, settle_inProgress]
  · exact ⟨.ready buffer, le_of_ble_eq_true rfl⟩
  · simp [framing]

lemma Phase.poll (fresh : Fresh me) (other : peer.config.Unsecured) (phase : Phase me peer s)
    {tail} (heard : s.received <+: script peer ++ tail) (taken : s.step .poll = some s') :
    Phase me peer s' ∧ stage s' < stage s := by
  obtain ⟨await, going, rfl⟩ := Session.step_cases taken
  cases phase with
  | start => exact ⟨.hello rfl nofun, Nat.le_refl _⟩
  | revision received => exact (phase_revision fresh heard none).imp_right lt_succ_of_le
  | peerGreeting received => exact (phase_greeting heard none).imp_right lt_succ_of_le
  | security buffer => exact (phase_security fresh buffer).imp_right lt_succ_of_le
  | ready buffer =>
    change Phase me peer (Session.settle _ (if me.isServer then
      (framing me peer .readyExchange (new (-1)) buffer).serverReceiveReady
      else (_, .pending (.write me.readyFrame .clientReady)))) ∧
        stage (Session.settle _ (if me.isServer then
          (framing me peer .readyExchange (new (-1)) buffer).serverReceiveReady
          else (_, .pending (.write me.readyFrame .clientReady)))) < _
    split
    · next server =>
      exact (phase_serverReceive other server (.refl _ _ _) id heard none).imp_right
        lt_succ_of_le
    · next client =>
      refine ⟨.clientReady buffer (eq_false_iff.mpr client) rfl ?_, Nat.le_refl _⟩
      exact commandFrame_ne_nil _
  | clientSent buffer client =>
    exact (phase_clientReceive fresh other client (.refl _ _ _) id heard none).imp_right
      lt_succ_of_le
  | serverReceived buffer server =>
    refine ⟨.serverReady buffer server rfl ?_, Nat.le_refl _⟩
    exact commandFrame_ne_nil _
  | done buffer => cases going
  | hello | helloFlush | awaitRevision | tail | tailFlush | awaitGreeting | clientReady
  | clientAwaits | serverAwaits | serverReady => cases await

lemma Phase.read (fresh : Fresh me) (other : peer.config.Unsecured) (phase : Phase me peer s)
    {bytes tail} (heard : s.received ++ bytes <+: script peer ++ tail)
    (taken : s.step (.read bytes) = some s') :
    Phase me peer s' ∧ stage s' ≤ stage s := by
  obtain ⟨what, await, filled, rfl⟩ := Session.step_cases taken
  have some {buffer : List α} (empty : buffer ++ bytes = []) : False :=
    filled (append_eq_nil_iff.mp empty).2
  cases phase with
  | awaitRevision =>
    cases await
    exact phase_revision fresh heard _
  | awaitGreeting =>
    cases await
    exact phase_greeting heard _
  | clientAwaits client reads short =>
    cases await
    exact phase_clientReceive fresh other client (reads.append bytes) (fun e => (some e).elim)
      (by simpa [underWay] using heard) _
  | serverAwaits server reads short =>
    cases await
    exact phase_serverReceive other server (reads.append bytes) (fun e => (some e).elim)
      (by simpa [underWay] using heard) _
  | start | hello | helloFlush | revision | tail | tailFlush | peerGreeting | security | ready
  | clientReady | clientSent | serverReceived | serverReady | done => cases await

lemma Phase.flush (phase : Phase me peer s) (taken : s.step .flush = some s') :
    Phase me peer s' ∧ stage s' < stage s := by
  obtain ⟨what, await, rfl⟩ := Session.step_cases taken
  cases phase with
  | helloFlush =>
    cases await
    exact ⟨.revision [], le_of_ble_eq_true rfl⟩
  | tailFlush received =>
    cases await
    exact ⟨.peerGreeting received, le_of_ble_eq_true rfl⟩
  | start | hello | revision | awaitRevision | tail | peerGreeting | awaitGreeting | security
  | ready | clientReady | clientSent | clientAwaits | serverAwaits | serverReceived | serverReady
  | done =>
    cases await

omit [Octet α] [CryptoBox Key α] [CurveSuite SK Key α] [SnowHandshake H T α] [DecidableEq α] in
lemma write_part {written left whole : List α} {count : Nat} (all : written ++ left = whole)
    (short : count < left.length) :
    written ++ left.take count ++ left.drop count = whole ∧ left.drop count ≠ [] := by
  constructor
  · rw [append_assoc, take_append_drop, all]
  · simpa using short

lemma Phase.write (phase : Phase me peer s) {count : Nat}
    (taken : s.step (.write count) = some s') :
    Phase me peer s' ∧ stage s' ≤ stage s := by
  obtain ⟨left, what, await, -, ⟨short, rfl⟩ | ⟨-, rfl⟩⟩ := Session.step_cases taken
  · cases phase with
    | hello whole more =>
      cases await
      obtain ⟨all, rest⟩ := write_part whole short
      exact ⟨.hello all rest, le_refl _⟩
    | tail received whole more =>
      cases await
      obtain ⟨all, rest⟩ := write_part whole short
      exact ⟨.tail received all rest, le_refl _⟩
    | clientReady buffer client whole more =>
      cases await
      obtain ⟨all, rest⟩ := write_part whole short
      exact ⟨.clientReady buffer client all rest, le_refl _⟩
    | serverReady buffer server whole more =>
      cases await
      obtain ⟨all, rest⟩ := write_part whole short
      exact ⟨.serverReady buffer server all rest, le_refl _⟩
    | start | helloFlush | revision | awaitRevision | tailFlush | peerGreeting | awaitGreeting
    | security | ready | clientSent | clientAwaits | serverAwaits | serverReceived | done =>
      cases await
  · cases phase with
    | hello whole more =>
      cases await
      simp only [underWay, whole]
      exact ⟨.helloFlush, le_of_ble_eq_true rfl⟩
    | tail received whole more =>
      cases await
      simp only [underWay, whole]
      exact ⟨.tailFlush received, le_of_ble_eq_true rfl⟩
    | clientReady buffer client whole more =>
      cases await
      simp only [underWay, whole]
      exact ⟨.clientSent buffer client, le_of_ble_eq_true rfl⟩
    | serverReady buffer server whole more =>
      cases await
      simp only [underWay, whole]
      change Within me peer 6 ((underWay _ _ _ _).settle (_, completion _))
      rw [settle_completion]
      · exact ⟨.done buffer, le_of_ble_eq_true rfl⟩
      · rfl
    | start | helloFlush | revision | awaitRevision | tailFlush | peerGreeting | awaitGreeting
    | security | ready | clientSent | clientAwaits | serverAwaits | serverReceived | done =>
      cases await

end Steps

end NullHandshake

end Rzmq
