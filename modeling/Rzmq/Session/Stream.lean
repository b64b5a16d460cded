import Rzmq.Session.Cancel

/-! What a handshake makes of the bytes of its peer.  `Concludes` runs a handler with all the bytes
there, and every run of a session comes to the same end as long as no future is dropped at the
identity of a ZMTP/2.0 peer. -/

namespace Rzmq

open List Octet Curve Transition Incremental ZmtpManualParser

variable {SK Key H T α : Type}

namespace ZmtpProtocolHandler

def later (h : ZmtpProtocolHandler SK Key H T α) (more : List α) :
    ZmtpProtocolHandler SK Key H T α :=
  { h with networkReadBuffer := h.networkReadBuffer ++ more }

lemma later_later (h : ZmtpProtocolHandler SK Key H T α) (first more : List α) :
    (h.later first).later more = h.later (first ++ more) := by
  simp [later]

variable [Octet α]

def readFrame (h : ZmtpProtocolHandler SK Key H T α) :
    Except ZmqError (Option (Msg α)) × ZmtpProtocolHandler SK Key H T α :=
  if h.networkReadBuffer.isEmpty then (.ok none, h)
  else
    let (result, parser, rest) := h.zmtpManualParser.decodeFromBuffer h.networkReadBuffer
    (result, { h with zmtpManualParser := parser, networkReadBuffer := rest })

variable {h h' : ZmtpProtocolHandler SK Key H T α} {result : Except ZmqError (Option (Msg α))}
  {msg : Msg α}

lemma readFrame_filled {h : ZmtpProtocolHandler SK Key H T α} (filled : h.networkReadBuffer ≠ [])
    {parser : ZmtpManualParser} {rest : List α}
    (decoded : h.zmtpManualParser.decodeFromBuffer h.networkReadBuffer = (result, parser, rest)) :
    h.readFrame = (result, { h with zmtpManualParser := parser, networkReadBuffer := rest }) := by
  rw [readFrame, if_neg (by simpa using filled), decoded]

lemma readFrame_phase (h : ZmtpProtocolHandler SK Key H T α) :
    h.readFrame.2.subPhase = h.subPhase := by
  unfold readFrame
  split <;> rfl

lemma readFrame_some (answer : h.readFrame = (.ok (some msg), h')) (more : List α) :
    (h.later more).readFrame = (.ok (some msg), h'.later more) := by
  have filled : h.networkReadBuffer ≠ [] := by
    intro empty
    rw [readFrame, if_pos (by simp [empty])] at answer
    cases answer
  have longer : (h.later more).networkReadBuffer ≠ [] := by simp [later, filled]
  match decoded : h.zmtpManualParser.decodeFromBuffer h.networkReadBuffer with
  | (result, parser, rest) =>
    rw [readFrame_filled filled decoded] at answer
    cases answer
    rw [readFrame_filled longer (decoder_resumable.some_append (d := decoder α) more decoded)]
    rfl

lemma readFrame_none (answer : h.readFrame = (.ok none, h')) (more : List α) :
    (h.later more).readFrame = (h'.later more).readFrame := by
  by_cases empty : h.networkReadBuffer = []
  · rw [readFrame, if_pos (by simp [empty])] at answer
    cases answer
    rfl
  · have longer : (h.later more).networkReadBuffer ≠ [] := by simp [later, empty]
    match decoded : h.zmtpManualParser.decodeFromBuffer h.networkReadBuffer with
    | (result, parser, rest) =>
      rw [readFrame_filled empty decoded] at answer
      cases answer
      have resumed := decoder_resumable.none_append (d := decoder α) more decoded
      by_cases nothing : rest ++ more = []
      · obtain ⟨rfl, rfl⟩ := append_eq_nil_iff.mp nothing
        have idle := idle_of_none (d := decoder α) decoder_resumable decoded
        rw [readFrame_filled longer (resumed.trans idle)]
        rfl
      · match next : parser.decodeFromBuffer (rest ++ more) with
        | (result, parser', rest') =>
          rw [readFrame_filled longer (resumed.trans next),
            readFrame_filled (by exact nothing) (by exact next)]
          rfl

def commandOnly : Except ZmqError (Option (Msg α)) → Except ZmqError (Option (Msg α))
  | .ok (some msg) =>
    if msg.isCommand then .ok (some msg)
    else .error (.protocolViolation "Expected COMMAND frame in handshake")
  | result => result

lemma readHandshakeCommandFrame_readFrame (h : ZmtpProtocolHandler SK Key H T α) :
    h.readHandshakeCommandFrame = (commandOnly h.readFrame.1, h.readFrame.2) := by
  unfold readHandshakeCommandFrame readFrame
  split
  · rfl
  · match h.zmtpManualParser.decodeFromBuffer h.networkReadBuffer with
    | (.error e, parser, rest) | (.ok none, parser, rest) => rfl
    | (.ok (some msg), parser, rest) =>
      simp only [commandOnly]
      split <;> rfl

omit [Octet α] in
lemma commandOnly_some
    (command : commandOnly result = .ok (some msg)) : result = .ok (some msg) := by
  unfold commandOnly at command
  split at command
  · split at command
    · exact command
    · cases command
  · exact command

omit [Octet α] in
lemma commandOnly_none (command : commandOnly result = .ok none) : result = .ok none := by
  unfold commandOnly at command
  split at command
  · split at command <;> cases command
  · exact command

lemma readHandshakeCommandFrame_some (answer : h.readHandshakeCommandFrame = (.ok (some msg), h'))
    (more : List α) :
    (h.later more).readHandshakeCommandFrame = (.ok (some msg), h'.later more) := by
  rw [readHandshakeCommandFrame_readFrame] at answer ⊢
  obtain ⟨command, rfl⟩ := Prod.mk.inj answer
  have found : h.readFrame = (.ok (some msg), h.readFrame.2) :=
    Prod.ext (commandOnly_some command) rfl
  rw [readFrame_some found more]
  rw [commandOnly_some command] at command
  rw [command]

lemma readHandshakeCommandFrame_none (answer : h.readHandshakeCommandFrame = (.ok none, h'))
    (more : List α) :
    (h.later more).readHandshakeCommandFrame = (h'.later more).readHandshakeCommandFrame := by
  rw [readHandshakeCommandFrame_readFrame] at answer
  obtain ⟨command, rfl⟩ := Prod.mk.inj answer
  have missing : h.readFrame = (.ok none, h.readFrame.2) := Prod.ext (commandOnly_none command) rfl
  rw [readHandshakeCommandFrame_readFrame, readHandshakeCommandFrame_readFrame,
    readFrame_none missing more]

lemma receivePeerReady_some {properties}
    (answer : h.receivePeerReady = (.ok (some properties), h')) (more : List α) :
    (h.later more).receivePeerReady = (.ok (some properties), h'.later more) := by
  unfold receivePeerReady at answer ⊢
  match frame : h.readHandshakeCommandFrame with
  | (.error e, h'') | (.ok none, h'') =>
    simp only [frame] at answer
    cases answer
  | (.ok (some msg), h'') =>
    rw [frame] at answer
    rw [readHandshakeCommandFrame_some frame more]
    dsimp only at answer ⊢
    split at answer
    · cases answer
      rfl
    · cases answer

lemma receivePeerReady_none (answer : h.receivePeerReady = (.ok none, h')) (more : List α) :
    (h.later more).receivePeerReady = (h'.later more).receivePeerReady := by
  unfold receivePeerReady at answer
  match frame : h.readHandshakeCommandFrame with
  | (.error e, h'') =>
    simp only [frame] at answer
    cases answer
  | (.ok (some msg), h'') =>
    simp only [frame] at answer
    split at answer <;> cases answer
  | (.ok none, h'') =>
    simp only [frame] at answer
    cases answer
    rw [receivePeerReady, receivePeerReady, readHandshakeCommandFrame_none frame more]

lemma readV2IdentityFrame_readFrame (h : ZmtpProtocolHandler SK Key H T α) :
    h.readV2IdentityFrame =
      match h.readFrame with
      | (.error e, h) => (h, .fail e)
      | (.ok none, h) => (h, .pending (.read .v2Identity))
      | (.ok (some msg), h) =>
        match enforceV2IdentityConstraints msg with
        | .error e => (h, .fail e)
        | .ok () =>
          ({ h with peerIdentityFromReady := none, subPhase := .done },
            completion (if msg.body.isEmpty then h.peerIdentityFromReady else some msg.body)) := by
  unfold readV2IdentityFrame readFrame
  split
  · rfl
  · match h.zmtpManualParser.decodeFromBuffer h.networkReadBuffer with
    | (.error e, parser, rest) | (.ok none, parser, rest) => rfl
    | (.ok (some msg), parser, rest) =>
      cases enforceV2IdentityConstraints msg <;> rfl

lemma decode_append {buffer} (long : greetingLength ≤ buffer.length) (more : List α) :
    ZmtpGreeting.decode (buffer ++ more) =
      ((ZmtpGreeting.decode buffer).1, (ZmtpGreeting.decode buffer).2 ++ more) := by
  have longer : ¬ (buffer ++ more).length < greetingLength := by
    rw [length_append]
    omega
  rw [ZmtpGreeting.decode, ZmtpGreeting.decode, if_neg longer, if_neg (Nat.not_lt.mpr long),
    take_append_of_le_length long, drop_append_of_le_length long]

variable [CryptoBox Key α] [CurveSuite SK Key α] [SnowHandshake H T α] [DecidableEq α]

/-- What a call comes to when more bytes are there: the same, or it goes on where it waited. -/
def Extends (more : List α) (p q : ZmtpProtocolHandler SK Key H T α × Poll α) : Prop :=
  match p with
  | (h, .pending (.read what)) =>
    h.subPhase ≠ .greetingExchange ∧ q = (h.later more).resumeRead what
  | (h, .pending (.write left what)) =>
    h.subPhase ≠ .greetingExchange ∧ what ≠ .signature ∧
      q = (h.later more, .pending (.write left what))
  | (h, .pending .again) =>
    h.subPhase ≠ .greetingExchange ∧ q = (h.later more, .pending .again)
  | (_, .pending (.flush _)) => False
  | (h, .ready (.ok progress)) =>
    h.subPhase ≠ .greetingExchange ∧ q = (h.later more, .ready (.ok progress))
  | (_, .ready (.error _)) => True

namespace Extends

variable {h : ZmtpProtocolHandler SK Key H T α} {more : List α}

section

variable (past : h.subPhase ≠ .greetingExchange)
include past

lemma reads (what : HandshakeRead) :
    Extends more (h, .pending (.read what)) ((h.later more).resumeRead what) := ⟨past, rfl⟩

lemma writes (left : List α) {what} (other : what ≠ .signature) :
    Extends more (h, .pending (.write left what)) (h.later more, .pending (.write left what)) :=
  ⟨past, other, rfl⟩

lemma again :
    Extends more (h, .pending .again) (h.later more, .pending .again) := ⟨past, rfl⟩

end

lemma returns (progress : HandshakeProgress α) (past : h.subPhase ≠ .greetingExchange) :
    Extends more (h, .ready (.ok progress)) (h.later more, .ready (.ok progress)) := ⟨past, rfl⟩

lemma fails (h : ZmtpProtocolHandler SK Key H T α) (f : Fault)
    (q : ZmtpProtocolHandler SK Key H T α × Poll α) : Extends more (h, .ready (.error f)) q :=
  trivial

end Extends

section Extends

variable {h : ZmtpProtocolHandler SK Key H T α} (more : List α)
  (past : h.subPhase ≠ .greetingExchange)

include past

lemma waitForPeerRevision_extends :
    Extends more (h, h.waitForPeerRevision) (h.later more, (h.later more).waitForPeerRevision) := by
  by_cases short : h.networkReadBuffer.length < signatureLength + 1
  · have waits : h.waitForPeerRevision = .pending (.read .revision) := by
      rw [waitForPeerRevision, if_pos short]
    rw [waits]
    exact .reads past .revision
  · have longer : ¬ (h.later more).networkReadBuffer.length < signatureLength + 1 := by
      simp [later]
      omega
    have same : (h.later more).waitForPeerRevision = h.waitForPeerRevision := by
      rw [waitForPeerRevision, waitForPeerRevision, if_neg short, if_neg longer]
      simp only [later, take_append_of_le_length (Nat.not_lt.mp short)]
      rfl
    rw [same, waitForPeerRevision, if_neg short]
    split
    · exact .fails _ _ _
    · split
      · unfold writeV2Tail
        split
        · exact .fails _ _ _
        · split
          · exact .fails _ _ _
          · exact .writes past _ nofun
      · split
        · exact .writes past _ nofun
        · exact .fails _ _ _

lemma receiveGreeting_extends :
    Extends more h.receiveGreeting (h.later more).receiveGreeting := by
  by_cases short : h.networkReadBuffer.length < greetingLength
  · have waits : h.receiveGreeting = (h, .pending (.read .greeting)) := by
      rw [receiveGreeting, if_pos short]
    rw [waits]
    exact .reads past .greeting
  · have longer : ¬ (h.later more).networkReadBuffer.length < greetingLength := by
      simp [later]
      omega
    rw [receiveGreeting, receiveGreeting, if_neg short, if_neg longer]
    simp only [later, decode_append (Nat.not_lt.mp short)]
    match (ZmtpGreeting.decode h.networkReadBuffer).1 with
    | .error e | .ok none => exact .fails _ _ _
    | .ok (some greeting) =>
      dsimp only
      split
      · exact .fails _ _ _
      · exact .returns _ nofun

lemma exchangeV2Identity_extends :
    Extends more h.exchangeV2Identity (h.later more).exchangeV2Identity := by
  by_cases short : h.networkReadBuffer.length < v2GreetingLength
  · have waits : h.exchangeV2Identity = (h, .pending (.read .v2Greeting)) := by
      rw [exchangeV2Identity, if_pos short]
    rw [waits]
    exact .reads past .v2Greeting
  · have longer : ¬ (h.later more).networkReadBuffer.length < v2GreetingLength := by
      simp [later]
      omega
    have eleven : 11 < (reading h.networkReadBuffer).length := by
      rw [reading_length]
      exact Nat.not_lt.mp short
    rw [exchangeV2Identity, exchangeV2Identity, if_neg short, if_neg longer]
    simp only [later, reading_append, getD_eq_getElem?_getD,
      getElem?_append_left eleven, drop_append_of_le_length (Nat.not_lt.mp short)]
    split
    · exact .fails _ _ _
    · exact .writes (by exact past) _ nofun

lemma readV2IdentityFrame_extends :
    Extends more h.readV2IdentityFrame (h.later more).readV2IdentityFrame := by
  have kept := readFrame_phase h
  rw [readV2IdentityFrame_readFrame h]
  match frame : h.readFrame with
  | (.error e, h') => exact .fails _ _ _
  | (.ok none, h') =>
    rw [frame] at kept
    have same : (h.later more).readV2IdentityFrame = (h'.later more).readV2IdentityFrame := by
      rw [readV2IdentityFrame_readFrame, readV2IdentityFrame_readFrame, readFrame_none frame more]
    rw [same]
    exact .reads (kept ▸ past) .v2Identity
  | (.ok (some msg), h') =>
    rw [readV2IdentityFrame_readFrame, readFrame_some frame more]
    dsimp only
    split
    · exact .fails _ _ _
    · exact .returns _ nofun

lemma receiveReady_extends {goOn}
    (resumed : ∀ h' : ZmtpProtocolHandler SK Key H T α, h'.subPhase = h.subPhase →
      h'.resumeRead .ready = h'.receiveReady goOn)
    (goesOn : ∀ properties h',
      Extends more (goOn properties h') (goOn properties (h'.later more))) :
    Extends more (h.receiveReady goOn) ((h.later more).receiveReady goOn) := by
  unfold receiveReady
  rcases answer : h.receivePeerReady with ⟨e | _ | properties, h'⟩
  · exact .fails _ _ _
  · obtain ⟨same, -⟩ := receivePeerReady_kept answer
    have waits : Extends more (h', .pending (.read .ready)) ((h'.later more).resumeRead .ready) :=
      .reads (same ▸ past) .ready
    rw [resumed _ (by exact same)] at waits
    rw [receivePeerReady_none answer more]
    exact waits
  · rw [receivePeerReady_some answer more]
    exact goesOn properties h'

lemma serverReceiveReady_extends (phase : h.subPhase = .readyExchange) :
    Extends more h.serverReceiveReady (h.later more).serverReceiveReady :=
  receiveReady_extends more past (fun _ same => if_pos (same.trans phase))
    fun _ _ => .returns _ (by simp)

lemma clientReceiveReady_extends (phase : h.subPhase ≠ .readyExchange) :
    Extends more h.clientReceiveReady (h.later more).clientReceiveReady :=
  receiveReady_extends more past (fun _ same => if_neg (same ▸ phase))
    fun _ _ => .returns _ (by simp)

omit past in
lemma finalizeMechanism_extends :
    Extends more h.finalizeMechanism (h.later more).finalizeMechanism := by
  unfold finalizeMechanism
  simp only [later]
  split
  · exact .fails _ _ _
  · exact .returns _ nofun

lemma processPeerToken_extends (token : List α) :
    Extends more (h.processPeerToken token) ((h.later more).processPeerToken token) := by
  unfold processPeerToken
  simp only [later]
  match h.securityMechanism.processToken token with
  | (.error f, m) => exact .fails _ _ _
  | (.ok .continueWaiting, m) | (.ok .handshakeComplete, m) => exact .again (by exact past)
  | (.ok .produceAndSend, m) =>
    dsimp only
    match m.produceToken with
    | (.error f, m') | (.ok none, m') => exact .fails _ _ _
    | (.ok (some reply), m') => exact .writes (by exact past) _ nofun

lemma receiveToken_extends : Extends more h.receiveToken (h.later more).receiveToken := by
  have kept := readFrame_phase h
  have read := readHandshakeCommandFrame_readFrame h
  have receives (g : ZmtpProtocolHandler SK Key H T α) : g.receiveToken =
      match g.readHandshakeCommandFrame with
      | (.error e, g) => (g, .fail e)
      | (.ok none, g) => (g, .pending (.read .token))
      | (.ok (some msg), g) => g.processPeerToken msg.body := rfl
  rw [receives h]
  match answer : h.readHandshakeCommandFrame with
  | (.error e, h') => exact .fails _ _ _
  | (.ok none, h') =>
    have same : (h.later more).receiveToken = (h'.later more).receiveToken := by
      rw [receiveToken, receiveToken, readHandshakeCommandFrame_none answer more]
    rw [same]
    rw [answer] at read
    rw [← (Prod.mk.inj read).2] at kept
    exact .reads (kept ▸ past) .token
  | (.ok (some msg), h') =>
    rw [answer] at read
    rw [← (Prod.mk.inj read).2] at kept
    rw [receiveToken, readHandshakeCommandFrame_some answer more]
    exact processPeerToken_extends more (kept ▸ past) msg.body

lemma securityRound_extends : Extends more h.securityRound (h.later more).securityRound := by
  have same : (h.later more).securityMechanism = h.securityMechanism := rfl
  rw [securityRound, securityRound, same]
  split
  · exact finalizeMechanism_extends more
  · exact .fails _ _ _
  · match h.securityMechanism.produceToken with
    | (.error f, m) => exact .fails _ _ _
    | (.ok (some token), m) => exact .writes (by exact past) _ nofun
    | (.ok none, m) => exact receiveToken_extends (h := h.setMechanism m) more past

lemma performSecurityHandshake_extends :
    Extends more h.performSecurityHandshake (h.later more).performSecurityHandshake := by
  by_cases null : h.securityMechanism.kind = .null
  · have greeting : (h.later more).pendingPeerGreeting = h.pendingPeerGreeting := rfl
    have negotiates (g : ZmtpGreeting) : negotiateSecurityMechanism (h.later more).isServer
        (h.later more).config g (h.later more).entropy =
        (negotiateSecurityMechanism h.isServer h.config g h.entropy :
          Except ZmqError (SecurityMechanism SK Key H T α)) := rfl
    rw [performSecurityHandshake, performSecurityHandshake, if_pos null, if_pos (by exact null),
      greeting]
    split
    · exact .fails _ _ _
    · rw [negotiates]
      split
      · exact .fails _ _ _
      · next m _ => exact securityRound_extends (h := h.setMechanism m) more past
  · rw [performSecurityHandshake, performSecurityHandshake, if_neg null, if_neg (by exact null)]
    exact securityRound_extends more past

lemma advanceHandshake_extends :
    Extends more h.advanceHandshake (h.later more).advanceHandshake := by
  have same : (h.later more).subPhase = h.subPhase := rfl
  unfold advanceHandshake
  rw [same]
  cases phase : h.subPhase with
  | greetingExchange => exact absurd phase past
  | serverReceivedReady => exact .writes past _ nofun
  | waitingForPeerRevision => exact waitForPeerRevision_extends more past
  | waitingForGreeting => exact receiveGreeting_extends more past
  | securityHandshake => exact performSecurityHandshake_extends more past
  | readyExchange =>
    have role : (h.later more).isServer = h.isServer := rfl
    dsimp only
    rw [role]
    split
    · exact serverReceiveReady_extends more past phase
    · exact .writes past _ nofun
  | clientSentReady => exact clientReceiveReady_extends more past (by simp [phase])
  | v2IdentityExchange => exact exchangeV2Identity_extends more past
  | done => exact .returns _ past

lemma resumeRead_extends (what : HandshakeRead) :
    Extends more (h.resumeRead what) ((h.later more).resumeRead what) := by
  cases what with
  | revision => exact waitForPeerRevision_extends more past
  | greeting => exact receiveGreeting_extends more past
  | token => exact receiveToken_extends more past
  | ready =>
    have same : (h.later more).subPhase = h.subPhase := rfl
    simp only [resumeRead]
    rw [same]
    split
    · next phase => exact serverReceiveReady_extends more past phase
    · next phase => exact clientReceiveReady_extends more past phase
  | v2Greeting => exact exchangeV2Identity_extends more past
  | v2Identity => exact readV2IdentityFrame_extends more past

lemma resumeWrite_extends {what} (other : what ≠ .signature) :
    Extends more (h.resumeWrite what) ((h.later more).resumeWrite what) := by
  cases what with
  | signature => exact absurd rfl other
  | v2Tail | v3Tail | clientReady | serverReady => exact .returns _ nofun
  | token => exact securityRound_extends more past
  | v2Identity => exact readV2IdentityFrame_extends more past

end Extends

end ZmtpProtocolHandler

/-! ### A whole stream -/

def HandshakeProgress.noted (progress : HandshakeProgress α) (seen : Option (List α)) :
    Option (List α) :=
  match progress with
  | .identityReady identity => some identity
  | .inProgress | .handshakeComplete => seen

/-- What was known of the peer's identity before the last step, and what that step returned. -/
structure Conclusion (SK Key H T α : Type) where
  handler : ZmtpProtocolHandler SK Key H T α
  earlier : Option (List α)
  last : HandshakeProgress α

def Conclusion.identity (c : Conclusion SK Key H T α) : Option (List α) := c.last.noted c.earlier

section Concludes

variable [Octet α] [CryptoBox Key α] [CurveSuite SK Key α] [SnowHandshake H T α] [DecidableEq α]

inductive Concludes : ZmtpProtocolHandler SK Key H T α × Poll α → Option (List α) →
    Conclusion SK Key H T α → Prop where
  | stops (done : h.subPhase = .done) :
      Concludes (h, .ready (.ok progress)) seen ⟨h, seen, progress⟩
  | goes (going : h.subPhase ≠ .done)
      (rest : Concludes h.advanceHandshake (progress.noted seen) c) :
      Concludes (h, .ready (.ok progress)) seen c
  | writes (rest : Concludes (h.resumeWrite what) seen c) :
      Concludes (h, .pending (.write left what)) seen c
  | flushes (rest : Concludes (h.resumeWrite what) seen c) :
      Concludes (h, .pending (.flush what)) seen c
  | again (rest : Concludes h.securityRound seen c) :
      Concludes (h, .pending .again) seen c

lemma Concludes.unique {p : ZmtpProtocolHandler SK Key H T α × Poll α} {seen : Option (List α)}
    {c c' : Conclusion SK Key H T α} (first : Concludes p seen c) (second : Concludes p seen c') :
    c = c' := by
  induction first with
  | stops done =>
    cases second with
    | stops => rfl
    | goes going => exact absurd done going
  | goes going _ ih =>
    cases second with
    | stops done => exact absurd done going
    | goes _ rest => exact ih rest
  | writes _ ih => cases second with | writes rest => exact ih rest
  | flushes _ ih => cases second with | flushes rest => exact ih rest
  | again _ ih => cases second with | again rest => exact ih rest

/-- A handler that has written its signature, with the whole stream of its peer before it. -/
def opened (config : ZmtpEngineConfig SK α) (isServer : Bool) (entropy : Entropy SK)
    (stream : List α) : ZmtpProtocolHandler SK Key H T α :=
  { ZmtpProtocolHandler.new config isServer entropy with
    networkReadBuffer := stream
    subPhase := .waitingForPeerRevision }

def Hears (config : ZmtpEngineConfig SK α) (isServer : Bool) (entropy : Entropy SK)
    (stream : List α) (c : Conclusion SK Key H T α) : Prop :=
  Concludes (opened config isServer entropy stream).advanceHandshake none c

namespace Session

open ZmtpProtocolHandler

def resumed (s : Session SK Key H T α) (more : List α) :
    ZmtpProtocolHandler SK Key H T α × Poll α :=
  match s.await with
  | none => (s.handler.later more).advanceHandshake
  | some (.read what) => (s.handler.later more).resumeRead what
  | some w => (s.handler.later more, .pending w)

variable (config : ZmtpEngineConfig SK α) (isServer : Bool) (entropy : Entropy SK)
  (s : Session SK Key H T α)

structure Opening : Prop where
  handler : s.handler = .new config isServer entropy
  received : s.received = []
  identity : s.pendingPeerIdentity = none
  waits : ∀ w, s.await = some w → w = .flush .signature ∨ ∃ left, w = .write left .signature

structure Going : Prop where
  past : s.handler.subPhase ≠ .greetingExchange
  going : s.handler.subPhase ≠ .done
  write : ∀ left what, s.await = some (.write left what) → what ≠ .signature
  flush : ∀ what, s.await = some (.flush what) → what ≠ .signature
  hears : ∀ more c, Concludes (s.resumed more) s.pendingPeerIdentity c →
    Hears config isServer entropy (s.received ++ more) c

def Decided (identity : Option (List α)) : Prop :=
  ∀ more, ∃ c : Conclusion SK Key H T α,
    Hears config isServer entropy (s.received ++ more) c ∧ c.identity = identity

structure Traced : Prop where
  poised : Poised s
  running : s.currentPhase = .handshakeInProgress →
    Opening config isServer entropy s ∨ Going config isServer entropy s
  waiting : s.currentPhase = .waitingForPipes →
    Decided config isServer entropy s s.pendingPeerIdentity
  reported : ∀ id name, s.reported = some (id, name) → Decided config isServer entropy s id

variable {config isServer entropy} {s s' : Session SK Key H T α}

lemma Decided.read {identity}
    (settled : Decided config isServer entropy s identity) (bytes : List α) :
    Decided config isServer entropy { s with received := s.received ++ bytes } identity := by
  intro more
  rw [append_assoc]
  exact settled (bytes ++ more)

lemma Traced.shutDown (traced : Traced config isServer entropy s) :
    Traced config isServer entropy s.shutDown :=
  ⟨.shutDown s, nofun, nofun, traced.reported⟩

lemma Traced.checkOperational (poised : Poised s) (phase : s.currentPhase = .waitingForPipes)
    (settled : Decided config isServer entropy s s.pendingPeerIdentity)
    (reported : ∀ id name, s.reported = some (id, name) → Decided config isServer entropy s id) :
    Traced config isServer entropy s.checkOperational := by
  unfold Session.checkOperational
  split
  · refine ⟨⟨poised.started, fun w await => ?_⟩, nofun, nofun, fun id name same => ?_⟩
    · obtain ⟨running, -⟩ := poised.placed w await
      rw [phase] at running
      cases running
    · cases same
      exact settled
  · refine ⟨poised, fun running => ?_, fun _ => settled, reported⟩
    rw [phase] at running
    cases running

variable {q : List α → ZmtpProtocolHandler SK Key H T α × Poll α}
  {p : ZmtpProtocolHandler SK Key H T α × Poll α}

lemma Traced.settle (running : s.currentPhase = .handshakeInProgress)
    (reported : ∀ id name, s.reported = some (id, name) → Decided config isServer entropy s id)
    (extended : ∀ more, Extends more p (q more)) (poised : Poised (s.settle p))
    (hears : ∀ more c, Concludes (q more) s.pendingPeerIdentity c →
      Hears config isServer entropy (s.received ++ more) c) :
    Traced config isServer entropy (s.settle p) := by
  obtain ⟨h, poll⟩ := p
  match poll with
  | .ready (.error f) => exact ⟨poised, nofun, nofun, reported⟩
  | .pending w =>
    have going : h.subPhase ≠ .done := (poised.placed w rfl).2.not_done
    refine ⟨poised, fun _ => .inr ?_, fun waits => ?_, reported⟩
    · match w with
      | .read what | .again =>
        refine ⟨(extended []).1, going, nofun, nofun, fun more c ends => hears more c ?_⟩
        rw [(extended more).2]
        exact ends
      | .write left what =>
        refine ⟨(extended []).1, going, fun _ _ same => ?_, nofun, fun more c ends =>
          hears more c ?_⟩
        · cases same
          exact (extended []).2.1
        · rw [(extended more).2.2]
          exact ends
      | .flush what => exact (extended []).elim
    · cases running.symm.trans waits
  | .ready (.ok progress) =>
    have identity : ∃ seen, s.settle (h, .ready (.ok progress)) =
        checkComplete { s with handler := h, await := none, pendingPeerIdentity := seen } ∧
        seen = progress.noted s.pendingPeerIdentity := by
      cases progress <;> exact ⟨_, rfl, rfl⟩
    obtain ⟨seen, same, rfl⟩ := identity
    rw [same] at poised ⊢
    unfold checkComplete at poised ⊢
    split
    · next done =>
      rw [if_pos done] at poised
      have started := poised.started
      rw [(checkOperational_kept _).1] at started
      refine .checkOperational ⟨started, nofun⟩ rfl (fun more => ?_) reported
      refine ⟨⟨h.later more, s.pendingPeerIdentity, progress⟩, hears more _ ?_, rfl⟩
      rw [(extended more).2]
      exact .stops done
    · next going =>
      rw [if_neg going] at poised
      refine ⟨poised, fun _ => .inr ⟨(extended []).1, going, nofun, nofun, fun more c ends => ?_⟩,
        fun waits => ?_, reported⟩
      · refine hears more c ?_
        rw [(extended more).2]
        exact .goes going ends
      · cases running.symm.trans waits

lemma Going.settle (going : Going config isServer entropy s)
    (traced : Traced config isServer entropy s) (running : s.currentPhase = .handshakeInProgress)
    (written : List α) (extended : ∀ more, Extends more p (q more))
    (poised : Poised (settle { s with written } p))
    (leads : ∀ more c, Concludes (q more) s.pendingPeerIdentity c →
      Concludes (s.resumed more) s.pendingPeerIdentity c) :
    Traced config isServer entropy (settle { s with written } p) :=
  .settle (s := { s with written }) running traced.reported extended poised fun more c ends =>
    going.hears more c (leads more c ends)

/-- The future of the network arm is not dropped behind the greeting of a ZMTP/2.0 peer. -/
def Prudent (s : Session SK Key H T α) (a : SessionAction α) : Prop :=
  a.Interrupts → ∀ w, s.await = some w → ¬ w.OfIdentity

lemma Going.drop (going : Going config isServer entropy s) (poised : Poised s)
    (prudent : ∀ w, s.await = some w → ¬ w.OfIdentity) (more : List α)
    {seen c}
    (ends : Concludes (s.handler.later more).advanceHandshake seen c) :
    Concludes (s.resumed more) seen c := by
  unfold resumed
  cases await : s.await with
  | none => exact ends
  | some w =>
    have extended := advanceHandshake_extends more going.past
    have restarted {full : List α} {what : HandshakeWrite}
        (again : s.handler.advanceHandshake = (s.handler, .pending (.write full what))) :
        Concludes ((s.handler.later more).resumeWrite what) seen c := by
      rw [again] at extended
      rw [extended.2.2] at ends
      cases ends with
      | writes rest => exact rest
    have secures (securing : Securing s.handler) :
        Concludes ((s.handler.later more).securityRound) seen c := by
      have phase : (s.handler.later more).subPhase = .securityHandshake := securing.phase
      simp only [advanceHandshake, phase, performSecurityHandshake] at ends
      rwa [if_neg (by exact securing.kind)] at ends
    cases (poised.placed w await).2 with
    | read _ again =>
      rw [again] at extended
      rw [extended.2] at ends
      exact ends
    | write _ _ _ again => exact .writes (restarted again)
    | flush _ _ _ again => exact .flushes (restarted again)
    | token _ securing => exact .writes (secures securing)
    | again securing => exact .again (secures securing)
    | writeIdentity | flushIdentity | readIdentity => exact absurd trivial (prudent _ await)

lemma Traced.interrupt (traced : Traced config isServer entropy s)
    (running : s.currentPhase = .handshakeInProgress)
    (prudent : ∀ w, s.await = some w → ¬ w.OfIdentity) (attached : Bool) :
    Traced config isServer entropy { s with attached, await := none } := by
  refine ⟨⟨traced.poised.started, nofun⟩, fun _ => ?_, fun waits => ?_, traced.reported⟩
  · obtain opening | going := traced.running running
    · exact .inl ⟨opening.handler, opening.received, opening.identity, nofun⟩
    · exact .inr ⟨going.past, going.going, nofun, nofun, fun more c ends =>
        going.hears more c (going.drop traced.poised prudent more ends)⟩
  · cases running.symm.trans waits

omit [Octet α] [CryptoBox Key α] [CurveSuite SK Key α] [SnowHandshake H T α] [DecidableEq α] in
lemma Opening.not_done (opening : Opening config isServer entropy s) :
    s.handler.subPhase ≠ .done := by
  rw [opening.handler]
  nofun

lemma Opening.flush (opening : Opening config isServer entropy s)
    (traced : Traced config isServer entropy s) (running : s.currentPhase = .handshakeInProgress)
    (poised : Poised (s.settle (s.handler.resumeWrite .signature))) :
    Traced config isServer entropy (s.settle (s.handler.resumeWrite .signature)) := by
  refine .settle running traced.reported (fun more => ⟨nofun, rfl⟩) poised fun more c ends => ?_
  rw [opening.handler, opening.identity] at ends
  rw [opening.received]
  cases ends with
  | goes _ rest => exact rest
  | stops done => cases done

lemma Traced.step (responders : RespondersWait H) (traced : Traced config isServer entropy s)
    {a} (prudent : s.Prudent a) (taken : s.step a = some s') :
    Traced config isServer entropy s' := by
  have poised := traced.poised.step responders taken
  cases a with
  | poll =>
    obtain ⟨idle, running, rfl⟩ := step_cases taken
    obtain opening | going := traced.running running
    · have signs : s.handler.advanceHandshake = (s.handler, .pending (.write
          (encodeSignature ++ bytes [greetingVersionMajorByte]) .signature)) := by
        rw [opening.handler]
        rfl
      rw [signs] at poised ⊢
      refine ⟨poised, fun _ => .inl ⟨opening.handler, opening.received, opening.identity,
        fun w same => ?_⟩, fun waits => ?_, traced.reported⟩
      · cases same
        exact .inr ⟨_, rfl⟩
      · cases running.symm.trans waits
    · refine going.settle traced running s.written
        (fun more => advanceHandshake_extends more going.past) poised fun more c ends => ?_
      rw [resumed, idle]
      exact ends
  | read bytes =>
    obtain ⟨what, await, -, rfl⟩ := step_cases taken
    have running := (traced.poised.placed _ await).1
    obtain opening | going := traced.running running
    · obtain same | ⟨_, same⟩ := opening.waits _ await <;> cases same
    · refine .settle (s := { s with received := s.received ++ bytes }) running
        (fun id name same => (traced.reported id name same).read bytes)
        (fun more => resumeRead_extends more (by exact going.past) what) poised
        fun more c ends => ?_
      have hears := going.hears (bytes ++ more) c
      rw [resumed, await] at hears
      rw [append_assoc]
      refine hears ?_
      change Concludes (((s.handler.later bytes).later more).resumeRead what) _ _ at ends
      rwa [later_later] at ends
  | write count =>
    obtain ⟨left, what, await, -, ⟨short, rfl⟩ | ⟨-, rfl⟩⟩ := step_cases taken
    · have running := (traced.poised.placed _ await).1
      refine ⟨poised, fun _ => ?_, fun waits => ?_, traced.reported⟩
      · obtain opening | going := traced.running running
        · refine .inl ⟨opening.handler, opening.received, opening.identity, fun w same => ?_⟩
          cases same
          obtain same | ⟨_, same⟩ := opening.waits _ await <;> cases same
          exact .inr ⟨_, rfl⟩
        · refine .inr ⟨going.past, going.going, fun _ _ same => ?_, fun _ same => ?_,
            fun more c ends => ?_⟩
          · cases same
            exact going.write _ _ await
          · cases same
          · refine going.hears more c ?_
            rw [resumed, await]
            cases ends with
            | writes rest => exact .writes rest
      · cases running.symm.trans waits
    · have running := (traced.poised.placed _ await).1
      unfold wrote at poised ⊢
      split
      · next flushes =>
        rw [if_pos flushes] at poised
        refine ⟨poised, fun _ => ?_, fun waits => ?_, traced.reported⟩
        · obtain opening | going := traced.running running
          · refine .inl ⟨opening.handler, opening.received, opening.identity, fun w same => ?_⟩
            cases same
            obtain same | ⟨_, same⟩ := opening.waits _ await <;> cases same
            exact .inl rfl
          · refine .inr ⟨going.past, going.going, fun _ _ same => ?_, fun _ same => ?_,
              fun more c ends => ?_⟩
            · cases same
            · cases same
              exact going.write _ _ await
            · refine going.hears more c ?_
              rw [resumed, await]
              cases ends with
              | flushes rest => exact .writes rest
        · cases running.symm.trans waits
      · next plain =>
        rw [if_neg plain] at poised
        obtain opening | going := traced.running running
        · obtain same | ⟨_, same⟩ := opening.waits _ await <;> cases same
          exact absurd rfl plain
        · refine going.settle traced running _ (fun more =>
            resumeWrite_extends more going.past (going.write _ _ await)) poised
            fun more c ends => ?_
          rw [resumed, await]
          exact .writes ends
  | flush =>
    obtain ⟨what, await, rfl⟩ := step_cases taken
    have running := (traced.poised.placed _ await).1
    obtain opening | going := traced.running running
    · obtain same | ⟨_, same⟩ := opening.waits _ await <;> cases same
      exact opening.flush traced running poised
    · refine going.settle traced running s.written (fun more =>
        resumeWrite_extends more going.past (going.flush _ await)) poised fun more c ends => ?_
      rw [resumed, await]
      exact .flushes ends
  | again =>
    obtain ⟨await, rfl⟩ := step_cases taken
    have running := (traced.poised.placed _ await).1
    obtain opening | going := traced.running running
    · obtain same | ⟨_, same⟩ := opening.waits _ await <;> cases same
    · refine going.settle traced running s.written
        (fun more => securityRound_extends more going.past) poised fun more c ends => ?_
      rw [resumed, await]
      exact .again ends
  | fail e =>
    obtain ⟨-, rfl⟩ := step_cases taken
    exact traced.shutDown
  | stop =>
    obtain rfl := step_cases taken
    exact traced.shutDown
  | cancel =>
    obtain rfl := step_cases taken
    by_cases running : s.currentPhase = .handshakeInProgress
    · exact traced.interrupt running (prudent trivial) s.attached
    · exact ⟨poised, fun now => absurd now running, traced.waiting, traced.reported⟩
  | initializePipes =>
    obtain ⟨-, rfl⟩ := step_cases taken
    by_cases running : s.currentPhase = .handshakeInProgress
    · have going := (traced.running running).elim Opening.not_done Going.going
      rw [if_pos running, checkComplete, if_neg going]
      exact traced.interrupt running (prudent trivial) true
    · rw [if_neg running] at poised ⊢
      by_cases waits : s.currentPhase = .waitingForPipes
      · exact .checkOperational ⟨traced.poised.started, fun _ same => by cases same⟩ waits
          (traced.waiting waits) traced.reported
      · rw [Session.checkOperational, if_neg (fun all => waits all.1)] at poised ⊢
        exact ⟨poised, fun now => absurd now running, fun now => absurd now waits, traced.reported⟩

lemma hears_of_reported (responders : RespondersWait H)
    (reached : Reaches step Prudent (new config isServer entropy) s) {id name}
    (reported : s.reported = some (id, name)) {stream}
    (sent : s.received <+: stream) :
    ∃ c : Conclusion SK Key H T α, Hears config isServer entropy stream c ∧ c.identity = id := by
  have start : Traced config isServer entropy (new config isServer entropy :
      Session SK Key H T α) :=
    ⟨⟨trivial, nofun⟩, fun _ => .inl ⟨rfl, rfl, rfl, nofun⟩, nofun, nofun⟩
  have traced := reached.invariant
    (fun _ _ _ traced prudent taken => traced.step responders prudent taken) start
  obtain ⟨more, rfl⟩ := sent
  exact traced.reported id name reported more

end Session

end Concludes

end Rzmq
