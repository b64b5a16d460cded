import Rzmq.Security.NoiseSymbolic
import Rzmq.Session.Actor

/-! What a tokio session reports of its peer.  READY commands are read and written in the clear,
also after CURVE or NOISE_XX has come to its end, so that whoever writes to the stream at that time
says which identity and socket type the session reports. -/

namespace Rzmq

open List Option Octet Curve Transition ZmtpManualParser ZmtpProtocolHandler
open ZmtpProtocolHandler (commandFrame commandFrame_ne_nil completion parsePeerReadyIdentity
  parsePeerSocketType)

variable {SK Key H T α : Type}

/-! ## What is injected is reported -/

namespace ZmtpProtocolHandler

variable [Octet α] {h : ZmtpProtocolHandler SK Key H T α} {mx : Int} {properties : Metadata α}

lemma receivePeerReady_empty (empty : h.networkReadBuffer = []) :
    h.receivePeerReady = (.ok none, h) := by
  simp [receivePeerReady, readHandshakeCommandFrame, empty]

lemma receivePeerReady_ready (fresh : h.zmtpManualParser = .new mx)
    (admitted : admits mx (readyBody properties).length)
    (small : (readyBody properties).length < 2 ^ 64) (formed : properties.WellFormed) :
    receivePeerReady { h with networkReadBuffer := commandFrame (readyBody properties) } =
      (.ok (some properties), { h with
        networkReadBuffer := []
        peerSocketType := (parsePeerSocketType properties).or h.peerSocketType }) := by
  have made : commandMsg (readyBody properties) =
      .fromBytes (readyBody properties) commandFlags small := dif_pos small
  have fits : admits mx (commandMsg (readyBody properties)).size := by
    rw [made]
    exact admitted
  have decoded := decode_encode fits []
  rw [append_nil] at decoded
  have received : (commandMsg (readyBody properties)).received =
      commandMsg (readyBody properties) := by
    rw [made]
    rfl
  have command : (commandMsg (readyBody properties)).isCommand = true := by
    rw [made]
    rfl
  have parsed : ZmtpCommand.parse (commandMsg (readyBody properties)) = some (.ready properties) :=
    parse_readyBody formed (by rw [made]; rfl) (by rw [made]; rfl)
  have filled : (ZmtpCodec.encode (commandMsg (readyBody properties))).isEmpty = false := by
    rw [ZmtpCodec.encode, ZmtpCodec.header]
    split <;> rfl
  simp [receivePeerReady, readHandshakeCommandFrame, fresh, commandFrame, filled, decoded, received,
    command, parsed]

end ZmtpProtocolHandler

/-- A session right after CURVE or NOISE_XX has become ready: nothing that the peer sent later has
come in. -/
structure Session.Secured [Octet α] [CurveSuite SK Key α] (s : Session SK Key H T α) : Prop where
  mechanism : ∃ m, s.handler.completed = some m ∧ (m.kind = .curve ∨ m.kind = .noiseXx) ∧
    m.status = .ready ∧
    m.intoFramer s.handler.config.maxMsgSize = .ok (s.handler.framer, s.pendingPeerIdentity)
  subPhase : s.handler.subPhase = .readyExchange
  await : s.await = none
  phase : s.currentPhase = .handshakeInProgress
  reported : s.reported = none
  socketType : s.handler.peerSocketType = none
  identity : s.handler.peerIdentityFromReady = none
  parser : s.handler.zmtpManualParser = .new s.handler.config.maxMsgSize
  buffer : s.handler.networkReadBuffer = []

namespace Session

variable [Octet α] [CryptoBox Key α] [CurveSuite SK Key α] [SnowHandshake H T α] [DecidableEq α]
  {s : Session SK Key H T α}

/-- Once the handshake is done the session reports, at the latest when its pipes are attached. -/
lemma reports_when_done (done : s.handler.subPhase = .done) (identity : Option (List α)) :
    ∃ t, Reaches step (fun _ _ => True)
        (s.handleProgress (identity.elim .handshakeComplete .identityReady)) t ∧
      t.reported = some (identity.or s.pendingPeerIdentity, s.handler.peerSocketType) := by
  cases pipes : s.attached with
  | true =>
    refine ⟨_, .refl, ?_⟩
    cases identity <;> simp [handleProgress, checkComplete, checkOperational, done, pipes]
  | false =>
    have waiting : s.handleProgress (identity.elim .handshakeComplete .identityReady) =
        { s with
          pendingPeerIdentity := identity.or s.pendingPeerIdentity
          currentPhase := .waitingForPipes } := by
      cases identity <;> simp [handleProgress, checkComplete, checkOperational, done, pipes]
    have attached : step { s with
          pendingPeerIdentity := identity.or s.pendingPeerIdentity
          currentPhase := .waitingForPipes } .initializePipes = some { s with
          attached := true
          await := none
          currentPhase := .operational
          reported := some (identity.or s.pendingPeerIdentity, s.handler.peerSocketType)
          pendingPeerIdentity := none } := by
      simp [step, checkOperational, done, pipes]
    rw [waiting]
    exact ⟨_, Reaches.refl.tail trivial attached, rfl⟩

lemma step_writeReady (what : HandshakeWrite) (unflushed : what.flushes = false)
    (await : s.await = some (.write s.handler.readyFrame what)) :
    s.step (.write s.handler.readyFrame.length) =
      some (settle { s with written := s.written ++ s.handler.readyFrame }
        (s.handler.resumeWrite what)) := by
  have filled : 0 < s.handler.readyFrame.length :=
    length_pos_iff.mpr (commandFrame_ne_nil _)
  simp [step, await, filled, unflushed]

lemma reports_received (await : s.await = none) (phase : s.currentPhase = .handshakeInProgress)
    (received : s.handler.subPhase = .serverReceivedReady) :
    ∃ t, Reaches step (fun _ _ => True) s t ∧
      t.reported = some (s.handler.peerIdentityFromReady.or s.pendingPeerIdentity,
        s.handler.peerSocketType) := by
  have polled : s.step .poll =
      some { s with await := some (.write s.handler.readyFrame .serverReady) } := by
    simp [step, await, phase, advanceHandshake, received, settle]
  have sent := step_writeReady .serverReady rfl
    (s := { s with await := some (.write s.handler.readyFrame .serverReady) }) rfl
  obtain ⟨t, reached, reported⟩ := reports_when_done (s := { s with
    handler := { s.handler with peerIdentityFromReady := none, subPhase := .done }
    await := none
    written := s.written ++ s.handler.readyFrame }) rfl s.handler.peerIdentityFromReady
  exact ⟨t, ((Reaches.refl.tail trivial polled).tail trivial sent).trans reached, reported⟩

section Injected

abbrev told (s : Session SK Key H T α) (properties : Metadata α) :
    ZmtpProtocolHandler SK Key H T α :=
  { s.handler with
    networkReadBuffer := []
    peerSocketType := (parsePeerSocketType properties).or s.handler.peerSocketType }

variable {properties : Metadata α} (formed : properties.WellFormed)
  (small : (readyBody properties).length < 2 ^ 64)
  (admitted : admits s.handler.config.maxMsgSize (readyBody properties).length)

include formed small admitted

lemma step_readReady_server (await : s.await = some (.read .ready))
    (fresh : s.handler.zmtpManualParser = .new s.handler.config.maxMsgSize)
    (empty : s.handler.networkReadBuffer = []) (phase : s.handler.subPhase = .readyExchange) :
    s.step (.read (commandFrame (readyBody properties))) = some { s with
      handler := { s.told properties with
        peerIdentityFromReady := parsePeerReadyIdentity properties
        subPhase := .serverReceivedReady }
      await := none
      received := s.received ++ commandFrame (readyBody properties) } := by
  have taken := receivePeerReady_ready fresh admitted small formed
  rw [phase] at taken
  simp [step, await, empty, commandFrame_ne_nil,
    resumeRead, phase, serverReceiveReady, receiveReady, taken, settle,
    Poll.ok, handleProgress, checkComplete]

lemma step_readReady_client (await : s.await = some (.read .ready))
    (fresh : s.handler.zmtpManualParser = .new s.handler.config.maxMsgSize)
    (empty : s.handler.networkReadBuffer = []) (phase : s.handler.subPhase = .clientSentReady) :
    s.step (.read (commandFrame (readyBody properties))) =
      some (handleProgress { s with
        handler := { s.told properties with subPhase := .done }
        await := none
        received := s.received ++ commandFrame (readyBody properties) }
        ((parsePeerReadyIdentity properties).elim .handshakeComplete .identityReady)) := by
  have taken := receivePeerReady_ready fresh admitted small formed
  rw [phase] at taken
  simp [step, await, empty, commandFrame_ne_nil,
    resumeRead, phase, clientReceiveReady, receiveReady, taken, settle,
    completion, Poll.ok]

lemma Secured.injected_server (secured : s.Secured) (server : s.handler.isServer = true) :
    ∃ t, Reaches step (fun _ _ => True) s t ∧
      t.reported = some ((parsePeerReadyIdentity properties).or
        s.pendingPeerIdentity, parsePeerSocketType properties) := by
  have polled : s.step .poll = some { s with await := some (.read .ready) } := by
    simp [step, secured.await, secured.phase, advanceHandshake,
      secured.subPhase, server, serverReceiveReady, receiveReady,
      receivePeerReady_empty secured.buffer, settle]
  have came := step_readReady_server formed small
    (s := { s with await := some (.read .ready) }) admitted rfl secured.parser secured.buffer
    secured.subPhase
  obtain ⟨t, reached, reported⟩ := reports_received (s := { s with
    handler := { s.told properties with
      peerIdentityFromReady := parsePeerReadyIdentity properties
      subPhase := .serverReceivedReady }
    await := none
    received := s.received ++ commandFrame (readyBody properties) })
    rfl secured.phase rfl
  rw [told, secured.socketType, or_none] at reported
  exact ⟨t, ((Reaches.refl.tail trivial polled).tail trivial came).trans reached, reported⟩

lemma Secured.injected_client (secured : s.Secured) (client : s.handler.isServer = false) :
    ∃ t, Reaches step (fun _ _ => True) s t ∧
      t.reported = some ((parsePeerReadyIdentity properties).or
        s.pendingPeerIdentity, parsePeerSocketType properties) := by
  have polled : s.step .poll =
      some { s with await := some (.write s.handler.readyFrame .clientReady) } := by
    simp [step, secured.await, secured.phase, advanceHandshake, secured.subPhase, client, settle]
  have sent := step_writeReady .clientReady rfl
    (s := { s with await := some (.write s.handler.readyFrame .clientReady) }) rfl
  have again : step { s with
      handler := { s.handler with subPhase := .clientSentReady }
      await := none
      written := s.written ++ s.handler.readyFrame } .poll = some { s with
      handler := { s.handler with subPhase := .clientSentReady }
      await := some (.read .ready)
      written := s.written ++ s.handler.readyFrame } := by
    simp [step, secured.phase, advanceHandshake,
      clientReceiveReady, receiveReady,
      receivePeerReady_empty
        (h := { s.handler with subPhase := .clientSentReady }) secured.buffer, settle]
  have came := step_readReady_client formed small (s := { s with
      handler := { s.handler with subPhase := .clientSentReady }
      await := some (.read .ready)
      written := s.written ++ s.handler.readyFrame }) admitted rfl secured.parser secured.buffer rfl
  obtain ⟨t, reached, reported⟩ := reports_when_done (s := { s with
    handler := { s.told properties with subPhase := .done }
    await := none
    written := s.written ++ s.handler.readyFrame
    received := s.received ++ commandFrame (readyBody properties) })
    rfl (parsePeerReadyIdentity properties)
  rw [told, secured.socketType, or_none] at reported
  have written : Reaches step (fun _ _ => True) s { s with
      handler := { s.handler with subPhase := .clientSentReady }
      await := none
      written := s.written ++ s.handler.readyFrame } := by
    refine (Reaches.refl.tail trivial polled).tail trivial (sent.trans ?_)
    simp [settle, resumeWrite, Poll.ok, handleProgress, checkComplete]
  exact ⟨t, ((written.tail trivial again).tail trivial came).trans reached, reported⟩

lemma Secured.injected_reported (secured : s.Secured) : ∃ t, Reaches step (fun _ _ => True) s t ∧
      t.reported = some ((parsePeerReadyIdentity properties).or
        s.pendingPeerIdentity, parsePeerSocketType properties) := by
  cases role : s.handler.isServer with
  | true => exact secured.injected_server formed small admitted role
  | false => exact secured.injected_client formed small admitted role

end Injected

/-- What the session reports is what its peer said under the protection of the mechanism, and the
identity does not depend on bytes that come in later.  `peer` is the READY of the authenticated
peer. -/
structure Authentic (s : Session SK Key H T α) (peer : Metadata α) : Prop where
  identity : ∀ t id name, Reaches step (fun _ _ => True) s t →
    t.reported = some (some id, name) →
    s.pendingPeerIdentity = some id ∨ peer.get (utf8 "Identity") = some id
  socketType : ∀ t id name, Reaches step (fun _ _ => True) s t →
    t.reported = some (id, some name) →
    parsePeerSocketType peer = some name
  same : ∀ t t' r r', Reaches step (fun _ _ => True) s t → Reaches step (fun _ _ => True) s t' →
    t.reported = some r → t'.reported = some r' → r.1 = r'.1

/-! ### A forged identity -/

section Forged

omit [CryptoBox Key α] [CurveSuite SK Key α] [SnowHandshake H T α] [DecidableEq α]

def forgedReady (b : UInt8) : Metadata α := [(utf8 "Identity", [ofByte b])]

lemma forgedReady_formed (b : UInt8) : (forgedReady b : Metadata α).WellFormed := by
  have short : (utf8 "Identity").length ≤ 255 := by decide
  have text : validUtf8 (utf8 "Identity") = true := by decide +kernel
  intro entry mem
  cases mem_singleton.mp mem
  exact ⟨short, text, by simp⟩

lemma forgedReady_length (b : UInt8) : (readyBody (forgedReady b : Metadata α)).length = 20 := by
  have name : (utf8 "Identity").length = 8 := by decide
  have command : (commandName "READY").length = 6 := by decide
  simp [readyBody, forgedReady, encodeEntry, name, command]

lemma forgedReady_identity (b : UInt8) :
    parsePeerReadyIdentity (forgedReady b : Metadata α) = some [ofByte b] := by
  rw [parsePeerReadyIdentity, forgedReady, Metadata.get_single]
  rfl

lemma exists_forged (x y : Option (List α)) :
    ∃ b : UInt8, x ≠ some [ofByte b] ∧ y ≠ some [ofByte b] := by
  have differ {b c : UInt8} (ne : b ≠ c) (z : Option (List α)) (eq : z = some [ofByte b]) :
      z ≠ some [ofByte c] := by
    rw [eq]
    intro same
    have octets : (ofByte b : α) = ofByte c := by simpa using same
    exact ne (by rw [← toByte_ofByte (α := α) b, octets, toByte_ofByte])
  by_contra none
  push Not at none
  by_cases x0 : x = some [ofByte 0]
  · have y1 := none 1 (differ (by decide) x x0)
    exact differ (by decide) y y1 (none 2 (differ (by decide) x x0))
  · have y0 := none 0 x0
    by_cases x1 : x = some [ofByte 1]
    · exact differ (by decide) y y0 (none 2 (differ (by decide) x x1))
    · exact differ (by decide) y y0 (none 1 x1)

end Forged

lemma Secured.not_authentic (secured : s.Secured)
    (admitted : admits s.handler.config.maxMsgSize 20) (peer : Metadata α) :
    ¬ s.Authentic peer := by
  intro authentic
  obtain ⟨b, notMechanism, notPeer⟩ :=
    exists_forged s.pendingPeerIdentity (peer.get (utf8 "Identity"))
  obtain ⟨t, reached, reported⟩ := secured.injected_reported (forgedReady_formed b)
    (by rw [forgedReady_length]; decide) (by rwa [forgedReady_length])
  rw [forgedReady_identity] at reported
  rcases authentic.identity t _ _ reached reported with same | same
  · exact notMechanism same
  · exact notPeer same

/-! ### A limit below every identity -/

/-- A handler in its exchange of READY commands, under a limit below twenty bytes, that knows
nothing of its peer. -/
structure Quiet (h : ZmtpProtocolHandler SK Key H T α) : Prop where
  parser : Admissible h.zmtpManualParser
  limited : 0 ≤ h.zmtpManualParser.maxMsgSize ∧ h.zmtpManualParser.maxMsgSize < 20
  socketType : h.peerSocketType = none
  identity : h.peerIdentityFromReady = none
  phase : h.subPhase = .readyExchange ∨ h.subPhase = .clientSentReady ∨
    h.subPhase = .serverReceivedReady ∨ h.subPhase = .done

def Await.ofReady : Await α → Prop
  | .read .ready | .write _ .clientReady | .write _ .serverReady => True
  | _ => False

structure QuietPoll (p : ZmtpProtocolHandler SK Key H T α × Poll α) : Prop where
  quiet : Quiet p.1
  await : ∀ a, p.2 = .pending a → Await.ofReady a
  anonymous : ∀ id, p.2 ≠ .ok (.identityReady id)

namespace Quiet

omit [CryptoBox Key α] [CurveSuite SK Key α] [SnowHandshake H T α] [DecidableEq α]

variable {h : ZmtpProtocolHandler SK Key H T α}

lemma readHandshakeCommandFrame (quiet : Quiet h) :
    Quiet h.readHandshakeCommandFrame.2 ∧
      ∀ msg, h.readHandshakeCommandFrame.1 = .ok (some msg) → msg.size < 20 := by
  unfold ZmtpProtocolHandler.readHandshakeCommandFrame
  split
  · exact ⟨quiet, nofun⟩
  · generalize decoded : h.zmtpManualParser.decodeFromBuffer h.networkReadBuffer = answer
    obtain ⟨result, parser, rest⟩ := answer
    match result with
    | .error e =>
      cases decode_error decoded
      exact ⟨⟨quiet.parser, quiet.limited, quiet.socketType, quiet.identity, quiet.phase⟩, nofun⟩
    | .ok none =>
      obtain ⟨admissible, limit⟩ := decode_admissible quiet.parser decoded
      have limited := quiet.limited
      rw [← limit] at limited
      exact ⟨⟨admissible, limited, quiet.socketType, quiet.identity, quiet.phase⟩, nofun⟩
    | .ok (some msg) =>
      obtain ⟨admissible, limit⟩ := decode_admissible quiet.parser decoded
      have limited := quiet.limited
      have short : msg.size < 20 := by
        have admitted := (decode_some decoded).2.2 quiet.parser limited.1
        omega
      rw [← limit] at limited
      have kept : Quiet { h with zmtpManualParser := parser, networkReadBuffer := rest } :=
        ⟨admissible, limited, quiet.socketType, quiet.identity, quiet.phase⟩
      dsimp only
      split
      · refine ⟨kept, fun m found => ?_⟩
        cases found
        exact short
      · exact ⟨kept, nofun⟩

lemma says_nothing {msg : Msg α} {properties} (short : msg.size < 20)
    (parsed : ZmtpCommand.parse msg = some (.ready properties)) :
    parsePeerReadyIdentity properties = none ∧ parsePeerSocketType properties = none := by
  obtain ⟨named, -, entries⟩ := ZmtpCommand.parse_ready parsed
  have small (name : List UInt8) (value : List α) (found : properties.get name = some value) :
      5 + name.length + value.length < 14 := by
    have stands : 5 + name.length + value.length ≤ (msg.body.drop 6).length :=
      parseProperties_length entries _ (Metadata.mem_of_get found)
    rw [length_drop] at stands
    have : msg.body.length < 20 := short
    omega
  have identityName : (utf8 "Identity").length = 8 := by decide
  have socketTypeName : (utf8 "Socket-Type").length = 11 := by decide
  constructor
  · rw [parsePeerReadyIdentity]
    cases found : properties.get (utf8 "Identity") with
    | none => rfl
    | some id =>
      have empty : id = [] := by
        have bound := small _ _ found
        exact length_eq_zero_iff.mp (by omega)
      rw [empty]
      rfl
  · rw [parsePeerSocketType]
    cases found : properties.get (utf8 "Socket-Type") with
    | none => rfl
    | some value =>
      have bound := small _ _ found
      omega

lemma receivePeerReady (quiet : Quiet h) :
    Quiet h.receivePeerReady.2 ∧ ∀ properties, h.receivePeerReady.1 = .ok (some properties) →
      parsePeerReadyIdentity properties = none := by
  have read := quiet.readHandshakeCommandFrame
  unfold ZmtpProtocolHandler.receivePeerReady
  generalize h.readHandshakeCommandFrame = frame at read
  obtain ⟨result, h'⟩ := frame
  obtain ⟨kept, short⟩ := read
  match result with
  | .error e | .ok none => exact ⟨kept, nofun⟩
  | .ok (some msg) =>
    dsimp only
    split
    · rename_i properties parsed
      obtain ⟨noIdentity, noType⟩ := says_nothing (short msg rfl) parsed
      refine ⟨⟨kept.parser, kept.limited, ?_, kept.identity, kept.phase⟩, fun found same => ?_⟩
      · rw [noType, none_or]
        exact kept.socketType
      · cases same
        exact noIdentity
    · exact ⟨kept, nofun⟩

lemma receiveReady (quiet : Quiet h) {goOn} (goesOn : ∀ properties h', Quiet h' →
    parsePeerReadyIdentity properties = none → QuietPoll (goOn properties h')) :
    QuietPoll (h.receiveReady goOn) := by
  have received := quiet.receivePeerReady
  unfold ZmtpProtocolHandler.receiveReady
  generalize h.receivePeerReady = ready at received
  obtain ⟨result, h'⟩ := ready
  obtain ⟨kept, anonymous⟩ := received
  match result with
  | .error e => exact ⟨kept, nofun, nofun⟩
  | .ok none => exact ⟨kept, fun a pending => by cases pending; trivial, nofun⟩
  | .ok (some properties) => exact goesOn properties h' kept (anonymous properties rfl)

lemma serverReceiveReady (quiet : Quiet h) : QuietPoll h.serverReceiveReady :=
  quiet.receiveReady fun _ _ kept anonymous => ⟨⟨kept.parser, kept.limited, kept.socketType,
    anonymous, .inr (.inr (.inl rfl))⟩, nofun, nofun⟩

lemma clientReceiveReady (quiet : Quiet h) : QuietPoll h.clientReceiveReady := by
  refine quiet.receiveReady fun _ _ kept anonymous => ?_
  rw [anonymous]
  exact ⟨⟨kept.parser, kept.limited, kept.socketType, kept.identity, .inr (.inr (.inr rfl))⟩,
    nofun, nofun⟩

end Quiet

variable {h : ZmtpProtocolHandler SK Key H T α}

lemma Quiet.advanceHandshake (quiet : Quiet h) : QuietPoll h.advanceHandshake := by
  unfold ZmtpProtocolHandler.advanceHandshake
  rcases quiet.phase with phase | phase | phase | phase
  · simp only [phase]
    split
    · exact quiet.serverReceiveReady
    · exact ⟨quiet, fun a pending => by cases pending; trivial, nofun⟩
  · simp only [phase]
    exact quiet.clientReceiveReady
  · simp only [phase]
    exact ⟨quiet, fun a pending => by cases pending; trivial, nofun⟩
  · simp only [phase]
    exact ⟨quiet, nofun, nofun⟩

lemma Quiet.resumeRead (quiet : Quiet h) : QuietPoll (h.resumeRead .ready) := by
  simp only [ZmtpProtocolHandler.resumeRead]
  split
  · exact quiet.serverReceiveReady
  · exact quiet.clientReceiveReady

lemma Quiet.resumeWrite (quiet : Quiet h) {what}
    (ready : what = .clientReady ∨ what = .serverReady) : QuietPoll (h.resumeWrite what) := by
  have ⟨parser, limited, socketType, identity, _⟩ := quiet
  rcases ready with rfl | rfl
  · exact ⟨⟨parser, limited, socketType, identity, .inr (.inl rfl)⟩, nofun, nofun⟩
  · simp only [ZmtpProtocolHandler.resumeWrite, identity]
    exact ⟨⟨parser, limited, socketType, rfl, .inr (.inr (.inr rfl))⟩, nofun, nofun⟩

/-- The invariant of a session with such a handler: it reports the identity of the mechanism. -/
structure Unforged (identity : Option (List α)) (t : Session SK Key H T α) : Prop where
  quiet : Quiet t.handler
  await : ∀ a, t.await = some a → Await.ofReady a ∧ t.currentPhase = .handshakeInProgress
  reported : (t.reported = none ∧ t.pendingPeerIdentity = identity) ∨
    (t.reported = some (identity, none) ∧
      (t.currentPhase = .operational ∨ t.currentPhase = .shuttingDownStream))

namespace Unforged

variable {identity : Option (List α)} {t u : Session SK Key H T α}

section

omit [Octet α] [CryptoBox Key α] [CurveSuite SK Key α] [SnowHandshake H T α] [DecidableEq α]

section

variable (unforged : Unforged identity t)
include unforged

lemma unreported
    (phase : t.currentPhase = .handshakeInProgress ∨ t.currentPhase = .waitingForPipes) :
    t.reported = none ∧ t.pendingPeerIdentity = identity := by
  rcases unforged.reported with before | ⟨-, after⟩
  · exact before
  · rcases phase with phase | phase <;> rw [phase] at after <;> rcases after with h | h <;> cases h

lemma checkOperational (idle : t.await = none) : Unforged identity t.checkOperational := by
  unfold Session.checkOperational
  split
  · rename_i ready
    obtain ⟨-, pending⟩ := unforged.unreported (.inr ready.1)
    refine ⟨unforged.quiet, fun a await => ?_, .inr ⟨?_, .inl rfl⟩⟩
    · rw [idle] at await
      cases await
    · rw [pending, unforged.quiet.socketType]
  · exact unforged

lemma checkComplete (idle : t.await = none) (phase : t.currentPhase = .handshakeInProgress) :
    Unforged identity t.checkComplete := by
  unfold Session.checkComplete
  split
  · refine checkOperational ⟨unforged.quiet, fun a await => ?_, ?_⟩ idle
    · rw [idle] at await
      cases await
    · exact .inl (unforged.unreported (.inl phase))
  · exact unforged

lemma shutDown : Unforged identity t.shutDown := by
  have ⟨⟨parser, limited, socketType, ready, phase⟩, _, reported⟩ := unforged
  refine ⟨⟨parser, limited, socketType, ready, phase⟩, nofun, ?_⟩
  exact reported.imp_right fun after => ⟨after.1, .inr rfl⟩

lemma settle (phase : t.currentPhase = .handshakeInProgress) {p} (polled : QuietPoll p) :
    Unforged identity (t.settle p) := by
  obtain ⟨handler, poll⟩ := p
  have before := unforged.unreported (.inl phase)
  match poll with
  | .pending a =>
    refine ⟨polled.quiet, fun b await => ?_, .inl before⟩
    cases await
    exact ⟨polled.await a rfl, phase⟩
  | .ready (.error f) =>
    exact shutDown (t := { t with handler }) ⟨polled.quiet, unforged.await, .inl before⟩
  | .ready (.ok progress) =>
    have idle : Unforged identity { t with handler, await := none } :=
      ⟨polled.quiet, nofun, .inl before⟩
    cases progress with
    | inProgress | handshakeComplete => exact idle.checkComplete rfl phase
    | identityReady id => exact absurd rfl (polled.anonymous id)

end

end

lemma step (unforged : Unforged identity t) {a} (taken : t.step a = some u) :
    Unforged identity u := by
  unfold Session.step at taken
  split at taken
  case h_1 =>
    split at taken
    · rename_i phase
      cases taken
      exact unforged.settle phase unforged.quiet.advanceHandshake
    · cases taken
  case h_2 bytes what await =>
    obtain ⟨ready, phase⟩ := unforged.await _ await
    split at taken
    · cases taken
    · cases taken
      have ⟨parser, limited, socketType, identity, later⟩ := unforged.quiet
      cases what with
      | ready =>
        exact settle (t := { t with received := t.received ++ bytes })
          ⟨unforged.quiet, unforged.await, unforged.reported⟩ phase
          (Quiet.resumeRead ⟨parser, limited, socketType, identity, later⟩)
      | revision | greeting | token | v2Greeting | v2Identity => exact ready.elim
  case h_3 count left what await =>
    obtain ⟨ready, phase⟩ := unforged.await _ await
    have before := unforged.unreported (.inl phase)
    have command : what = .clientReady ∨ what = .serverReady := by
      cases what with
      | clientReady => exact .inl rfl
      | serverReady => exact .inr rfl
      | signature | v2Tail | v3Tail | token | v2Identity => exact ready.elim
    have unflushed : what.flushes = false := by
      rcases command with rfl | rfl <;> rfl
    have writing (left' : List α) : Await.ofReady (.write left' what) := by
      rcases command with rfl | rfl <;> trivial
    dsimp only at taken
    split at taken
    · split at taken
      · cases taken
        refine ⟨unforged.quiet, fun b next => ?_, .inl before⟩
        cases next
        exact ⟨writing _, phase⟩
      · rw [unflushed] at taken
        cases taken
        exact settle (t := { t with written := t.written ++ left.take count })
          ⟨unforged.quiet, unforged.await, .inl before⟩ phase (unforged.quiet.resumeWrite command)
    · cases taken
  case h_4 what await =>
    obtain ⟨ready, -⟩ := unforged.await _ await
    cases what <;> exact ready.elim
  case h_5 await => exact (unforged.await _ await).1.elim
  case h_6 await | h_7 await | h_8 await =>
    cases taken
    exact unforged.settle (unforged.await _ await).2 ⟨unforged.quiet, nofun, nofun⟩
  case h_9 =>
    cases taken
    exact ⟨unforged.quiet, nofun, unforged.reported⟩
  case h_10 =>
    split at taken
    · cases taken
    · cases taken
      have attached : Unforged identity { t with attached := true, await := none } :=
        ⟨unforged.quiet, nofun, unforged.reported⟩
      dsimp only
      split
      · rename_i phase
        exact attached.checkComplete rfl phase
      · exact attached.checkOperational rfl
  case h_11 =>
    cases taken
    exact unforged.shutDown
  case h_12 => cases taken

end Unforged

lemma Secured.authentic (secured : s.Secured)
    (limited : 0 ≤ s.handler.config.maxMsgSize ∧ s.handler.config.maxMsgSize < 20)
    (peer) : s.Authentic peer := by
  have start : Unforged s.pendingPeerIdentity s := by
    refine ⟨⟨?_, ?_, secured.socketType, secured.identity, .inl secured.subPhase⟩, ?_,
      .inl ⟨secured.reported, rfl⟩⟩
    · rw [secured.parser]
      trivial
    · rw [secured.parser]
      exact limited
    · rw [secured.await]
      nofun
  have only (t : Session SK Key H T α) (reached : Reaches step (fun _ _ => True) s t)
      (r : Option (List α) × Option String) (reported : t.reported = some r) :
      r = (s.pendingPeerIdentity, none) := by
    have unforged := reached.invariant (fun _ _ _ unforged _ taken => unforged.step taken) start
    rcases unforged.reported with ⟨never, -⟩ | ⟨once, -⟩
    · rw [never] at reported
      cases reported
    · rw [once] at reported
      exact (some.inj reported).symm
  refine ⟨fun t id name reached reported => ?_, fun t id name reached reported => ?_,
    fun t t' r r' reached reached' reported reported' => ?_⟩
  · exact .inl (congrArg Prod.fst (only t reached _ reported)).symm
  · cases congrArg Prod.snd (only t reached _ reported)
  · rw [only t reached r reported, only t' reached' r' reported']

/-- What the session reports of its peer is authentic only when the limit on messages keeps every
READY command out that names an identity. -/
theorem metadata_authentic_iff (secured : s.Secured) (peer : Metadata α) :
    s.Authentic peer ↔ 0 ≤ s.handler.config.maxMsgSize ∧ s.handler.config.maxMsgSize < 20 := by
  constructor
  · intro authentic
    by_contra unlimited
    refine secured.not_authentic (fun limit => ?_) peer authentic
    omega
  · exact fun limited => secured.authentic limited peer

end Session

open Noise

def noiseConfig (maxMsgSize : Int) : ZmtpEngineConfig NoKey Symbol where
  routingId := none
  socketTypeName := "ROUTER"
  securityEnabled := true
  useNoiseXx := true
  noiseXxLocalSk := some [2]
  noiseXxRemotePk := none
  useCurve := false
  curveLocalSecretKey := none
  curveRemotePublicKey := none
  usePlain := false
  plainUsername := none
  plainPassword := none
  maxMsgSize
  allowZmtp2 := false

def noiseSession (maxMsgSize : Int) : Session NoKey NoKey Handshake Transport Symbol :=
  .new (noiseConfig maxMsgSize) true ⟨⟨⟩, 6⟩

/-- The session with a client that has the secret key `[1]`, up to the end of NOISE_XX. -/
def noiseHandshake : List (SessionAction Symbol) :=
  [.poll, .write 11, .flush, .poll,
    .read (encodeSignature ++ bytes [greetingVersionMajorByte] ++
      encodeV3TailPostMajor MechanismKind.noiseXx.nameBytes false),
    .write 53, .flush, .poll, .poll,
    .read (commandFrame [.ephemeral 5]), .write 4,
    .read (commandFrame [.encrypted 5 6 [1]]), .again]

namespace Session

/-- A limit of nineteen bytes, which no command of the real handshake would pass. -/
theorem metadata_authentic_nineteen :
    ∃ s, Reaches step (fun _ _ => True) (noiseSession 19) s ∧ s.Secured ∧
      (s.Authentic [] ↔ 0 ≤ s.handler.config.maxMsgSize ∧ s.handler.config.maxMsgSize < 20) := by
  have ended : ∃ s, run step (noiseSession 19) noiseHandshake = some s ∧ s.Secured :=
    ⟨_, rfl, ⟨⟨_, rfl, .inr rfl, rfl, rfl⟩, rfl, rfl, rfl, rfl, rfl, rfl, rfl, rfl⟩⟩
  obtain ⟨s, ran, secured⟩ := ended
  exact ⟨s, reaches_of_run _ (fun _ _ _ => trivial) ran, secured, metadata_authentic_iff secured []⟩

/-- Without a limit: after NOISE_XX has authenticated the client, other bytes make the session
report another identity. -/
theorem forged_identity_reported :
    ∃ s t, Reaches step (fun _ _ => True) (noiseSession (-1)) s ∧ s.Secured ∧
      s.pendingPeerIdentity = some [.publicKey [1]] ∧ Reaches step (fun _ _ => True) s t ∧
      t.currentPhase = .operational ∧ t.reported = some (some [.byte 65], none) ∧
      ∀ peer : Metadata Symbol, peer.get (utf8 "Identity") ≠ some [.byte 65] →
        ¬ s.Authentic peer := by
  have ended : ∃ s, run step (noiseSession (-1)) noiseHandshake = some s ∧ s.Secured ∧
      s.pendingPeerIdentity = some [.publicKey [1]] ∧
      (run step s [.poll, .read (commandFrame (readyBody (forgedReady 65))),
        .poll, .write s.handler.readyFrame.length, .initializePipes]).map
        (fun t => (t.currentPhase, t.reported)) =
        some (.operational, some (some [.byte 65], none)) :=
    ⟨_, rfl, ⟨⟨_, rfl, .inr rfl, rfl, rfl⟩, rfl, rfl, rfl, rfl, rfl, rfl, rfl, rfl⟩, rfl,
      by decide +kernel⟩
  obtain ⟨s, ran, secured, pending, forged⟩ := ended
  obtain ⟨t, ran', shown⟩ := map_eq_some_iff.mp forged
  obtain ⟨operational, reported⟩ := Prod.mk.inj shown
  have reached := reaches_of_run _ (fun _ _ _ => trivial) ran'
  refine ⟨s, t, reaches_of_run _ (fun _ _ _ => trivial) ran, secured, pending, reached,
    operational, reported, fun peer other authentic => ?_⟩
  rcases authentic.identity t _ _ reached reported with same | same
  · rw [pending] at same
    cases same
  · exact other same

end Session

end Rzmq
