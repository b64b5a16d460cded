import Rzmq.Lib.Transition
import Rzmq.Session.Data
import Rzmq.Socket.Orchestrator

/-! A PULL socket fed by `n` NULL sessions, as a transition system.  An item of the queue carries
the number of the connection that it came from, which the source does not keep: it is there to say
whose message was returned. -/

namespace Rzmq

open Function

/-- `outgoing c` are the batches that the sending session has still to write, PING and PONG among
them; `stream c` the bytes on their way. -/
structure Pull (n : Nat) (α : Type) where
  outgoing : Fin n → List (List (Msg α))
  stream : Fin n → List α
  sessions : Fin n → DataSession α
  orchestrator : IncomingMessageOrchestrator (Fin n × List (Msg α)) α
  returned : List (Fin n × List (Msg α))

inductive PullAction (n : Nat) where
  | write (c : Fin n)
  | poll (c : Fin n)
  | read (c : Fin n) (bytes : Nat)
  /-- Another arm of `select!` wins while the session waits for bytes. -/
  | cancel (c : Fin n)
  | handle (c : Fin n)
  | queue (c : Fin n)
  | queueExpire (c : Fin n)
  | recvMultipart

namespace Pull

variable {n : Nat} {α : Type}

def new (rcvhwm : Nat) (maxMsgSize : Fin n → Int) (isV2 : Fin n → Bool)
    (outgoing : Fin n → List (List (Msg α))) : Pull n α where
  outgoing
  stream _ := []
  sessions c := .new (maxMsgSize c) (isV2 c)
  orchestrator := .new (max rcvhwm 1)
  returned := []

def setSession (s : Pull n α) (c : Fin n) (session : DataSession α) : Pull n α :=
  { s with sessions := update s.sessions c session }

variable [Octet α] (s : Pull n α) (c : Fin n)

def write : Option (Pull n α) :=
  match s.outgoing c with
  | [] => none
  | batch :: rest =>
    match writeDataMsgs (s.sessions c).framer batch with
    | .ok bytes =>
      some { s with
        outgoing := update s.outgoing c rest
        stream := update s.stream c (s.stream c ++ bytes) }
    | .error _ => none

def poll : Option (Pull n α) :=
  match (s.sessions c).stage with
  | .polling => some (s.setSession c (s.sessions c).readDataFrame)
  | _ => none

def read (bytes : Nat) : Option (Pull n α) :=
  match (s.sessions c).stage with
  | .reading =>
    if 0 < bytes ∧ bytes ≤ (s.stream c).length then
      let session := s.sessions c
      some { s.setSession c { session with
          networkReadBuffer := session.networkReadBuffer ++ (s.stream c).take bytes
          stage := .polling } with
        stream := update s.stream c ((s.stream c).drop bytes) }
    else none
  | _ => none

def cancel : Option (Pull n α) :=
  match (s.sessions c).stage with
  | .reading => some (s.setSession c ((s.sessions c).setStage .polling))
  | _ => none

def handle : Option (Pull n α) :=
  match (s.sessions c).stage with
  | .handling msg =>
    if msg.isCommand then some (s.setSession c ((s.sessions c).handleCommand msg))
    else
      match s.orchestrator.accumulatePipeFrame c msg with
      | (none, o) =>
        some { s.setSession c ((s.sessions c).setStage .polling) with orchestrator := o }
      | (some message, o) =>
        some { s.setSession c ((s.sessions c).setStage (.queueing message)) with
          orchestrator := o }
  | _ => none

def queue : Option (Pull n α) :=
  match (s.sessions c).stage with
  | .queueing message =>
    match s.orchestrator.queueItem (c, message) with
    | none => none
    | some (.ok o) =>
      some { s.setSession c ((s.sessions c).setStage .polling) with orchestrator := o }
    | some (.error e) => some (s.setSession c ((s.sessions c).setStage (.failed e)))
  | _ => none

def queueExpire : Option (Pull n α) :=
  match (s.sessions c).stage with
  | .queueing message =>
    match s.orchestrator.queueItem (c, message) with
    | none => some (s.setSession c ((s.sessions c).setStage .polling))
    | some _ => none
  | _ => none

def recvMultipart : Option (Pull n α) :=
  match s.orchestrator.resetRecvMessageBuffer.recvItemFromMainQueue .infinite with
  | some (.ok item, o) => some { s with orchestrator := o, returned := s.returned ++ [item] }
  | _ => none

def step : PullAction n → Option (Pull n α)
  | .write c => s.write c
  | .poll c => s.poll c
  | .read c bytes => s.read c bytes
  | .cancel c => s.cancel c
  | .handle c => s.handle c
  | .queue c => s.queue c
  | .queueExpire c => s.queueExpire c
  | .recvMultipart => s.recvMultipart

end Pull

/-! What one connection carries.  The messages that were sent are those that were queued, then those
that the frames collected, the frame in hand and the bytes on their way amount to, as long as no
read brings the buffer of a session above its limit. -/

open List Incremental Octet
open ZmtpManualParser (admits decode_length decode_none decode_none_again decode_some decoder
  decoder_resumable waiting_short weight_append)

variable {α : Type} [Octet α]

def Heartbeat (m : Msg α) : Prop :=
  m.flags = commandFlags ∧
    ((∃ ttl context, m.body = createPing ttl context) ∨ ∃ context, m.body = createPong context)

lemma startsWith_name (name other : String) (rest : List α)
    (same : (commandName name).length = (commandName other).length) :
    startsWith (bytes (commandName name) ++ rest) other =
      (commandName name == commandName other) := by
  unfold startsWith
  rw [← same, take_left' (bytes_length _), reading_bytes]

lemma Heartbeat.processed {m : Msg α} (h : Heartbeat m) :
    ∃ reply, DataSession.processHeartbeatCommand m.received = .ok reply := by
  obtain ⟨flags, ⟨ttl, context, body⟩ | ⟨context, body⟩⟩ := h
  · have ping : startsWith m.body "PING" = true := by
      rw [body, createPing, append_assoc, startsWith_name "PING" "PING" _ rfl]
      simp
    have long : 7 ≤ m.body.length := by
      have name : (commandName "PING").length = 5 := by decide
      simp [body, createPing, bytes_length, be_length, name]
      omega
    have parsed : ZmtpCommand.parse m.received = some (.ping (m.body.drop 7)) := by
      simp [ZmtpCommand.parse, Msg.received, Msg.fromBytes, Msg.isCommand, Msg.isMore, flags,
        commandFlags, ping, long]
    exact ⟨_, by rw [DataSession.processHeartbeatCommand, parsed]⟩
  · have notPing : startsWith m.body "PING" = false := by
      rw [body, createPong, startsWith_name "PONG" "PING" _ (by decide)]
      decide
    have pong : startsWith m.body "PONG" = true := by
      rw [body, createPong, startsWith_name "PONG" "PONG" _ rfl]
      simp
    have long : 5 ≤ m.body.length := by
      have name : (commandName "PONG").length = 5 := by decide
      simp only [body, createPong, length_append, bytes_length, name]
      omega
    have parsed : ZmtpCommand.parse m.received = some (.pong (m.body.drop 5)) := by
      simp [ZmtpCommand.parse, Msg.received, Msg.fromBytes, Msg.isCommand, Msg.isMore, flags,
        commandFlags, notPing, pong, long]
    exact ⟨_, by rw [DataSession.processHeartbeatCommand, parsed]⟩

/-! ## One connection -/

/-- What of the system belongs to one connection: `passed` are the messages that were queued, those
already returned first. -/
structure Lane (α : Type) where
  outgoing : List (List (Msg α))
  stream : List α
  session : DataSession α
  collected : List (Msg α)
  passed : List (List (Msg α))

namespace Lane

def unread (v : Lane α) : List α :=
  v.session.networkReadBuffer ++ (v.stream ++ ZmtpCodec.encodeAll v.outgoing.flatten)

def inHand (v : Lane α) : List (Msg α) :=
  match v.session.stage with
  | .handling msg => if msg.isCommand then [] else [msg]
  | _ => []

def queueing (v : Lane α) : List (List (Msg α)) :=
  match v.session.stage with
  | .queueing message => [message]
  | _ => []

def isData (m : Msg α) : Bool := !m.isCommand

end Lane

/-- The frames that a session may be sent: within the limits of its parser and of its buffer, and
heartbeats the only commands. -/
structure Sendable (maxMsgSize : Int) (isV2 : Bool) (m : Msg α) : Prop where
  admitted : admits maxMsgSize m.size
  small : (ZmtpCodec.header m).length + m.size < maxBufferSize
  command : m.isCommand = true → isV2 = false ∧ Heartbeat m

/-- Nothing is lost: `rest` are the frames not yet parsed, `later` the messages not yet complete. -/
structure Flowing (messages : List (List (Msg α))) (maxMsgSize : Int) (rest : List (Msg α))
    (later : List (List (Msg α))) (v : Lane α) : Prop where
  parsed : drain (decoder α) v.session.framer.parser v.unread =
    ⟨rest.map Msg.received, .ok (), .new maxMsgSize, []⟩
  sendable : ∀ m ∈ rest, Sendable maxMsgSize v.session.isV2 m
  conserved : messages = v.passed ++ (v.queueing ++ later)
  frames : v.collected ++ (v.inHand ++ (rest.filter Lane.isData).map Msg.received) = later.flatten
  collected : ∀ m ∈ v.collected, m.isMore = true
  framed : ∀ message ∈ later, Framed message
  bounded : v.session.networkReadBuffer.length ≤ maxBufferSize
  stage : match v.session.stage with
    | .polling => True
    | .reading => Idle (decoder α) v.session.framer.parser
        v.session.networkReadBuffer
    | .handling msg => msg.isCommand = true → v.session.isV2 = false ∧
        ∃ reply, DataSession.processHeartbeatCommand msg = .ok reply
    | .queueing _ => True
    | .failed _ => False

def Flow (messages : List (List (Msg α))) (maxMsgSize : Int) (v : Lane α) : Prop :=
  ∃ rest later, Flowing messages maxMsgSize rest later v

namespace Flowing

variable {messages : List (List (Msg α))} {maxMsgSize : Int} {rest : List (Msg α)}
  {later : List (List (Msg α))} {v : Lane α}

section

variable (h : Flowing messages maxMsgSize rest later v)
include h

lemma write {batch outgoing} (next : v.outgoing = batch :: outgoing) :
    Flowing messages maxMsgSize rest later
      { v with outgoing, stream := v.stream ++ ZmtpCodec.encodeAll batch } := by
  refine { h with parsed := ?_ }
  rw [← h.parsed]
  simp [Lane.unread, next]

lemma poll (polls : v.session.stage = .polling) :
    Flow messages maxMsgSize { v with session := v.session.readDataFrame } := by
  have parsed := h.parsed
  have frames := h.frames
  simp only [Lane.inHand, polls, nil_append] at frames
  have conserved := h.conserved
  simp only [Lane.queueing, polls, nil_append] at conserved
  have notFull := Nat.not_lt.mpr h.bounded
  unfold Lane.unread at parsed
  generalize tail : v.stream ++ ZmtpCodec.encodeAll v.outgoing.flatten = more at parsed
  have resume := decoder_resumable (α := α)
  match decoded : v.session.framer.parser.decodeFromBuffer v.session.networkReadBuffer with
  | (.ok (some msg), parser, left) =>
    have next : v.session.readDataFrame = { v.session with
        framer := ⟨parser⟩, networkReadBuffer := left, stage := .handling msg } := by
      simp [DataSession.readDataFrame, notFull, NullFramer.tryReadMsg, decoded]
    have shorter := decode_length decoded
    rw [drain_some (resume.some_append more decoded)] at parsed
    simp only [Drained.mk.injEq] at parsed
    obtain ⟨items, outcome, state, empty⟩ := parsed
    cases rest with
    | nil => cases items
    | cons m rest =>
      obtain ⟨rfl, others⟩ := List.cons.inj items
      rw [next]
      refine ⟨rest, later, ?_, fun m' mem => h.sendable m' (mem_cons_of_mem _ mem), conserved,
        ?_, h.collected, h.framed, Nat.le_trans shorter h.bounded, ?_⟩
      · simp only [Lane.unread, tail]
        exact (Drained.mk.injEq ..).mpr ⟨others, outcome, state, empty⟩
      · rw [← frames]
        by_cases command : m.isCommand <;> simp [Lane.inHand, Lane.isData, command]
      · intro command
        obtain ⟨v3, heartbeat⟩ := (h.sendable m mem_cons_self).command command
        exact ⟨v3, heartbeat.processed⟩
  | (.ok none, parser, left) =>
    have next : v.session.readDataFrame = { v.session with
        framer := ⟨parser⟩, networkReadBuffer := left, stage := .reading } := by
      simp [DataSession.readDataFrame, notFull, NullFramer.tryReadMsg, decoded]
    have shorter := decode_length decoded
    rw [drain_congr (resume.none_append more decoded)] at parsed
    rw [next]
    refine ⟨rest, later, ?_, h.sendable, conserved, frames, h.collected, h.framed,
      Nat.le_trans shorter h.bounded, ?_⟩
    · simp only [Lane.unread, tail]
      exact parsed
    · have again := (decode_none_again decoded []).1
      rw [append_nil, append_nil, decoded] at again
      exact again
  | (.error e, parser, left) =>
    rw [drain_error (resume.error_append more decoded)] at parsed
    simp at parsed

lemma read (reads : v.session.stage = .reading) {bytes : Nat}
    (fits : v.session.networkReadBuffer.length + bytes ≤ maxBufferSize) :
    Flowing messages maxMsgSize rest later { v with
      stream := v.stream.drop bytes
      session := { v.session with
        networkReadBuffer := v.session.networkReadBuffer ++ v.stream.take bytes
        stage := .polling } } := by
  have frames := h.frames
  simp only [Lane.inHand, reads] at frames
  have conserved := h.conserved
  simp only [Lane.queueing, reads] at conserved
  refine ⟨?_, h.sendable, conserved, frames, h.collected, h.framed, ?_, trivial⟩
  · rw [← h.parsed]
    simp only [Lane.unread]
    congr 1
    rw [append_assoc, ← append_assoc (v.stream.take bytes), take_append_drop]
  · have := length_take_le bytes v.stream
    simp
    omega

lemma cancel (reads : v.session.stage = .reading) :
    Flowing messages maxMsgSize rest later { v with session := v.session.setStage .polling } := by
  have frames := h.frames
  simp only [Lane.inHand, reads] at frames
  have conserved := h.conserved
  simp only [Lane.queueing, reads] at conserved
  exact ⟨h.parsed, h.sendable, conserved, frames, h.collected, h.framed, h.bounded, trivial⟩

lemma handleCommand {msg} (handles : v.session.stage = .handling msg)
    (command : msg.isCommand = true) :
    Flowing messages maxMsgSize rest later
      { v with session := v.session.handleCommand msg } := by
  have frames := h.frames
  simp only [Lane.inHand, handles, command] at frames
  have conserved := h.conserved
  simp only [Lane.queueing, handles] at conserved
  have stage := h.stage
  rw [handles] at stage
  obtain ⟨v3, reply, processed⟩ := stage command
  cases reply with
  | some pong =>
    have next : v.session.handleCommand msg =
        { v.session with written := v.session.written ++ [pong], stage := .polling } := by
      simp [DataSession.handleCommand, v3, processed]
    rw [next]
    exact ⟨h.parsed, h.sendable, conserved, frames, h.collected, h.framed, h.bounded, trivial⟩
  | none =>
    have next : v.session.handleCommand msg = v.session.setStage .polling := by
      simp [DataSession.handleCommand, v3, processed]
    rw [next]
    exact ⟨h.parsed, h.sendable, conserved, frames, h.collected, h.framed, h.bounded, trivial⟩

lemma handleMore {msg} (handles : v.session.stage = .handling msg)
    (data : msg.isCommand = false) (more : msg.isMore = true) :
    Flowing messages maxMsgSize rest later { v with
      session := v.session.setStage .polling
      collected := v.collected ++ [msg] } := by
  have frames := h.frames
  simp only [Lane.inHand, handles, data] at frames
  have conserved := h.conserved
  simp only [Lane.queueing, handles] at conserved
  refine ⟨h.parsed, h.sendable, conserved, ?_, fun m mem => ?_, h.framed, h.bounded, trivial⟩
  · rw [← frames]
    simp [Lane.inHand, DataSession.setStage]
  · rcases mem_append.mp mem with old | new
    · exact h.collected m old
    · rw [mem_singleton.mp new]
      exact more

lemma handleLast {msg} (handles : v.session.stage = .handling msg)
    (data : msg.isCommand = false) (last : msg.isMore = false) :
    Flow messages maxMsgSize { v with
      session := v.session.setStage (.queueing (v.collected ++ [msg]))
      collected := [] } := by
  have frames := h.frames
  simp only [Lane.inHand, handles, data] at frames
  have conserved := h.conserved
  simp only [Lane.queueing, handles] at conserved
  cases later with
  | nil => simp at frames
  | cons message more =>
    obtain ⟨whole, others⟩ := Framed.first h.collected last
      (h.framed message mem_cons_self) (by simpa using frames)
    refine ⟨rest, more, h.parsed, h.sendable, ?_, ?_, by simp,
      fun m mem => h.framed m (mem_cons_of_mem _ mem), h.bounded, trivial⟩
    · rw [conserved, whole]
      simp [Lane.queueing, DataSession.setStage]
    · rw [← others]
      simp [Lane.inHand, DataSession.setStage]

lemma queue {message} (queueing : v.session.stage = .queueing message) :
    Flowing messages maxMsgSize rest later { v with
      session := v.session.setStage .polling
      passed := v.passed ++ [message] } := by
  have frames := h.frames
  simp only [Lane.inHand, queueing] at frames
  have conserved := h.conserved
  simp only [Lane.queueing, queueing] at conserved
  refine ⟨h.parsed, h.sendable, ?_, frames, h.collected, h.framed, h.bounded, trivial⟩
  rw [conserved]
  simp [Lane.queueing, DataSession.setStage]

lemma complete (reads : v.session.stage = .reading) (written : v.outgoing = [])
    (arrived : v.stream = []) : v.passed = messages := by
  have idle := h.stage
  rw [reads] at idle
  have parsed := h.parsed
  simp only [Lane.unread, written, arrived, flatten_nil, ZmtpCodec.encodeAll_nil,
    append_nil] at parsed
  rw [drain_none idle] at parsed
  have none : rest = [] := by simpa using congrArg Drained.items parsed
  have frames := h.frames
  simp only [Lane.inHand, reads, none, filter_nil, map_nil, append_nil] at frames
  cases later with
  | nil =>
    rw [h.conserved]
    simp [Lane.queueing, reads]
  | cons message more =>
    obtain ⟨frame, mem, last⟩ := (h.framed message mem_cons_self).exists_last
    have carry := h.collected frame (by rw [frames]; simp [mem])
    rw [last] at carry
    cases carry

lemma room (reads : v.session.stage = .reading) (more : v.stream ≠ []) :
    v.session.networkReadBuffer.length + 1 ≤ maxBufferSize := by
  have idle := h.stage
  rw [reads] at idle
  have parsed := h.parsed
  unfold Lane.unread at parsed
  match decoded : v.session.framer.parser.decodeFromBuffer v.unread with
  | (.ok (some msg), parser, left) =>
    have short := waiting_short idle decoded
    rw [drain_some decoded] at parsed
    have items := congrArg Drained.items parsed
    cases rest with
    | nil => cases items
    | cons m rest =>
      obtain ⟨rfl, -⟩ := List.cons.inj items
      have small := (h.sendable m mem_cons_self).small
      have header := ZmtpCodec.header_length m
      have size : m.received.size = m.size := rfl
      have limit : 300 ≤ maxBufferSize := by decide
      split at header <;> omega
  | (.ok none, parser, left) =>
    rw [drain_none decoded] at parsed
    simp only [Drained.mk.injEq] at parsed
    obtain ⟨-, -, rfl, rfl⟩ := parsed
    rcases decode_none decoded with ⟨-, empty⟩ | ⟨flags, size, state, -⟩
    · simp [Lane.unread, more] at empty
    · cases state
  | (.error e, parser, left) =>
    rw [drain_error decoded] at parsed
    simp at parsed

end

end Flowing

/-! ## How much is left to do -/

def stageRank : SessionStage α → Nat
  | .polling => 2
  | .reading => 1
  | .handling _ => 5
  | .queueing _ => 4
  | .failed _ => 0

def sessionRank (s : DataSession α) : Nat :=
  4 * s.framer.parser.weight s.networkReadBuffer + stageRank s.stage

def Lane.rank (v : Lane α) : Nat :=
  v.outgoing.length + 12 * (v.stream.length + (ZmtpCodec.encodeAll v.outgoing.flatten).length) +
    sessionRank v.session

lemma Lane.rank_write {v : Lane α} {batch outgoing} (next : v.outgoing = batch :: outgoing) :
    Lane.rank { v with outgoing, stream := v.stream ++ ZmtpCodec.encodeAll batch } < v.rank := by
  simp [Lane.rank, next, ZmtpCodec.encodeAll_append]
  omega

omit [Octet α] in
lemma sessionRank_setStage {s : DataSession α} {stage : SessionStage α}
    (less : stageRank stage < stageRank s.stage) :
    sessionRank (s.setStage stage) < sessionRank s := by
  simp [sessionRank, DataSession.setStage]
  omega

lemma sessionRank_readDataFrame {s : DataSession α} (polls : s.stage = .polling)
    (fine : ∀ e, s.readDataFrame.stage ≠ .failed e) :
    sessionRank s.readDataFrame < sessionRank s := by
  have before : stageRank s.stage = 2 := by rw [polls]; rfl
  by_cases full : maxBufferSize < s.networkReadBuffer.length
  · rw [DataSession.readDataFrame, if_pos full] at fine
    exact absurd rfl (fine .resourceLimitReached)
  · unfold sessionRank
    rw [before]
    match decoded : s.framer.parser.decodeFromBuffer s.networkReadBuffer with
    | (.ok (some msg), parser, left) =>
      have less := (decode_some decoded).1
      simp [DataSession.readDataFrame, full, NullFramer.tryReadMsg, decoded, stageRank]
      omega
    | (.ok none, parser, left) =>
      have less := (decode_none_again decoded []).2
      simp [DataSession.readDataFrame, full, NullFramer.tryReadMsg, decoded, stageRank]
      omega
    | (.error e, parser, left) =>
      have failed : s.readDataFrame.stage = .failed e := by
        simp [DataSession.readDataFrame, full, NullFramer.tryReadMsg, decoded]
      exact absurd failed (fine e)

lemma Lane.rank_read {v : Lane α} {bytes : Nat} (reads : v.session.stage = .reading)
    (some : 0 < bytes ∧ bytes ≤ v.stream.length) :
    Lane.rank { v with
      stream := v.stream.drop bytes
      session := { v.session with
        networkReadBuffer := v.session.networkReadBuffer ++ v.stream.take bytes
        stage := .polling } } < v.rank := by
  have taken := length_take_of_le some.2
  simp [Lane.rank, sessionRank, weight_append, taken, reads, stageRank]
  omega

lemma sessionRank_handleCommand {s} {msg : Msg α}
    (handles : s.stage = .handling msg) : sessionRank (s.handleCommand msg) < sessionRank s := by
  have before : stageRank s.stage = 5 := by rw [handles]; rfl
  have falls (stage : SessionStage α) (less : stageRank stage < 5) :
      sessionRank (s.setStage stage) < sessionRank s :=
    sessionRank_setStage (before.symm ▸ less)
  unfold DataSession.handleCommand
  split
  · exact falls _ (by simp only [stageRank]; omega)
  · split
    · unfold sessionRank
      rw [before]
      simp only [stageRank]
      omega
    · exact falls _ (by simp only [stageRank]; omega)
    · exact falls _ (by simp only [stageRank]; omega)

/-! ## The steps of a connection -/

inductive Lane.Move : Lane α → Lane α → Prop where
  | write {v batch outgoing : _} (next : v.outgoing = batch :: outgoing) :
      Move v { v with outgoing, stream := v.stream ++ ZmtpCodec.encodeAll batch }
  | poll {v : _} (polls : v.session.stage = .polling) :
      Move v { v with session := v.session.readDataFrame }
  | read {v bytes : _} (reads : v.session.stage = .reading)
      (some : 0 < bytes ∧ bytes ≤ v.stream.length)
      (fits : v.session.networkReadBuffer.length + bytes ≤ maxBufferSize) :
      Move v { v with
        stream := v.stream.drop bytes
        session := { v.session with
          networkReadBuffer := v.session.networkReadBuffer ++ v.stream.take bytes
          stage := .polling } }
  | handleCommand {v msg : _} (handles : v.session.stage = .handling msg)
      (command : msg.isCommand = true) : Move v { v with session := v.session.handleCommand msg }
  | handleMore {v msg : _} (handles : v.session.stage = .handling msg)
      (data : msg.isCommand = false)
      (more : msg.isMore = true) :
      Move v { v with
        session := v.session.setStage .polling
        collected := v.collected ++ [msg] }
  | handleLast {v msg : _} (handles : v.session.stage = .handling msg)
      (data : msg.isCommand = false)
      (last : msg.isMore = false) :
      Move v { v with
        session := v.session.setStage (.queueing (v.collected ++ [msg]))
        collected := [] }
  | queue {v message : _} (queueing : v.session.stage = .queueing message) :
      Move v { v with
        session := v.session.setStage .polling
        passed := v.passed ++ [message] }

lemma Flow.move {messages} {maxMsgSize : Int} {v w : Lane α}
    (flow : Flow messages maxMsgSize v) (move : Lane.Move v w) : Flow messages maxMsgSize w := by
  obtain ⟨rest, later, h⟩ := flow
  cases move with
  | write next => exact ⟨rest, later, h.write next⟩
  | poll polls => exact h.poll polls
  | read reads _ fits => exact ⟨rest, later, h.read reads fits⟩
  | handleCommand handles command => exact ⟨rest, later, h.handleCommand handles command⟩
  | handleMore handles data more => exact ⟨rest, later, h.handleMore handles data more⟩
  | handleLast handles data last => exact h.handleLast handles data last
  | queue queueing => exact ⟨rest, later, h.queue queueing⟩

lemma Flow.not_failed {messages} {maxMsgSize : Int} {v : Lane α}
    (flow : Flow messages maxMsgSize v) (e : ZmqError) : v.session.stage ≠ .failed e := by
  obtain ⟨rest, later, h⟩ := flow
  intro failed
  have stage := h.stage
  rw [failed] at stage
  exact stage

lemma Flow.rank_move {messages : List (List (Msg α))} {maxMsgSize : Int} {v w : Lane α}
    (flow : Flow messages maxMsgSize v) (move : Lane.Move v w) :
    w.rank + w.passed.length < v.rank + v.passed.length := by
  have after := flow.move move
  cases move with
  | write next => exact Nat.add_lt_add_right (Lane.rank_write next) _
  | poll polls =>
    have less := sessionRank_readDataFrame polls after.not_failed
    simp [Lane.rank]
    omega
  | read reads some _ => exact Nat.add_lt_add_right (Lane.rank_read reads some) _
  | handleCommand handles _ =>
    have less := sessionRank_handleCommand handles
    simp [Lane.rank]
    omega
  | handleMore handles _ _ | handleLast handles _ _ =>
    simp only [Lane.rank, sessionRank, DataSession.setStage, handles, stageRank]
    omega
  | queue queueing =>
    simp only [Lane.rank, sessionRank, DataSession.setStage, queueing, stageRank,
      length_append, length_singleton]
    omega

end Rzmq
