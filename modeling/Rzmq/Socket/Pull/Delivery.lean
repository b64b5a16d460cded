import Rzmq.Socket.Pull.Pipeline

/-! The messages of every connection of a PULL socket arrive whole and in order, as long as no read
brings the buffer of a session above its limit, which is checked before the parser is asked for a
frame. -/

namespace Rzmq

open List Option Transition Function ZmtpCodec IncomingMessageOrchestrator ZmtpManualParser
open DataSession

variable {n : Nat} {α : Type} [Octet α]

/-- What a sending session takes from its pipe: the frames of the messages in order, with PING and
PONG frames between them, in any batches. -/
structure Traffic (maxMsgSize : Int) (isV2 : Bool) (messages outgoing : List (List (Msg α))) :
    Prop where
  framed : ∀ message ∈ messages, Framed message
  carried : outgoing.flatten.filter Lane.isData = messages.flatten
  sendable : ∀ m ∈ outgoing.flatten, Sendable maxMsgSize isV2 m

def arriving (messages : List (List (Msg α))) : List (List (Msg α)) :=
  messages.map (map Msg.received)

omit [Octet α] in
lemma Framed.received {message : List (Msg α)} (framed : Framed message) :
    Framed (message.map Msg.received) := by
  induction message with
  | nil => exact framed
  | cons first rest ih =>
    cases rest with
    | nil => exact framed
    | cons second rest => exact ⟨framed.1, ih framed.2⟩

lemma Traffic.flowing {maxMsgSize : Int} {isV2 : Bool} {messages outgoing : List (List (Msg α))}
    (traffic : Traffic maxMsgSize isV2 messages outgoing) :
    Flow (arriving messages) maxMsgSize ⟨outgoing, [], .new maxMsgSize isV2, [], []⟩ := by
  refine ⟨outgoing.flatten, arriving messages, ?_, traffic.sendable, rfl, ?_, by simp,
    fun message mem => ?_, Nat.zero_le _, trivial⟩
  · exact drain_encodeAll fun m mem => (traffic.sendable m mem).admitted
  · simp [Lane.inHand, DataSession.new, traffic.carried, arriving, map_flatten]
  · obtain ⟨sent, sentMem, rfl⟩ := mem_map.mp mem
    exact (traffic.framed sent sentMem).received

namespace Pull

lemma conserved_new {maxMsgSize : Fin n → Int} {isV2 : Fin n → Bool}
    {messages outgoing : Fin n → List (List (Msg α))} (rcvhwm : Nat)
    (traffic : ∀ c, Traffic (maxMsgSize c) (isV2 c) (messages c) (outgoing c)) :
    Conserved (fun c => arriving (messages c)) maxMsgSize
      (new rcvhwm maxMsgSize isV2 outgoing) where
  flow c := (traffic c).flowing
  opened := rfl
  positive := by
    simp only [new, IncomingMessageOrchestrator.new, FairQueue.new]
    omega

def Advancing (s : Pull n α) (a : PullAction n) : Prop := Roomy s a ∧ ∀ c, a ≠ .cancel c

lemma advances {s : Pull n α} (a : PullAction n) (advancing : Advancing s a)
    (enabled : (s.step a).isSome) : ∃ a t, Advancing s a ∧ s.step a = some t := by
  obtain ⟨t, taken⟩ := isSome_iff_exists.mp enabled
  exact ⟨a, t, advancing, taken⟩

def Delivered (messages : Fin n → List (List (Msg α))) (s : Pull n α) : Prop :=
  ∀ c, ofConnection c s.returned = messages c

namespace Conserved

variable {messages : Fin n → List (List (Msg α))} {maxMsgSize : Fin n → Int} {s t : Pull n α}

section

variable (h : Conserved messages maxMsgSize s)
include h

lemma lane_enabled (empty : s.items = []) {c : Fin n} (missing : (s.lane c).passed ≠ messages c) :
    ∃ a t, Advancing s a ∧ s.step a = some t := by
  obtain ⟨rest, later, flowing⟩ := h.flow c
  cases stage : (s.sessions c).stage with
  | polling =>
    refine advances (.poll c) ⟨trivial, nofun⟩ ?_
    simp [Pull.step, poll, stage]
  | reading =>
    cases written : s.outgoing c with
    | cons batch more =>
      refine advances (.write c) ⟨trivial, nofun⟩ ?_
      simp [Pull.step, write, written, writeDataMsgs_ok]
    | nil =>
      have more : s.stream c ≠ [] := fun arrived => missing (flowing.complete stage written arrived)
      have some : 0 < 1 ∧ 1 ≤ (s.stream c).length := ⟨Nat.one_pos, length_pos_iff.mpr more⟩
      refine advances (.read c 1) ⟨flowing.room stage more, nofun⟩ ?_
      simp only [Pull.step, read, stage, if_pos some, isSome_some]
  | handling msg =>
    refine advances (.handle c) ⟨trivial, nofun⟩ ?_
    simp only [Pull.step, handle, stage]
    split
    · rfl
    · split <;> rfl
  | queueing message =>
    have room : s.orchestrator.mainIncomingQueue.items.length <
        s.orchestrator.mainIncomingQueue.hwm := by
      rw [show s.orchestrator.mainIncomingQueue.items = [] from empty]
      exact h.positive
    obtain ⟨o, pushed⟩ := queueItem_room h.opened room (c, message)
    refine advances (.queue c) ⟨trivial, nofun⟩ ?_
    simp [Pull.step, queue, stage, pushed]
  | failed e => exact absurd stage ((h.flow c).not_failed e)

lemma enabled : Delivered messages s ∨ ∃ a t, Advancing s a ∧ s.step a = some t := by
  cases queued : s.items with
  | cons item rest =>
    have queued : s.orchestrator.mainIncomingQueue.items = item :: rest := queued
    refine .inr (advances .recvMultipart ⟨trivial, nofun⟩ ?_)
    simp [Pull.step, Pull.recvMultipart, recvItemFromMainQueue,
      resetRecvMessageBuffer, FairQueue.popItem, queued]
  | nil =>
    by_cases complete : ∀ c, (s.lane c).passed = messages c
    · left
      intro c
      rw [← complete c]
      simp [lane, queued]
    · obtain ⟨c, missing⟩ := not_forall.mp complete
      exact .inr (h.lane_enabled queued missing)

lemma falls {a} (advancing : Advancing s a) (taken : s.step a = some t) : t.rank < s.rank := by
  rcases h.moves advancing.1 taken with ⟨c, w, move, moved⟩ | received | ⟨c, rfl⟩
  · exact rank_movesTo moved ((h.flow c).rank_move move)
  · obtain ⟨lanes, less, -⟩ := recvMultipart_moves received
    simp [rank, lanes]
    omega
  · exact absurd rfl (advancing.2 c)

end

end Conserved

/-- In every run whose reads leave the buffers within their limit, `recv_multipart` has returned the
first messages sent on each connection, unchanged; and once the interruptions stop, every message is
returned. -/
theorem messages_delivered {rcvhwm : Nat} {maxMsgSize : Fin n → Int} {isV2 : Fin n → Bool}
    {messages outgoing : Fin n → List (List (Msg α))}
    (traffic : ∀ c, Traffic (maxMsgSize c) (isV2 c) (messages c) (outgoing c)) {s : Pull n α}
    (reached : Reaches step Roomy (new rcvhwm maxMsgSize isV2 outgoing) s) :
    (∀ c, ofConnection c s.returned <+: arriving (messages c)) ∧
      Inevitable step Advancing (Delivered fun c => arriving (messages c)) s := by
  have conserved := reached.invariant
    (fun _ _ _ kept roomy taken => Conserved.step kept roomy taken) (conserved_new rcvhwm traffic)
  refine ⟨conserved.returned_prefix, ?_⟩
  refine Inevitable.of_rank rank (fun _ kept => kept.enabled) ?_ conserved
  intro s a t kept _ advancing taken
  exact ⟨kept.step advancing.1 taken, .inr (kept.falls advancing taken)⟩

/-- A message of two frames with a PING between them, and a message of a second connection. -/
theorem messages_delivered_two :
    let first : Msg UInt8 := ⟨some [1, 2], ⟨true, false⟩, by decide⟩
    let last : Msg UInt8 := ⟨some [3], .empty, by decide⟩
    let ping : Msg UInt8 := ⟨some (createPing 0 []), commandFlags, by decide⟩
    let messages : Fin 2 → List (List (Msg UInt8)) := fun c =>
      if c = 0 then [[first, last]] else [[last]]
    let outgoing : Fin 2 → List (List (Msg UInt8)) := fun c =>
      if c = 0 then [[first, ping], [last]] else [[last]]
    Inevitable step Advancing (Delivered fun c => arriving (messages c))
      (new 1 (fun _ => 8) (fun _ => false) outgoing) := by
  intro first last ping messages outgoing
  have frame (m : Msg UInt8) (mem : m ∈ [first, ping, last]) : Sendable 8 false m := by
    simp only [mem_cons, not_mem_nil, or_false] at mem
    rcases mem with rfl | rfl | rfl
    · exact ⟨by decide, by decide, nofun⟩
    · exact ⟨by decide, by decide, fun _ => ⟨rfl, rfl, .inl ⟨0, [], rfl⟩⟩⟩
    · exact ⟨by decide, by decide, nofun⟩
  have traffic (c : Fin 2) : Traffic 8 false (messages c) (outgoing c) := by
    match c with
    | 0 =>
      refine ⟨?_, rfl, frame⟩
      intro message mem
      rw [mem_singleton.mp mem]
      exact ⟨rfl, rfl⟩
    | 1 =>
      refine ⟨?_, rfl, fun m mem => frame m ?_⟩
      · intro message mem
        rw [mem_singleton.mp mem]
        rfl
      · rw [mem_singleton.mp mem]
        simp
  exact (messages_delivered traffic .refl).2

/-! ## A read that brings too much -/

/-- No push into the queue is given up. -/
def Untimed (_ : Pull n α) (a : PullAction n) : Prop := ∀ c, a ≠ .queueExpire c

/-- The only session waits for a body, of which, and of what follows it, `k` octets have come. -/
structure Partway (parser : ZmtpManualParser) (tail : List α) (k : Nat) (s : Pull 1 α) :
    Prop where
  framer : (s.sessions 0).framer = ⟨parser⟩
  buffer : (s.sessions 0).networkReadBuffer = tail.take k
  reads : (s.sessions 0).stage = .reading
  stream : s.stream 0 = tail.drop k
  silent : s.items = [] ∧ s.returned = []

structure Dead (s : Pull 1 α) : Prop where
  failed : (s.sessions 0).stage = .failed .resourceLimitReached
  silent : s.items = [] ∧ s.returned = []

lemma Dead.step {s t : Pull 1 α} (lost : Dead s) {a} (taken : s.step a = some t) :
    Dead t := by
  have failed := lost.failed
  cases a with
  | write c =>
    obtain rfl : c = 0 := Subsingleton.elim _ _
    simp only [Pull.step, write] at taken
    split at taken
    · cases taken
    · rw [writeDataMsgs_ok] at taken
      cases taken
      exact ⟨failed, lost.silent⟩
  | recvMultipart =>
    have less := (recvMultipart_moves taken).2.1
    rw [lost.silent.1] at less
    exact absurd less (Nat.not_lt_zero _)
  | poll c | read c bytes | cancel c | handle c | queue c | queueExpire c =>
    obtain rfl : c = 0 := Subsingleton.elim _ _
    simp [Pull.step, poll, read, cancel, handle, queue, queueExpire, failed] at taken

lemma poll_polling {s : Pull n α} {c : Fin n} (polls : (s.sessions c).stage = .polling) :
    s.step (.poll c) = some (s.setSession c (s.sessions c).readDataFrame) := by
  simp [step, poll, polls]

lemma read_reading {s : Pull n α} {c : Fin n} {bytes : Nat}
    (reads : (s.sessions c).stage = .reading)
    (available : 0 < bytes ∧ bytes ≤ (s.stream c).length) :
    s.step (.read c bytes) = some { s.setSession c { s.sessions c with
        networkReadBuffer := (s.sessions c).networkReadBuffer ++ (s.stream c).take bytes
        stage := .polling } with
      stream := update s.stream c ((s.stream c).drop bytes) } := by
  simp [step, read, reads, if_pos available]

variable {parser : ZmtpManualParser} {s : Pull 1 α} {size : UInt64} {tail : List α}

/-- A read followed by a poll: the loop of `read_data_frame_impl` from one wait to the next. -/
lemma readPoll_reaches {bytes : Nat} (reads : (s.sessions 0).stage = .reading)
    (available : 0 < bytes ∧ bytes ≤ (s.stream 0).length) :
    ∃ t : Pull 1 α, Reaches step Untimed s t ∧
      t.sessions 0 = readDataFrame { s.sessions 0 with
        networkReadBuffer := (s.sessions 0).networkReadBuffer ++ (s.stream 0).take bytes
        stage := .polling } ∧
      t.stream 0 = (s.stream 0).drop bytes ∧ t.items = s.items ∧ t.returned = s.returned := by
  have prompt (u : Pull 1 α) : Untimed u (.read 0 bytes) ∧ Untimed u (.poll 0) := ⟨nofun, nofun⟩
  have afterRead := Reaches.refl.tail (prompt s).1 (read_reading reads available)
  have afterPoll := afterRead.tail (prompt _).2 (poll_polling (by simp [setSession]))
  refine ⟨_, afterPoll, ?_⟩
  simp [setSession, items]

lemma Partway.more {flags} {k bytes : Nat} (h : Partway parser tail k s)
    (body : parser.state = .readBody flags size) (positive : 0 < bytes)
    (short : k + bytes < size.toNat) (limit : size.toNat ≤ maxBufferSize)
    (long : size.toNat ≤ tail.length) :
    ∃ t, Reaches step Untimed s t ∧ Partway parser tail (k + bytes) t := by
  have enough : bytes ≤ (s.stream 0).length := by
    rw [h.stream, length_drop]
    omega
  have joined : (s.sessions 0).networkReadBuffer ++ (s.stream 0).take bytes =
      tail.take (k + bytes) := by
    rw [h.buffer, h.stream, ← take_add]
  obtain ⟨t, reached, session, stream, items, returned⟩ :=
    readPoll_reaches h.reads ⟨positive, enough⟩
  have length : (tail.take (k + bytes)).length = k + bytes := by
    rw [length_take]
    omega
  have waits : parser.decodeFromBuffer (tail.take (k + bytes)) =
      (.ok none, parser, tail.take (k + bytes)) := by
    obtain ⟨state, mx⟩ := parser
    obtain rfl : state = .readBody flags size := body
    exact readBody_short (by omega)
  have notFull : ¬ maxBufferSize < (tail.take (k + bytes)).length := by omega
  rw [joined] at session
  simp only [readDataFrame, notFull, NullFramer.tryReadMsg, h.framer, waits, if_false] at session
  refine ⟨t, reached, ⟨?_, ?_, ?_, ?_, ?_⟩⟩
  · rw [session]
  · rw [session]
  · rw [session]
  · rw [stream, h.stream, drop_drop]
  · rw [items, returned]
    exact h.silent

lemma Partway.octets {flags} {k : Nat} (h : Partway parser tail k s)
    (body : parser.state = .readBody flags size) (limit : size.toNat ≤ maxBufferSize)
    (long : size.toNat ≤ tail.length) (count : Nat) (short : k + count < size.toNat) :
    ∃ t, Reaches step Untimed s t ∧ Partway parser tail (k + count) t := by
  induction count with
  | zero => exact ⟨s, .refl, h⟩
  | succ count ih =>
    obtain ⟨t, before, partway⟩ := ih (by omega)
    obtain ⟨u, more, further⟩ := partway.more body Nat.one_pos short limit long
    exact ⟨u, before.trans more, further⟩

lemma Partway.overflow {k : Nat} (h : Partway parser tail k s) (bytes : Nat)
    (positive : 0 < bytes) (enough : k + bytes ≤ tail.length) (excess : maxBufferSize < k + bytes) :
    ∃ t, Reaches step Untimed s t ∧ Dead t := by
  have available : bytes ≤ (s.stream 0).length := by
    rw [h.stream, length_drop]
    omega
  obtain ⟨t, reached, session, -, items, returned⟩ :=
    readPoll_reaches h.reads ⟨positive, available⟩
  rw [h.buffer, h.stream, ← take_add] at session
  have full : maxBufferSize < (tail.take (k + bytes)).length := by
    rw [length_take]
    omega
  rw [readDataFrame, if_pos full] at session
  refine ⟨t, reached, ?_, ?_⟩
  · rw [session]
    rfl
  · rw [items, returned]
    exact h.silent

lemma reaches_partway {mx : Int} {m} (admitted : ZmtpManualParser.admits mx m.size)
    (body : 0 < m.size) (more : List (Msg α)) :
    ∃ flags t, Reaches step Untimed (new 1 (fun _ => mx) (fun _ => false) fun _ => [m :: more]) t ∧
      Partway ⟨.readBody flags (UInt64.ofNat m.size), mx⟩ (m.body ++ ZmtpCodec.encodeAll more) 0
        t := by
  obtain ⟨flags, -, decoded⟩ := ZmtpManualParser.decode_header_encode admitted ([] : List α)
  have size : (UInt64.ofNat m.size).toNat = m.size := UInt64.toNat_ofNat_of_lt' m.body_lt
  rw [ZmtpManualParser.readBody_short (by rw [size]; exact body), append_nil] at decoded
  have small : ¬ maxBufferSize < (ZmtpCodec.header m).length := by
    have length := ZmtpCodec.header_length m
    have limit : 9 ≤ maxBufferSize := by decide
    split at length <;> omega
  have nonempty : 0 < (ZmtpCodec.header m).length := by
    have length := ZmtpCodec.header_length m
    split at length <;> omega
  obtain ⟨s, written, session, stream, silent⟩ : ∃ s : Pull 1 α,
      Reaches step Untimed (new 1 (fun _ => mx) (fun _ => false) fun _ => [m :: more]) s ∧
      s.sessions 0 = { DataSession.new mx false with stage := .reading } ∧
      s.stream 0 = ZmtpCodec.header m ++ (m.body ++ ZmtpCodec.encodeAll more) ∧
      s.items = [] ∧ s.returned = [] := by
    refine ⟨_, reaches_of_run [.poll 0, .write 0] ?_ rfl, rfl, ?_, rfl, rfl⟩
    · intro a mem s c same
      subst same
      simp at mem
    · exact append_assoc ..
  have reads : (s.sessions 0).stage = .reading := by rw [session]
  have available : (ZmtpCodec.header m).length ≤ (s.stream 0).length := by
    rw [stream, length_append]
    omega
  obtain ⟨t, reached, next, left, items, returned⟩ := readPoll_reaches reads ⟨nonempty, available⟩
  rw [session, stream, take_left] at next
  simp only [DataSession.new, DataSession.readDataFrame, small, NullFramer.tryReadMsg,
    NullFramer.new, nil_append, decoded, if_false] at next
  refine ⟨flags, t, written.trans reached, ⟨?_, ?_, ?_, ?_, ?_⟩⟩
  · rw [next]
  · rw [next, take_zero]
  · rw [next]
  · rw [left, stream, drop_left, drop_zero]
  · rw [items, returned]
    exact silent

def zeros (size : UInt64) : Msg UInt8 :=
  ⟨some (replicate size.toNat 0), .empty, by
    simp only [getD_some, length_replicate]
    exact size.toNat_lt⟩

lemma zeros_size (size : UInt64) : (zeros size).size = size.toNat := length_replicate

lemma zeros_sendable (small : 9 + size.toNat < maxBufferSize) :
    Sendable (-1) false (zeros size) where
  admitted := by
    intro positive
    omega
  small := by
    have length := header_length (zeros size)
    rw [zeros_size] at length ⊢
    split at length <;> omega
  command := nofun

/-- A frame that fills the buffer up to its limit and a short one after it.  The octets come one by
one until the buffer is full, of which a greeting, a READY and a header have used 101; the read that
completes the first frame brings the second, and the session fails. -/
theorem full_buffer_fails :
    let large := zeros 16777206
    let short := zeros 16
    let outgoing : Fin 1 → List (List (Msg UInt8)) := fun _ => [[large, short]]
    (∀ c, Traffic (-1) false [[large], [short]] (outgoing c)) ∧
      ∃ s, Reaches step Untimed (new 1 (fun _ => -1) (fun _ => false) outgoing) s ∧
        ∀ t, Reaches step Untimed s t → t.returned = [] := by
  intro large short outgoing
  have largeSize : large.size = 16777206 := zeros_size _
  have shortSize : short.size = 16 := zeros_size _
  refine ⟨fun _ => ⟨?_, rfl, ?_⟩, ?_⟩
  · intro message mem
    simp only [mem_cons, not_mem_nil, or_false] at mem
    rcases mem with rfl | rfl <;> rfl
  · intro m mem
    simp only [outgoing, flatten_cons, flatten_nil, append_nil, mem_cons,
      not_mem_nil, or_false] at mem
    rcases mem with rfl | rfl <;> exact zeros_sendable (by decide)
  · have admitted : admits (-1) large.size := by
      intro positive
      omega
    obtain ⟨flags, s, begun, partway⟩ := reaches_partway admitted (by omega) [short]
    have size : (UInt64.ofNat large.size).toNat = 16777206 := by rw [largeSize]; rfl
    have tail : (large.body ++ encodeAll [short]).length = 16777224 := by
      have header := header_length short
      rw [shortSize, if_pos (by omega)] at header
      have largeBody : large.body.length = 16777206 := largeSize
      have shortBody : short.body.length = 16 := shortSize
      simp [encodeAll_cons, encodeAll_nil, encode, largeBody, shortBody, header]
    have limit : maxBufferSize = 16777216 := rfl
    obtain ⟨t, filled, almost⟩ :=
      partway.octets rfl (by omega) (by omega) 16777115 (by omega)
    obtain ⟨u, excess, lost⟩ := almost.overflow 109 (by omega) (by omega) (by omega)
    refine ⟨u, (begun.trans filled).trans excess, fun t later => ?_⟩
    exact (later.invariant (fun _ _ _ kept _ taken => Dead.step kept taken) lost).silent.2

end Pull

end Rzmq
