import Rzmq.Session.Data

/-! The limit of `read_data_frame_impl` on its buffer.  The body of a frame has to be in the buffer
as a whole, and so the limit is one on frames too, whatever ZMQ_MAXMSGSIZE is; what a frame may be
exactly depends on how its bytes come. -/

namespace Rzmq

open List Incremental ZmtpManualParser
open ZmtpCodec (encode encodeAll)

variable {α : Type} [Octet α]

def frameReader (α : Type) [Octet α] : Decoder ZmtpManualParser α (Msg α) ZmqError :=
  (decoder α).capped maxBufferSize .resourceLimitReached

lemma readDataFrame_eq (s : DataSession α) :
    s.readDataFrame =
      match (frameReader α).decode s.framer.parser s.networkReadBuffer with
      | (.ok (some msg), parser, rest) =>
        { s with framer := ⟨parser⟩, networkReadBuffer := rest, stage := .handling msg }
      | (.ok none, parser, rest) =>
        { s with framer := ⟨parser⟩, networkReadBuffer := rest, stage := .reading }
      | (.error e, parser, rest) =>
        { s with framer := ⟨parser⟩, networkReadBuffer := rest, stage := .failed e } := by
  unfold DataSession.readDataFrame frameReader Decoder.capped
  dsimp only
  split
  · rfl
  · unfold NullFramer.tryReadMsg decoder
    dsimp only
    generalize s.framer.parser.decodeFromBuffer s.networkReadBuffer = answer
    obtain ⟨result, parser, rest⟩ := answer
    cases result with
    | error => rfl
    | ok found => cases found <;> rfl

lemma decoder_shrinks : Shrinks (decoder α) := decode_length

section Stream

variable {maxMsgSize : Int} {chunks : List (List α)}

lemma feed_frameReader (msgs) (fits : ∀ m ∈ msgs, admits maxMsgSize m.size)
    (whole : chunks.flatten = encodeAll msgs) :
    (Room (decoder α) maxBufferSize (new maxMsgSize) [] chunks →
      feed (frameReader α) (new maxMsgSize) [] chunks =
        ⟨msgs.map Msg.received, .ok (), new maxMsgSize, []⟩) ∧
      (¬ Room (decoder α) maxBufferSize (new maxMsgSize) [] chunks →
        (feed (frameReader α) (new maxMsgSize) [] chunks).outcome =
          .error .resourceLimitReached) := by
  have read := feed_encodeAll fits whole
  have ok := congrArg Drained.outcome read
  exact ⟨fun room => ((feed_capped decoder_shrinks ok).1 room).trans read,
    (feed_capped decoder_shrinks ok).2⟩

lemma frameReader_size (p) (buf : List α) (chunks) :
    ∀ m ∈ (feed (frameReader α) p buf chunks).items, m.size ≤ maxBufferSize := by
  refine feed_all (fun _ => True) (fun m : Msg α => m.size ≤ maxBufferSize) ?_
    (fun _ _ => trivial) p buf chunks trivial
  intro p p' buf rest m _ decoded
  unfold frameReader Decoder.capped at decoded
  dsimp only at decoded
  split at decoded
  · cases decoded
  · have inside : m.size ≤ buf.length := decode_size decoded
    exact ⟨by omega, trivial⟩

lemma feed_long {m} (fits : admits maxMsgSize m.size) (long : maxBufferSize < m.size)
    (whole : chunks.flatten = encode m) :
    (feed (frameReader α) (new maxMsgSize) [] chunks).outcome = .error .resourceLimitReached := by
  obtain ⟨read, full⟩ := feed_frameReader [m] (by simpa using fits)
    (whole.trans (append_nil _).symm)
  refine full fun room => ?_
  have small := frameReader_size (new maxMsgSize) [] chunks m.received (by rw [read room]; simp)
  exact absurd small (Nat.not_le.mpr long)

/-- The chunks that `read_buf` can bring when `held` bytes of a frame have come: it fills the spare
room of the buffer, which is at most 65536 bytes before a frame and is doubled when it is full. -/
def Readable (held : Nat) : List (List α) → Prop
  | [] => True
  | chunk :: chunks => chunk.length ≤ 65536 + held ∧ Readable (held + chunk.length) chunks

/-- Before the header is there the buffer is short, and after it the buffer has nothing but the
body. -/
lemma room_of_readable {m} (fits : admits maxMsgSize m.size) (small : m.size ≤ maxBufferSize)
    {seen buf : List α} {p} (reads : Reads (decoder α) (new maxMsgSize) seen p buf)
    (whole : seen ++ chunks.flatten = encode m) (readable : Readable seen.length chunks)
    (short : buf.length ≤ seen.length)
    (body : (ZmtpCodec.header m).length ≤ seen.length →
      buf.length + (ZmtpCodec.header m).length ≤ seen.length) :
    Room (decoder α) maxBufferSize p buf chunks := by
  induction chunks generalizing seen buf p with
  | nil => trivial
  | cons chunk chunks ih =>
    obtain ⟨brings, later⟩ := readable
    rw [flatten_cons, ← append_assoc] at whole
    have header : (ZmtpCodec.header m).length ≤ 9 := by
      rw [ZmtpCodec.header_length]
      split <;> omega
    have limit : maxBufferSize = 16777216 := rfl
    have total := congrArg length whole
    simp only [encode, length_append] at total
    have size : m.body.length = m.size := rfl
    refine ⟨by rw [length_append]; omega, ?_⟩
    have now := reads chunk
    have part : seen ++ chunk <+: encode m ++ [] := ⟨chunks.flatten, by rw [whole, append_nil]⟩
    rcases (reads.append chunk).decode decoder_resumable (decode_encode fits) part with
      ⟨rest, ends, decoded⟩ | ⟨p', buf', decoded, reads', -⟩
    · have nothing : rest ++ chunks.flatten = [] := by
        rw [ends, append_assoc] at whole
        exact append_right_eq_self.mp whole
      obtain ⟨rfl, none⟩ := append_eq_nil_iff.mp nothing
      rw [drain_some decoded, drain_none (new_idle maxMsgSize)]
      refine room_of_length decoder_shrinks ?_ (by simp [none])
      rw [feed_encodeAll (forall_mem_nil _) none]
    · rw [drain_none decoded]
      dsimp only
      have less := decoder_shrinks decoded
      simp only [length_append] at less
      refine ih reads' (by rw [whole]) (by rwa [length_append]) (by rw [length_append]; omega)
        fun long => ?_
      obtain ⟨part, seen'⟩ : ZmtpCodec.header m <+: seen ++ chunk :=
        prefix_of_prefix_length_le (prefix_append _ m.body) ⟨_, whole⟩ long
      obtain ⟨flags, -, come⟩ := decode_header_encode fits part
      have read : (decoder α).decode p (buf ++ chunk) =
          readBody maxMsgSize flags (UInt64.ofNat m.size) part := by
        rw [now, ← seen', ← come]
        rfl
      obtain ⟨-, rfl⟩ := readBody_none (read.symm.trans decoded)
      rw [← seen', length_append]
      omega

omit [Octet α] in
lemma readable_map_singleton (bytes : List α) (held : Nat) :
    Readable held (bytes.map fun o => [o]) := by
  induction bytes generalizing held with
  | nil => trivial
  | cons o bytes ih => exact ⟨by simp only [length_singleton]; omega, ih _⟩

end Stream

/-- The frames that ZMQ_MAXMSGSIZE admits come one after the other, unless a chunk takes the buffer
over its limit; a single frame comes from every split that `read_buf` can bring when its body is
within that limit, and from no split otherwise. -/
theorem frames_within_buffer (maxMsgSize : Int) :
    (∀ (msgs : List (Msg α)) (chunks : List (List α)), (∀ m ∈ msgs, admits maxMsgSize m.size) →
      chunks.flatten = encodeAll msgs →
      (feed (frameReader α) (new maxMsgSize) [] chunks =
          ⟨msgs.map Msg.received, .ok (), new maxMsgSize, []⟩ ↔
        Room (decoder α) maxBufferSize (new maxMsgSize) [] chunks) ∧
      (¬ Room (decoder α) maxBufferSize (new maxMsgSize) [] chunks →
        (feed (frameReader α) (new maxMsgSize) [] chunks).outcome = .error .resourceLimitReached)) ∧
    ∀ m : Msg α, admits maxMsgSize m.size →
      ((∀ chunks : List (List α), chunks.flatten = encode m → Readable 0 chunks →
          feed (frameReader α) (new maxMsgSize) [] chunks =
            ⟨[m.received], .ok (), new maxMsgSize, []⟩) ↔
        m.size ≤ maxBufferSize) ∧
      (maxBufferSize < m.size → ∀ chunks : List (List α), chunks.flatten = encode m →
        (feed (frameReader α) (new maxMsgSize) [] chunks).outcome =
          .error .resourceLimitReached) := by
  have exact' : ∀ (msgs : List (Msg α)) (chunks : List (List α)),
      (∀ m ∈ msgs, admits maxMsgSize m.size) → chunks.flatten = encodeAll msgs →
      (feed (frameReader α) (new maxMsgSize) [] chunks =
          ⟨msgs.map Msg.received, .ok (), new maxMsgSize, []⟩ ↔
        Room (decoder α) maxBufferSize (new maxMsgSize) [] chunks) := by
    intro msgs chunks fits whole
    obtain ⟨read, full⟩ := feed_frameReader msgs fits whole
    refine ⟨fun eq => ?_, read⟩
    by_contra short
    have failed := full short
    rw [eq] at failed
    cases failed
  refine ⟨fun msgs chunks fits whole => ⟨exact' msgs chunks fits whole,
    (feed_frameReader msgs fits whole).2⟩, fun m fits =>
    ⟨?_, fun long chunks => feed_long fits long⟩⟩
  constructor
  · intro always
    by_contra long
    have bytes : ((encode m).map fun o => [o]).flatten = encode m := by
      simp [← flatMap_def]
    have failed := feed_long fits (Nat.not_le.mp long) bytes
    rw [always _ bytes (readable_map_singleton _ 0)] at failed
    cases failed
  · intro small chunks whole readable
    refine (exact' [m] chunks (by simpa using fits) (whole.trans (append_nil _).symm)).mpr ?_
    exact room_of_readable fits small (.refl _ _ _) whole readable (Nat.le_refl _) fun none => by
      rw [ZmtpCodec.header_length] at none
      split at none <;> cases none

def longFrame : Msg UInt8 :=
  ⟨some (replicate (maxBufferSize + 1) 0), .empty, by
    rw [Option.getD_some, length_replicate]
    decide⟩

/-- No split of the frame is read, though there is no limit on the size of a message. -/
theorem long_frame_refused :
    admits (-1) longFrame.size ∧ ∀ chunks : List (List UInt8),
      chunks.flatten = encode longFrame →
        (feed (frameReader UInt8) (new (-1)) [] chunks).outcome = .error .resourceLimitReached := by
  have admitted : admits (-1) longFrame.size := fun nonneg => absurd nonneg (by decide)
  have size : longFrame.size = maxBufferSize + 1 := length_replicate
  exact ⟨admitted, fun chunks => feed_long admitted (by rw [size]; exact Nat.lt_succ_self _)⟩

end Rzmq
