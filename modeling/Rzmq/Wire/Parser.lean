import Rzmq.Lib.Incremental
import Rzmq.Message

/-! The encoder of `protocol/zmtp/codec.rs` and the parser of `manual_parser.rs`.  Once a header is
consumed the parser waits for the body, and the header is not in the buffer any more.  The parser is
a resumable decoder, so what it returns does not depend on how a stream is cut. -/

namespace Rzmq

open List Octet Incremental

def zmtpFlagMore : UInt8 := 0b001

def zmtpFlagLong : UInt8 := 0b010

def zmtpFlagCommand : UInt8 := 0b100

def zmtpFlags (flags : MsgFlags) : UInt8 :=
  (if flags.more then zmtpFlagMore else 0) ||| (if flags.command then zmtpFlagCommand else 0)

namespace ZmtpCodec

variable {α : Type} [Octet α]

def header (m : Msg α) : List α :=
  if m.size ≤ 255 then ofByte (zmtpFlags m.flags) :: be 1 m.size
  else ofByte (zmtpFlags m.flags ||| zmtpFlagLong) :: be 8 m.size

def encode (m : Msg α) : List α := header m ++ m.body

def encodeAll (msgs : List (Msg α)) : List α := msgs.flatMap encode

@[simp] lemma encodeAll_nil : encodeAll ([] : List (Msg α)) = [] := rfl

@[simp] lemma encodeAll_cons (m : Msg α) (ms) :
    encodeAll (m :: ms) = encode m ++ encodeAll ms := rfl

@[simp] lemma encodeAll_append (ms ms' : List (Msg α)) :
    encodeAll (ms ++ ms') = encodeAll ms ++ encodeAll ms' := by
  simp [encodeAll]

lemma header_length (m : Msg α) : (header m).length = if m.size ≤ 255 then 2 else 9 := by
  unfold header
  split <;> simp

end ZmtpCodec

inductive ManualDecodingState where
  | readHeader
  | readBody (flags : UInt8) (size : UInt64)

structure ZmtpManualParser where
  state : ManualDecodingState
  maxMsgSize : Int

namespace ZmtpManualParser

def new (maxMsgSize : Int) : ZmtpManualParser := ⟨.readHeader, maxMsgSize⟩

def rzFlags (flags : UInt8) : MsgFlags :=
  ⟨flags &&& zmtpFlagMore != 0, flags &&& zmtpFlagCommand != 0⟩

def admits (maxMsgSize : Int) (size : Nat) : Prop := 0 ≤ maxMsgSize → (size : Int) ≤ maxMsgSize

instance (maxMsgSize : Int) (size : Nat) : Decidable (admits maxMsgSize size) :=
  inferInstanceAs (Decidable (_ → _))

def frameSizeError (maxMsgSize : Int) (rawSize : Nat) : ZmqError :=
  .protocolViolation s!"frame size {rawSize} exceeds ZMQ_MAXMSGSIZE {maxMsgSize}"

def sizeLen (flags : UInt8) : Nat := if flags &&& zmtpFlagLong != 0 then 8 else 1

/-- The result of a call: what it returns, the parser and the buffer after it. -/
abbrev Answer (α : Type) : Type := Except ZmqError (Option (Msg α)) × ZmtpManualParser × List α

variable {α : Type}

def readBody (maxMsgSize : Int) (flags : UInt8) (size : UInt64) (src : List α) : Answer α :=
  if h : src.length < size.toNat then (.ok none, ⟨.readBody flags size, maxMsgSize⟩, src)
  else
    let msg := Msg.fromBytes (src.take size.toNat) (rzFlags flags)
      (by have := size.toNat_lt; simp only [length_take]; omega)
    (.ok (some msg), ⟨.readHeader, maxMsgSize⟩, src.drop size.toNat)

def Admissible (p : ZmtpManualParser) : Prop :=
  match p.state with
  | .readHeader => True
  | .readBody _ size => admits p.maxMsgSize size.toNat

/-- Twice the octets buffered, and one more when a header has been consumed: a frame with an empty
body takes no octet from the buffer then. -/
def weight (p : ZmtpManualParser) (src : List α) : Nat :=
  match p.state with
  | .readHeader => 2 * src.length
  | .readBody _ _ => 2 * src.length + 1

lemma weight_append (p) (src more : List α) :
    weight p (src ++ more) = weight p src + 2 * more.length := by
  unfold weight
  split <;> simp only [length_append] <;> omega

section ReadBody

variable {mx : Int} {flags : UInt8} {size : UInt64} {src more : List α}

lemma readBody_short (h : src.length < size.toNat) :
    readBody mx flags size src = (.ok none, ⟨.readBody flags size, mx⟩, src) := by
  simp [readBody, h]

lemma readBody_full (mx : Int) (flags : UInt8) (h : size.toNat ≤ src.length) :
    ∃ m : Msg α, readBody mx flags size src = (.ok (some m), new mx, src.drop size.toNat) ∧
      m.body = src.take size.toNat ∧ m.flags = rzFlags flags ∧ m.received = m := by
  have : ¬ src.length < size.toNat := by omega
  simp only [readBody, this, dite_false]
  exact ⟨_, rfl, rfl, rfl, rfl⟩

lemma readBody_append (h : size.toNat ≤ src.length) :
    readBody mx flags size (src ++ more) =
      ((readBody mx flags size src).1, (readBody mx flags size src).2.1,
        (readBody mx flags size src).2.2 ++ more) := by
  have short : ¬ src.length < size.toNat := by omega
  have long : ¬ (src ++ more).length < size.toNat := by
    rw [length_append]
    omega
  simp only [readBody, short, long, dite_false, take_append_of_le_length h,
    drop_append_of_le_length h]

variable {p : ZmtpManualParser} {rest : List α}

lemma readBody_some {m} (h : readBody mx flags size src = (.ok (some m), p, rest)) :
    size.toNat ≤ src.length ∧ p = new mx ∧ rest = src.drop size.toNat ∧ m.size = size.toNat := by
  by_cases short : src.length < size.toNat
  · rw [readBody_short short] at h
    simp at h
  have full : size.toNat ≤ src.length := by omega
  obtain ⟨m', hread, hbody, -⟩ := readBody_full mx flags full
  rw [hread] at h
  simp only [Prod.mk.injEq, Except.ok.injEq, Option.some.injEq] at h
  obtain ⟨rfl, rfl, rfl⟩ := h
  refine ⟨full, rfl, rfl, ?_⟩
  rw [Msg.size, hbody, length_take_of_le full]

lemma readBody_none (h : readBody mx flags size src = (.ok none, p, rest)) :
    p = ⟨.readBody flags size, mx⟩ ∧ rest = src := by
  by_cases short : src.length < size.toNat
  · rw [readBody_short short] at h
    simp only [Prod.mk.injEq, true_and] at h
    exact ⟨h.1.symm, h.2.symm⟩
  obtain ⟨m, hread, -⟩ := readBody_full mx flags (Nat.le_of_not_lt short)
  rw [hread] at h
  simp at h

lemma readBody_ok {e} : readBody mx flags size src ≠ (.error e, p, rest) := by
  unfold readBody
  split <;> simp

end ReadBody

variable [Octet α]

/-- `decode_from_buffer`.  The loop of the source turns at most twice: a header that passes the size
check is followed by the `ReadBody` arm. -/
def decodeFromBuffer (p : ZmtpManualParser) (src : List α) : Answer α :=
  match p.state with
  | .readBody flags size => readBody p.maxMsgSize flags size src
  | .readHeader =>
    match src with
    | [] => (.ok none, p, [])
    | flagsOctet :: tail =>
      let flags := toByte flagsOctet
      if tail.length < sizeLen flags then (.ok none, p, src)
      else
        let rawSize := beNat (tail.take (sizeLen flags))
        let rest := tail.drop (sizeLen flags)
        if admits p.maxMsgSize rawSize then
          readBody p.maxMsgSize flags (UInt64.ofNat rawSize) rest
        else
          (.error (frameSizeError p.maxMsgSize rawSize), p, rest)

section Arms

variable {mx : Int} {tail : List α} {o : α}

lemma decode_header (h : sizeLen (toByte o) ≤ tail.length)
    (ok : admits mx (beNat (tail.take (sizeLen (toByte o))))) :
    decodeFromBuffer (new mx) (o :: tail) =
      readBody mx (toByte o) (UInt64.ofNat (beNat (tail.take (sizeLen (toByte o)))))
        (tail.drop (sizeLen (toByte o))) := by
  have : ¬ tail.length < sizeLen (toByte o) := by omega
  simp [decodeFromBuffer, new, this, ok]

lemma decode_oversize (h : sizeLen (toByte o) ≤ tail.length)
    (big : ¬ admits mx (beNat (tail.take (sizeLen (toByte o))))) :
    decodeFromBuffer (new mx) (o :: tail) =
      (.error (frameSizeError mx (beNat (tail.take (sizeLen (toByte o))))), new mx,
        tail.drop (sizeLen (toByte o))) := by
  have : ¬ tail.length < sizeLen (toByte o) := by omega
  simp [decodeFromBuffer, new, this, big]

lemma sizeLen_le (flags : UInt8) : sizeLen flags ≤ 8 := by
  unfold sizeLen
  split <;> decide

lemma header_size (h : sizeLen (toByte o) ≤ tail.length) :
    (UInt64.ofNat (beNat (tail.take (sizeLen (toByte o))))).toNat =
      beNat (tail.take (sizeLen (toByte o))) := by
  have bound := beNat_lt (tail.take (sizeLen (toByte o)))
  rw [length_take_of_le h] at bound
  have := Nat.pow_le_pow_right (by decide : 0 < 256) (sizeLen_le (toByte o))
  rw [UInt64.toNat_ofNat_of_lt']
  exact Nat.lt_of_lt_of_le bound (by simpa using this)

end Arms

lemma decode_arm (p) (src : List α) :
    decodeFromBuffer p src = (.ok none, p, src) ∨
    (∃ e rest, ∀ more, decodeFromBuffer p (src ++ more) = (.error e, p, rest ++ more)) ∨
    ∃ flags size rest,
      (∀ more, decodeFromBuffer p (src ++ more) = readBody p.maxMsgSize flags size (rest ++ more)) ∧
      2 * rest.length < weight p src ∧ (Admissible p → admits p.maxMsgSize size.toNat) := by
  obtain ⟨state, mx⟩ := p
  cases state with
  | readBody flags size =>
    exact .inr (.inr ⟨flags, size, src, fun _ => rfl, Nat.lt_succ_self _, id⟩)
  | readHeader =>
    match src with
    | [] => exact .inl rfl
    | o :: tail =>
      by_cases short : tail.length < sizeLen (toByte o)
      · exact .inl (by simp [decodeFromBuffer, short])
      have full : sizeLen (toByte o) ≤ tail.length := by omega
      have longer (more : List α) : sizeLen (toByte o) ≤ (tail ++ more).length := by
        rw [length_append]
        omega
      have same (more : List α) : (tail ++ more).take (sizeLen (toByte o)) = _ :=
        take_append_of_le_length full
      have left (more : List α) : (tail ++ more).drop (sizeLen (toByte o)) = _ :=
        drop_append_of_le_length full
      by_cases ok : admits mx (beNat (tail.take (sizeLen (toByte o))))
      · refine .inr (.inr ⟨toByte o, UInt64.ofNat (beNat (tail.take (sizeLen (toByte o)))),
          tail.drop (sizeLen (toByte o)), fun more => ?_, ?_, fun _ => ?_⟩)
        · have step := decode_header (longer more) (by rwa [same] : admits mx _)
          rwa [same, left] at step
        · simp only [weight, length_drop, length_cons]
          omega
        · rwa [header_size full]
      · refine .inr (.inl ⟨frameSizeError mx (beNat (tail.take (sizeLen (toByte o)))),
          tail.drop (sizeLen (toByte o)), fun more => ?_⟩)
        have step := decode_oversize (longer more) (by rwa [same] : ¬ admits mx _)
        rwa [same, left] at step

variable {p p' : ZmtpManualParser} {src rest : List α} {m : Msg α} {mx : Int} {msgs : List (Msg α)}

lemma decode_ok {r} (h : decodeFromBuffer p src = (.ok r, p', rest)) :
    (r = none ∧ p' = p ∧ rest = src) ∨ ∃ flags size left,
      readBody p.maxMsgSize flags size left = (.ok r, p', rest) ∧
      (∀ more, decodeFromBuffer p (src ++ more) = readBody p.maxMsgSize flags size (left ++ more)) ∧
      2 * left.length < weight p src ∧ (Admissible p → admits p.maxMsgSize size.toNat) := by
  rcases decode_arm p src with wait | ⟨e, left, refuse⟩ | ⟨flags, size, left, come, arm⟩
  · cases wait.symm.trans h
    exact .inl ⟨rfl, rfl, rfl⟩
  · have refused := refuse []
    rw [append_nil, h] at refused
    cases refused
  · have read := come []
    rw [append_nil, append_nil, h] at read
    exact .inr ⟨flags, size, left, read.symm, come, arm⟩

lemma decode_some (h : decodeFromBuffer p src = (.ok (some m), p', rest)) :
    weight p' rest < weight p src ∧ p' = new p.maxMsgSize ∧
      (Admissible p → admits p.maxMsgSize m.size) := by
  obtain ⟨⟨⟩, -⟩ | ⟨flags, size, left, read, -, hw, hadm⟩ := decode_ok h
  obtain ⟨-, rfl, rfl, hsize⟩ := readBody_some read
  refine ⟨?_, rfl, fun adm => by rw [hsize]; exact hadm adm⟩
  have between : weight (new p.maxMsgSize) (left.drop size.toNat) ≤ 2 * left.length := by
    simp only [weight, new, length_drop]
    omega
  omega

lemma decode_none (h : decodeFromBuffer p src = (.ok none, p', rest)) : (p' = p ∧ rest = src) ∨
    ∃ flags size, p' = ⟨.readBody flags size, p.maxMsgSize⟩ ∧
      (∀ more, decodeFromBuffer p (src ++ more) = readBody p.maxMsgSize flags size (rest ++ more)) ∧
      2 * rest.length < weight p src ∧ (Admissible p → admits p.maxMsgSize size.toNat) := by
  obtain ⟨-, waits⟩ | ⟨flags, size, left, read, arm⟩ := decode_ok h
  · exact .inl waits
  · obtain ⟨rfl, rfl⟩ := readBody_none read
    exact .inr ⟨flags, size, rfl, arm⟩

lemma decode_none_again (h : decodeFromBuffer p src = (.ok none, p', rest)) (more : List α) :
    decodeFromBuffer p' (rest ++ more) = decodeFromBuffer p (src ++ more) ∧
      weight p' rest ≤ weight p src := by
  rcases decode_none h with ⟨rfl, rfl⟩ | ⟨flags, size, rfl, come, hw, -⟩
  · exact ⟨rfl, Nat.le_refl _⟩
  · exact ⟨(come more).symm, hw⟩

lemma decode_error {e} (h : decodeFromBuffer p src = (.error e, p', rest)) : p' = p := by
  rcases decode_arm p src with wait | ⟨e', left, refuse⟩ | ⟨flags, size, left, come, -, -⟩
  · rw [wait] at h
    simp at h
  · have refused := refuse []
    rw [append_nil, h] at refused
    simp only [Prod.mk.injEq] at refused
    exact refused.2.1
  · have read := come []
    rw [append_nil, append_nil, h] at read
    exact absurd read.symm readBody_ok

lemma decode_admissible {r} (adm : Admissible p) (h : decodeFromBuffer p src = (.ok r, p', rest)) :
    Admissible p' ∧ p'.maxMsgSize = p.maxMsgSize := by
  cases r with
  | some m =>
    obtain ⟨-, rfl, -⟩ := decode_some h
    exact ⟨trivial, rfl⟩
  | none =>
    rcases decode_none h with ⟨rfl, rfl⟩ | ⟨flags, size, rfl, -, -, hadm⟩
    · exact ⟨adm, rfl⟩
    · exact ⟨hadm adm, rfl⟩

lemma decode_length {r}
    (h : decodeFromBuffer p src = (.ok r, p', rest)) : rest.length ≤ src.length := by
  have upper : weight p src ≤ 2 * src.length + 1 := by
    unfold weight
    split <;> omega
  cases r with
  | some m =>
    obtain ⟨less, rfl, -⟩ := decode_some h
    simp only [weight, new] at less
    simp only [weight] at upper
    omega
  | none =>
    rcases decode_none h with ⟨-, rfl⟩ | ⟨flags, size, -, -, less, -⟩
    · exact Nat.le_refl _
    · omega

lemma decode_size
    (h : decodeFromBuffer p src = (.ok (some m), p', rest)) : m.size ≤ src.length := by
  have upper : weight p src ≤ 2 * src.length + 1 := by
    unfold weight
    split <;> omega
  obtain ⟨⟨⟩, -⟩ | ⟨flags, size, left, read, -, hw, -⟩ := decode_ok h
  obtain ⟨full, -, -, hsize⟩ := readBody_some read
  omega

lemma waiting_short {src more rest} (waits : decodeFromBuffer p src = (.ok none, p, src))
    (comes : decodeFromBuffer p (src ++ more) = (.ok (some m), p', rest)) :
    src.length < 9 + m.size := by
  obtain ⟨state, mx⟩ := p
  cases state with
  | readBody flags size =>
    have short : src.length < size.toNat := by
      by_contra full
      obtain ⟨m', read, -⟩ := readBody_full mx flags (Nat.le_of_not_lt full)
      have : decodeFromBuffer ⟨.readBody flags size, mx⟩ src = readBody mx flags size src := by
        simp [decodeFromBuffer]
      rw [waits, read] at this
      simp at this
    have arm : decodeFromBuffer ⟨.readBody flags size, mx⟩ (src ++ more) =
        readBody mx flags size (src ++ more) := by
      simp [decodeFromBuffer]
    obtain ⟨-, -, -, same⟩ := readBody_some (arm.symm.trans comes)
    omega
  | readHeader =>
    cases src with
    | nil =>
      simp only [length_nil]
      omega
    | cons o tail =>
      have le := sizeLen_le (toByte o)
      by_cases short : tail.length < sizeLen (toByte o)
      · simp only [length_cons]
        omega
      · have long := Nat.le_of_not_lt short
        by_cases fits : admits mx (beNat (tail.take (sizeLen (toByte o))))
        · have arm := decode_header long fits
          have idle := waits
          unfold new at arm
          rw [arm] at idle
          obtain ⟨eq, -⟩ := readBody_none idle
          cases eq
        · have arm := decode_oversize long fits
          unfold new at arm
          rw [arm] at waits
          cases waits

def decoder (α : Type) [Octet α] : Decoder ZmtpManualParser α (Msg α) ZmqError where
  decode := decodeFromBuffer
  weight := weight
  weight_lt h := (decode_some h).1

lemma decoder_resumable : Resumable (decoder α) where
  some_append {p p' src rest m} more h := by
    change decodeFromBuffer p (src ++ more) = _
    change decodeFromBuffer p src = _ at h
    obtain ⟨⟨⟩, -⟩ | ⟨flags, size, left, read, come, -⟩ := decode_ok h
    rw [come, readBody_append (readBody_some read).1, read]
  none_append more h := (decode_none_again h more).1.symm
  error_append {p p' src rest e} more h := by
    change decodeFromBuffer p (src ++ more) = _
    change decodeFromBuffer p src = _ at h
    rcases decode_arm p src with wait | ⟨e, left, refuse⟩ | ⟨flags, size, left, come, -⟩
    · rw [wait] at h
      simp at h
    · have here := refuse []
      rw [append_nil, append_nil, h] at here
      simp only [Prod.mk.injEq, Except.error.injEq] at here
      obtain ⟨rfl, rfl, rfl⟩ := here
      exact refuse more
    · have here := come []
      rw [append_nil, append_nil, h] at here
      exact absurd here.symm readBody_ok

/-! ### Round trip -/

lemma rzFlags_zmtpFlags (flags : MsgFlags) :
    rzFlags (zmtpFlags flags) = flags ∧ rzFlags (zmtpFlags flags ||| zmtpFlagLong) = flags := by
  obtain ⟨more, command⟩ := flags
  cases more <;> cases command <;> decide

lemma sizeLen_zmtpFlags (flags : MsgFlags) :
    sizeLen (zmtpFlags flags) = 1 ∧ sizeLen (zmtpFlags flags ||| zmtpFlagLong) = 8 := by
  obtain ⟨more, command⟩ := flags
  cases more <;> cases command <;> decide

lemma decode_header_encode (h : admits mx m.size) (rest : List α) :
    ∃ flags, rzFlags flags = m.flags ∧ decodeFromBuffer (new mx) (ZmtpCodec.header m ++ rest) =
        readBody mx flags (UInt64.ofNat m.size) rest := by
  have come (o : α) (width : Nat) (hw : sizeLen (toByte o) = width) (hm : m.size < 256 ^ width) :
      decodeFromBuffer (new mx) (o :: be width m.size ++ rest) =
        readBody mx (toByte o) (UInt64.ofNat m.size) rest := by
    have digits : beNat ((be width m.size ++ rest).take (sizeLen (toByte o))) = m.size := by
      rw [hw, take_left' (be_length width m.size), beNat_be_of_lt hm]
    rw [cons_append, decode_header (by simp [hw]) (by rwa [digits]), digits, hw,
      drop_left' (be_length width m.size)]
  unfold ZmtpCodec.header
  split
  · refine ⟨zmtpFlags m.flags, (rzFlags_zmtpFlags m.flags).1, ?_⟩
    rw [come _ 1 (by rw [toByte_ofByte, (sizeLen_zmtpFlags m.flags).1]) (by omega), toByte_ofByte]
  · refine ⟨zmtpFlags m.flags ||| zmtpFlagLong, (rzFlags_zmtpFlags m.flags).2, ?_⟩
    rw [come _ 8 (by rw [toByte_ofByte, (sizeLen_zmtpFlags m.flags).2]) m.body_lt, toByte_ofByte]

lemma decode_encode (h : admits mx m.size) (rest : List α) :
    decodeFromBuffer (new mx) (ZmtpCodec.encode m ++ rest) =
      (.ok (some m.received), new mx, rest) := by
  obtain ⟨flags, hflags, come⟩ := decode_header_encode h (m.body ++ rest)
  have hsize : (UInt64.ofNat m.size).toNat = m.body.length := UInt64.toNat_ofNat_of_lt' m.body_lt
  have full : ¬ (m.body ++ rest).length < m.body.length := by simp
  rw [ZmtpCodec.encode, append_assoc, come]
  simp only [readBody, hsize, full, dite_false, take_left, drop_left, hflags]
  rfl

lemma drain_encodeAll (h : ∀ m ∈ msgs, admits mx m.size) :
    drain (decoder α) (new mx) (ZmtpCodec.encodeAll msgs) =
      ⟨msgs.map Msg.received, .ok (), new mx, []⟩ := by
  induction msgs with
  | nil => exact drain_none rfl
  | cons m ms ih =>
    have first : (decoder α).decode (new mx) (ZmtpCodec.encodeAll (m :: ms)) =
        (.ok (some m.received), new mx, ZmtpCodec.encodeAll ms) :=
      decode_encode (h m mem_cons_self) _
    rw [drain_some first, ih fun m' hm' => h m' (mem_cons_of_mem m hm')]
    rfl

lemma new_idle (mx : Int) : Idle (decoder α) (new mx) [] := rfl

lemma feed_encodeAll (h : ∀ m ∈ msgs, admits mx m.size) {chunks}
    (hc : chunks.flatten = ZmtpCodec.encodeAll msgs) :
    feed (decoder α) (new mx) [] chunks = ⟨msgs.map Msg.received, .ok (), new mx, []⟩ := by
  obtain ⟨-, outcome, whole⟩ := feed_drain decoder_resumable (new mx) [] chunks (new_idle mx)
  rw [nil_append, hc, drain_encodeAll h] at outcome whole
  exact whole outcome

lemma feed_admits (mx : Int) (chunks) :
    ∀ m ∈ (feed (decoder α) (new mx) [] chunks).items, admits mx m.size := by
  refine feed_all (fun p => Admissible p ∧ p.maxMsgSize = mx) (fun m : Msg α => admits mx m.size)
    ?_ ?_ (new mx) [] chunks ⟨trivial, rfl⟩
  · rintro p p' src rest m ⟨adm, rfl⟩ h
    exact ⟨(decode_some h).2.2 adm, decode_admissible adm h⟩
  · rintro p p' src rest ⟨adm, rfl⟩ h
    exact decode_admissible adm h

/-- Frames that the limit admits come back in order from every split of their encoding, with no
octet left; any two splits of a stream give the same frames and the same first error; and no frame
is longer than the limit. -/
theorem framing_roundtrip (mx : Int) :
    (∀ (msgs : List (Msg α)) (chunks : List (List α)), (∀ m ∈ msgs, admits mx m.size) →
      chunks.flatten = ZmtpCodec.encodeAll msgs →
      feed (decoder α) (new mx) [] chunks = ⟨msgs.map Msg.received, .ok (), new mx, []⟩) ∧
    (∀ chunks chunks' : List (List α), chunks.flatten = chunks'.flatten →
      (feed (decoder α) (new mx) [] chunks).items = (feed (decoder α) (new mx) [] chunks').items ∧
      (feed (decoder α) (new mx) [] chunks).outcome =
        (feed (decoder α) (new mx) [] chunks').outcome) ∧
    (∀ chunks : List (List α), 0 ≤ mx →
      ∀ m ∈ (feed (decoder α) (new mx) [] chunks).items, (m.size : Int) ≤ mx) := by
  refine ⟨fun msgs chunks h hc => feed_encodeAll h hc, fun chunks chunks' same => ?_,
    fun chunks hmx m hm => feed_admits mx chunks m hm hmx⟩
  exact feed_split decoder_resumable (new mx) [] (new_idle mx) same

/-- Two frames under a limit of five octets, cut inside the first header and inside the first
body. -/
theorem framing_roundtrip_two :
    feed (decoder UInt8) (new 5) [] [[1], [3, 7], [8, 9, 4, 0]] =
      ⟨[⟨some [7, 8, 9], ⟨true, false⟩, by decide⟩, ⟨some [], ⟨false, true⟩, by decide⟩],
        .ok (), new 5, []⟩ :=
  (framing_roundtrip 5).1
    [⟨some [7, 8, 9], ⟨true, false⟩, by decide⟩, ⟨none, ⟨false, true⟩, by decide⟩]
    [[1], [3, 7], [8, 9, 4, 0]] (by decide) (by decide)

end ZmtpManualParser

end Rzmq
