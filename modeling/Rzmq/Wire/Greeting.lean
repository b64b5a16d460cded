import Rzmq.Message

/-! The greetings of `protocol/zmtp/greeting.rs`: the signature and the revision byte that every
peer sends, the ZMTP/2.0 and the ZMTP/3.x tails, and the socket types of ZMTP/2.0. -/

namespace Rzmq

open List Octet

def greetingLength : Nat := 64
def signatureLength : Nat := 10
def v2GreetingLength : Nat := signatureLength + 2
def mechanismOffset : Nat := 12
def mechanismLength : Nat := 20
def asServerOffset : Nat := mechanismOffset + mechanismLength
def paddingOffset : Nat := asServerOffset + 1

def greetingVersionMajorByte : UInt8 := 0x03
def greetingVersionMinorByte : UInt8 := 0x00

def v2Revision : UInt8 := 0x01

inductive NegotiatedVersion where
  | v2
  | v3 (minor : UInt8)
deriving DecidableEq

def hex (b : UInt8) : String :=
  let digits := Nat.toDigits 16 b.toNat
  String.ofList ('0' :: 'x' :: (replicate (2 - digits.length) '0' ++ digits))

/-- `peek_revision`.  The bytes between the first and the last one of the signature are not
checked. -/
def peekRevision (buf : List UInt8) : Except ZmqError UInt8 :=
  match buf[0]?, buf[9]?, buf[10]? with
  | some first, some last, some revision =>
    if first ≠ 0xFF then
      .error (.protocolViolation s!"greeting signature byte 0: expected 0xff, got {hex first}")
    else if last ≠ 0x7F then
      .error (.protocolViolation s!"greeting signature byte 9: expected 0x7f, got {hex last}")
    else .ok revision
  | _, _, _ =>
    .error (.protocolViolation
      s!"peek_revision: need {signatureLength + 1} bytes, got {buf.length}")

lemma peekRevision_ok {buf revision}
    (peeked : peekRevision buf = .ok revision) : buf[10]? = some revision := by
  unfold peekRevision at peeked
  split at peeked
  · rename_i same
    split at peeked
    · cases peeked
    · split at peeked
      · cases peeked
      · cases peeked
        exact same
  · cases peeked

structure ZmtpGreeting where
  version : UInt8 × UInt8
  mechanism : List UInt8
  asServer : Bool

variable {α : Type} [Octet α]

def ZmtpGreeting.parse (data : List UInt8) : Except ZmqError ZmtpGreeting :=
  let major := data.getD 10 0
  let minor := data.getD 11 0
  if data.getD 0 0 ≠ 0xFF then .error (.protocolViolation "Greeting does not start with 0xFF")
  else if (data.drop paddingOffset).any (· ≠ 0) then
    .error (.protocolViolation "Non-zero byte in greeting padding")
  else if major ≠ greetingVersionMajorByte then
    .error (.protocolViolation s!"Unsupported ZMTP major version {major}.{minor}")
  else
    let mechanism := (data.drop mechanismOffset).take mechanismLength
    if data.getD asServerOffset 0 = 0 then .ok ⟨(major, minor), mechanism, false⟩
    else if data.getD asServerOffset 0 = 1 then .ok ⟨(major, minor), mechanism, true⟩
    else .error (.protocolViolation "Invalid as-server flag")

def ZmtpGreeting.decode (buffer : List α) : Except ZmqError (Option ZmtpGreeting) × List α :=
  if buffer.length < greetingLength then (.ok none, buffer)
  else
    ((parse (reading (buffer.take greetingLength))).map some,
      buffer.drop greetingLength)

def encodeSignature : List α := bytes (0xFF :: replicate 8 0 ++ [0x7F])

def encodeV3TailPostMajor (mechanism : List UInt8) (asServer : Bool) : List α :=
  bytes (greetingVersionMinorByte :: mechanism ++ (if asServer then 1 else 0) ::
    replicate 31 0)

def encodeV3Tail (mechanism : List UInt8) (asServer : Bool) : List α :=
  bytes [greetingVersionMajorByte] ++ encodeV3TailPostMajor mechanism asServer

namespace ZmtpGreeting

def encode (mechanism : List UInt8) (asServer : Bool) : List α :=
  encodeSignature ++ encodeV3Tail mechanism asServer

/-- The checks of `parse` other than that of the version. -/
def FieldsValid (data : List UInt8) : Prop :=
  data.getD 0 0 = 0xFF ∧ (data.drop paddingOffset).any (· ≠ 0) = false ∧
    (data.getD asServerOffset 0 = 0 ∨ data.getD asServerOffset 0 = 1)

lemma parse_eq_ok {data : List UInt8} (fields : FieldsValid data)
    (major : data.getD 10 0 = greetingVersionMajorByte) :
    parse data = .ok ⟨(greetingVersionMajorByte, data.getD 11 0),
      (data.drop mechanismOffset).take mechanismLength, data.getD asServerOffset 0 == 1⟩ := by
  obtain ⟨first, padding, flag⟩ := fields
  unfold parse
  simp only [first, major, padding, ne_eq, not_true_eq_false, if_false, Bool.false_eq_true]
  obtain flag | flag := flag <;> rw [flag] <;> rfl

lemma parse_eq_error {data : List UInt8} (major : data.getD 10 0 ≠ greetingVersionMajorByte) :
    ∃ e, parse data = .error e := by
  unfold parse
  simp only [major, ne_eq, not_false_eq_true, if_true]
  split
  · exact ⟨_, rfl⟩
  · split <;> exact ⟨_, rfl⟩

variable {mechanism : List UInt8}

section

variable (named : mechanism.length = mechanismLength)
include named

lemma encode_length (asServer : Bool) :
    (encode mechanism asServer : List α).length = greetingLength := by
  simp [encode, encodeV3Tail, encodeSignature, encodeV3TailPostMajor, named, mechanismLength,
    greetingLength]

lemma parse_encode (asServer : Bool) :
    parse (reading (encode mechanism asServer : List α)) = .ok ⟨(3, 0), mechanism, asServer⟩ := by
  let flag : UInt8 := if asServer then 1 else 0
  let front : List UInt8 := [0xFF, 0, 0, 0, 0, 0, 0, 0, 0, 0x7F, 3, 0]
  have read : reading (encode mechanism asServer : List α) =
      front ++ mechanism ++ flag :: replicate 31 0 := by
    simp [encode, encodeV3Tail, encodeSignature, encodeV3TailPostMajor, flag, front,
      greetingVersionMajorByte, greetingVersionMinorByte]
  have back : (front ++ mechanism ++ flag :: replicate 31 0).drop asServerOffset =
      flag :: replicate 31 0 := drop_left' (by
        rw [length_append, named]
        rfl)
  have last : (front ++ mechanism ++ flag :: replicate 31 0).getD asServerOffset 0 = flag := by
    rw [getD_eq_getElem?_getD, ← Nat.add_zero asServerOffset, ← getElem?_drop, back]
    rfl
  rw [read, parse_eq_ok ⟨rfl, ?_, ?_⟩ rfl, last, append_assoc]
  · have name : ((front ++ (mechanism ++ flag :: replicate 31 0)).drop mechanismOffset).take
        mechanismLength = mechanism := take_left' named
    rw [name]
    cases asServer <;> rfl
  · rw [paddingOffset, ← drop_drop, back]
    rfl
  · rw [last]
    cases asServer
    · exact .inl rfl
    · exact .inr rfl

lemma decode_encode (asServer : Bool) (rest : List α) :
    decode (encode mechanism asServer ++ rest) =
      (.ok (some ⟨(3, 0), mechanism, asServer⟩), rest) := by
  have size := encode_length (α := α) named asServer
  have long : ¬ (encode mechanism asServer ++ rest).length < greetingLength := by
    rw [length_append]
    omega
  rw [decode, if_neg long, take_left' size, drop_left' size, parse_encode named]
  rfl

end

/-- The three pieces of the staged greeting are the whole one, which `decode` inverts.  Of the
greetings whose first bytes lead to ZMTP/3 and whose other fields are valid, `decode` accepts those
of revision 3 alone. -/
theorem staged_greeting (named : mechanism.length = mechanismLength) (asServer : Bool) :
    (encodeSignature ++ bytes [greetingVersionMajorByte] ++
      encodeV3TailPostMajor mechanism asServer : List α) = encode mechanism asServer ∧
    (encode mechanism asServer : List α).length = greetingLength ∧
    (∀ rest : List α, decode (encode mechanism asServer ++ rest) =
      (.ok (some ⟨(3, 0), mechanism, asServer⟩), rest)) ∧
    ∀ (data : List α) revision, data.length = greetingLength →
      peekRevision (reading data) = .ok revision → greetingVersionMajorByte ≤ revision →
      FieldsValid (reading data) →
      ((∃ g, decode data = (.ok (some g), [])) ↔ revision = greetingVersionMajorByte) := by
  refine ⟨append_assoc .., encode_length named asServer, decode_encode named asServer,
    fun data revision whole peeked _ fields => ?_⟩
  have major : (reading data).getD 10 0 = revision := by
    rw [getD_eq_getElem?_getD, peekRevision_ok peeked]
    rfl
  rw [decode, if_neg (by omega), take_of_length_le whole.le, drop_eq_nil_of_le whole.le, ← major]
  constructor
  · rintro ⟨g, decoded⟩
    by_contra other
    obtain ⟨e, refused⟩ := parse_eq_error other
    rw [refused] at decoded
    cases decoded
  · intro three
    rw [parse_eq_ok fields three]
    exact ⟨_, rfl⟩

theorem staged_greeting_null :
    let null := utf8 "NULL" ++ replicate 16 0
    (encode null false : List UInt8).length = greetingLength ∧
      decode (encode null false ++ [7] : List UInt8) = (.ok (some ⟨(3, 0), null, false⟩), [7]) :=
  have staged := staged_greeting (α := UInt8) (by decide) false
  ⟨staged.2.1, staged.2.2.1 [7]⟩

/-- A peer of revision 4 is taken for ZMTP/3 by its first bytes, and then refused. -/
theorem later_revision_refused :
    let data : List UInt8 := encodeSignature ++ 4 :: replicate 53 0
    peekRevision data = .ok 4 ∧ FieldsValid data ∧
      decode data = (.error (.protocolViolation "Unsupported ZMTP major version 4.0"), []) :=
  ⟨rfl, ⟨rfl, rfl, .inl rfl⟩, rfl⟩

end ZmtpGreeting

def socketTypeNameFromCode (code : UInt8) : Option String :=
  ["PAIR", "PUB", "SUB", "REQ", "REP", "DEALER", "ROUTER", "PULL", "PUSH"][code.toNat]?

def socketTypeCode (name : String) : Option UInt8 :=
  match name with
  | "PAIR" => some 0x00
  | "PUB" => some 0x01
  | "SUB" => some 0x02
  | "REQ" => some 0x03
  | "REP" => some 0x04
  | "DEALER" => some 0x05
  | "ROUTER" => some 0x06
  | "PULL" => some 0x07
  | "PUSH" => some 0x08
  | _ => none

def v2Compatible (ownName peerName : String) : Bool :=
  match ownName, peerName with
  | "PULL", "PUSH" | "PUSH", "PULL" => true
  | "PUB", "SUB" | "SUB", "PUB" => true
  | "REQ", "REP" | "REP", "REQ" => true
  | "REQ", "ROUTER" | "ROUTER", "REQ" => true
  | "REP", "DEALER" | "DEALER", "REP" => true
  | "DEALER", "ROUTER" | "ROUTER", "DEALER" => true
  | "DEALER", "DEALER" | "ROUTER", "ROUTER" | "PAIR", "PAIR" => true
  | _, _ => false

def validateV2SocketTypeCompat (ownName : String) (peerByte : UInt8) : Except ZmqError String :=
  match socketTypeNameFromCode peerByte with
  | none =>
    .error (.protocolViolation s!"v2 peer advertised unknown socket-type byte {hex peerByte}")
  | some peerName =>
    if v2Compatible ownName peerName then .ok peerName
    else
      .error (.protocolViolation
        s!"incompatible ZMTP/2.0 socket pairing: local {ownName} ↔ peer {peerName}")

end Rzmq
