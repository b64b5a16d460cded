import Rzmq.Security.Cipher
import Rzmq.Wire.Parser

/-! The framers of `security/framer.rs`.  A `LengthPrefixedFramer` nests two parsers: records of a
two-octet length outside, and ZMTP frames in what has been decrypted inside.  A record may hold
several frames or part of one. -/

namespace Rzmq

open List Octet Incremental

structure NullFramer where
  parser : ZmtpManualParser

namespace NullFramer

def new (maxMsgSize : Int) : NullFramer := ⟨.new maxMsgSize⟩

variable {α : Type} [Octet α]

def tryReadMsg (f : NullFramer) (net : List α) :
    Except ZmqError (Option (Msg α)) × NullFramer × List α :=
  let (result, parser, rest) := f.parser.decodeFromBuffer net
  (result, ⟨parser⟩, rest)

def writeMsgMultipart (_ : NullFramer) (msgs : List (Msg α)) : Except ZmqError (List α) :=
  .ok (ZmtpCodec.encodeAll msgs)

end NullFramer

structure LengthPrefixedFramer (κ α : Type) where
  cipher : κ
  parser : ZmtpManualParser
  decryptedBuffer : List α

namespace LengthPrefixedFramer

variable {κ α : Type}

def new (cipher : κ) (maxMsgSize : Int) : LengthPrefixedFramer κ α :=
  ⟨cipher, .new maxMsgSize, []⟩

def weight (f : LengthPrefixedFramer κ α) (net : List α) : Nat :=
  2 * net.length + f.parser.weight f.decryptedBuffer

variable [Octet α]

def recordLength (net : List α) : Nat := beNat (net.take 2)

variable [IDataCipher κ α]

def tryReadMsg (f : LengthPrefixedFramer κ α) (net : List α) :
    Except ZmqError (Option (Msg α)) × LengthPrefixedFramer κ α × List α :=
  match f.parser.decodeFromBuffer f.decryptedBuffer with
  | (.error e, parser, buffer) => (.error e, ⟨f.cipher, parser, buffer⟩, net)
  | (.ok (some msg), parser, buffer) => (.ok (some msg), ⟨f.cipher, parser, buffer⟩, net)
  | (.ok none, parser, buffer) =>
    if _h : net.length < 2 then (.ok none, ⟨f.cipher, parser, buffer⟩, net)
    else
      let len := recordLength net
      if net.length < 2 + len then (.ok none, ⟨f.cipher, parser, buffer⟩, net)
      else
        let encryptedFrame := (net.drop 2).take len
        let rest := (net.drop 2).drop len
        match IDataCipher.decrypt f.cipher encryptedFrame with
        | (.error e, cipher) => (.error e, ⟨cipher, parser, buffer⟩, rest)
        | (.ok plaintext, cipher) => tryReadMsg ⟨cipher, parser, buffer ++ plaintext⟩ rest
termination_by net.length
decreasing_by
  simp only [length_drop]
  omega

def writeMsgMultipart (f : LengthPrefixedFramer κ α) (msgs : List (Msg α)) :
    Except ZmqError (List α) × LengthPrefixedFramer κ α :=
  match IDataCipher.encrypt f.cipher (ZmtpCodec.encodeAll msgs) with
  | (.error e, cipher) => (.error e, { f with cipher })
  | (.ok ciphertext, cipher) => (.ok (be 2 ciphertext.length ++ ciphertext), { f with cipher })

/-! ### One call -/

omit [IDataCipher κ α] in
lemma recordLength_append {net} (h : 2 ≤ net.length) (more : List α) :
    recordLength (net ++ more) = recordLength net := by
  rw [recordLength, take_append_of_le_length h, recordLength]

section Call

variable {f : LengthPrefixedFramer κ α} {parser : ZmtpManualParser} {buffer net : List α}

lemma tryReadMsg_error {e}
    (h : f.parser.decodeFromBuffer f.decryptedBuffer = (.error e, parser, buffer)) :
    f.tryReadMsg net = (.error e, ⟨f.cipher, parser, buffer⟩, net) := by
  rw [tryReadMsg, h]

lemma tryReadMsg_some {m}
    (h : f.parser.decodeFromBuffer f.decryptedBuffer = (.ok (some m), parser, buffer)) :
    f.tryReadMsg net = (.ok (some m), ⟨f.cipher, parser, buffer⟩, net) := by
  rw [tryReadMsg, h]

section

variable (h : f.parser.decodeFromBuffer f.decryptedBuffer = (.ok none, parser, buffer))
include h

lemma tryReadMsg_wait (short : net.length < 2 ∨ net.length < 2 + recordLength net) :
    f.tryReadMsg net = (.ok none, ⟨f.cipher, parser, buffer⟩, net) := by
  rw [tryReadMsg, h]
  rcases short with short | short
  · simp [short]
  · simp [short]

lemma tryReadMsg_record (record rest : List α)
    (hlen : net.length = 2 + record.length + rest.length) (hnet : net.drop 2 = record ++ rest)
    (hrec : recordLength net = record.length) :
    f.tryReadMsg net =
      match IDataCipher.decrypt f.cipher record with
      | (.error e, cipher) => (.error e, ⟨cipher, parser, buffer⟩, rest)
      | (.ok plaintext, cipher) => tryReadMsg ⟨cipher, parser, buffer ++ plaintext⟩ rest := by
  have long : ¬ net.length < 2 := by omega
  have full : ¬ net.length < 2 + record.length := by omega
  rw [tryReadMsg, h]
  simp [long, full, hrec, hnet]

end

lemma record_cases (net : List α) : (net.length < 2 ∨ net.length < 2 + recordLength net) ∨
    ∃ record rest, net.length = 2 + record.length + rest.length ∧
      net.drop 2 = record ++ rest ∧ recordLength net = record.length := by
  by_cases short : net.length < 2 ∨ net.length < 2 + recordLength net
  · exact .inl short
  refine .inr
    ⟨(net.drop 2).take (recordLength net), (net.drop 2).drop (recordLength net), ?_, ?_, ?_⟩
  · simp
    omega
  · rw [take_append_drop]
  · simp
    omega

end Call

lemma tryReadMsg_settled {f : LengthPrefixedFramer κ α} {parser : ZmtpManualParser}
    {buffer : List α}
    (h : f.parser.decodeFromBuffer f.decryptedBuffer = (.ok none, parser, buffer)) (net : List α) :
    f.tryReadMsg net = tryReadMsg ⟨f.cipher, parser, buffer⟩ net := by
  have again := (ZmtpManualParser.decode_none_again h []).1
  simp only [append_nil] at again
  have settled := again.trans h
  rw [tryReadMsg, h]
  conv => rhs; rw [tryReadMsg, settled]

/-- A call fails, returns a frame already decrypted, waits, or goes on with the record it decrypted,
whatever follows the buffer. -/
lemma tryReadMsg_cases (f : LengthPrefixedFramer κ α) (net : List α) :
    (∃ e f' rest, ∀ more, f.tryReadMsg (net ++ more) = (.error e, f', rest ++ more)) ∨
    (∃ m f', weight f' net < weight f net ∧
      ∀ more, f.tryReadMsg (net ++ more) = (.ok (some m), f', net ++ more)) ∨
    (∃ f', f.tryReadMsg net = (.ok none, f', net) ∧
      ∀ more, f.tryReadMsg (net ++ more) = f'.tryReadMsg (net ++ more)) ∨
    ∃ f' rest, rest.length < net.length ∧ weight f' rest ≤ weight f net ∧
      ∀ more, f.tryReadMsg (net ++ more) = f'.tryReadMsg (rest ++ more) := by
  match h : f.parser.decodeFromBuffer f.decryptedBuffer with
  | (.error e, parser, buffer) => exact .inl ⟨e, _, net, fun more => tryReadMsg_error h⟩
  | (.ok (some m), parser, buffer) =>
    refine .inr (.inl ⟨m, _, ?_, fun more => tryReadMsg_some h⟩)
    have := (ZmtpManualParser.decode_some h).1
    simp [weight]
    omega
  | (.ok none, parser, buffer) =>
    rcases record_cases net with short | ⟨record, rest, hlen, hnet, hrec⟩
    · exact .inr (.inr (.inl ⟨_, tryReadMsg_wait h short, fun more => tryReadMsg_settled h _⟩))
    have two : 2 ≤ net.length := by omega
    have split (more : List α) : (net ++ more).drop 2 = record ++ (rest ++ more) := by
      rw [drop_append_of_le_length two, hnet, append_assoc]
    have step (more : List α) := tryReadMsg_record h record (rest ++ more)
      (by simp only [length_append]; omega) (split more)
      (by rw [recordLength_append two, hrec])
    match hdec : IDataCipher.decrypt f.cipher record with
    | (.error e, cipher) =>
      refine .inl ⟨e, ⟨cipher, parser, buffer⟩, rest, fun more => ?_⟩
      rw [step more, hdec]
    | (.ok plaintext, cipher) =>
      refine .inr (.inr (.inr ⟨⟨cipher, parser, buffer ++ plaintext⟩, rest, by omega, ?_,
        fun more => ?_⟩))
      · have bound := IDataCipher.decrypt_length hdec
        have inner := (ZmtpManualParser.decode_none_again h []).2
        have grow := ZmtpManualParser.weight_append parser buffer plaintext
        simp [weight]
        omega
      · rw [step more, hdec]

lemma tryReadMsg_weight (f : LengthPrefixedFramer κ α) (net : List α) {f' rest m}
    (h : f.tryReadMsg net = (.ok (some m), f', rest)) : weight f' rest < weight f net := by
  induction hn : net.length using Nat.strongRecOn generalizing f net with
  | _ n ih =>
    subst hn
    have cases := tryReadMsg_cases f net
    rcases cases with ⟨e, g, left, fail⟩ | ⟨m', g, hw, item⟩ | ⟨g, wait, -⟩ | ⟨g, left, hl, hw, go⟩
    · have := fail []
      rw [append_nil, h] at this
      simp at this
    · have := item []
      rw [append_nil, h] at this
      simp only [Prod.mk.injEq] at this
      rw [this.2.1, this.2.2]
      exact hw
    · rw [wait] at h
      simp at h
    · have := go []
      rw [append_nil, append_nil, h] at this
      exact Nat.lt_of_lt_of_le (ih _ hl g left this.symm rfl) hw

def decoder (κ α : Type) [Octet α] [IDataCipher κ α] :
    Decoder (LengthPrefixedFramer κ α) α (Msg α) ZmqError where
  decode := tryReadMsg
  weight := weight
  weight_lt h := tryReadMsg_weight _ _ h

lemma tryReadMsg_append (f : LengthPrefixedFramer κ α) (net more : List α) :
    (∀ {f' rest}, f.tryReadMsg net = (.ok none, f', rest) →
      f.tryReadMsg (net ++ more) = f'.tryReadMsg (rest ++ more)) ∧
    (∀ {f' rest r}, r ≠ .ok none → f.tryReadMsg net = (r, f', rest) →
      f.tryReadMsg (net ++ more) = (r, f', rest ++ more)) := by
  induction hn : net.length using Nat.strongRecOn generalizing f net with
  | _ n ih =>
    subst hn
    have cases := tryReadMsg_cases f net
    rcases cases with ⟨e, g, left, fail⟩ | ⟨m, g, -, item⟩ | ⟨g, wait, later⟩ | ⟨g, left, hl, -, go⟩
    · have here := fail []
      rw [append_nil, append_nil] at here
      rw [here, fail more]
      simp only [Prod.mk.injEq, reduceCtorEq, false_and, false_implies, implies_true, true_and]
      rintro f' rest r - ⟨rfl, rfl, rfl⟩
      exact ⟨rfl, rfl, rfl⟩
    · have here := item []
      rw [append_nil] at here
      rw [here, item more]
      simp only [Prod.mk.injEq, Except.ok.injEq, reduceCtorEq, false_and, false_implies,
        implies_true, true_and]
      rintro f' rest r - ⟨rfl, rfl, rfl⟩
      exact ⟨rfl, rfl, rfl⟩
    · rw [wait, later more]
      simp only [Prod.mk.injEq, true_and]
      refine ⟨?_, ?_⟩
      · rintro f' rest ⟨rfl, rfl⟩
        rfl
      · rintro f' rest r hr ⟨rfl, -⟩
        exact absurd rfl hr
    · have here := go []
      rw [append_nil, append_nil] at here
      rw [here, go more]
      exact ih _ hl g left rfl

lemma decoder_resumable : Resumable (decoder κ α) where
  some_append {f _ net _ _} more h := (tryReadMsg_append f net more).2 (by simp) h
  none_append {f _ net _} more h := (tryReadMsg_append f net more).1 h
  error_append {f _ net _ _} more h := (tryReadMsg_append f net more).2 (by simp) h

lemma new_idle (cipher : κ) (mx : Int) : Idle (decoder κ α) (new cipher mx) [] :=
  tryReadMsg_wait rfl (.inl (by simp))

end LengthPrefixedFramer

end Rzmq
