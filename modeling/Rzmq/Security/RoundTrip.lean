import Rzmq.Security.Framer

/-! The stream between two secure framers.  When every record that `write_msg_multipart` returns
announces its own length, the peer reads back the frames, however the stream is cut.  A NOISE cipher
refuses what does not fit a record; with CURVE the cast to `u16` wraps. -/

namespace Rzmq

open List Octet Incremental
open IDataCipher (decrypt encrypt)
open ZmtpCodec (encode encodeAll encodeAll_cons encodeAll_nil header_length)

section InOrder

variable {κ α : Type} [IDataCipher κ α]

/-- The receiver decrypts what the sender encrypted, and a call that fails emits nothing. -/
structure InSync (R : κ → κ → Prop) : Prop where
  delivered : ∀ {a b a' : κ} {p c : List α}, R a b → encrypt a p = (.ok c, a') →
    ∃ b', decrypt b c = (.ok p, b') ∧ R a' b'
  refused : ∀ {a b a' : κ} {p : List α} {e : ZmqError}, R a b →
    encrypt a p = (.error e, a') → R a' b

def Matching (a b : κ) : Prop := ∃ R : κ → κ → Prop, InSync R ∧ R a b

end InOrder

namespace LengthPrefixedFramer

variable {κ α : Type} [Octet α] [IDataCipher κ α]

def writeRun : LengthPrefixedFramer κ α → List (List (Msg α)) → List (List (Msg α) × List α)
  | _, [] => []
  | f, batch :: batches =>
    match f.writeMsgMultipart batch with
    | (.error _, f') => writeRun f' batches
    | (.ok octets, f') => (batch, octets) :: writeRun f' batches

variable (f : LengthPrefixedFramer κ α) (batches : List (List (Msg α)))

def emitted : List α :=
  (f.writeRun batches).flatMap (·.2)

def accepted : List (Msg α) :=
  (f.writeRun batches).flatMap (·.1.map Msg.received)

def Unwrapped : Prop :=
  ∀ call ∈ f.writeRun batches, recordLength call.2 + 2 = call.2.length

/-- Every split of what was emitted gives the frames of the successful calls, in order, with nothing
left and no error. -/
def RoundTrip (g : LengthPrefixedFramer κ α) (batches : List (List (Msg α))) : Prop :=
  ∀ chunks : List (List α), chunks.flatten = f.emitted batches →
    (feed (decoder κ α) g [] chunks).items = f.accepted batches ∧
    (feed (decoder κ α) g [] chunks).outcome = .ok () ∧
    (feed (decoder κ α) g [] chunks).rest = []

section Run

variable {f f' : LengthPrefixedFramer κ α} {batch : List (Msg α)} {batches : List (List (Msg α))}

lemma writeRun_error {e} (h : f.writeMsgMultipart batch = (.error e, f')) :
    f.writeRun (batch :: batches) = f'.writeRun batches := by
  rw [writeRun, h]

lemma writeRun_ok {octets} (h : f.writeMsgMultipart batch = (.ok octets, f')) :
    f.writeRun (batch :: batches) = (batch, octets) :: f'.writeRun batches := by
  rw [writeRun, h]

lemma writeMsgMultipart_cases (f : LengthPrefixedFramer κ α) (batch : List (Msg α)) :
    (∃ e cipher, encrypt f.cipher (encodeAll batch) = (.error e, cipher) ∧
      f.writeMsgMultipart batch = (.error e, { f with cipher })) ∨
    ∃ c cipher, encrypt f.cipher (encodeAll batch) = (.ok c, cipher) ∧
      f.writeMsgMultipart batch = (.ok (be 2 c.length ++ c), { f with cipher }) := by
  match h : encrypt f.cipher (encodeAll batch) with
  | (.error e, cipher) => exact .inl ⟨e, cipher, rfl, by rw [writeMsgMultipart, h]⟩
  | (.ok c, cipher) => exact .inr ⟨c, cipher, rfl, by rw [writeMsgMultipart, h]⟩

omit [IDataCipher κ α] in
lemma recordLength_record (c : List α) :
    recordLength (be 2 c.length ++ c) = c.length % 65536 := by
  rw [recordLength, take_left' (be_length 2 c.length), beNat_be]
  rfl

omit [IDataCipher κ α] in
lemma record_unwrapped (c : List α) :
    recordLength (be 2 c.length ++ c) + 2 = (be 2 c.length ++ c).length ↔ c.length ≤ 65535 := by
  rw [recordLength_record, length_append, be_length]
  omega

end Run

lemma drain_buffered (cipher : κ) {mx : Int} {ms}
    (adm : ∀ m ∈ ms, ZmtpManualParser.admits mx m.size) (net : List α) :
    drain (decoder κ α) ⟨cipher, .new mx, encodeAll ms⟩ net =
      { drain (decoder κ α) ⟨cipher, .new mx, []⟩ net with
        items := ms.map Msg.received ++
          (drain (decoder κ α) ⟨cipher, .new mx, []⟩ net).items } := by
  induction ms with
  | nil => rfl
  | cons m ms ih =>
    have first : (decoder κ α).decode ⟨cipher, .new mx, encodeAll (m :: ms)⟩ net =
        (.ok (some m.received), ⟨cipher, .new mx, encodeAll ms⟩, net) :=
      tryReadMsg_some (ZmtpManualParser.decode_encode (adm m mem_cons_self) _)
    rw [drain_some first, ih fun m' hm' => adm m' (mem_cons_of_mem m hm')]
    rfl

lemma drain_record {k k' : κ} {p c} (fits : c.length ≤ 65535)
    (hdec : decrypt k c = (.ok p, k')) (mx : Int) (rest : List α) :
    drain (decoder κ α) ⟨k, .new mx, []⟩ (be 2 c.length ++ c ++ rest) =
      drain (decoder κ α) ⟨k', .new mx, p⟩ rest := by
  refine drain_congr ?_
  have hrec : recordLength (be 2 c.length ++ c ++ rest) = c.length := by
    rw [recordLength_append (by simp), recordLength_record]
    omega
  have hnet : (be 2 c.length ++ c ++ rest).drop 2 = c ++ rest := by
    rw [append_assoc, drop_left' (be_length 2 c.length)]
  have hlen : (be 2 c.length ++ c ++ rest).length = 2 + c.length + rest.length := by
    simp only [length_append, be_length]
  have call := tryReadMsg_record (f := ⟨k, .new mx, []⟩) rfl c rest hlen hnet hrec
  rw [hdec] at call
  exact call

lemma drain_emitted {R} (sync : InSync R) {mx : Int} {batches}
    (adm : ∀ batch ∈ batches, ∀ m ∈ batch, ZmtpManualParser.admits mx m.size)
    (f : LengthPrefixedFramer κ α) (k : κ) (hR : R f.cipher k) (hw : f.Unwrapped batches) :
    (drain (decoder κ α) (new k mx) (f.emitted batches)).items = f.accepted batches ∧
    (drain (decoder κ α) (new k mx) (f.emitted batches)).outcome = .ok () ∧
    (drain (decoder κ α) (new k mx) (f.emitted batches)).rest = [] := by
  induction batches generalizing f k with
  | nil =>
    have done : (decoder κ α).decode (new k mx) (f.emitted []) = (.ok none, new k mx, []) :=
      new_idle k mx
    rw [drain_none done]
    exact ⟨rfl, rfl, rfl⟩
  | cons batch batches ih =>
    have rest := fun b hb => adm b (mem_cons_of_mem batch hb)
    rcases writeMsgMultipart_cases f batch with ⟨e, cipher, henc, call⟩ | ⟨c, cipher, henc, call⟩
    · simp only [emitted, accepted, Unwrapped, writeRun_error call] at hw ⊢
      exact ih rest { f with cipher } k (sync.refused hR henc) hw
    · obtain ⟨k', hdec, hR'⟩ := sync.delivered hR henc
      simp only [emitted, accepted, Unwrapped, writeRun_ok call, mem_cons, forall_eq_or_imp,
        flatMap_cons] at hw ⊢
      obtain ⟨items, outcome, left⟩ := ih rest { f with cipher } k' hR' hw.2
      have fits := (record_unwrapped c).mp hw.1
      simp only [emitted, accepted, new] at items outcome left
      rw [new, drain_record fits hdec, drain_buffered k' (adm batch mem_cons_self)]
      exact ⟨by simp only [items], outcome, left⟩

lemma roundTrip_of_unwrapped {f : LengthPrefixedFramer κ α} {k : κ} (sync : Matching f.cipher k)
    {mx : Int} {batches : List (List (Msg α))}
    (adm : ∀ batch ∈ batches, ∀ m ∈ batch, ZmtpManualParser.admits mx m.size)
    (hw : f.Unwrapped batches) : f.RoundTrip (new k mx) batches := by
  obtain ⟨R, inSync, hR⟩ := sync
  obtain ⟨items, outcome, rest⟩ := drain_emitted inSync adm f k hR hw
  intro chunks hc
  obtain ⟨-, same, whole⟩ := feed_drain decoder_resumable (new k mx) [] chunks (new_idle k mx)
  rw [nil_append, hc] at same whole
  rw [whole (same.trans outcome)]
  exact ⟨items, outcome, rest⟩

section Boxed

variable {Key T : Type} [CryptoBox Key α] [SnowTransport T α]

/-- What a cipher leaves room for in a record: a NOISE cipher refuses a longer batch by itself. -/
def Fits : BoxedCipher Key T → List (Msg α) → Prop
  | .curve _, batch => (encodeAll batch).length ≤ 65519
  | .noise _, _ => True

variable {k k' : BoxedCipher Key T}

lemma encrypt_fits {batch c} (h : encrypt k (encodeAll batch) = (.ok c, k')) :
    c.length ≤ 65535 ↔ Fits k batch := by
  cases k with
  | curve k =>
    have inner := congrArg Prod.fst h
    rw [CurveDataCipher.encrypt_length (Prod.ext inner rfl), Fits]
    omega
  | noise k =>
    have inner := congrArg Prod.fst h
    exact ⟨fun _ => trivial, fun _ => (NoiseDataCipher.encrypt_fits (Prod.ext inner rfl)).2⟩

lemma encrypt_kind {p r} (h : encrypt k p = (r, k')) (batch : List (Msg α)) :
    Fits k' batch ↔ Fits k batch := by
  cases k with
  | curve k =>
    have : k' = .curve _ := (congrArg Prod.snd h).symm
    rw [this]
    rfl
  | noise k =>
    have : k' = .noise _ := (congrArg Prod.snd h).symm
    rw [this]
    rfl

lemma fits_of_error {p e} (h : encrypt k p = (.error e, k'))
    (batch : List (Msg α)) : Fits k batch := by
  cases k with
  | curve k =>
    have := congrArg Prod.fst h
    simp [encrypt, BoxedCipher.encrypt, CurveDataCipher.encrypt] at this
  | noise k => trivial

lemma unwrapped_iff (f : LengthPrefixedFramer (BoxedCipher Key T) α)
    (batches : List (List (Msg α))) :
    f.Unwrapped batches ↔ ∀ batch ∈ batches, Fits f.cipher batch := by
  induction batches generalizing f with
  | nil => simp [Unwrapped, writeRun]
  | cons batch batches ih =>
    rcases writeMsgMultipart_cases f batch with ⟨e, cipher, henc, call⟩ | ⟨c, cipher, henc, call⟩
    · have tail := ih { f with cipher }
      simp only [Unwrapped, encrypt_kind henc] at tail
      simp only [Unwrapped, writeRun_error call, tail, mem_cons, forall_eq_or_imp,
        fits_of_error henc, true_and]
    · have tail := ih { f with cipher }
      simp only [Unwrapped, encrypt_kind henc] at tail
      simp only [Unwrapped, writeRun_ok call, tail, mem_cons, forall_eq_or_imp,
        record_unwrapped, encrypt_fits henc]

/-- A run is read back with no wrapped record exactly when no batch given to a CURVE cipher encodes
to more than 65519 octets. -/
theorem secure_roundtrip_iff {f : LengthPrefixedFramer (BoxedCipher Key T) α}
    {k : BoxedCipher Key T} (sync : Matching f.cipher k) {mx : Int}
    {batches : List (List (Msg α))}
    (adm : ∀ batch ∈ batches, ∀ m ∈ batch, ZmtpManualParser.admits mx m.size) :
    (f.RoundTrip (new k mx) batches ∧ f.Unwrapped batches) ↔
      ∀ batch ∈ batches, Fits f.cipher batch := by
  rw [← unwrapped_iff]
  exact ⟨fun h => h.2, fun h => ⟨roundTrip_of_unwrapped sync adm h, h⟩⟩

end Boxed

end LengthPrefixedFramer

/-! ### CURVE ends with the same keys -/

section Curve

variable {Key T α : Type} [CryptoBox Key α] [LawfulCryptoBox Key] [SnowTransport T α]

def SameKey (a b : CurveDataCipher Key) : Prop :=
  b.decodeKey = a.encodeKey ∧ b.recvNonceCounter = a.sendNonceCounter

omit [SnowTransport T α] in
lemma curve_inSync : InSync (fun a b : CurveDataCipher Key => SameKey a b) where
  delivered {a b a' p c} sync h := by
    obtain ⟨c', henc, hdec⟩ := CurveDataCipher.decrypt_encrypt sync.1 sync.2 p
    have same := henc.symm.trans h
    simp only [Prod.mk.injEq, Except.ok.injEq] at same
    obtain ⟨rfl, rfl⟩ := same
    exact ⟨_, hdec, sync.1, by rw [sync.2]⟩
  refused {a b a' p e} _ h := by
    have := congrArg Prod.fst h
    simp [encrypt, CurveDataCipher.encrypt] at this

lemma curve_matching {a b} (sync : SameKey a b) :
    Matching (BoxedCipher.curve a : BoxedCipher Key T) (.curve b) := by
  refine ⟨fun x y => ∃ a b, x = .curve a ∧ y = .curve b ∧ SameKey a b, ⟨?_, ?_⟩, a, b, rfl, rfl,
    sync⟩
  · rintro _ _ a' p c ⟨a, b, rfl, rfl, sync⟩ h
    obtain ⟨hc, rfl⟩ := Prod.ext_iff.mp h
    obtain ⟨b', hdec, sync'⟩ := curve_inSync.delivered sync
      (Prod.ext hc rfl : encrypt a p = (.ok c, (a.encrypt p).2))
    have first : (b.decrypt c).1 = .ok p := congrArg Prod.fst hdec
    have second : (b.decrypt c).2 = b' := congrArg Prod.snd hdec
    exact ⟨.curve b', Prod.ext first (congrArg BoxedCipher.curve second), _, _, rfl, rfl, sync'⟩
  · rintro _ _ a' p e ⟨a, b, rfl, rfl, -⟩ h
    have := congrArg Prod.fst h
    simp [encrypt, BoxedCipher.encrypt, CurveDataCipher.encrypt] at this

end Curve

/-! ### Concrete ends

A box without secrecy: the MAC is sixteen copies of the key. -/

structure ClearKey where
  tag : UInt8

instance : CryptoBox ClearKey UInt8 where
  detached k _ p := (replicate 16 k.tag, p)
  openDetached k _ mac c := if mac = List.replicate 16 k.tag then .ok c else .error "bad MAC"
  mac_length _ _ _ := length_replicate
  detached_length _ _ _ := rfl
  open_length {k n mac c p} h := by
    split at h
    · rw [Except.ok.inj h]
    · simp at h

instance : LawfulCryptoBox ClearKey where
  open_detached _ _ _ := if_pos rfl

structure ClearTransport where

instance : SnowTransport ClearTransport UInt8 where
  writeMessage t p := (.ok (p ++ replicate 16 0), t)
  readMessage t c := (.ok (c.take (c.length - 16)), t)
  write_length {t t' p c} h := by
    simp only [Prod.mk.injEq, Except.ok.injEq] at h
    rw [← h.1, length_append, length_replicate]
  read_length {t t' c p} h := by
    simp only [Prod.mk.injEq, Except.ok.injEq] at h
    rw [← h.1, length_take]
    omega

def clearClient : BoxedCipher ClearKey ClearTransport := .curve (.new ⟨1⟩ ⟨2⟩)

def clearServer : BoxedCipher ClearKey ClearTransport := .curve (.new ⟨2⟩ ⟨1⟩)

namespace LengthPrefixedFramer

theorem secure_roundtrip_two : (new clearClient (-1)).RoundTrip (new clearServer (-1))
        [[⟨some [7, 8], ⟨true, false⟩, by decide⟩, ⟨none, ⟨false, true⟩, by decide⟩]] ∧
      (new clearClient (-1)).Unwrapped
        [[⟨some [7, 8], ⟨true, false⟩, by decide⟩, ⟨none, ⟨false, true⟩, by decide⟩]] :=
  (secure_roundtrip_iff (f := new clearClient (-1)) (curve_matching ⟨rfl, rfl⟩)
    (fun _ _ _ _ h => absurd h (by decide))).mpr
    fun batch hb => by
      rw [mem_singleton.mp hb]
      show (encodeAll _).length ≤ 65519
      decide

def wrappingFrame : Msg UInt8 :=
  ⟨some (replicate 65511 0), .empty, by
    simp only [Option.getD_some, length_replicate]
    decide⟩

lemma wrappingFrame_length : (encodeAll [wrappingFrame]).length = 65520 := by
  have size : wrappingFrame.body.length = 65511 := length_replicate
  rw [encodeAll_cons, encodeAll_nil, append_nil, encode,
    length_append, header_length, Msg.size, size]
  rfl

lemma tryReadMsg_wrapped {c} (hc : c.length = 65536) :
    tryReadMsg (new clearServer (-1)) (be 2 c.length ++ c) =
      (.error (.invalidMessage "Ciphertext too short to contain a MAC"),
        new clearServer (-1), c) := by
  have hrec : recordLength (be 2 c.length ++ c) = 0 := by rw [recordLength_record, hc]
  have hnet : (be 2 c.length ++ c).drop 2 = [] ++ c := by
    rw [drop_left' (be_length 2 c.length), nil_append]
  have hlen : (be 2 c.length ++ c).length = 2 + ([] : List UInt8).length + c.length := by
    simp [be_length]
  rw [tryReadMsg_record (f := new clearServer (-1)) rfl [] c hlen hnet hrec]
  rfl

/-- A CURVE batch of 65520 octets is written under a length of zero, and the reader fails on it. -/
theorem curve_record_wraps :
    Matching clearClient clearServer ∧
    (∃ w, ((new clearClient (-1)).writeMsgMultipart [wrappingFrame]).1 = .ok w ∧
      w.length = 65538 ∧ recordLength w = 0 ∧
      (feed (decoder (BoxedCipher ClearKey ClearTransport) UInt8)
          (new clearServer (-1)) [] [w]).outcome =
        .error (.invalidMessage "Ciphertext too short to contain a MAC")) ∧
    ¬ ((new clearClient (-1)).RoundTrip (new clearServer (-1)) [[wrappingFrame]] ∧
      (new clearClient (-1)).Unwrapped [[wrappingFrame]]) := by
  refine ⟨curve_matching ⟨rfl, rfl⟩, ?_, fun h => ?_⟩
  · rcases writeMsgMultipart_cases (new clearClient (-1)) [wrappingFrame] with
      ⟨e, cipher, henc, -⟩ | ⟨c, cipher, henc, call⟩
    · exact absurd (congrArg Prod.fst henc) (by simp [new, clearClient, encrypt,
        BoxedCipher.encrypt, CurveDataCipher.encrypt])
    have inner : (CurveDataCipher.encrypt (.new (ClearKey.mk 1) (ClearKey.mk 2))
      (encodeAll [wrappingFrame])).1 = .ok c := congrArg Prod.fst henc
    have hc : c.length = 65536 := by
      rw [CurveDataCipher.encrypt_length (Prod.ext inner rfl), wrappingFrame_length]
    refine ⟨be 2 c.length ++ c, by rw [call], by simp [hc], by rw [recordLength_record, hc], ?_⟩
    have stop := tryReadMsg_wrapped hc
    rw [feed, drain_error stop]
  · have fits := (unwrapped_iff _ _).mp h.2 _ (mem_singleton_self _)
    have small : (encodeAll [wrappingFrame]).length ≤ 65519 := fits
    rw [wrappingFrame_length] at small
    omega

end LengthPrefixedFramer

end Rzmq
