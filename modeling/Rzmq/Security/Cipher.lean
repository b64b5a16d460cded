import Rzmq.Message

/-! The data-phase ciphers.  The primitives of `dryoc` and `snow` are parameters: `CryptoBox` and
`SnowTransport` fix the lengths, and say nothing about secrecy or correctness. -/

namespace Rzmq

open List Octet

inductive MechanismStatus where
  | initializing
  | handshaking
  | authenticating
  | ready
  | error
deriving DecidableEq

inductive ProcessTokenAction where
  | continueWaiting
  | produceAndSend
  | handshakeComplete

abbrev MechanismM (μ β : Type) : Type := EStateM Fault μ β

/-- `IDataCipher`, for cipher states `κ`.  A plaintext is never longer than its ciphertext. -/
class IDataCipher (κ : Type) (α : outParam Type) where
  encrypt : κ → List α → Except ZmqError (List α) × κ
  decrypt : κ → List α → Except ZmqError (List α) × κ
  decrypt_length : ∀ {k k' : κ} {c p : List α}, decrypt k c = (.ok p, k') → p.length ≤ c.length

/-- `crypto_box_detached_afternm` and `crypto_box_open_detached_afternm`: a MAC of 16 octets and a
ciphertext as long as the message. -/
class CryptoBox (Key : Type) (α : outParam Type) where
  detached : Key → List UInt8 → List α → List α × List α
  openDetached : Key → List UInt8 → List α → List α → Except String (List α)
  mac_length : ∀ k n p, (detached k n p).1.length = 16
  detached_length : ∀ k n p, (detached k n p).2.length = p.length
  open_length : ∀ {k n mac c p}, openDetached k n mac c = .ok p → p.length = c.length

class LawfulCryptoBox (Key : Type) {α : outParam Type} [CryptoBox Key α] : Prop where
  open_detached : ∀ (k : Key) (n : List UInt8) (p : List α),
    CryptoBox.openDetached k n (CryptoBox.detached k n p).1 (CryptoBox.detached k n p).2 = .ok p

/-- The transport state of `snow`: a message is 16 octets longer than its payload. -/
class SnowTransport (T : Type) (α : outParam Type) where
  writeMessage : T → List α → Except ZmqError (List α) × T
  readMessage : T → List α → Except ZmqError (List α) × T
  write_length : ∀ {t t' p c}, writeMessage t p = (.ok c, t') → c.length = p.length + 16
  read_length : ∀ {t t' c p}, readMessage t c = (.ok p, t') → p.length ≤ c.length - 16

def cryptoBoxMacBytes : Nat := 16

structure CurveDataCipher (Key : Type) where
  encodeKey : Key
  decodeKey : Key
  sendNonceCounter : UInt64
  recvNonceCounter : UInt64

namespace CurveDataCipher

variable {Key α : Type}

def new (encodeKey decodeKey : Key) : CurveDataCipher Key := ⟨encodeKey, decodeKey, 1, 1⟩

def noncePrefix : List UInt8 := utf8 "CurveZMQ-Encrypt"

def constructNonce (counter : UInt64) : List UInt8 := noncePrefix ++ le 8 counter.toNat

lemma constructNonce_inj {a b} : constructNonce a = constructNonce b ↔ a = b := by
  refine ⟨fun h => ?_, fun h => h ▸ rfl⟩
  have digits := le_inj.mp (append_cancel_left h)
  have small (n : UInt64) : n.toNat < 256 ^ 8 := n.toNat_lt
  rw [Nat.mod_eq_of_lt (small a), Nat.mod_eq_of_lt (small b)] at digits
  exact UInt64.toNat_inj.mp digits

variable [CryptoBox Key α]

/-- `CurveDataCipher::encrypt`: the MAC and then the ciphertext.  There is no error path, and no
length is checked. -/
def encrypt (k : CurveDataCipher Key) (plaintext : List α) :
    Except ZmqError (List α) × CurveDataCipher Key :=
  let (mac, ciphertext) :=
    CryptoBox.detached k.encodeKey (constructNonce k.sendNonceCounter) plaintext
  (.ok (mac ++ ciphertext), { k with sendNonceCounter := k.sendNonceCounter + 1 })

def decrypt (k : CurveDataCipher Key) (ciphertextWithMac : List α) :
    Except ZmqError (List α) × CurveDataCipher Key :=
  if ciphertextWithMac.length < cryptoBoxMacBytes then
    (.error (.invalidMessage "Ciphertext too short to contain a MAC"), k)
  else
    match CryptoBox.openDetached k.decodeKey (constructNonce k.recvNonceCounter)
        (ciphertextWithMac.take cryptoBoxMacBytes)
        (ciphertextWithMac.drop cryptoBoxMacBytes) with
    | .error e => (.error (.authenticationFailure e), k)
    | .ok decrypted => (.ok decrypted, { k with recvNonceCounter := k.recvNonceCounter + 1 })

lemma encrypt_length {k k' : CurveDataCipher Key} {p c : List α}
    (h : encrypt k p = (.ok c, k')) : c.length = p.length + 16 := by
  simp only [encrypt, Prod.mk.injEq, Except.ok.injEq] at h
  rw [← h.1, length_append, CryptoBox.mac_length, CryptoBox.detached_length, Nat.add_comm]

lemma decrypt_encrypt [LawfulCryptoBox Key] {a b : CurveDataCipher Key}
    (key : b.decodeKey = a.encodeKey) (counter : b.recvNonceCounter = a.sendNonceCounter)
    (p : List α) :
    ∃ c, encrypt a p = (.ok c, { a with sendNonceCounter := a.sendNonceCounter + 1 }) ∧
      decrypt b c = (.ok p, { b with recvNonceCounter := b.recvNonceCounter + 1 }) := by
  obtain ⟨mac, ct, hbox⟩ : ∃ mac ct,
      CryptoBox.detached a.encodeKey (constructNonce a.sendNonceCounter) p = (mac, ct) :=
    ⟨_, _, rfl⟩
  refine ⟨mac ++ ct, by simp only [encrypt, hbox], ?_⟩
  have hmac : mac.length = cryptoBoxMacBytes := by
    have := CryptoBox.mac_length a.encodeKey (constructNonce a.sendNonceCounter) p
    rwa [hbox] at this
  have opened := LawfulCryptoBox.open_detached a.encodeKey (constructNonce a.sendNonceCounter) p
  rw [hbox] at opened
  have long : ¬ (mac ++ ct).length < cryptoBoxMacBytes := by
    rw [length_append]
    omega
  simp only [decrypt, long, if_false, key, counter, take_left' hmac, drop_left' hmac, opened]

lemma decrypt_ok {k k' : CurveDataCipher Key} {c p : List α} (h : decrypt k c = (.ok p, k')) :
    CryptoBox.openDetached k.decodeKey (constructNonce k.recvNonceCounter) (c.take 16) (c.drop 16) =
      .ok p ∧ k' = { k with recvNonceCounter := k.recvNonceCounter + 1 } := by
  unfold decrypt at h
  split at h
  · simp at h
  · split at h
    · simp at h
    · rename_i heq
      simp only [Prod.mk.injEq, Except.ok.injEq] at h
      obtain ⟨rfl, rfl⟩ := h
      exact ⟨heq, rfl⟩

instance : IDataCipher (CurveDataCipher Key) α where
  encrypt := encrypt
  decrypt := decrypt
  decrypt_length h := by
    have := CryptoBox.open_length (decrypt_ok h).1
    rw [length_drop] at this
    omega

end CurveDataCipher

structure NoiseDataCipher (T : Type) where
  transportState : T

namespace NoiseDataCipher

variable {T α : Type} [SnowTransport T α]

def encrypt (k : NoiseDataCipher T) (plaintext : List α) :
    Except ZmqError (List α) × NoiseDataCipher T :=
  if plaintext.length > 65535 - 16 then
    (.error (.invalidMessage "Payload too large for Noise frame."), k)
  else
    let (result, state) := SnowTransport.writeMessage k.transportState plaintext
    (result, ⟨state⟩)

def decrypt (k : NoiseDataCipher T) (ciphertext : List α) :
    Except ZmqError (List α) × NoiseDataCipher T :=
  if ciphertext.length < 16 then
    (.error (.protocolViolation "Noise message too short for tag."), k)
  else
    let (result, state) := SnowTransport.readMessage k.transportState ciphertext
    (result, ⟨state⟩)

lemma encrypt_fits {k k' : NoiseDataCipher T} {p c : List α}
    (h : encrypt k p = (.ok c, k')) : c.length = p.length + 16 ∧ c.length ≤ 65535 := by
  unfold encrypt at h
  split at h
  · simp at h
  · rename_i small
    simp only [Prod.mk.injEq] at h
    have := SnowTransport.write_length (Prod.ext h.1 rfl)
    omega

instance : IDataCipher (NoiseDataCipher T) α where
  encrypt := encrypt
  decrypt := decrypt
  decrypt_length {k k' c p} h := by
    unfold decrypt at h
    split at h
    · simp at h
    · simp only [Prod.mk.injEq] at h
      have := SnowTransport.read_length (Prod.ext h.1 rfl)
      omega

end NoiseDataCipher

inductive BoxedCipher (Key T : Type) where
  | curve (cipher : CurveDataCipher Key)
  | noise (cipher : NoiseDataCipher T)

namespace BoxedCipher

variable {Key T α : Type} [CryptoBox Key α] [SnowTransport T α]

def encrypt : BoxedCipher Key T → List α → Except ZmqError (List α) × BoxedCipher Key T
  | .curve k, p => ((k.encrypt p).1, .curve (k.encrypt p).2)
  | .noise k, p => ((k.encrypt p).1, .noise (k.encrypt p).2)

def decrypt : BoxedCipher Key T → List α → Except ZmqError (List α) × BoxedCipher Key T
  | .curve k, c => ((k.decrypt c).1, .curve (k.decrypt c).2)
  | .noise k, c => ((k.decrypt c).1, .noise (k.decrypt c).2)

instance : IDataCipher (BoxedCipher Key T) α where
  encrypt := encrypt
  decrypt := decrypt
  decrypt_length {k _ c p} h := by
    cases k with
    | curve k =>
      have inner : (IDataCipher.decrypt k c).1 = .ok p := congrArg Prod.fst h
      exact IDataCipher.decrypt_length (Prod.ext inner rfl)
    | noise k =>
      have inner : (IDataCipher.decrypt k c).1 = .ok p := congrArg Prod.fst h
      exact IDataCipher.decrypt_length (Prod.ext inner rfl)

end BoxedCipher

end Rzmq
