import Rzmq.Security.Curve.Handshake

/-! Cryptography as symbols.  `InjectiveKx` and `IdealBox` say that key exchange and boxes are
injective and that a box opens only with what it was sealed with.  `Sym` and `SymKey` are a model:
an octet is a byte, or a position in a public key or in a box. -/

namespace Rzmq.Curve

open Octet

/-- The session keys of a client and a server: one for each direction, the same at both ends. -/
class CurveKx (SK : Type) {Key α : outParam Type} [CurveSuite SK Key α] where
  up : SK → SK → Key
  down : SK → SK → Key
  kxClient_eq : ∀ c s : SK, CurveSuite.kxClient (CurveSuite.publicKey c) c
    (CurveSuite.publicKey s) = .ok (down c s, up c s)
  kxServer_eq : ∀ c s : SK, CurveSuite.kxServer (CurveSuite.publicKey s) s
    (CurveSuite.publicKey c) = .ok (up c s, down c s)

/-- Also when the peer of a server named octets that are no public key. -/
class InjectiveKx (SK : Type) {Key α : outParam Type} [CurveSuite SK Key α] [CurveKx SK] :
    Prop where
  up_inj : ∀ {c s c' s' : SK}, CurveKx.up c s = CurveKx.up c' s' → c = c' ∧ s = s'
  down_inj : ∀ {c s c' s' : SK}, CurveKx.down c s = CurveKx.down c' s' → c = c' ∧ s = s'
  rx_ne_down : ∀ {pk peer : PublicKey α} {s : SK} {rx tx : Key},
    CurveSuite.kxServer pk s peer = .ok (rx, tx) → ∀ c s' : SK, rx ≠ CurveKx.down c s'

lemma up_ne_down {SK Key α : Type} [CurveSuite SK Key α] [CurveKx SK] [InjectiveKx SK]
    (c s c' s' : SK) : CurveKx.up c s ≠ CurveKx.down c' s' :=
  InjectiveKx.rx_ne_down (CurveKx.kxServer_eq c s) c' s'

/-- A box opens only to what was sealed in it, and two boxes are equal only when made of the same
key, nonce and plaintext. -/
class IdealBox (Key : Type) {α : outParam Type} [CryptoBox Key α] : Prop where
  sealed_of_open : ∀ {k : Key} {n : List UInt8} {mac c p : List α},
    CryptoBox.openDetached k n mac c = .ok p → CryptoBox.detached k n p = (mac, c)
  detached_inj : ∀ {k k' : Key} {n n' : List UInt8} {p p' : List α},
    CryptoBox.detached k n p = CryptoBox.detached k' n' p' → k = k' ∧ n = n' ∧ p = p'

/-! ### Terms -/

mutual

inductive Sym where
  | byte (b : UInt8)
  | keyOctet (owner position : Nat)
  | mac (key : SymKey) (nonce : List UInt8) (plaintext : List Sym) (position : Nat)
  | ciphertext (key : SymKey) (nonce : List UInt8) (plaintext : List Sym) (position : Nat)

/-- A key of the symbolic model.  Octets that are no public key still make a key, of their own. -/
inductive SymKey where
  | shared (a b : Nat)
  | sharedWith (octets : List Sym) (b : Nat)
  | up (client server : Nat)
  | down (client server : Nat)
  | upFrom (octets : List Sym) (server : Nat)
  | downFrom (octets : List Sym) (server : Nat)

end

structure SymSecret where
  name : Nat
deriving DecidableEq

instance : Octet Sym where
  ofByte := .byte
  toByte
    | .byte b => b
    | _ => 0
  toByte_ofByte _ := rfl

namespace Sym

def positions (octet : Nat → Sym) (n : Nat) : List Sym := (List.range n).map octet

lemma positions_length (octet : Nat → Sym) (n : Nat) : (positions octet n).length = n := by
  simp [positions]

lemma positions_inj {f g} {n : Nat} (h : positions f (n + 1) = positions g (n + 1)) :
    f 0 = g 0 := by
  simp only [positions, List.range_succ_eq_map, List.map_cons, List.cons.injEq] at h
  exact h.1

def detached (k : SymKey) (n : List UInt8) (p : List Sym) : List Sym × List Sym :=
  (positions (.mac k n p) 16, positions (.ciphertext k n p) p.length)

lemma detached_inj {k k' n n' p p'}
    (h : detached k n p = detached k' n' p') : k = k' ∧ n = n' ∧ p = p' := by
  have first := positions_inj (congrArg Prod.fst h)
  injection first with hk hn hp
  exact ⟨hk, hn, hp⟩

open Classical in
noncomputable def openDetached (k : SymKey) (n : List UInt8) (mac c : List Sym) :
    Except String (List Sym) :=
  if h : ∃ p, detached k n p = (mac, c) then .ok h.choose else .error "authentication error"

lemma open_iff {k n mac c p} :
    openDetached k n mac c = .ok p ↔ detached k n p = (mac, c) := by
  unfold openDetached
  constructor
  · intro h
    split at h
    · rename_i hex
      rw [← Except.ok.inj h]
      exact hex.choose_spec
    · simp at h
  · intro h
    have hex : ∃ p, detached k n p = (mac, c) := ⟨p, h⟩
    rw [dif_pos hex]
    exact congrArg Except.ok (detached_inj (hex.choose_spec.trans h.symm)).2.2

noncomputable instance : CryptoBox SymKey Sym where
  detached := detached
  openDetached := openDetached
  mac_length _ _ _ := positions_length _ _
  detached_length _ _ _ := positions_length _ _
  open_length h := by
    have same := congrArg (fun box : List Sym × List Sym => box.2.length) (open_iff.mp h)
    simpa [detached, positions_length] using same

instance : LawfulCryptoBox SymKey where
  open_detached _ _ _ := open_iff.mpr rfl

instance : IdealBox SymKey where
  sealed_of_open := open_iff.mp
  detached_inj := detached_inj

def publicKey (sk : SymSecret) : PublicKey Sym :=
  ⟨positions (.keyOctet sk.name) 32, positions_length _ _⟩

lemma publicKey_inj {a b} (h : publicKey a = publicKey b) : a = b := by
  have first := positions_inj (congrArg Subtype.val h)
  injection first with name
  cases a
  cases b
  exact congrArg SymSecret.mk name

open Classical in
noncomputable def owner (pk : PublicKey Sym) : Option SymSecret :=
  if h : ∃ sk, publicKey sk = pk then some h.choose else none

lemma owner_publicKey (sk : SymSecret) : owner (publicKey sk) = some sk := by
  have hex : ∃ sk', publicKey sk' = publicKey sk := ⟨sk, rfl⟩
  rw [owner, dif_pos hex]
  exact congrArg some (publicKey_inj hex.choose_spec)

noncomputable instance : CurveSuite SymSecret SymKey Sym where
  publicKey := publicKey
  beforenm pk sk :=
    match owner pk with
    | some peer => .shared (min peer.name sk.name) (max peer.name sk.name)
    | none => .sharedWith pk.1 sk.name
  kxClient _ sk peer :=
    match owner peer with
    | some server => .ok (.down sk.name server.name, .up sk.name server.name)
    | none => .ok (.downFrom peer.1 sk.name, .upFrom peer.1 sk.name)
  kxServer _ sk peer :=
    match owner peer with
    | some client => .ok (.up client.name sk.name, .down client.name sk.name)
    | none => .ok (.upFrom peer.1 sk.name, .downFrom peer.1 sk.name)

instance : LawfulCurveSuite SymSecret where
  beforenm_comm a b := by
    simp [CurveSuite.beforenm, CurveSuite.publicKey, owner_publicKey, Nat.min_comm, Nat.max_comm]

noncomputable instance : CurveKx SymSecret where
  up c s := .up c.name s.name
  down c s := .down c.name s.name
  kxClient_eq c s := by
    simp [CurveSuite.kxClient, CurveSuite.publicKey, owner_publicKey]
  kxServer_eq c s := by
    simp [CurveSuite.kxServer, CurveSuite.publicKey, owner_publicKey]

instance : InjectiveKx SymSecret where
  up_inj {c s c' s'} h := by
    injection h with hc hs
    exact ⟨congrArg SymSecret.mk hc, congrArg SymSecret.mk hs⟩
  down_inj {c s c' s'} h := by
    injection h with hc hs
    exact ⟨congrArg SymSecret.mk hc, congrArg SymSecret.mk hs⟩
  rx_ne_down {pk peer s rx tx} h c s' := by
    simp only [CurveSuite.kxServer] at h
    split at h
    · rw [← (Prod.mk.inj (Except.ok.inj h)).1]
      simp [CurveKx.down]
    · rw [← (Prod.mk.inj (Except.ok.inj h)).1]
      simp [CurveKx.down]

end Sym

end Rzmq.Curve
