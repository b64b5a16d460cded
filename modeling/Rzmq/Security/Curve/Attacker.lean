import Mathlib.Data.Set.Insert
import Rzmq.Security.Curve.Session

/-! What an attacker on the network can make of what it has seen, and what it gets from a CURVE
server.  `Knows` closes the octets seen and the attacker's own secrets under the operations of the
wire format and of the primitives. -/

namespace Rzmq.Curve

open Octet CurveMechanism
open CurveSuite (beforenm kxClient kxServer publicKey)

variable {SK Key α : Type}

inductive Item (Key α : Type) where
  | octets (os : List α)
  | key (k : Key)

/-- The knowledge of an attacker with the secrets `own` that has seen the octets `seen`.  It knows
every public key, and no secret but its own. -/
inductive Knows [Octet α] [CryptoBox Key α] [CurveSuite SK Key α] (own : Set SK)
    (seen : Set (List α)) : Item Key α → Prop
  | bytes (bs : List UInt8) : Knows own seen (.octets (bytes bs))
  | seen {os : List α} : os ∈ seen → Knows own seen (.octets os)
  | publicKey (sk : SK) : Knows own seen (.octets (publicKey sk).1)
  | append {os os' : List α} : Knows own seen (.octets os) → Knows own seen (.octets os') →
      Knows own seen (.octets (os ++ os'))
  | take {os : List α} (n : Nat) :
      Knows own seen (.octets os) → Knows own seen (.octets (os.take n))
  | drop {os : List α} (n : Nat) :
      Knows own seen (.octets os) → Knows own seen (.octets (os.drop n))
  | beforenm {sk : SK} {pk : PublicKey α} : sk ∈ own → Knows own seen (.octets pk.1) →
      Knows own seen (.key (beforenm pk sk))
  | kxClient {sk : SK} {peer : PublicKey α} {rx tx : Key} : sk ∈ own →
      Knows own seen (.octets peer.1) →
      kxClient (publicKey sk) sk peer = .ok (rx, tx) →
      ∀ {k : Key}, k = rx ∨ k = tx → Knows own seen (.key k)
  | kxServer {sk : SK} {peer : PublicKey α} {rx tx : Key} : sk ∈ own →
      Knows own seen (.octets peer.1) →
      kxServer (publicKey sk) sk peer = .ok (rx, tx) →
      ∀ {k : Key}, k = rx ∨ k = tx → Knows own seen (.key k)
  | sealed {k : Key} (n : List UInt8) {p : List α} : Knows own seen (.key k) →
      Knows own seen (.octets p) → Knows own seen (.octets (sealedBox k n p))
  | opened {k : Key} {n : List UInt8} {mac c p : List α} : Knows own seen (.key k) →
      Knows own seen (.octets mac) → Knows own seen (.octets c) →
      CryptoBox.openDetached k n mac c = .ok p → Knows own seen (.octets p)

variable [Octet α] [CryptoBox Key α] [CurveSuite SK Key α]

/-- A server took a HELLO and an INITIATE of an attacker, the INITIATE after the WELCOME `w`, and
came to `m`. -/
structure Served (s se : SK) (own : Set SK) (seen : Set (List α)) (w : List α)
    (m : CurveMechanism SK Key α) : Prop where
  run : ∃ hello initiate, Knows own seen (.octets hello : Item Key α) ∧
    Knows own (insert w seen) (.octets initiate : Item Key α) ∧
    serve (newServer s se) hello initiate = .ok (w, m)

def NeverReadyWith (s se : SK) (own : Set SK) (seen : Set (List α)) (pk : PublicKey α) : Prop :=
  ∀ w (m : CurveMechanism SK Key α), Served s se own seen w m → m.status = .ready →
    m.handshake.remoteStaticPublicKey ≠ some pk

def NeverIdentifies (s se : SK) (own : Set SK) (seen : Set (List α)) (pk : PublicKey α) : Prop :=
  ∀ w (m : CurveMechanism SK Key α), Served s se own seen w m → ∀ mx framer identity,
    m.intoFramer mx = .ok (framer, identity) → identity ≠ some pk.1

section Knowledge

variable {own : Set SK} {seen : Set (List α)}

lemma knows_low (n : Nat) : Knows own seen (.octets [low n] : Item Key α) :=
  .bytes [UInt8.ofNat n]

lemma knows_be (width n : Nat) : Knows own seen (.octets (be width n) : Item Key α) := by
  induction width generalizing n with
  | zero => exact .bytes []
  | succ width ih => exact .append (ih (n / 256)) (knows_low n)

lemma knows_replicate (k n : Nat) :
    Knows own seen (.octets (List.replicate k (low n)) : Item Key α) := by
  induction k with
  | zero => exact .bytes []
  | succ k ih => exact .append (knows_low n) ih

lemma knows_entry (name) {value} (h : Knows own seen (.octets value : Item Key α)) :
    Knows own seen (.octets (encodeMetadata [(name, value)]) : Item Key α) := by
  have entry : encodeMetadata [(name, value)] =
      [low name.length] ++ bytes name ++ be 4 value.length ++ value := by
    simp [encodeMetadata, encodeEntry]
  rw [entry]
  exact .append (.append (.append (knows_low _) (.bytes name)) (knows_be _ _)) h

lemma knows_command (size : Nat) (name entry) {value}
    (h : Knows own seen (.octets value : Item Key α)) :
    Knows own seen (.octets (command size name entry value) : Item Key α) :=
  .append (.take size (.append (.bytes name) (knows_entry entry h))) (knows_replicate _ _)

end Knowledge

/-- The HELLO carries the attacker's own ephemeral key, and the box of the INITIATE is under it. -/
lemma impostor_served [LawfulCryptoBox Key] [LawfulCurveSuite SK] (s se : SK) {own seen} {e : SK}
    (he : e ∈ own) (k : SK) :
    Served s se own seen
      (welcomeToken (beforenm (publicKey e) s) (publicKey se))
      (serverReady s se (publicKey e) (publicKey k)) := by
  have agreed := LawfulCurveSuite.beforenm_comm e s
  refine ⟨helloToken (publicKey e), initiateToken (beforenm
    (publicKey e) s) (publicKey k), ?_, ?_, serve_initiate s se _ _⟩
  · exact knows_command _ _ _ (.publicKey e)
  · refine knows_command _ _ _ (.sealed _ ?_ (knows_entry _ (.publicKey k)))
    rw [← agreed]
    exact .beforenm he (.publicKey s)

/-- A CURVE server can be made ready with the public key of a secret that the attacker does not
hold, and returns that key as the identity of its peer. -/
theorem client_never_authenticated [LawfulCryptoBox Key] [LawfulCurveSuite SK] [CurveKx SK]
    (s se : SK) (own : Set SK) (seen : Set (List α)) {e k : SK} (he : e ∈ own) (_hk : k ∉ own) :
    ¬ NeverReadyWith s se own seen (publicKey k) ∧
      ¬ NeverIdentifies s se own seen (publicKey k) := by
  have served : Served s se own seen _ _ := impostor_served s se he k
  refine ⟨fun never => never _ _ served rfl rfl, fun never => ?_⟩
  have framed : (serverReady s se (publicKey e) (publicKey k)).intoFramer 0 =
      .ok (.new (.new (CurveKx.down k s) (CurveKx.up k s)) 0, some (publicKey k).1) := by
    have ready : ¬ (serverReady s se (publicKey e)
        (publicKey k)).status ≠ .ready := by simp [serverReady]
    rw [intoFramer, if_neg ready, serverReady_cipher]
    rfl
  exact never _ _ served 0 _ _ framed rfl

/-- The attacker holds the secret 2 and is taken for the holder of the secret 0. -/
theorem client_never_authenticated_zero :
    ¬ NeverReadyWith (⟨1⟩ : SymSecret) ⟨3⟩ {⟨2⟩} ∅ (publicKey (⟨0⟩ : SymSecret)) ∧
      ¬ NeverIdentifies (⟨1⟩ : SymSecret) ⟨3⟩ {⟨2⟩} ∅ (publicKey (⟨0⟩ : SymSecret)) :=
  client_never_authenticated (SymSecret.mk 1) ⟨3⟩ {⟨2⟩} ∅ (Set.mem_singleton (SymSecret.mk 2))
    (by simp)

/-- The server is ready with the public key of the secret 0, after tokens made from public keys and
the secret 2. -/
theorem impostor_ready : ∃ (w : List Sym) (m : CurveMechanism SymSecret SymKey Sym),
      Served ⟨1⟩ ⟨3⟩ {⟨2⟩} ∅ w m ∧ (⟨0⟩ : SymSecret) ∉ ({⟨2⟩} : Set SymSecret) ∧
      m.status = .ready ∧ m.handshake.remoteStaticPublicKey = some (publicKey (⟨0⟩ : SymSecret)) :=
  ⟨_, serverReady ⟨1⟩ ⟨3⟩ (publicKey (SymSecret.mk 2))
    (publicKey (SymSecret.mk 0)),
    impostor_served (SymSecret.mk 1) ⟨3⟩ (Set.mem_singleton ⟨2⟩) ⟨0⟩, by simp, rfl, rfl⟩

end Rzmq.Curve
