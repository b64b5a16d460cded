import Rzmq.Lib.Frame
import Rzmq.Security.Cipher
import Rzmq.Wire.Command

/-! The CURVE handshake of `security/curve/handshake.rs`.  The primitives of `dryoc` are parameters,
and the ephemeral secret is an argument of `new`.  Every function keeps its state when it fails, as
the `&mut self` of the source does. -/

namespace Rzmq.Curve

open List Octet
open CryptoBox (detached detached_length mac_length openDetached)

section Metadata

variable {α : Type} [Octet α]

def encodeMetadata (metadata : Metadata α) : List α :=
  metadata.flatMap fun entry => encodeEntry entry.1 entry.2

def invalidMetadata : Fault := .error (.protocolViolation "Invalid metadata")

/-- A zero where a name would start is padding and ends the metadata.  A name that is not UTF-8 is a
panic: the source unwraps the conversion. -/
def decodeMetadata (data : List α) : Except Fault (Metadata α) :=
  match data with
  | [] => .ok []
  | o :: rest =>
    let keyLen := (toByte o).toNat
    if toByte o = 0 then .ok []
    else if rest.length < keyLen then .error invalidMetadata
    else
      let key := reading (rest.take keyLen)
      let afterKey := rest.drop keyLen
      if !validUtf8 key then .error (.panicked "metadata name is not UTF-8")
      else if afterKey.length < 4 then .error invalidMetadata
      else
        let valueLen := beNat (afterKey.take 4)
        let afterLen := afterKey.drop 4
        if afterLen.length < valueLen then .error invalidMetadata
        else
          match decodeMetadata (afterLen.drop valueLen) with
          | .error e => .error e
          | .ok more => .ok ((key, afterLen.take valueLen) :: more)
termination_by data.length
decreasing_by
  simp only [length_cons, length_drop]
  omega

lemma decodeMetadata_padding (n : Nat) :
    decodeMetadata (replicate n (low 0) : List α) = .ok [] := by
  cases n with
  | zero => rw [replicate_zero, decodeMetadata]
  | succ n => simp [replicate_succ, decodeMetadata]

lemma decodeMetadata_entry {name : List UInt8} {value rest : List α} {more : Metadata α}
    (pos : 0 < name.length) (short : name.length < 256) (valid : validUtf8 name = true)
    (small : value.length < 2 ^ 32) (hrest : decodeMetadata rest = .ok more) :
    decodeMetadata (encodeEntry name value ++ rest) = .ok ((name, value) :: more) := by
  have len := UInt8.toNat_ofNat_of_lt' short
  have nonzero : UInt8.ofNat name.length ≠ 0 := by
    intro h
    rw [h] at len
    simp at len
    omega
  have shape : encodeEntry name value ++ rest =
      low name.length :: (bytes name ++ (be 4 value.length ++ (value ++ rest))) := by
    simp [encodeEntry]
  have key : (bytes name : List α).length = name.length := bytes_length name
  rw [shape, decodeMetadata]
  simp only [toByte_low, nonzero, if_false, len, take_left' key, drop_left' key,
    reading_bytes, valid, take_left' (be_length 4 value.length),
    drop_left' (be_length 4 value.length),
    beNat_be_of_lt (show value.length < 256 ^ 4 from small)]
  simp only [length_append, key, be_length, take_left, drop_left, hrest,
    Bool.not_true, Bool.false_eq_true, if_false]
  rw [if_neg (by omega), if_neg (by omega), if_neg (by omega)]

lemma decodeMetadata_encode {metadata : Metadata α}
    (formed : ∀ entry ∈ metadata, 0 < entry.1.length ∧ entry.1.length < 256 ∧
      validUtf8 entry.1 = true ∧ entry.2.length < 2 ^ 32) (padding : Nat) :
    decodeMetadata (encodeMetadata metadata ++ replicate padding (low 0)) = .ok metadata := by
  induction metadata with
  | nil => exact decodeMetadata_padding padding
  | cons entry rest ih =>
    obtain ⟨pos, short, valid, small⟩ := formed entry mem_cons_self
    rw [encodeMetadata, flatMap_cons, append_assoc]
    exact decodeMetadata_entry pos short valid small
      (ih fun later mem => formed later (mem_cons_of_mem _ mem))

end Metadata

abbrev PublicKey (α : Type) : Type := { octets : List α // octets.length = 32 }

/-- The key functions of `dryoc` that the handshake calls.  `kxClient` and `kxServer` return the
receiving and the sending key. -/
class CurveSuite (SK : Type) (Key α : outParam Type) where
  publicKey : SK → PublicKey α
  beforenm : PublicKey α → SK → Key
  kxClient : PublicKey α → SK → PublicKey α → Except String (Key × Key)
  kxServer : PublicKey α → SK → PublicKey α → Except String (Key × Key)

open CurveSuite (publicKey beforenm kxClient kxServer)

class LawfulCurveSuite (SK : Type) {Key α : outParam Type} [CurveSuite SK Key α] : Prop where
  beforenm_comm : ∀ a b : SK, beforenm (publicKey b) a = beforenm (publicKey a) b

def sealedBox {Key α : Type} [CryptoBox Key α] (k : Key) (nonce : List UInt8) (p : List α) :
    List α :=
  (detached k nonce p).1 ++ (detached k nonce p).2

inductive CurveHandshakePhase where
  | clientStart
  | clientSentHello
  | clientReadyToProduceInitiate
  | serverStart
  | serverReadyToProduceWelcome
  | serverAwaitingInitiate
  | complete
  | error
deriving DecidableEq

structure CurveHandshake (SK Key α : Type) where
  phase : CurveHandshakePhase
  isServer : Bool
  localStaticKeypair : SK
  remoteStaticPublicKey : Option (PublicKey α)
  localEphemeralKeypair : SK
  remoteEphemeralPublicKey : Option (PublicKey α)
  precomputedKey : Option Key
  sendNonce : UInt64
  recvNonce : UInt64

def helloPrefix : List UInt8 := 5 :: utf8 "HELLO"
def welcomePrefix : List UInt8 := 7 :: utf8 "WELCOME"
def initiatePrefix : List UInt8 := 8 :: utf8 "INITIATE"

def publicKeyClientName : List UInt8 := utf8 "Public-Key-Client"
def cookieName : List UInt8 := utf8 "Cookie"
def ciphertextName : List UInt8 := utf8 "Ciphertext"

def cookieNonce : List UInt8 := utf8 "COOKIE--" ++ replicate 16 0

def commandNonce (counter : UInt64) : List UInt8 := replicate 16 0 ++ le 8 counter.toNat

def resize {α : Type} [Octet α] (n : Nat) (command : List α) : List α :=
  command.take n ++ replicate (n - command.length) (low 0)

def command {α : Type} [Octet α] (size : Nat) (name entry : List UInt8) (value : List α) : List α :=
  resize size (bytes name ++ encodeMetadata [(entry, value)])

namespace CurveHandshake

variable {SK Key α : Type}

/-- A step of the handshake: it may fail, and keeps the state that it has reached. -/
abbrev Step (SK Key α β : Type) : Type := EStateM Fault (CurveHandshake SK Key α) β

def fail {β : Type} (e : ZmqError) : Step SK Key α β := throw (.error e)

def unwrap {β : Type} : Option β → Step SK Key α β
  | some b => pure b
  | none => throw (.panicked "called `Option::unwrap()` on a `None` value")

def new (isServer : Bool) (curveLocalSecretKey : Option SK)
    (curveRemotePublicKey : Option (PublicKey α)) (ephemeral : SK) :
    Except ZmqError (CurveHandshake SK Key α) := do
  let some localStaticKeypair := curveLocalSecretKey | throw .invalidCurveKey
  let remoteStaticPublicKey ←
    if isServer then pure none
    else match curveRemotePublicKey with
      | some pk => pure (some pk)
      | none => throw .invalidCurveKey
  return {
    phase := if isServer then .serverStart else .clientStart
    isServer, localStaticKeypair, remoteStaticPublicKey
    localEphemeralKeypair := ephemeral
    remoteEphemeralPublicKey := none
    precomputedKey := none
    sendNonce := 1
    recvNonce := 1 }

/-- `into_session_keys`: the receiving and the sending key, from the static keys alone. -/
def intoSessionKeys [CurveSuite SK Key α] (h : CurveHandshake SK Key α) :
    Except ZmqError (Key × Key) :=
  if h.phase ≠ .complete then .error (.invalidState "Handshake not complete")
  else
    match h.remoteStaticPublicKey with
    | none => .error (.invalidState "Handshake complete but remote PK missing")
    | some remotePk =>
      let localPk := publicKey h.localStaticKeypair
      let keys :=
        if h.isServer then kxServer localPk h.localStaticKeypair remotePk
        else kxClient localPk h.localStaticKeypair remotePk
      match keys with
      | .ok keys => .ok keys
      | .error e => .error (.securityError e)

def intoDataCipher [CurveSuite SK Key α] (h : CurveHandshake SK Key α) :
    Except ZmqError (CurveDataCipher Key) :=
  match h.intoSessionKeys with
  | .error e => .error e
  | .ok (rx, tx) => .ok (.new tx rx)

def publicKeyOf (octets : List α) : Step SK Key α (PublicKey α) :=
  if h : octets.length = 32 then pure ⟨octets, h⟩
  else fail (.securityError "dryoc: invalid key length")

def splitMac (sealed : List α) : Step SK Key α (List α × List α) :=
  if sealed.length < 16 then throw (.panicked "range end index 16 out of range")
  else pure (sealed.take 16, sealed.drop 16)

def openBox [CryptoBox Key α] (k : Key) (nonce : List UInt8) (mac c : List α) :
    Step SK Key α (List α) :=
  match openDetached k nonce mac c with
  | .ok p => pure p
  | .error e => fail (.securityError e)

lemma bind_ok {β γ : Type} {x : Step SK Key α β} {f : β → Step SK Key α γ}
    {h h' : CurveHandshake SK Key α} {b : β} (hx : x h = .ok b h') : (x >>= f) h = f b h' := by
  change EStateM.bind x f h = _
  rw [EStateM.bind, hx]

lemma get_bind {β : Type} {f : CurveHandshake SK Key α → Step SK Key α β}
    {h : CurveHandshake SK Key α} : (get >>= f) h = f h h := rfl

lemma modify_bind {β : Type} {g : CurveHandshake SK Key α → CurveHandshake SK Key α}
    {f : PUnit → Step SK Key α β} {h : CurveHandshake SK Key α} :
    (modify g >>= f) h = f ⟨⟩ (g h) := rfl

lemma unwrap_some {β : Type} {field} {b : β} (set : field = some b)
    (h : CurveHandshake SK Key α) : unwrap field h = .ok b h := by
  rw [set]
  rfl

lemma publicKeyOf_octets (pk : PublicKey α) (h : CurveHandshake SK Key α) :
    publicKeyOf pk.1 h = .ok pk h := by
  rw [publicKeyOf, dif_pos pk.2]
  rfl

section Changes

open Frame

variable {β γ : Type} {R : CurveHandshake SK Key α → CurveHandshake SK Key α → Prop}

def Still (x : Step SK Key α β) : Prop := Leads (fun h h' => h' = h) x

lemma unwrap_still (o : Option β) : Still (unwrap o : Step SK Key α β) := by
  intro h
  cases o <;> rfl

lemma publicKeyOf_still (octets : List α) :
    Still (publicKeyOf octets : Step SK Key α (PublicKey α)) := by
  intro h
  unfold publicKeyOf
  split <;> rfl

lemma splitMac_still (sealed : List α) :
    Still (splitMac sealed : Step SK Key α (List α × List α)) := by
  intro h
  unfold splitMac
  split <;> rfl

structure Elementary (R : CurveHandshake SK Key α → CurveHandshake SK Key α → Prop) : Prop where
  refl : ∀ h, R h h
  trans : ∀ h h' h'', R h h' → R h' h'' → R h h''
  ephemeral : ∀ h pk, R h { h with remoteEphemeralPublicKey := some pk }
  static : ∀ h pk, R h { h with remoteStaticPublicKey := some pk }
  precomputed : ∀ h k, R h { h with precomputedKey := some k }
  sendNonce : ∀ h n, R h { h with sendNonce := n }
  recvNonce : ∀ h n, R h { h with recvNonce := n }

lemma Elementary.still (e : Elementary R) {x : Step SK Key α β} {f : β → Step SK Key α γ}
    (still : Still x) (next : ∀ b, Leads R (f b)) : Leads R (x >>= f) := by
  refine leads_bind e.trans (fun h => ?_) next
  rw [still h]
  exact e.refl h

lemma Elementary.modify (e : Elementary R) {g : CurveHandshake SK Key α → CurveHandshake SK Key α}
    {f : PUnit → Step SK Key α γ} (change : ∀ h, R h (g h)) (next : Leads R (f ⟨⟩)) :
    Leads R (modify g >>= f) := leads_bind e.trans (leads_modify change) fun _ => next

def KeepsRole (x : Step SK Key α β) : Prop := Keeps (·.isServer) x

lemma elementary_role :
    Elementary fun h h' : CurveHandshake SK Key α => h'.isServer = h.isServer :=
  ⟨fun _ => rfl, fun _ _ _ first second => second.trans first, fun _ _ => rfl, fun _ _ => rfl,
    fun _ _ => rfl, fun _ _ => rfl, fun _ _ => rfl⟩

end Changes

variable [Octet α]

def lookup (data : List α) (name : List UInt8) (missing : String) : Step SK Key α (List α) :=
  match decodeMetadata data with
  | .error e => throw e
  | .ok metadata =>
    match metadata.get name with
    | some value => pure value
    | none => fail (.protocolViolation missing)

/-- What every `process` function does first: `starts_with` on the name, and the lookup of one
entry in what follows. -/
def readCommand (name entry : List UInt8) (expected missing : String) (token : List α) :
    Step SK Key α (List α) :=
  if reading (token.take name.length) ≠ name then fail (.protocolViolation expected)
  else lookup (token.drop name.length) entry missing

/-! ### Commands that were built are read -/

section Commands

variable {h : CurveHandshake SK Key α} {size : Nat} {name entry : List UInt8} {value : List α}

lemma lookup_entry (pos : 0 < entry.length) (short : entry.length < 256)
    (valid : validUtf8 entry = true) (small : value.length < 2 ^ 32) (n : Nat) (missing : String) :
    lookup (encodeMetadata [(entry, value)] ++ replicate n (low 0)) entry missing h =
      .ok value h := by
  have shape : encodeMetadata [(entry, value)] ++ replicate n (low 0) =
      encodeEntry entry value ++ replicate n (low 0) := by
    simp [encodeMetadata]
  have decoded := decodeMetadata_entry pos short valid small (decodeMetadata_padding n)
  rw [shape, lookup, decoded]
  simp only [Metadata.get_single]
  rfl

lemma readCommand_command (pos : 0 < entry.length) (short : entry.length < 256)
    (valid : validUtf8 entry = true)
    (fits : name.length + (5 + entry.length + value.length) ≤ size) (bounded : size < 2 ^ 32)
    (expected missing : String) :
    readCommand name entry expected missing (command size name entry value) h = .ok value h := by
  have len : (bytes name ++ encodeMetadata [(entry, value)] : List α).length ≤ size := by
    simp [encodeMetadata, encodeEntry, bytes_length, be_length]
    omega
  obtain ⟨n, padded⟩ : ∃ n, command size name entry value =
      bytes name ++ (encodeMetadata [(entry, value)] ++ replicate n (low 0)) :=
    ⟨_, by rw [command, resize, take_of_length_le len, append_assoc]⟩
  have hname : (bytes name : List α).length = name.length := bytes_length name
  rw [readCommand, padded, take_left' hname, drop_left' hname, reading_bytes]
  simp only [ne_eq, not_true_eq_false, if_false]
  exact lookup_entry pos short valid (by omega) n missing

end Commands

lemma lookup_still (data : List α) (name) (missing : String) :
    Still (lookup data name missing : Step SK Key α (List α)) := by
  intro h
  unfold lookup
  split
  · rfl
  · split <;> rfl

lemma readCommand_still (name entry) (expected missing : String) (token : List α) :
    Still (readCommand name entry expected missing token : Step SK Key α (List α)) := by
  intro h
  unfold readCommand
  split
  · rfl
  · exact lookup_still _ _ _ h

variable [CryptoBox Key α] [CurveSuite SK Key α]

def buildClientHello : Step SK Key α (List α) := do
  let h ← get
  let eph := publicKey h.localEphemeralKeypair
  return command (192 + 6) helloPrefix publicKeyClientName eph.1

def processClientHello (token : List α) : Step SK Key α Unit := do
  let slice ← readCommand helloPrefix publicKeyClientName "Expected HELLO command"
    "HELLO missing Public-Key-Client" token
  let pk ← publicKeyOf slice
  modify ({ · with remoteEphemeralPublicKey := some pk })

def buildServerWelcome : Step SK Key α (List α) := do
  let h ← get
  let clientEph ← unwrap h.remoteEphemeralPublicKey
  let k : Key := beforenm clientEph h.localStaticKeypair
  let eph := publicKey h.localEphemeralKeypair
  return command (128 + 8) welcomePrefix cookieName (sealedBox k cookieNonce eph.1)

/-- The cookie is opened in a buffer of 32 octets: a longer one panics, a shorter one is padded. -/
def openCookie (k : Key) (mac c : List α) : Step SK Key α (List α) :=
  if 32 < c.length then throw (.panicked "cookie longer than a public key")
  else openBox k cookieNonce mac (resize 32 c)

def processServerWelcome (token : List α) : Step SK Key α Unit := do
  let cookie ← readCommand welcomePrefix cookieName "Expected WELCOME command"
    "WELCOME missing Cookie" token
  let h ← get
  let serverStatic ← unwrap h.remoteStaticPublicKey
  let k : Key := beforenm serverStatic h.localEphemeralKeypair
  let split ← splitMac cookie
  let serverEph ← openCookie k split.1 split.2
  let pk ← publicKeyOf serverEph
  modify ({ · with remoteEphemeralPublicKey := some pk })
  modify ({ · with precomputedKey := some (beforenm pk h.localStaticKeypair) })

def buildClientInitiate : Step SK Key α (List α) := do
  let h ← get
  let serverStatic ← unwrap h.remoteStaticPublicKey
  let k : Key := beforenm serverStatic h.localEphemeralKeypair
  modify ({ · with sendNonce := h.sendNonce + 1 })
  let static := publicKey h.localStaticKeypair
  return command (128 + 9) initiatePrefix ciphertextName
    (sealedBox k (commandNonce h.sendNonce) (encodeMetadata [(publicKeyClientName, static.1)]))

def processClientInitiate (token : List α) : Step SK Key α Unit := do
  let sealed ← readCommand initiatePrefix ciphertextName "Expected INITIATE command"
    "INITIATE missing Ciphertext" token
  let h ← get
  let clientEph ← unwrap h.remoteEphemeralPublicKey
  let k : Key := beforenm clientEph h.localStaticKeypair
  let split ← splitMac sealed
  modify ({ · with recvNonce := h.recvNonce + 1 })
  let metadata ← openBox k (commandNonce h.recvNonce) split.1 split.2
  let slice ← lookup metadata publicKeyClientName "INITIATE missing Public-Key-Client"
  let pk ← publicKeyOf slice
  modify ({ · with remoteStaticPublicKey := some pk })
  modify ({ · with precomputedKey := some (beforenm pk h.localEphemeralKeypair) })

/-! ### One lemma for each command -/

omit [Octet α] [CurveSuite SK Key α] in
lemma sealedBox_length (k : Key) (n) (p : List α) :
    (sealedBox k n p).length = 16 + p.length := by
  rw [sealedBox, length_append, mac_length, detached_length]

omit [Octet α] [CurveSuite SK Key α] in
lemma splitMac_sealedBox (k : Key) (n : List UInt8) (p : List α) (h : CurveHandshake SK Key α) :
    splitMac (sealedBox k n p) h = .ok (detached k n p) h := by
  have mac := mac_length k n p
  have long : ¬ (sealedBox k n p).length < 16 := by
    rw [sealedBox_length]
    omega
  rw [splitMac, if_neg long, sealedBox, take_left' mac, drop_left' mac]
  rfl

omit [Octet α] [CurveSuite SK Key α] in
lemma openBox_detached [LawfulCryptoBox Key] (k : Key) (n : List UInt8) (p : List α)
    (h : CurveHandshake SK Key α) :
    openBox k n (detached k n p).1 (detached k n p).2 h = .ok p h := by
  rw [openBox, LawfulCryptoBox.open_detached]
  rfl

omit [CryptoBox Key α] [CurveSuite SK Key α] in
lemma processClientHello_command (h : CurveHandshake SK Key α) (pk : PublicKey α) :
    processClientHello (command (192 + 6) helloPrefix publicKeyClientName pk.1) h =
      .ok () { h with remoteEphemeralPublicKey := some pk } := by
  have fits : helloPrefix.length + (5 + publicKeyClientName.length + pk.1.length) ≤ 192 + 6 := by
    rw [pk.2]
    decide
  rw [processClientHello, bind_ok (readCommand_command (by decide) (by decide) (by decide) fits
    (by decide) _ _), bind_ok (publicKeyOf_octets pk h)]
  rfl

lemma buildServerWelcome_command {h : CurveHandshake SK Key α} {pk : PublicKey α}
    (eph : h.remoteEphemeralPublicKey = some pk) :
    buildServerWelcome h = .ok (command (128 + 8) welcomePrefix cookieName
      (sealedBox (beforenm pk h.localStaticKeypair) cookieNonce
        (publicKey h.localEphemeralKeypair).1)) h := by
  rw [buildServerWelcome, get_bind, bind_ok (unwrap_some eph h)]
  rfl

omit [CurveSuite SK Key α] in
lemma openCookie_detached [LawfulCryptoBox Key] (k : Key) (pk : PublicKey α)
    (h : CurveHandshake SK Key α) :
    openCookie k (detached k cookieNonce pk.1).1 (detached k cookieNonce pk.1).2
      h = .ok pk.1 h := by
  have len := detached_length k cookieNonce pk.1
  rw [pk.2] at len
  have unpadded : resize 32 (detached k cookieNonce pk.1).2 =
      (detached k cookieNonce pk.1).2 := by
    rw [resize, take_of_length_le (by omega), len]
    exact append_nil _
  rw [openCookie, if_neg (by omega), unpadded, openBox_detached]

lemma processServerWelcome_command [LawfulCryptoBox Key] {h : CurveHandshake SK Key α}
    {server : PublicKey α} (static : h.remoteStaticPublicKey = some server) (pk : PublicKey α) :
    processServerWelcome (command (128 + 8) welcomePrefix cookieName
        (sealedBox (beforenm server h.localEphemeralKeypair) cookieNonce pk.1)) h =
      .ok () { h with
        remoteEphemeralPublicKey := some pk
        precomputedKey := some (beforenm pk h.localStaticKeypair) } := by
  have fits : welcomePrefix.length + (5 + cookieName.length + (sealedBox (beforenm server
      h.localEphemeralKeypair) cookieNonce pk.1).length) ≤ 128 + 8 := by
    rw [sealedBox_length, pk.2]
    decide
  rw [processServerWelcome, bind_ok (readCommand_command (by decide) (by decide) (by decide) fits
    (by decide) _ _), get_bind, bind_ok (unwrap_some static h),
    bind_ok (splitMac_sealedBox _ _ _ h), bind_ok (openCookie_detached _ pk h),
    bind_ok (publicKeyOf_octets pk h)]
  rfl

lemma buildClientInitiate_command {h : CurveHandshake SK Key α} {server : PublicKey α}
    (static : h.remoteStaticPublicKey = some server) :
    buildClientInitiate h = .ok (command (128 + 9) initiatePrefix ciphertextName
      (sealedBox (beforenm server h.localEphemeralKeypair) (commandNonce h.sendNonce)
        (encodeMetadata [(publicKeyClientName, (publicKey h.localStaticKeypair).1)])))
      { h with sendNonce := h.sendNonce + 1 } := by
  rw [buildClientInitiate, get_bind, bind_ok (unwrap_some static h)]
  rfl

/-- Nothing in the box depends on the secret of the static key it names, nor on the server's
ephemeral key. -/
lemma processClientInitiate_command [LawfulCryptoBox Key] {h : CurveHandshake SK Key α}
    {client : PublicKey α} (eph : h.remoteEphemeralPublicKey = some client) (pk : PublicKey α) :
    processClientInitiate (command (128 + 9) initiatePrefix ciphertextName
        (sealedBox (beforenm client h.localStaticKeypair) (commandNonce h.recvNonce)
          (encodeMetadata [(publicKeyClientName, pk.1)]))) h =
      .ok () { h with
        recvNonce := h.recvNonce + 1
        remoteStaticPublicKey := some pk
        precomputedKey := some (beforenm pk h.localEphemeralKeypair) } := by
  have inner : (encodeMetadata [(publicKeyClientName, pk.1)]).length = 54 := by
    simp only [encodeMetadata, flatMap_cons, flatMap_nil, encodeEntry,
      length_append, length_cons, bytes_length, be_length, length_nil, pk.2]
    decide
  have fits : initiatePrefix.length + (5 + ciphertextName.length + (sealedBox
      (beforenm client h.localStaticKeypair) (commandNonce h.recvNonce)
      (encodeMetadata [(publicKeyClientName, pk.1)])).length) ≤ 128 + 9 := by
    rw [sealedBox_length, inner]
    decide
  have small : pk.1.length < 2 ^ 32 := by
    rw [pk.2]
    decide
  have found (g : CurveHandshake SK Key α) : lookup (encodeMetadata [(publicKeyClientName, pk.1)])
      publicKeyClientName "INITIATE missing Public-Key-Client" g = .ok pk.1 g := by
    have padded := lookup_entry (h := g) (by decide : 0 < publicKeyClientName.length) (by decide)
      (by decide) small 0 "INITIATE missing Public-Key-Client"
    rwa [replicate_zero, append_nil] at padded
  rw [processClientInitiate, bind_ok (readCommand_command (by decide) (by decide) (by decide) fits
    (by decide) _ _), get_bind, bind_ok (unwrap_some eph h),
    bind_ok (splitMac_sealedBox _ _ _ h), modify_bind, bind_ok (openBox_detached _ _ _ _),
    bind_ok (found _), bind_ok (publicKeyOf_octets pk _)]
  rfl

/-! ### What the steps change -/

section Steps

open Frame

variable {R : CurveHandshake SK Key α → CurveHandshake SK Key α → Prop}

omit [Octet α] [CurveSuite SK Key α] in
lemma openBox_still (k : Key) (n) (mac c : List α) :
    Still (openBox k n mac c : Step SK Key α (List α)) := by
  intro h
  unfold openBox
  split <;> rfl

omit [CurveSuite SK Key α] in
lemma openCookie_still (k : Key) (mac c : List α) :
    Still (openCookie k mac c : Step SK Key α (List α)) := by
  intro h
  unfold openCookie
  split
  · rfl
  · exact openBox_still _ _ _ _ h

lemma Elementary.build (e : Elementary R) :
    Leads R (buildClientHello : Step SK Key α (List α)) ∧
    Leads R (buildServerWelcome : Step SK Key α (List α)) ∧
    Leads R (buildClientInitiate : Step SK Key α (List α)) := by
  have get : Still (get : Step SK Key α _) := fun _ => rfl
  refine ⟨?_, ?_, ?_⟩
  · exact e.still get fun _ => leads_pure e.refl _
  · exact e.still get fun _ => e.still (unwrap_still _) fun _ => leads_pure e.refl _
  · exact e.still get fun _ => e.still (unwrap_still _) fun _ =>
      e.modify (e.sendNonce · _) (leads_pure e.refl _)

lemma Elementary.process (e : Elementary R) (token : List α) :
    Leads R (processClientHello token : Step SK Key α Unit) ∧
    Leads R (processServerWelcome token : Step SK Key α Unit) ∧
    Leads R (processClientInitiate token : Step SK Key α Unit) := by
  have get : Still (get : Step SK Key α _) := fun _ => rfl
  refine ⟨?_, ?_, ?_⟩
  · exact e.still (readCommand_still _ _ _ _ _) fun _ => e.still (publicKeyOf_still _) fun _ =>
      leads_modify (e.ephemeral · _)
  · exact e.still (readCommand_still _ _ _ _ _) fun _ => e.still get fun _ =>
      e.still (unwrap_still _) fun _ => e.still (splitMac_still _) fun _ =>
      e.still (openCookie_still _ _ _) fun _ => e.still (publicKeyOf_still _) fun _ =>
      e.modify (e.ephemeral · _) (leads_modify (e.precomputed · _))
  · exact e.still (readCommand_still _ _ _ _ _) fun _ => e.still get fun _ =>
      e.still (unwrap_still _) fun _ => e.still (splitMac_still _) fun _ =>
      e.modify (e.recvNonce · _) (e.still (openBox_still _ _ _ _) fun _ =>
      e.still (lookup_still _ _ _) fun _ => e.still (publicKeyOf_still _) fun _ =>
      e.modify (e.static · _) (leads_modify (e.precomputed · _)))

end Steps

end CurveHandshake

end Rzmq.Curve
