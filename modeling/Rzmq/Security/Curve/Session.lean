import Rzmq.Security.Curve.Mechanism
import Rzmq.Security.Curve.Symbolic

/-! Sessions between a client and a server that run the CURVE mechanism.  The ephemeral keys of a
session do not enter its data keys and the counters of every cipher start at one, so two sessions of
the same parties seal under the same keys and nonces. -/

namespace Rzmq.Curve

open List Octet CurveMechanism
open CurveSuite (beforenm publicKey)

variable {SK Key α : Type}

structure Transcript (α : Type) where
  hello : List α
  welcome : List α
  initiate : List α

def call {μ β : Type} (x : MechanismM μ β) (m : μ) : Except Fault (β × μ) :=
  match x m with
  | .ok b m' => .ok (b, m')
  | .error e _ => .error e

def produced : Option (List α) → Except Fault (List α)
  | some token => .ok token
  | none => .error (.panicked "no token to send")

section Exchange

variable [Octet α] [CryptoBox Key α] [CurveSuite SK Key α]

def newClient (client : SK) (server : PublicKey α) (ephemeral : SK) : CurveMechanism SK Key α where
  handshake := ⟨.clientStart, false, client, some server, ephemeral, none, none, 1, 1⟩
  status := .handshaking

def newServer (server ephemeral : SK) : CurveMechanism SK Key α where
  handshake := ⟨.serverStart, true, server, none, ephemeral, none, none, 1, 1⟩
  status := .handshaking

def exchange (client server : CurveMechanism SK Key α) :
    Except Fault (Transcript α × CurveMechanism SK Key α × CurveMechanism SK Key α) := do
  let (token, client) ← call produceToken client
  let hello ← produced token
  let (_, server) ← call (processToken hello) server
  let (token, server) ← call produceToken server
  let welcome ← produced token
  let (_, client) ← call (processToken welcome) client
  let (token, client) ← call produceToken client
  let initiate ← produced token
  let (_, server) ← call (processToken initiate) server
  return (⟨hello, welcome, initiate⟩, client, server)

/-- The WELCOME that a server sends for a HELLO, and the mechanism that INITIATE leaves it with. -/
def serve (server : CurveMechanism SK Key α) (hello initiate : List α) :
    Except Fault (List α × CurveMechanism SK Key α) := do
  let (_, server) ← call (processToken hello) server
  let (token, server) ← call produceToken server
  let welcome ← produced token
  let (_, server) ← call (processToken initiate) server
  return (welcome, server)

def helloToken (ephemeral : PublicKey α) : List α :=
  command (192 + 6) helloPrefix publicKeyClientName ephemeral.1

def welcomeToken (k : Key) (ephemeral : PublicKey α) : List α :=
  command (128 + 8) welcomePrefix cookieName (sealedBox k cookieNonce ephemeral.1)

def initiateToken (k : Key) (static : PublicKey α) : List α :=
  command (128 + 9) initiatePrefix ciphertextName
    (sealedBox k (commandNonce 1) (encodeMetadata [(publicKeyClientName, static.1)]))

omit [Octet α] [CryptoBox Key α] [CurveSuite SK Key α] in
lemma call_ok {β : Type} {x : MechanismM (CurveMechanism SK Key α) β}
    {m m' : CurveMechanism SK Key α} {b : β} (h : x m = .ok b m') : call x m = .ok (b, m') := by
  rw [call, h]

def serverAt (s se : SK) (phase : CurveHandshakePhase) (ephemeral : PublicKey α) :
    CurveMechanism SK Key α :=
  ⟨⟨phase, true, s, none, se, some ephemeral, none, 1, 1⟩, .handshaking⟩

def serverReady (s se : SK) (ephemeral static : PublicKey α) : CurveMechanism SK Key α :=
  ⟨⟨.complete, true, s, some static, se, some ephemeral,
    some (beforenm static se), 1, 1 + 1⟩, .ready⟩

section Server

variable (s se : SK) (ephemeral : PublicKey α)

lemma server_hello : call (processToken (helloToken ephemeral)) (newServer s se) =
    .ok (.produceAndSend, serverAt s se .serverReadyToProduceWelcome ephemeral) :=
  call_ok (processToken_hello rfl ephemeral)

lemma server_welcome :
    call produceToken (serverAt s se .serverReadyToProduceWelcome ephemeral) =
      .ok (some (welcomeToken (beforenm ephemeral s) (publicKey se)),
        serverAt s se .serverAwaitingInitiate ephemeral) :=
  call_ok (produceToken_welcome rfl rfl)

lemma server_initiate [LawfulCryptoBox Key] (static) :
    call (processToken (initiateToken (beforenm ephemeral s) static))
        (serverAt s se .serverAwaitingInitiate ephemeral) =
      .ok (.handshakeComplete, serverReady s se ephemeral static) :=
  call_ok
    (processToken_initiate (m := serverAt s se .serverAwaitingInitiate ephemeral) rfl rfl static)

lemma serve_initiate [LawfulCryptoBox Key] (static) :
    serve (newServer s se) (helloToken ephemeral)
        (initiateToken (beforenm ephemeral s) static) =
      .ok (welcomeToken (beforenm ephemeral s) (publicKey se),
        serverReady s se ephemeral static) := by
  simp [serve, server_hello, server_welcome, server_initiate, produced, bind, Except.bind, pure,
    Except.pure]

end Server

section Client

variable (c ce : SK) (server : PublicKey α)

def clientAt (phase : CurveHandshakePhase) (ephemeral : PublicKey α) (sent : UInt64)
    (status : MechanismStatus) : CurveMechanism SK Key α :=
  ⟨⟨phase, false, c, some server, ce, some ephemeral, some (beforenm ephemeral c), sent, 1⟩, status⟩

def clientWaiting : CurveMechanism SK Key α :=
  ⟨⟨.clientSentHello, false, c, some server, ce, none, none, 1, 1⟩, .handshaking⟩

lemma client_hello : call produceToken (newClient c server ce : CurveMechanism SK Key α) =
    .ok (some (helloToken (publicKey ce)), clientWaiting c ce server) :=
  call_ok (produceToken_hello rfl)

lemma client_welcome [LawfulCryptoBox Key] (ephemeral) :
    call (processToken (welcomeToken (beforenm server ce) ephemeral))
        (clientWaiting c ce server : CurveMechanism SK Key α) =
      .ok (.produceAndSend,
        clientAt c ce server .clientReadyToProduceInitiate ephemeral 1 .handshaking) :=
  call_ok (processToken_welcome (m := clientWaiting c ce server) rfl rfl ephemeral)

lemma client_initiate (ephemeral) :
    call produceToken
        (clientAt c ce server .clientReadyToProduceInitiate ephemeral 1 .handshaking) =
      .ok (some (initiateToken (beforenm server ce) (publicKey c)),
        clientAt c ce server .complete ephemeral (1 + 1) .ready) :=
  call_ok (produceToken_initiate rfl rfl)

end Client

def transcript (c s ce se : SK) : Transcript α where
  hello := helloToken (publicKey ce)
  welcome := welcomeToken (beforenm (publicKey ce) s)
    (publicKey se)
  initiate := initiateToken (beforenm (publicKey ce) s)
    (publicKey c)

lemma exchange_completes [LawfulCryptoBox Key] [LawfulCurveSuite SK] (c s ce se : SK) :
    exchange (newClient c (publicKey s) ce) (newServer s se) =
      .ok (transcript c s ce se,
        clientAt c ce (publicKey s) .complete (publicKey se) (1 + 1) .ready,
        serverReady s se (publicKey ce) (publicKey c)) := by
  have comm := LawfulCurveSuite.beforenm_comm ce s
  have welcome := client_welcome c ce (publicKey s) (publicKey se)
  have initiate := client_initiate c ce (publicKey s) (publicKey se)
  rw [comm] at welcome initiate
  simp [exchange, client_hello, server_hello, server_welcome, welcome, initiate, server_initiate,
    produced, bind, Except.bind, pure, Except.pure, transcript]

end Exchange

/-! ### The keys of a session -/

section Keys

variable [CurveSuite SK Key α] [CurveKx SK]

lemma serverReady_cipher (c s se : SK) (ephemeral) :
    (serverReady s se ephemeral (publicKey c)).handshake.intoDataCipher =
      .ok (.new (CurveKx.down c s) (CurveKx.up c s)) := by
  simp [serverReady, CurveHandshake.intoDataCipher, CurveHandshake.intoSessionKeys,
    CurveKx.kxServer_eq]

lemma clientReady_cipher (c s ce : SK) (ephemeral) (sent : UInt64) :
    (clientAt c ce (publicKey s) .complete ephemeral sent
        .ready).handshake.intoDataCipher =
      .ok (.new (CurveKx.up c s) (CurveKx.down c s)) := by
  simp [clientAt, CurveHandshake.intoDataCipher, CurveHandshake.intoSessionKeys,
    CurveKx.kxClient_eq]

/-- A client that was given the key of the server and the server both become ready, each with the
key of the other, and what one sends under the other receives under. -/
theorem honest_handshake [Octet α] [CryptoBox Key α] [LawfulCryptoBox Key] [LawfulCurveSuite SK]
    (c s ce se : SK) :
    (∃ client server : CurveMechanism SK Key α,
      exchange (newClient c (publicKey s) ce) (newServer s se) =
        .ok (transcript c s ce se, client, server) ∧
      client.status = .ready ∧ server.status = .ready ∧
      client.handshake.remoteStaticPublicKey = some (publicKey s) ∧
      server.handshake.remoteStaticPublicKey = some (publicKey c) ∧
      ∃ up down, client.handshake.intoSessionKeys = .ok (down, up) ∧
        server.handshake.intoSessionKeys = .ok (up, down)) ∧
    ∀ (metadata : Metadata α) (padding : Nat),
      (∀ entry ∈ metadata, 0 < entry.1.length ∧ entry.1.length < 256 ∧
        validUtf8 entry.1 = true ∧ entry.2.length < 2 ^ 32) →
      decodeMetadata (encodeMetadata metadata ++ replicate padding (low 0)) = .ok metadata := by
  refine ⟨⟨_, _, exchange_completes c s ce se, rfl, rfl, rfl, rfl, CurveKx.up c s, CurveKx.down c s,
    ?_, ?_⟩, fun metadata padding formed => decodeMetadata_encode formed padding⟩
  · simp [clientAt, CurveHandshake.intoSessionKeys, CurveKx.kxClient_eq]
  · simp [serverReady, CurveHandshake.intoSessionKeys, CurveKx.kxServer_eq]

theorem honest_handshake_symbolic : ∃ ends,
    exchange (newClient (⟨0⟩ : SymSecret) (publicKey (⟨1⟩ : SymSecret)) ⟨2⟩) (newServer ⟨1⟩ ⟨3⟩) =
      .ok ends ∧ ends.2.1.status = .ready ∧ ends.2.2.status = .ready := by
  obtain ⟨⟨client, server, done, ready, ready', -⟩, -⟩ :=
    honest_handshake (⟨0⟩ : SymSecret) ⟨1⟩ ⟨2⟩ ⟨3⟩
  exact ⟨_, done, ready, ready'⟩

end Keys

/-! ### Keys and nonces over many sessions -/

structure BoxCall (Key α : Type) where
  key : Key
  nonce : List UInt8
  plaintext : List α

def boxCalls [CryptoBox Key α] : CurveDataCipher Key → List (List α) → List (BoxCall Key α)
  | _, [] => []
  | k, p :: ps =>
    ⟨k.encodeKey, CurveDataCipher.constructNonce k.sendNonceCounter, p⟩ ::
      boxCalls (k.encrypt p).2 ps

def NonceUnique (calls : List (BoxCall Key α)) : Prop :=
  ∀ x ∈ calls, ∀ y ∈ calls, x.key = y.key → x.nonce = y.nonce → x.plaintext = y.plaintext

/-- Which party is the client, the ephemerals that they draw, and the plaintexts that each side
encrypts. -/
structure Session (SK α : Type) where
  swapped : Bool
  clientEphemeral : SK
  serverEphemeral : SK
  fromClient : List (List α)
  fromServer : List (List α)

namespace Session

def client (a b : SK) (t : Session SK α) : SK := if t.swapped then b else a

def server (a b : SK) (t : Session SK α) : SK := if t.swapped then a else b

variable [Octet α] [CryptoBox Key α] [CurveSuite SK Key α]

/-- The boxes of both sides of a session: the handshake is run, and the ciphers of its two ends
encrypt. -/
def calls (a b : SK) (t : Session SK α) : List (BoxCall Key α) :=
  match exchange (newClient (t.client a b) (publicKey (t.server a b)) t.clientEphemeral)
      (newServer (t.server a b) t.serverEphemeral) with
  | .error _ => []
  | .ok (_, client, server) =>
    match client.handshake.intoDataCipher, server.handshake.intoDataCipher with
    | .ok k, .ok k' => boxCalls k t.fromClient ++ boxCalls k' t.fromServer
    | _, _ => []

end Session

section BoxCalls

variable [CryptoBox Key α]

omit [CryptoBox Key α] in
lemma counter_succ (n : UInt64) (i : Nat) :
    n + 1 + UInt64.ofNat i = n + UInt64.ofNat (i + 1) := by
  rw [UInt64.ofNat_add, UInt64.add_assoc, UInt64.add_comm 1]
  rfl

omit [CryptoBox Key α] in
lemma nonce_eq_iff (n : UInt64) (i j : Nat) :
    CurveDataCipher.constructNonce (n + UInt64.ofNat i) =
      CurveDataCipher.constructNonce (n + UInt64.ofNat j) ↔ i % 2 ^ 64 = j % 2 ^ 64 := by
  rw [CurveDataCipher.constructNonce_inj, UInt64.add_right_inj, ← UInt64.toNat_inj,
    UInt64.toNat_ofNat', UInt64.toNat_ofNat']

lemma mem_boxCalls {k : CurveDataCipher Key} {ps : List (List α)} {x : BoxCall Key α} :
    x ∈ boxCalls k ps ↔ ∃ i p, ps[i]? = some p ∧
      x =
        ⟨k.encodeKey, CurveDataCipher.constructNonce (k.sendNonceCounter + UInt64.ofNat i), p⟩ := by
  induction ps generalizing k with
  | nil => simp [boxCalls]
  | cons p ps ih =>
    have next : (k.encrypt p).2 = { k with sendNonceCounter := k.sendNonceCounter + 1 } := rfl
    rw [boxCalls, mem_cons, ih, next]
    simp only [counter_succ]
    constructor
    · rintro (rfl | ⟨i, q, hq, rfl⟩)
      · exact ⟨0, p, rfl, by simp⟩
      · exact ⟨i + 1, q, hq, rfl⟩
    · rintro ⟨i, q, hq, rfl⟩
      cases i with
      | zero =>
        obtain rfl : p = q := Option.some.inj hq
        exact .inl (by simp)
      | succ i => exact .inr ⟨i, q, hq, rfl⟩

end BoxCalls

def Agree (ps qs : List (List α)) : Prop :=
  ∀ i j p q, i % 2 ^ 64 = j % 2 ^ 64 → ps[i]? = some p → qs[j]? = some q → p = q

/-- In any two sessions with the same client, each side sends the same plaintexts at the same
numbers. -/
def Aligned (sessions : List (Session SK α)) : Prop :=
  ∀ t ∈ sessions, ∀ u ∈ sessions, t.swapped = u.swapped →
    Agree t.fromClient u.fromClient ∧ Agree t.fromServer u.fromServer

lemma agree_singleton (p : List α) : Agree [p] [p] := by
  intro i j q r _ hq hr
  rw [mem_singleton.mp (mem_of_getElem? hq), mem_singleton.mp (mem_of_getElem? hr)]

lemma roles_inj {a b : SK} (hab : a ≠ b) {t u : Session SK α}
    (h : t.client a b = u.client a b) : t.swapped = u.swapped := by
  unfold Session.client at h
  cases ht : t.swapped <;> cases hu : u.swapped <;> rw [ht, hu] at h
  · exact absurd h hab
  · exact absurd h.symm hab

section Sessions

variable [Octet α] [CryptoBox Key α] [CurveSuite SK Key α] [LawfulCryptoBox Key]
  [LawfulCurveSuite SK] [CurveKx SK]

lemma mem_calls {a b : SK} {t : Session SK α} {x : BoxCall Key α} :
    x ∈ t.calls a b ↔
      (∃ i p, t.fromClient[i]? = some p ∧ x = ⟨CurveKx.up (t.client a b) (t.server a b),
        CurveDataCipher.constructNonce (1 + UInt64.ofNat i), p⟩) ∨
      (∃ i p, t.fromServer[i]? = some p ∧ x = ⟨CurveKx.down (t.client a b) (t.server a b),
        CurveDataCipher.constructNonce (1 + UInt64.ofNat i), p⟩) := by
  simp only [Session.calls, exchange_completes, clientReady_cipher, serverReady_cipher,
    mem_append, mem_boxCalls]
  rfl

lemma aligned_of_nonceUnique {a b : SK} {sessions : List (Session SK α)}
    (unique : NonceUnique (sessions.flatMap (Session.calls a b))) : Aligned sessions := by
  intro t ht u hu same
  have hc : t.client a b = u.client a b := by rw [Session.client, same]; rfl
  have hs : t.server a b = u.server a b := by rw [Session.server, same]; rfl
  have mem {v : Session SK α} {x : BoxCall Key α} (hv : v ∈ sessions) (hx : x ∈ v.calls a b) :
      x ∈ sessions.flatMap (Session.calls a b) := mem_flatMap.mpr ⟨v, hv, hx⟩
  refine ⟨fun i j p q hij hp hq => ?_, fun i j p q hij hp hq => ?_⟩
  · exact unique _ (mem ht (mem_calls.mpr (.inl ⟨i, p, hp, rfl⟩))) _
      (mem hu (mem_calls.mpr (.inl ⟨j, q, hq, rfl⟩))) (by rw [hc, hs])
      ((nonce_eq_iff 1 i j).mpr hij)
  · exact unique _ (mem ht (mem_calls.mpr (.inr ⟨i, p, hp, rfl⟩))) _
      (mem hu (mem_calls.mpr (.inr ⟨j, q, hq, rfl⟩))) (by rw [hc, hs])
      ((nonce_eq_iff 1 i j).mpr hij)

/-- No key and nonce seal two plaintexts exactly when sessions with the same client repeat each
other's plaintexts. -/
theorem nonce_unique_iff [InjectiveKx SK] {a b : SK} (hab : a ≠ b)
    (sessions : List (Session SK α)) :
    NonceUnique (sessions.flatMap (Session.calls a b)) ↔ Aligned sessions := by
  refine ⟨aligned_of_nonceUnique, fun aligned x hx y hy hkey hnonce => ?_⟩
  obtain ⟨t, ht, hx⟩ := mem_flatMap.mp hx
  obtain ⟨u, hu, hy⟩ := mem_flatMap.mp hy
  rcases mem_calls.mp hx with ⟨i, p, hp, rfl⟩ | ⟨i, p, hp, rfl⟩ <;>
    rcases mem_calls.mp hy with ⟨j, q, hq, rfl⟩ | ⟨j, q, hq, rfl⟩
  · have same := roles_inj hab (InjectiveKx.up_inj hkey).1
    exact (aligned t ht u hu same).1 i j p q ((nonce_eq_iff 1 i j).mp hnonce) hp hq
  · exact absurd hkey (up_ne_down _ _ _ _)
  · exact absurd hkey.symm (up_ne_down _ _ _ _)
  · have same := roles_inj hab (InjectiveKx.down_inj hkey).1
    exact (aligned t ht u hu same).2 i j p q ((nonce_eq_iff 1 i j).mp hnonce) hp hq

end Sessions

def oneByteSession (clientEphemeral serverEphemeral : Nat) (b : UInt8) : Session SymSecret Sym :=
  ⟨false, ⟨clientEphemeral⟩, ⟨serverEphemeral⟩, [[.byte b]], []⟩

theorem nonce_unique_repeated :
    NonceUnique ([oneByteSession 2 3 7, oneByteSession 4 5 7].flatMap (Session.calls ⟨0⟩ ⟨1⟩)) := by
  refine (nonce_unique_iff (by decide) _).mpr fun t ht u hu _ => ?_
  have client {v : Session SymSecret Sym} (hv : v ∈ [oneByteSession 2 3 7, oneByteSession 4 5 7]) :
      v.fromClient = [[.byte 7]] ∧ v.fromServer = [] := by
    rcases mem_pair.mp hv with rfl | rfl <;> exact ⟨rfl, rfl⟩
  rw [(client ht).1, (client ht).2, (client hu).1, (client hu).2]
  exact ⟨agree_singleton _, by simp [Agree]⟩

/-- Two sessions with four different ephemerals seal two bytes under one key and nonce. -/
theorem nonce_reused :
    ¬ NonceUnique ([oneByteSession 2 3 7, oneByteSession 4 5 8].flatMap
      (Session.calls ⟨0⟩ ⟨1⟩)) := by
  intro unique
  have aligned := aligned_of_nonceUnique unique (oneByteSession 2 3 7) (by simp)
    (oneByteSession 4 5 8) (by simp) rfl
  have same := aligned.1 0 0 _ _ rfl rfl rfl
  simp at same

end Rzmq.Curve
