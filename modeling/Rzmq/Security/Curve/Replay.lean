import Rzmq.Security.Curve.Attacker
import Rzmq.Security.RoundTrip

/-! Recorded sessions against a new one.  Nothing that a server draws for a session enters its data
keys or is checked in INITIATE, so what a recorded client sent is good for every later session. -/

namespace Rzmq

open List Octet Incremental

namespace LengthPrefixedFramer

variable {κ α : Type} [Octet α] [IDataCipher κ α]

def Accepts (f : LengthPrefixedFramer κ α) (net record : List α) : Prop :=
  ∃ pre post, net = pre ++ record ++ post ∧ (drain (decoder κ α) f pre).outcome = .ok () ∧
    (drain (decoder κ α) f pre).rest = [] ∧
    (drain (decoder κ α) (drain (decoder κ α) f pre).state record).items ≠ []

lemma tryReadMsg_cipher {Inv : κ → Prop}
    (keep : ∀ {k k' : κ} {c p : List α}, IDataCipher.decrypt k c = (.ok p, k') → Inv k → Inv k')
    (f : LengthPrefixedFramer κ α) (net : List α) {r f'} {rest : List α} (hf : Inv f.cipher)
    (h : f.tryReadMsg net = (.ok r, f', rest)) : Inv f'.cipher := by
  induction hn : net.length using Nat.strongRecOn generalizing f net with
  | _ n ih =>
    subst hn
    match hdec : f.parser.decodeFromBuffer f.decryptedBuffer with
    | (.error e, parser, buffer) =>
      rw [tryReadMsg_error hdec] at h
      simp at h
    | (.ok (some m), parser, buffer) =>
      rw [tryReadMsg_some hdec] at h
      simp only [Prod.mk.injEq] at h
      rw [← h.2.1]
      exact hf
    | (.ok none, parser, buffer) =>
      rcases record_cases net with short | ⟨record, left, hlen, hnet, hrec⟩
      · rw [tryReadMsg_wait hdec short] at h
        simp only [Prod.mk.injEq] at h
        rw [← h.2.1]
        exact hf
      rw [tryReadMsg_record hdec record left hlen hnet hrec] at h
      match hopen : IDataCipher.decrypt f.cipher record with
      | (.error e, cipher) =>
        rw [hopen] at h
        simp at h
      | (.ok plaintext, cipher) =>
        rw [hopen] at h
        exact ih left.length (by omega) ⟨cipher, parser, buffer ++ plaintext⟩ left
          (keep hopen hf) h rfl

lemma drain_cipher (Inv : κ → Prop)
    (keep : ∀ {k k' : κ} {c p : List α}, IDataCipher.decrypt k c = (.ok p, k') → Inv k → Inv k')
    (f : LengthPrefixedFramer κ α) (net : List α) (hf : Inv f.cipher)
    (ok : (drain (decoder κ α) f net).outcome = .ok ()) :
    Inv (drain (decoder κ α) f net).state.cipher := by
  refine (drain_items (fun g : LengthPrefixedFramer κ α => Inv g.cipher) (fun _ => True) ?_ ?_ f net
    hf).2 ok
  · intro g g' buf rest m hg h
    exact ⟨trivial, tryReadMsg_cipher keep g buf hg h⟩
  · intro g g' buf rest hg h
    exact tryReadMsg_cipher keep g buf hg h

lemma accepts_decrypts {f net c} (fits : c.length ≤ 65535)
    (h : f.Accepts net (be 2 c.length ++ c)) :
    ∃ pre, (drain (decoder κ α) f pre).outcome = .ok () ∧
      ∃ p k', IDataCipher.decrypt (drain (decoder κ α) f pre).state.cipher c = (.ok p, k') ∧
        p ≠ [] := by
  obtain ⟨pre, post, -, ok, rest, items⟩ := h
  refine ⟨pre, ok, ?_⟩
  have idle := drain_idle decoder_resumable f pre ok
  rw [rest] at idle
  generalize (drain (decoder κ α) f pre).state = g at idle items
  have waits : g.parser.decodeFromBuffer g.decryptedBuffer =
      (.ok none, g.parser, g.decryptedBuffer) := by
    have call : g.tryReadMsg [] = (.ok none, g, []) := idle
    match hdec : g.parser.decodeFromBuffer g.decryptedBuffer with
    | (.error e, parser, buffer) =>
      rw [tryReadMsg_error hdec] at call
      simp at call
    | (.ok (some m), parser, buffer) =>
      rw [tryReadMsg_some hdec] at call
      simp at call
    | (.ok none, parser, buffer) =>
      rw [tryReadMsg_wait hdec (.inl (by simp))] at call
      simp only [Prod.mk.injEq] at call
      rw [← call.2.1]
  have hnet : (be 2 c.length ++ c).drop 2 = c ++ [] := by
    rw [drop_left' (be_length 2 c.length), append_nil]
  have hlen : (be 2 c.length ++ c).length = 2 + c.length + ([] : List α).length := by simp
  have hrec : recordLength (be 2 c.length ++ c) = c.length := by
    rw [recordLength_record]
    omega
  have call := tryReadMsg_record waits c [] hlen hnet hrec
  match hopen : IDataCipher.decrypt g.cipher c with
  | (.error e, k') =>
    rw [hopen] at call
    have stop := call
    rw [drain_error stop] at items
    exact absurd rfl items
  | (.ok p, k') =>
    refine ⟨p, k', rfl, fun hp => items ?_⟩
    simp only [hopen, hp, append_nil] at call
    have again : tryReadMsg (⟨k', g.parser, g.decryptedBuffer⟩ : LengthPrefixedFramer κ α) [] = _ :=
      tryReadMsg_wait waits (.inl (by simp))
    rw [again] at call
    have stop := call
    rw [drain_none stop]

def afterWrites : LengthPrefixedFramer κ α → List (List (Msg α)) → LengthPrefixedFramer κ α
  | f, [] => f
  | f, batch :: batches => afterWrites (f.writeMsgMultipart batch).2 batches

lemma writeRun_append (f : LengthPrefixedFramer κ α) (xs ys : List (List (Msg α))) :
    f.writeRun (xs ++ ys) = f.writeRun xs ++ (f.afterWrites xs).writeRun ys := by
  induction xs generalizing f with
  | nil => rfl
  | cons batch xs ih =>
    rcases writeMsgMultipart_cases f batch with ⟨e, cipher, -, call⟩ | ⟨c, cipher, -, call⟩
    · rw [cons_append, writeRun_error call, writeRun_error call, ih, afterWrites, call]
    · rw [cons_append, writeRun_ok call, writeRun_ok call, ih, afterWrites, call]
      rfl

end LengthPrefixedFramer

namespace Curve

open LengthPrefixedFramer
open CurveKx (up down)

open CurveSuite (publicKey beforenm kxServer)

section Records

variable {Key α : Type} [Octet α] [CryptoBox Key α]
  {f : LengthPrefixedFramer (CurveDataCipher Key) α} {batches : List (List (Msg α))}

lemma mem_writeRun {call} (h : call ∈ f.writeRun batches) :
    call.1 ∈ batches ∧ ∃ n c, c = sealedBox f.cipher.encodeKey n (ZmtpCodec.encodeAll call.1) ∧
      call.2 = be 2 c.length ++ c := by
  induction batches generalizing f with
  | nil => simp [writeRun] at h
  | cons batch batches ih =>
    have here : f.writeMsgMultipart batch = (.ok (be 2 (sealedBox f.cipher.encodeKey
        (CurveDataCipher.constructNonce f.cipher.sendNonceCounter)
        (ZmtpCodec.encodeAll batch)).length ++ sealedBox f.cipher.encodeKey
        (CurveDataCipher.constructNonce f.cipher.sendNonceCounter) (ZmtpCodec.encodeAll batch)),
        { f with cipher := (f.cipher.encrypt (ZmtpCodec.encodeAll batch)).2 }) := rfl
    rw [writeRun_ok here, mem_cons] at h
    rcases h with rfl | h
    · exact ⟨mem_cons_self, _, _, rfl, rfl⟩
    · obtain ⟨mem, n, c, hc, hcall⟩ := ih h
      exact ⟨mem_cons_of_mem _ mem, n, c, hc, hcall⟩

lemma accepted_eq : f.accepted batches = batches.flatMap (·.map Msg.received) := by
  induction batches generalizing f with
  | nil => rfl
  | cons batch _ ih => exact congrArg (batch.map Msg.received ++ ·) ih

lemma unwrapped_of_fits (fits : ∀ batch ∈ batches, (ZmtpCodec.encodeAll batch).length ≤ 65519) :
    f.Unwrapped batches := by
  intro call hcall
  obtain ⟨mem, n, c, hc, octets⟩ := mem_writeRun hcall
  rw [octets, record_unwrapped, hc, CurveHandshake.sealedBox_length]
  have := fits call.1 mem
  omega

omit [Octet α] in
/-- A cipher opens a box that was sealed elsewhere only when it was sealed under its decoding key.
-/
lemma decrypt_sealedBox [IdealBox Key] {k k' : CurveDataCipher Key} {key : Key} {n : List UInt8}
    {q p : List α} (h : IDataCipher.decrypt k (sealedBox key n q) = (.ok p, k')) :
    k.decodeKey = key ∧ p = q := by
  have opened := (CurveDataCipher.decrypt_ok h).1
  have mac := CryptoBox.mac_length key n q
  rw [sealedBox, take_left' mac, drop_left' mac] at opened
  obtain ⟨hk, -, hp⟩ := IdealBox.detached_inj (IdealBox.sealed_of_open opened)
  exact ⟨hk, hp⟩

end Records

/-- The keys that both ends drew, the client's limit, and the batches that each wrote, which fit a
record and, from the client, the limit `mx` of the server. -/
structure Recording (SK α : Type) [Octet α] (mx : Int) where
  client : SK
  clientEphemeral : SK
  serverEphemeral : SK
  clientMax : Int
  fromClient : List (List (Msg α))
  fromServer : List (List (Msg α))
  fits : ∀ batch ∈ fromClient ++ fromServer, (ZmtpCodec.encodeAll batch).length ≤ 65519
  admitted : ∀ batch ∈ fromClient, ∀ m ∈ batch, ZmtpManualParser.admits mx m.size

namespace Recording

variable {SK Key α : Type} [Octet α] [CryptoBox Key α] [CurveSuite SK Key α] {mx : Int}

def ends (s : SK) (r : Recording SK α mx) : Option (Transcript α ×
    LengthPrefixedFramer (CurveDataCipher Key) α × LengthPrefixedFramer (CurveDataCipher Key) α) :=
  match exchange (newClient r.client (publicKey s) r.clientEphemeral)
      (newServer s r.serverEphemeral) with
  | .error _ => none
  | .ok (tokens, client, server) =>
    match client.intoFramer r.clientMax, server.intoFramer mx with
    | .ok (f, _), .ok (g, _) => some (tokens, f, g)
    | _, _ => none

def records (s : SK) (r : Recording SK α mx) : List (List α) :=
  match r.ends s with
  | none => []
  | some (_, f, g) => (f.writeRun r.fromClient ++ g.writeRun r.fromServer).map (·.2)

def octets (s : SK) (r : Recording SK α mx) : List (List α) :=
  match r.ends s with
  | none => []
  | some (tokens, f, g) =>
    [tokens.hello, tokens.welcome, tokens.initiate, f.emitted r.fromClient, g.emitted r.fromServer]

variable [LawfulCryptoBox Key] [LawfulCurveSuite SK] [CurveKx SK]

lemma ends_eq (s : SK) (r : Recording SK α mx) :
    r.ends s = some (transcript r.client s r.clientEphemeral r.serverEphemeral,
      .new (.new (up r.client s) (down r.client s)) r.clientMax,
      .new (.new (down r.client s) (up r.client s)) mx) := by
  have client := clientReady_cipher r.client s r.clientEphemeral
    (publicKey r.serverEphemeral) (1 + 1)
  have server := serverReady_cipher r.client s r.serverEphemeral
    (publicKey r.clientEphemeral)
  simp only [ends, exchange_completes, CurveMechanism.intoFramer, client, server]
  rfl

/-- Each end of a session reads all that the other wrote, however it is cut. -/
theorem session_delivers (s : SK) (r : Recording SK α mx)
    (admitted : ∀ batch ∈ r.fromServer, ∀ m ∈ batch, ZmtpManualParser.admits r.clientMax m.size) :
    ∃ tokens f g, r.ends s = some (tokens, f, g) ∧
      f.accepted r.fromClient = r.fromClient.flatMap (·.map Msg.received) ∧
      g.accepted r.fromServer = r.fromServer.flatMap (·.map Msg.received) ∧
      f.RoundTrip g r.fromClient ∧ g.RoundTrip f r.fromServer := by
  obtain ⟨fits, fits'⟩ := forall_mem_append.mp r.fits
  exact ⟨_, _, _, r.ends_eq s, accepted_eq, accepted_eq,
    roundTrip_of_unwrapped ⟨_, curve_inSync, rfl, rfl⟩ r.admitted (unwrapped_of_fits fits),
    roundTrip_of_unwrapped ⟨_, curve_inSync, rfl, rfl⟩ admitted (unwrapped_of_fits fits')⟩

end Recording

variable {SK Key α : Type} [Octet α] [CryptoBox Key α] [CurveSuite SK Key α] {mx : Int}

def seenIn (s : SK) (recordings : List (Recording SK α mx)) : Set (List α) :=
  { os | ∃ r ∈ recordings, os ∈ r.octets s }

/-- A new session accepts no record of the recorded ones, whatever an attacker that has seen them
sends. -/
def Fresh (s se : SK) (own : Set SK) (recordings : List (Recording SK α mx)) : Prop :=
  ∀ w (m : CurveMechanism SK Key α), Served s se own (seenIn s recordings) w m →
    ∀ f identity, m.intoFramer mx = .ok (f, identity) →
    ∀ net, Knows own (insert w (seenIn s recordings)) (.octets net : Item Key α) →
    ∀ r ∈ recordings, ∀ record ∈ r.records s, ¬ f.Accepts net record

lemma serve_role {s se : SK} {hello initiate w m}
    (h : serve (newServer s se) hello initiate = .ok (w, m)) : m.handshake.isServer = true := by
  have keep {β : Type} {x : MechanismM (CurveMechanism SK Key α) β}
      (hx : CurveMechanism.KeepsRole x) {a a' : CurveMechanism SK Key α} {b : β}
      (hc : call x a = .ok (b, a')) :
      a'.handshake.isServer = a.handshake.isServer := by
    unfold call at hc
    split at hc
    · rename_i b' m' hx'
      simp only [Except.ok.injEq, Prod.mk.injEq] at hc
      rw [← hc.2]
      exact hx hx'
    · simp at hc
  simp only [serve, bind, Except.bind, pure, Except.pure] at h
  split at h
  · simp at h
  rename_i v₁ h₁
  split at h
  · simp at h
  rename_i v₂ h₂
  split at h
  · simp at h
  split at h
  · simp at h
  rename_i v₃ h₃
  simp only [Except.ok.injEq, Prod.mk.injEq] at h
  rw [← h.2, keep (CurveMechanism.processToken_keepsRole _) h₃,
    keep CurveMechanism.produceToken_keepsRole h₂,
    keep (CurveMechanism.processToken_keepsRole _) h₁]
  rfl

omit [Octet α] [CryptoBox Key α] in
lemma intoSessionKeys_server {h : CurveHandshake SK Key α} (role : h.isServer = true)
    {rx tx : Key} (hkeys : h.intoSessionKeys = .ok (rx, tx)) :
    ∃ peer, kxServer (publicKey h.localStaticKeypair) h.localStaticKeypair
      peer = .ok (rx, tx) := by
  unfold CurveHandshake.intoSessionKeys at hkeys
  simp only [role, if_true] at hkeys
  split at hkeys
  · simp at hkeys
  split at hkeys
  · simp at hkeys
  rename_i peer _
  split at hkeys
  · rename_i keys hkx
    rw [Except.ok.inj hkeys] at hkx
    exact ⟨peer, hkx⟩
  · simp at hkeys

omit [Octet α] [CryptoBox Key α] in
lemma intoFramer_server {m : CurveMechanism SK Key α}
    {f : LengthPrefixedFramer (CurveDataCipher Key) α} {identity : Option (List α)}
    (role : m.handshake.isServer = true) (h : m.intoFramer mx = .ok (f, identity)) :
    ∃ (pk peer : PublicKey α) (sk : SK) (tx : Key),
      kxServer pk sk peer = .ok (f.cipher.decodeKey, tx) := by
  unfold CurveMechanism.intoFramer CurveHandshake.intoDataCipher at h
  split at h
  · simp at h
  match hkeys : m.handshake.intoSessionKeys with
  | .error e => simp [hkeys] at h
  | .ok (rx, tx) =>
    simp only [hkeys, Except.ok.injEq, Prod.mk.injEq] at h
    obtain ⟨peer, hkx⟩ := intoSessionKeys_server role hkeys
    obtain ⟨rfl, -⟩ := h
    exact ⟨_, peer, _, tx, hkx⟩

lemma fresh_of_silent [LawfulCryptoBox Key] [LawfulCurveSuite SK] [CurveKx SK] [InjectiveKx SK]
    [IdealBox Key] (s se : SK) (own : Set SK) {recordings : List (Recording SK α mx)}
    (silent : ∀ r ∈ recordings, ∀ batch ∈ r.fromClient, batch = []) :
    Fresh s se own recordings := by
  intro w m served f identity framed net _ r hr record hrecord accepted
  obtain ⟨hello, initiate, -, -, run⟩ := served.run
  obtain ⟨pk, peer, sk, tx, hkx⟩ := intoFramer_server (serve_role run) framed
  obtain ⟨key, n, q, hbox, fits, hq⟩ : ∃ key n q,
      record = be 2 (sealedBox key n q).length ++ sealedBox key n q ∧
      (sealedBox key n q).length ≤ 65535 ∧ (q = [] ∨ key = down r.client s) := by
    simp only [Recording.records, Recording.ends_eq, map_append, mem_append, mem_map] at hrecord
    rcases hrecord with ⟨call, hcall, rfl⟩ | ⟨call, hcall, rfl⟩
    · obtain ⟨mem, n, c, rfl, octets⟩ := mem_writeRun hcall
      have small := r.fits call.1 (mem_append_left _ mem)
      refine ⟨_, n, _, octets, ?_, .inl ?_⟩
      · rw [CurveHandshake.sealedBox_length]
        omega
      · rw [silent r hr _ mem, ZmtpCodec.encodeAll_nil]
    · obtain ⟨mem, n, c, rfl, octets⟩ := mem_writeRun hcall
      have small := r.fits call.1 (mem_append_right _ mem)
      refine ⟨_, n, _, octets, ?_, .inr rfl⟩
      rw [CurveHandshake.sealedBox_length]
      omega
  rw [hbox] at accepted
  obtain ⟨pre, ok, p, k', hdec, hp⟩ := accepts_decrypts fits accepted
  have kept := drain_cipher (fun k : CurveDataCipher Key => k.decodeKey = f.cipher.decodeKey)
    (fun hd hk => by rw [(CurveDataCipher.decrypt_ok hd).2]; exact hk) f pre rfl ok
  obtain ⟨hkey, rfl⟩ := decrypt_sealedBox hdec
  rcases hq with rfl | rfl
  · exact hp rfl
  · exact InjectiveKx.rx_ne_down hkx r.client s (kept.symm.trans hkey)

lemma accepts_recorded [LawfulCryptoBox Key] {f g : LengthPrefixedFramer (CurveDataCipher Key) α}
    (sync : SameKey f.cipher g.cipher) (hg : g = .new g.cipher mx) {xs ys : List (List (Msg α))}
    {batch : List (Msg α)} (some_frame : batch ≠ [])
    (fits : ∀ b ∈ xs ++ batch :: ys, (ZmtpCodec.encodeAll b).length ≤ 65519)
    (adm : ∀ b ∈ xs ++ batch :: ys, ∀ m ∈ b, ZmtpManualParser.admits mx m.size) :
    ∃ record, (batch, record) ∈ f.writeRun (xs ++ batch :: ys) ∧
      g.Accepts (f.emitted (xs ++ batch :: ys)) record := by
  obtain ⟨record, next, call⟩ : ∃ record next,
      (f.afterWrites xs).writeMsgMultipart batch = (.ok record, next) := ⟨_, _, rfl⟩
  have split (zs : List (List (Msg α))) : f.writeRun (xs ++ batch :: zs) =
      f.writeRun xs ++ (batch, record) :: next.writeRun zs := by
    rw [writeRun_append, writeRun_ok call]
  refine ⟨record, ?_, f.emitted xs, next.emitted ys, ?_, ?_⟩
  · rw [split]
    exact mem_append_right _ mem_cons_self
  · rw [emitted, split, flatMap_append, flatMap_cons, append_assoc]
    rfl
  have upto (zs : List (List (Msg α))) (sub : ∀ b ∈ zs, b ∈ xs ++ batch :: ys) :=
    drain_emitted curve_inSync (fun b hb => adm b (sub b hb)) f g.cipher sync
      (unwrapped_of_fits fun b hb => fits b (sub b hb))
  obtain ⟨items, ok, rest⟩ := upto xs fun b hb => mem_append_left _ hb
  obtain ⟨items', -, -⟩ := upto (xs ++ [batch]) fun b hb => by
    rcases mem_append.mp hb with hb | hb
    · exact mem_append_left _ hb
    · rw [mem_singleton.mp hb]
      exact mem_append_right _ mem_cons_self
  have both : f.emitted (xs ++ [batch]) = f.emitted xs ++ record := by
    simp [emitted, split, writeRun]
  have frames : f.accepted (xs ++ [batch]) = f.accepted xs ++ batch.map Msg.received := by
    simp [accepted, split, writeRun]
  rw [← hg] at items ok rest items'
  refine ⟨ok, rest, fun none => some_frame ?_⟩
  rw [both, frames, drain_append_ok decoder_resumable _ _ _ ok, rest, nil_append] at items'
  simp only [items, none, append_nil] at items'
  exact map_eq_nil_iff.mp (self_eq_append_right.mp items')

section Replay

variable [LawfulCryptoBox Key] [LawfulCurveSuite SK] [CurveKx SK]
  {recordings : List (Recording SK α mx)}

/-- The tokens of a recorded client make a new session of its server ready with that client's key.
-/
lemma replay_served (s se : SK) (own : Set SK) {r} (hr : r ∈ recordings) :
    Served s se own (seenIn s recordings)
      (welcomeToken (beforenm (publicKey r.clientEphemeral) s)
        (publicKey se)) (serverReady s se (publicKey r.clientEphemeral)
        (publicKey r.client)) := by
  refine ⟨helloToken _, initiateToken _ _, .seen ⟨r, hr, ?_⟩,
    .seen (Set.mem_insert_of_mem _ ⟨r, hr, ?_⟩), serve_initiate s se _ _⟩
  · simp [Recording.octets, Recording.ends_eq, transcript]
  · simp [Recording.octets, Recording.ends_eq, transcript]

lemma silent_of_fresh {s se : SK} {own : Set SK} (fresh : Fresh s se own recordings) :
    ∀ r ∈ recordings, ∀ batch ∈ r.fromClient, batch = [] := by
  intro r hr batch hb
  by_contra some_frame
  obtain ⟨xs, ys, split⟩ := append_of_mem hb
  have framed : (serverReady s se (publicKey r.clientEphemeral)
      (publicKey r.client)).intoFramer mx = .ok (.new (.new (down r.client s)
        (up r.client s)) mx, some (publicKey r.client).1) := by
    simp only [CurveMechanism.intoFramer, serverReady_cipher]
    rfl
  obtain ⟨record, mem, accepted⟩ := accepts_recorded
    (f := .new (.new (up r.client s) (down r.client s)) r.clientMax)
    (g := .new (.new (down r.client s) (up r.client s)) mx) ⟨rfl, rfl⟩ rfl
    some_frame (fun b hb => r.fits b (mem_append_left _ (split ▸ hb)))
    (fun b hb => r.admitted b (split ▸ hb))
  rw [← split] at mem accepted
  refine fresh _ _ (replay_served s se own hr) _ _ framed _
    (.seen (Set.mem_insert_of_mem _ ⟨r, hr, ?_⟩)) r hr record ?_ accepted
  · simp [Recording.octets, Recording.ends_eq]
  · simp only [Recording.records, Recording.ends_eq, map_append, mem_append, mem_map]
    exact .inl ⟨_, mem, rfl⟩

/-- A new session of a server refuses every record of the recorded sessions exactly when their
clients sent no message. -/
theorem session_fresh_iff [InjectiveKx SK] [IdealBox Key] (s se : SK) (own : Set SK)
    (recordings : List (Recording SK α mx)) :
    Fresh s se own recordings ↔ ∀ r ∈ recordings, ∀ batch ∈ r.fromClient, batch = [] :=
  ⟨silent_of_fresh, fresh_of_silent s se own⟩

end Replay

def byteFrom (client : Bool) : Recording SymSecret Sym (-1) where
  client := ⟨0⟩
  clientEphemeral := ⟨2⟩
  serverEphemeral := ⟨3⟩
  clientMax := -1
  fromClient := if client then [[⟨some [.byte 7], .empty, by decide⟩]] else []
  fromServer := if client then [] else [[⟨some [.byte 7], .empty, by decide⟩]]
  fits batch hb := by
    cases client <;> simp at hb <;> subst hb <;> decide
  admitted batch hb m hm h := absurd h (by decide)

/-- The client sends the largest frame that the server takes, and gets two for which its own limit
has just room. -/
def bothWays : Recording SymSecret Sym 2 where
  client := ⟨0⟩
  clientEphemeral := ⟨2⟩
  serverEphemeral := ⟨3⟩
  clientMax := 1
  fromClient := [[⟨some [.byte 7, .byte 8], .empty, by decide⟩]]
  fromServer := [[⟨some [.byte 9], ⟨true, false⟩, by decide⟩, ⟨some [.byte 10], .empty, by decide⟩]]
  fits := by decide
  admitted := by decide

theorem session_delivers_both_ways : ∃ tokens f g, bothWays.ends ⟨1⟩ = some (tokens, f, g) ∧
    (f.accepted bothWays.fromClient).length = 1 ∧ (g.accepted bothWays.fromServer).length = 2 ∧
    f.RoundTrip g bothWays.fromClient ∧ g.RoundTrip f bothWays.fromServer := by
  obtain ⟨tokens, f, g, ends, written, answered, there, back⟩ :=
    Recording.session_delivers ⟨1⟩ bothWays (by decide)
  exact ⟨tokens, f, g, ends, congrArg length written, congrArg length answered, there, back⟩

theorem session_fresh_server : Fresh ⟨1⟩ ⟨4⟩ ∅ [byteFrom false] :=
  (session_fresh_iff ⟨1⟩ ⟨4⟩ ∅ [byteFrom false]).mpr fun r hr batch hb => by
    rw [mem_singleton.mp hr] at hb
    simp [byteFrom] at hb

/-- A recorded message is accepted by a new session, from an attacker without any key. -/
theorem session_replayed : ¬ Fresh ⟨1⟩ ⟨4⟩ ∅ [byteFrom true] := by
  intro fresh
  have silent := silent_of_fresh fresh (byteFrom true) (by simp)
    [⟨some [.byte 7], .empty, by decide⟩] (by simp [byteFrom])
  simp at silent

end Curve

end Rzmq
