import Rzmq.Security.Bounds

/-! The tokens that crash a process with CURVE: those with a name that is not UTF-8, and those with
a sealed value of a wrong size. -/

namespace Rzmq

open Octet Frame

namespace Curve

variable {α : Type} [Octet α]

inductive BadName : List α → Prop
  | here {o : α} {key rest : List α} (name : toByte o ≠ 0) (length : key.length = (toByte o).toNat)
      (bad : validUtf8 (reading key) = false) : BadName (o :: (key ++ rest))
  | later {o : α} {key len value rest : List α} (name : toByte o ≠ 0)
      (length : key.length = (toByte o).toNat) (good : validUtf8 (reading key) = true)
      (four : len.length = 4) (size : value.length = beNat len) (more : BadName rest) :
      BadName (o :: (key ++ (len ++ (value ++ rest))))

variable {data : List α}

lemma BadName.panics (bad : BadName data) : ∃ e, decodeMetadata data = .error e ∧ e.IsPanic := by
  induction bad with
  | @here o key rest name length bad =>
    refine ⟨.panicked "metadata name is not UTF-8", ?_, trivial⟩
    rw [decodeMetadata, if_neg name, if_neg (by rw [List.length_append]; omega),
      List.take_left' length]
    exact if_pos (by rw [bad]; rfl)
  | @later o key len value rest name length good four size more ih =>
    obtain ⟨e, failed, panicked⟩ := ih
    refine ⟨e, ?_, panicked⟩
    rw [decodeMetadata, if_neg name, if_neg (by rw [List.length_append]; omega),
      List.take_left' length, List.drop_left' length]
    simp only [good, Bool.not_true, Bool.false_eq_true, if_false, List.take_left' four,
      List.drop_left' four]
    rw [if_neg (by rw [List.length_append]; omega), if_neg (by rw [List.length_append]; omega),
      List.drop_left' size, failed]

lemma badName_of_panics {e} (failed : decodeMetadata data = .error e)
    (panicked : e.IsPanic) : BadName data := by
  fun_induction decodeMetadata data generalizing e with
  | case1 | case2 | case8 => cases failed
  | case3 | case5 | case6 =>
    cases failed
    exact panicked.elim
  | case4 o rest keyLen name long key =>
    rename_i bad
    rw [← List.take_append_drop keyLen rest]
    exact .here name (List.length_take_of_le (Nat.not_lt.mp long)) (by simpa using bad)
  | case7 o rest keyLen name long key afterKey good long' valueLen afterLen long'' e' failed' =>
    rename_i ih
    cases failed
    rw [← List.take_append_drop keyLen rest, ← List.take_append_drop 4 (rest.drop keyLen),
      ← List.take_append_drop valueLen ((rest.drop keyLen).drop 4)]
    exact .later name (List.length_take_of_le (Nat.not_lt.mp long)) (by simpa using good)
      (List.length_take_of_le (Nat.not_lt.mp long')) (List.length_take_of_le (Nat.not_lt.mp long''))
      (ih failed' panicked)

lemma decodeMetadata_panics_iff :
    (∃ e, decodeMetadata data = .error e ∧ e.IsPanic) ↔ BadName data :=
  ⟨fun ⟨_, failed, panicked⟩ => badName_of_panics failed panicked, BadName.panics⟩

namespace CurveHandshake

variable {SK Key : Type}

lemma lookup_panics {data : List α} {name : List UInt8} {missing : String}
    {h : CurveHandshake SK Key α} : Panics (lookup data name missing) h ↔ BadName data := by
  rw [← decodeMetadata_panics_iff]
  unfold lookup
  cases decoded : decodeMetadata data with
  | error e =>
    rw [Panics, fails_throw]
    constructor
    · exact fun panicked => ⟨e, rfl, panicked⟩
    · rintro ⟨_, ⟨⟩, panicked⟩
      exact panicked
  | ok metadata =>
    refine iff_of_false ?_ nofun
    dsimp only
    split
    · exact not_fails_pure _
    · exact fun panicked => fails_throw.mp panicked

def Holds (data : List α) (name : List UInt8) (value : List α) : Prop :=
  ∃ metadata, decodeMetadata data = .ok metadata ∧ metadata.get name = some value

lemma lookup_ok {data value : List α} {name : List UInt8} {missing : String}
    {h h' : CurveHandshake SK Key α} :
    lookup data name missing h = .ok value h' ↔ Holds data name value ∧ h' = h := by
  unfold lookup Holds
  cases decodeMetadata data with
  | error e => exact iff_of_false nofun nofun
  | ok metadata =>
    dsimp only
    cases found : metadata.get name with
    | none =>
      refine iff_of_false nofun ?_
      rintro ⟨⟨_, ⟨⟩, found'⟩, _⟩
      cases found.symm.trans found'
    | some value' =>
      constructor
      · rintro ⟨⟩
        exact ⟨⟨metadata, rfl, found⟩, rfl⟩
      · rintro ⟨⟨_, ⟨⟩, found'⟩, rfl⟩
        cases found.symm.trans found'
        rfl

def Starts (name : List UInt8) (token : List α) : Prop :=
  reading (token.take name.length) = name

section Read

variable {name entry : List UInt8} {expected missing : String} {token : List α}
  {h h' : CurveHandshake SK Key α}

lemma readCommand_panics : Panics (readCommand name entry expected missing token) h ↔
    Starts name token ∧ BadName (token.drop name.length) := by
  unfold readCommand Starts
  by_cases starts : reading (token.take name.length) = name
  · rw [if_neg (not_not.mpr starts), lookup_panics]
    exact (and_iff_right starts).symm
  · rw [if_pos starts]
    exact iff_of_false (fun panicked => fails_throw.mp panicked) fun ⟨starts', _⟩ => starts starts'

lemma readCommand_ok {value : List α} :
    readCommand name entry expected missing token h = .ok value h' ↔
      (Starts name token ∧ Holds (token.drop name.length) entry value) ∧ h' = h := by
  unfold readCommand Starts
  by_cases starts : reading (token.take name.length) = name
  · rw [if_neg (not_not.mpr starts), lookup_ok, and_iff_right starts]
  · rw [if_pos starts]
    exact iff_of_false nofun fun ⟨⟨starts', _⟩, _⟩ => starts starts'

end Read

omit [Octet α] in
lemma publicKeyOf_not_panics (octets : List α) (h : CurveHandshake SK Key α) :
    ¬ Panics (publicKeyOf octets) h := by
  unfold publicKeyOf
  split
  · exact not_fails_pure _
  · exact fun panicked => fails_throw.mp panicked

omit [Octet α] in
lemma splitMac_panics {sealed : List α} {h : CurveHandshake SK Key α} :
    Panics (splitMac sealed) h ↔ sealed.length < 16 := by
  unfold splitMac
  split
  · rename_i short
    exact iff_of_true (fails_throw.mpr trivial) short
  · rename_i long
    exact iff_of_false (not_fails_pure _) long

omit [Octet α] in
lemma splitMac_ok {sealed : List α} {h h' : CurveHandshake SK Key α} {split : List α × List α} :
    splitMac sealed h = .ok split h' ↔
      ¬ sealed.length < 16 ∧ split = (sealed.take 16, sealed.drop 16) ∧ h' = h := by
  unfold splitMac
  by_cases short : sealed.length < 16
  · rw [if_pos short]
    exact iff_of_false nofun fun ⟨long, _⟩ => long short
  · rw [if_neg short]
    constructor
    · rintro ⟨⟩
      exact ⟨short, rfl, rfl⟩
    · rintro ⟨_, rfl, rfl⟩
      rfl

variable [CryptoBox Key α]

omit [Octet α] in
lemma openBox_not_panics (k : Key) (n : List UInt8) (mac c : List α)
    (h : CurveHandshake SK Key α) : ¬ Panics (openBox k n mac c) h := by
  unfold openBox
  split
  · exact not_fails_pure _
  · exact fun panicked => fails_throw.mp panicked

omit [Octet α] in
lemma openBox_ok {k : Key} {n : List UInt8} {mac c plain : List α}
    {h h' : CurveHandshake SK Key α} :
    openBox k n mac c h = .ok plain h' ↔ CryptoBox.openDetached k n mac c = .ok plain ∧ h' = h := by
  unfold openBox
  cases CryptoBox.openDetached k n mac c with
  | error => exact iff_of_false nofun nofun
  | ok plain' =>
    constructor
    · rintro ⟨⟩
      exact ⟨rfl, rfl⟩
    · rintro ⟨⟨⟩, rfl⟩
      rfl

lemma openCookie_panics {k : Key} {mac c : List α} {h : CurveHandshake SK Key α} :
    Panics (openCookie k mac c) h ↔ 32 < c.length := by
  unfold openCookie
  split
  · rename_i long
    exact iff_of_true (fails_throw.mpr trivial) long
  · rename_i short
    exact iff_of_false (openBox_not_panics _ _ _ _ h) short

variable [CurveSuite SK Key α] {h : CurveHandshake SK Key α} {token : List α}

omit [CryptoBox Key α] [CurveSuite SK Key α] in
lemma processClientHello_panics : Panics (processClientHello token) h ↔
      Starts helloPrefix token ∧ BadName (token.drop helloPrefix.length) := by
  unfold processClientHello
  refine panics_bind.trans ?_
  rw [readCommand_panics]
  refine or_iff_left ?_
  rintro ⟨slice, h', _, panicked⟩
  rcases panics_bind.mp panicked with panicked | ⟨pk, h'', _, panicked⟩
  · exact publicKeyOf_not_panics slice h' panicked
  · exact not_fails_modify _ panicked

lemma processServerWelcome_panics {server}
    (static : h.remoteStaticPublicKey = some server) : Panics (processServerWelcome token) h ↔
      Starts welcomePrefix token ∧ (BadName (token.drop welcomePrefix.length) ∨
        ∃ cookie, Holds (token.drop welcomePrefix.length) cookieName cookie ∧
          (cookie.length < 16 ∨ 48 < cookie.length)) := by
  unfold processServerWelcome
  refine panics_bind.trans ?_
  rw [readCommand_panics, and_or_left]
  refine or_congr_right ?_
  constructor
  · rintro ⟨cookie, h', read, panicked⟩
    obtain ⟨⟨starts, holds⟩, rfl⟩ := readCommand_ok.mp read
    refine ⟨starts, cookie, holds, ?_⟩
    rw [Panics, Fails, get_bind, bind_ok (unwrap_some static h')] at panicked
    rcases panics_bind.mp panicked with panicked | ⟨split, h, halves, panicked⟩
    · exact .inl (splitMac_panics.mp panicked)
    · obtain ⟨_, rfl, rfl⟩ := splitMac_ok.mp halves
      rcases panics_bind.mp panicked with panicked | ⟨eph, h, _, panicked⟩
      · have long := openCookie_panics.mp panicked
        rw [List.length_drop] at long
        exact .inr (by omega)
      · rcases panics_bind.mp panicked with panicked | ⟨pk, h', _, panicked⟩
        · exact absurd panicked (publicKeyOf_not_panics eph h)
        · rw [Panics, Fails, modify_bind] at panicked
          exact absurd panicked (not_fails_modify _)
  · rintro ⟨starts, cookie, holds, size⟩
    refine ⟨cookie, h, readCommand_ok.mpr ⟨⟨starts, holds⟩, rfl⟩, ?_⟩
    rw [Panics, Fails, get_bind, bind_ok (unwrap_some static h)]
    refine panics_bind.mpr ?_
    by_cases short : cookie.length < 16
    · exact .inl (splitMac_panics.mpr short)
    · refine .inr ⟨_, h, splitMac_ok.mpr ⟨short, rfl, rfl⟩, panics_bind.mpr (.inl ?_)⟩
      refine openCookie_panics.mpr ?_
      rw [List.length_drop]
      omega

lemma processClientInitiate_panics {client}
    (eph : h.remoteEphemeralPublicKey = some client) : Panics (processClientInitiate token) h ↔
      Starts initiatePrefix token ∧ (BadName (token.drop initiatePrefix.length) ∨
        ∃ sealed, Holds (token.drop initiatePrefix.length) ciphertextName sealed ∧
          (sealed.length < 16 ∨ ∃ plain, CryptoBox.openDetached
            (CurveSuite.beforenm client h.localStaticKeypair) (commandNonce h.recvNonce)
            (sealed.take 16) (sealed.drop 16) = .ok plain ∧ BadName plain)) := by
  unfold processClientInitiate
  refine panics_bind.trans ?_
  rw [readCommand_panics, and_or_left]
  refine or_congr_right ?_
  constructor
  · rintro ⟨sealed, h', read, panicked⟩
    obtain ⟨⟨starts, holds⟩, rfl⟩ := readCommand_ok.mp read
    refine ⟨starts, sealed, holds, ?_⟩
    rw [Panics, Fails, get_bind, bind_ok (unwrap_some eph h')] at panicked
    rcases panics_bind.mp panicked with panicked | ⟨split, h, halves, panicked⟩
    · exact .inl (splitMac_panics.mp panicked)
    · obtain ⟨_, rfl, rfl⟩ := splitMac_ok.mp halves
      rw [Panics, Fails, modify_bind] at panicked
      rcases panics_bind.mp panicked with panicked | ⟨plain, h'', opened, panicked⟩
      · exact absurd panicked (openBox_not_panics _ _ _ _ _)
      · refine .inr ⟨plain, (openBox_ok.mp opened).1, ?_⟩
        rcases panics_bind.mp panicked with panicked | ⟨slice, h₁, _, panicked⟩
        · exact lookup_panics.mp panicked
        · rcases panics_bind.mp panicked with panicked | ⟨pk, h₂, _, panicked⟩
          · exact absurd panicked (publicKeyOf_not_panics slice h₁)
          · rw [Panics, Fails, modify_bind] at panicked
            exact absurd panicked (not_fails_modify _)
  · rintro ⟨starts, sealed, holds, size⟩
    refine ⟨sealed, h, readCommand_ok.mpr ⟨⟨starts, holds⟩, rfl⟩, ?_⟩
    rw [Panics, Fails, get_bind, bind_ok (unwrap_some eph h)]
    refine panics_bind.mpr ?_
    by_cases short : sealed.length < 16
    · exact .inl (splitMac_panics.mpr short)
    · obtain ⟨plain, opened, bad⟩ := size.resolve_left short
      refine .inr ⟨_, h, splitMac_ok.mpr ⟨short, rfl, rfl⟩, ?_⟩
      rw [Panics, Fails, modify_bind]
      refine panics_bind.mpr (.inr ⟨plain, _, openBox_ok.mpr ⟨opened, rfl⟩, ?_⟩)
      exact panics_bind.mpr (.inl (lookup_panics.mpr bad))

/-! ### The keys that a phase has -/

structure Grows (h h' : CurveHandshake SK Key α) : Prop where
  phase : h'.phase = h.phase
  static : h.remoteStaticPublicKey.isSome = true → h'.remoteStaticPublicKey.isSome = true
  ephemeral : h.remoteEphemeralPublicKey.isSome = true → h'.remoteEphemeralPublicKey.isSome = true

omit [Octet α] [CryptoBox Key α] [CurveSuite SK Key α] in
lemma elementary_grows : Elementary (@Grows α SK Key) where
  refl _ := ⟨rfl, id, id⟩
  trans _ _ _ first second := ⟨second.phase.trans first.phase, second.static ∘ first.static,
    second.ephemeral ∘ first.ephemeral⟩
  ephemeral _ _ := ⟨rfl, id, fun _ => rfl⟩
  static _ _ := ⟨rfl, fun _ => rfl, id⟩
  precomputed _ _ := ⟨rfl, id, id⟩
  sendNonce _ _ := ⟨rfl, id, id⟩
  recvNonce _ _ := ⟨rfl, id, id⟩

variable {h h' : CurveHandshake SK Key α}

omit [CryptoBox Key α] [CurveSuite SK Key α] in
lemma processClientHello_key {token} (done : processClientHello token h = .ok () h') :
    h'.remoteEphemeralPublicKey.isSome = true := by
  obtain ⟨slice, h₁, _, done⟩ := Frame.bind_ok done
  obtain ⟨pk, h₂, _, ⟨⟩⟩ := Frame.bind_ok done
  rfl

def Keyed (h : CurveHandshake SK Key α) : Prop :=
  match h.phase with
  | .clientStart | .clientSentHello | .clientReadyToProduceInitiate =>
    h.remoteStaticPublicKey.isSome = true
  | .serverReadyToProduceWelcome | .serverAwaitingInitiate =>
    h.remoteEphemeralPublicKey.isSome = true
  | _ => True

omit [Octet α] [CryptoBox Key α] [CurveSuite SK Key α] in
lemma Keyed.grows (keyed : h.Keyed) (grows : Grows h h') : h'.Keyed := by
  unfold Keyed at keyed ⊢
  rw [grows.phase]
  cases phase : h.phase <;> rw [phase] at keyed
  case clientStart | clientSentHello | clientReadyToProduceInitiate => exact grows.static keyed
  case serverReadyToProduceWelcome | serverAwaitingInitiate => exact grows.ephemeral keyed
  all_goals trivial

end CurveHandshake

namespace CurveMechanism

lemma initializeCurve_keyed {isServer : Bool} {sk pk} {ephemeral : SK}
    (made : initializeCurve isServer sk pk ephemeral = .ok m) : m.handshake.Keyed := by
  cases sk with
  | none => cases made
  | some sk =>
    cases isServer with
    | true =>
      cases made
      trivial
    | false =>
      cases pk with
      | none => cases made
      | some pk =>
        cases made
        rfl

variable {SK Key : Type} [CryptoBox Key α] [CurveSuite SK Key α]

inductive Call (α : Type) where
  | processToken (token : List α)
  | produceToken
  | setError

def call (m : CurveMechanism SK Key α) : Call α → CurveMechanism SK Key α
  | .processToken token => after (processToken token) m
  | .produceToken => after produceToken m
  | .setError => after setError m

def calls (m : CurveMechanism SK Key α) (made : List (Call α)) : CurveMechanism SK Key α :=
  made.foldl call m

section Keyed

variable {m : CurveMechanism SK Key α}

omit [Octet α] [CryptoBox Key α] [CurveSuite SK Key α] in
lemma keyed_onHandshake {β γ : Type} {step : CurveHandshake.Step SK Key α β}
    {f : β → MechanismM (CurveMechanism SK Key α) γ} (keyed : m.handshake.Keyed)
    (grows : Leads CurveHandshake.Grows step)
    (next : ∀ b h, step m.handshake = .ok b h → CurveHandshake.Grows m.handshake h →
      (after (f b) { m with handshake := h }).handshake.Keyed) :
    (after (onHandshake step >>= f) m).handshake.Keyed := by
  have grown := grows m.handshake
  cases ran : step m.handshake with
  | ok b h =>
    rw [after_ok ran] at grown
    rw [after, bind_of_ok (onHandshake_ok ran)]
    exact next b h ran grown
  | error e h =>
    have failed : onHandshake step m = .error e { m with handshake := h } := by
      rw [onHandshake, ran]
    rw [after_error ran] at grown
    rw [after_error (bind_of_error failed)]
    exact keyed.grows grown

lemma keyed_produceToken (keyed : m.handshake.Keyed) : (after produceToken m).handshake.Keyed := by
  obtain ⟨hello, welcome, initiate⟩ := (@CurveHandshake.elementary_grows α SK Key).build
  unfold produceToken
  rw [after_get]
  split
  · rename_i phase
    refine keyed_onHandshake keyed hello fun _ h _ grown => ?_
    rw [CurveHandshake.Keyed, phase] at keyed
    exact grown.static keyed
  · rename_i phase
    refine keyed_onHandshake keyed welcome fun _ h _ grown => ?_
    rw [CurveHandshake.Keyed, phase] at keyed
    exact grown.ephemeral keyed
  · exact keyed_onHandshake keyed initiate fun _ h _ grown => trivial
  · exact keyed

lemma keyed_processToken (token : List α) (keyed : m.handshake.Keyed) :
    (after (processToken token) m).handshake.Keyed := by
  obtain ⟨hello, welcome, initiate⟩ := (@CurveHandshake.elementary_grows α SK Key).process token
  unfold processToken
  rw [after_get]
  split
  · refine keyed_onHandshake keyed hello fun _ h done _ => ?_
    have key := CurveHandshake.processClientHello_key done
    exact key
  · rename_i phase
    refine keyed_onHandshake keyed welcome fun _ h _ grown => ?_
    rw [CurveHandshake.Keyed, phase] at keyed
    exact grown.static keyed
  · exact keyed_onHandshake keyed initiate fun _ h _ grown => trivial
  · exact keyed

lemma keyed_calls (keyed : m.handshake.Keyed) (made) :
    (m.calls made).handshake.Keyed := by
  induction made generalizing m with
  | nil => exact keyed
  | cons c made ih =>
    refine ih ?_
    cases c with
    | processToken token => exact keyed_processToken token keyed
    | produceToken => exact keyed_produceToken keyed
    | setError =>
      dsimp only [call, setError, after, modify_eq]
      split
      · trivial
      · exact keyed

end Keyed

/-- A name that is not UTF-8, a sealed value too short for its MAC, or a cookie longer than a key.
-/
def Crashes (m : CurveMechanism SK Key α) (token : List α) : Prop :=
  match m.handshake.phase with
  | .serverStart =>
    CurveHandshake.Starts helloPrefix token ∧ BadName (token.drop helloPrefix.length)
  | .clientSentHello =>
    CurveHandshake.Starts welcomePrefix token ∧ (BadName (token.drop welcomePrefix.length) ∨
      ∃ cookie, CurveHandshake.Holds (token.drop welcomePrefix.length) cookieName cookie ∧
        (cookie.length < 16 ∨ 48 < cookie.length))
  | .serverAwaitingInitiate =>
    CurveHandshake.Starts initiatePrefix token ∧ (BadName (token.drop initiatePrefix.length) ∨
      ∃ sealed, CurveHandshake.Holds (token.drop initiatePrefix.length) ciphertextName sealed ∧
        (sealed.length < 16 ∨ ∃ client plain, m.handshake.remoteEphemeralPublicKey = some client ∧
          CryptoBox.openDetached (CurveSuite.beforenm client m.handshake.localStaticKeypair : Key)
            (commandNonce m.handshake.recvNonce) (sealed.take 16) (sealed.drop 16) = .ok plain ∧
          BadName plain))
  | _ => False

variable {m : CurveMechanism SK Key α}

omit [Octet α] [CryptoBox Key α] [CurveSuite SK Key α] in
lemma onHandshake_panics {β γ : Type} {step : CurveHandshake.Step SK Key α β}
    {f : β → MechanismM (CurveMechanism SK Key α) γ} (rest : ∀ b m, ¬ Panics (f b) m) :
    Panics (onHandshake step >>= f) m ↔ Panics step m.handshake := by
  refine panics_bind.trans ((or_iff_left fun ⟨b, m', _, panicked⟩ => rest b m' panicked).trans ?_)
  constructor
  · rintro ⟨e, m', failed, panicked⟩
    unfold onHandshake at failed
    split at failed
    · cases failed
    · rename_i e' h ran
      cases failed
      exact ⟨_, h, ran, panicked⟩
  · rintro ⟨e, h, failed, panicked⟩
    refine ⟨e, { m with handshake := h }, ?_, panicked⟩
    rw [onHandshake, failed]

omit [Octet α] [CryptoBox Key α] [CurveSuite SK Key α] in
lemma setPhase_not_panics (phase : CurveHandshakePhase) (action : ProcessTokenAction) (_ : Unit)
    (m : CurveMechanism SK Key α) : ¬ Panics (do setPhase phase; return action) m := by
  rintro ⟨_, _, ⟨⟩, _⟩

lemma processToken_panics (keyed : m.handshake.Keyed)
    (token : List α) : Panics (processToken token) m ↔ m.Crashes token := by
  unfold processToken Crashes
  rw [panics_get]
  unfold CurveHandshake.Keyed at keyed
  cases phase : m.handshake.phase <;> rw [phase] at keyed <;> dsimp only
  case serverStart =>
    exact (onHandshake_panics (setPhase_not_panics _ _)).trans
      CurveHandshake.processClientHello_panics
  case clientSentHello =>
    obtain ⟨server, static⟩ := Option.isSome_iff_exists.mp keyed
    exact (onHandshake_panics (setPhase_not_panics _ _)).trans
      (CurveHandshake.processServerWelcome_panics static)
  case serverAwaitingInitiate =>
    obtain ⟨client, eph⟩ := Option.isSome_iff_exists.mp keyed
    refine (onHandshake_panics fun _ _ => by rintro ⟨_, _, ⟨⟩, _⟩).trans
      ((CurveHandshake.processClientInitiate_panics eph).trans ?_)
    refine and_congr_right fun _ => or_congr_right (exists_congr fun sealed =>
      and_congr_right fun _ => or_congr_right ?_)
    constructor
    · rintro ⟨plain, opened, bad⟩
      exact ⟨client, plain, eph, opened, bad⟩
    · rintro ⟨client', plain, eph', opened, bad⟩
      cases eph.symm.trans eph'
      exact ⟨plain, opened, bad⟩
  all_goals exact iff_of_false (fun panicked => fails_throw.mp panicked) id

end CurveMechanism

end Curve

open Curve CurveMechanism

/-- `process_token` of PLAIN never panics; that of CURVE panics, after any calls, on the tokens that
crash it and on no others. -/
theorem tokens_that_crash {SK Key α : Type} [Octet α] [CryptoBox Key α] [CurveSuite SK Key α] :
    (∀ (m : PlainMechanism) (token : List UInt8),
      ¬ Panics (PlainMechanism.processTokenAt token) m) ∧
      ∀ (isServer : Bool) (sk : Option SK) (pk : Option (PublicKey α)) (ephemeral : SK)
        (m : CurveMechanism SK Key α), initializeCurve isServer sk pk ephemeral = .ok m →
        ∀ (made : List (Call α)) (token : List α),
          Panics (processTokenAt token) (m.calls made) ↔ (m.calls made).Crashes token := by
  refine ⟨fun m token => ?_, fun _ _ _ _ m new made token => ?_⟩
  · rw [PlainMechanism.processTokenAt_eq]
    exact PlainMechanism.processToken_not_panics token m
  · rw [processTokenAt_eq]
    exact processToken_panics (keyed_calls (initializeCurve_keyed new) made) token

def badHello : List Sym := bytes (helloPrefix ++ [1, 0xFF])

theorem bad_hello_crashes :
    ∃ m : CurveMechanism SymSecret SymKey Sym, initializeCurve true (some ⟨1⟩) none ⟨2⟩ = .ok m ∧
      Panics (processTokenAt badHello) m := by
  refine ⟨newServer ⟨1⟩ ⟨2⟩, rfl, ?_⟩
  have bad : BadName (Sym.byte 1 :: ([Sym.byte 0xFF] ++ [])) := .here (by decide) rfl (by decide)
  have keyed : (newServer ⟨1⟩ ⟨2⟩ : CurveMechanism SymSecret SymKey Sym).handshake.Keyed := trivial
  rw [processTokenAt_eq]
  exact (processToken_panics keyed badHello).mpr ⟨rfl, bad⟩

end Rzmq
