import Rzmq.Security.Waiting
import Rzmq.Session.Secured

/-! Where the futures of the handshake wait.  A future that is dropped is made anew from what the
handler remembers: a read comes back to the same wait, but for the identity of a ZMTP/2.0 peer; a
write starts with its first byte, and a token is not produced twice. -/

namespace Rzmq

open Octet Curve Incremental ZmtpManualParser

variable {SK Key H T α : Type} [Octet α]

namespace ZmtpProtocolHandler

def outgoing (h : ZmtpProtocolHandler SK Key H T α) : HandshakeWrite → Option (List α)
  | .signature => some (encodeSignature ++ bytes [greetingVersionMajorByte])
  | .v2Tail => (socketTypeCode h.config.socketTypeName).map fun code => [ofByte code]
  | .v3Tail =>
    some (encodeV3TailPostMajor (h.config.ownMechanism h.isServer).nameBytes h.isServer)
  | .clientReady | .serverReady => some h.readyFrame
  | .token | .v2Identity => none

variable {h h' : ZmtpProtocolHandler SK Key H T α}

lemma readHandshakeCommandFrame_again (waits : h.readHandshakeCommandFrame = (.ok none, h')) :
    h'.readHandshakeCommandFrame = (.ok none, h') := by
  unfold readHandshakeCommandFrame at waits
  split at waits
  · next empty =>
    cases waits
    rw [readHandshakeCommandFrame, if_pos empty]
  · match answer : h.zmtpManualParser.decodeFromBuffer h.networkReadBuffer with
    | (.error e, parser, rest) =>
      simp only [answer] at waits
      cases waits
    | (.ok (some msg), parser, rest) =>
      simp only [answer] at waits
      split at waits <;> cases waits
    | (.ok none, parser, rest) =>
      simp only [answer] at waits
      cases waits
      have idle : parser.decodeFromBuffer rest = (.ok none, parser, rest) :=
        idle_of_none (d := decoder α) decoder_resumable answer
      unfold readHandshakeCommandFrame
      simp only [idle]
      split <;> rfl

lemma receivePeerReady_again
    (waits : h.receivePeerReady = (.ok none, h')) : h'.receivePeerReady = (.ok none, h') := by
  unfold receivePeerReady at waits
  match answer : h.readHandshakeCommandFrame with
  | (.error e, h'') =>
    simp only [answer] at waits
    cases waits
  | (.ok (some msg), h'') =>
    simp only [answer] at waits
    split at waits <;> cases waits
  | (.ok none, h'') =>
    simp only [answer] at waits
    cases waits
    rw [receivePeerReady, readHandshakeCommandFrame_again answer]

lemma receivePeerReady_kept {result} (answer : h.receivePeerReady = (result, h')) :
    h'.subPhase = h.subPhase ∧ h'.isServer = h.isServer ∧
      h'.securityMechanism = h.securityMechanism := by
  obtain ⟨parser, buffer, read⟩ := h.readHandshakeCommandFrame_eq
  unfold receivePeerReady at answer
  generalize h.readHandshakeCommandFrame = frame at read answer
  obtain ⟨result, h''⟩ := frame
  subst read
  match result with
  | .error e | .ok none => cases answer; exact ⟨rfl, rfl, rfl⟩
  | .ok (some msg) =>
    dsimp only at answer
    split at answer <;> cases answer <;> exact ⟨rfl, rfl, rfl⟩

variable [CryptoBox Key α] [CurveSuite SK Key α] [SnowHandshake H T α] [DecidableEq α]

structure Securing (h : ZmtpProtocolHandler SK Key H T α) : Prop where
  phase : h.subPhase = .securityHandshake
  kind : h.securityMechanism.kind ≠ .null
  started : h.securityMechanism.Started

def Stands (h : ZmtpProtocolHandler SK Key H T α) : HandshakeRead → Prop
  | .revision => h.subPhase = .waitingForPeerRevision
  | .greeting => h.subPhase = .waitingForGreeting
  | .token => Securing h ∧ h.securityMechanism.Dormant
  | .ready => h.subPhase = .readyExchange ∧ h.isServer = true ∨ h.subPhase = .clientSentReady
  | .v2Greeting | .v2Identity => h.subPhase = .v2IdentityExchange

/-- What is known where a future waits, of its handler and of the bytes that were written last. -/
inductive Placed (written : List α) (h : ZmtpProtocolHandler SK Key H T α) : Await α → Prop where
  | read {what : _} (stands : h.Stands what)
      (again : h.advanceHandshake = (h, .pending (.read what))) : Placed written h (.read what)
  | write {what part left : _} (ends : part <:+ written) (missing : left ≠ [])
      (same : h.outgoing what = some (part ++ left))
      (again : h.advanceHandshake = (h, .pending (.write (part ++ left) what))) :
      Placed written h (.write left what)
  | flush {what part : _} (ends : part <:+ written) (present : part ≠ [])
      (same : h.outgoing what = some part)
      (again : h.advanceHandshake = (h, .pending (.write part what))) :
      Placed written h (.flush what)
  | token {left : _} (missing : left ≠ []) (securing : Securing h) :
      Placed written h (.write left .token)
  | again (securing : Securing h) : Placed written h .again
  | writeIdentity {left : _} (missing : left ≠ []) (phase : h.subPhase = .v2IdentityExchange) :
      Placed written h (.write left .v2Identity)
  | flushIdentity (phase : h.subPhase = .v2IdentityExchange) :
      Placed written h (.flush .v2Identity)
  | readIdentity (phase : h.subPhase = .v2IdentityExchange) :
      Placed written h (.read .v2Identity)

variable {h : ZmtpProtocolHandler SK Key H T α}

lemma Placed.not_done {written w} (placed : Placed written h w) : h.subPhase ≠ .done := by
  intro done
  have returns {w : Await α} (again : h.advanceHandshake = (h, .pending w)) : False := by
    simp only [advanceHandshake, done] at again
    cases again
  cases placed with
  | read _ again | write _ _ _ again | flush _ _ _ again => exact returns again
  | token _ securing | again securing => cases done.symm.trans securing.phase
  | writeIdentity _ phase | flushIdentity phase | readIdentity phase => cases done.symm.trans phase

/-- A call that does not fail leaves a mechanism that has been started, and waits in its place. -/
structure Lands (p : ZmtpProtocolHandler SK Key H T α × Poll α) : Prop where
  started : (∀ f, p.2 ≠ .ready (.error f)) → p.1.securityMechanism.Started
  placed : ∀ w written, p.2 = .pending w → Placed written p.1 w

lemma Lands.fails (h : ZmtpProtocolHandler SK Key H T α) (f : Fault) :
    Lands (h, .ready (.error f)) :=
  ⟨fun running => absurd rfl (running f), nofun⟩

lemma Lands.returns (started : h.securityMechanism.Started)
    (progress : HandshakeProgress α) : Lands (h, .ok progress) :=
  ⟨fun _ => started, nofun⟩

lemma Lands.starts (started : h.securityMechanism.Started) {what bytes} (present : bytes ≠ [])
    (same : h.outgoing what = some bytes)
    (again : h.advanceHandshake = (h, .pending (.write bytes what))) :
    Lands (h, .pending (.write bytes what)) := by
  refine ⟨fun _ => started, fun w written pending => ?_⟩
  cases pending
  exact .write List.nil_suffix present same again

variable {h : ZmtpProtocolHandler SK Key H T α}

/-! ### The greeting -/

lemma waitForPeerRevision_lands (started : h.securityMechanism.Started)
    (phase : h.subPhase = .waitingForPeerRevision) : Lands (h, h.waitForPeerRevision) := by
  have again : h.advanceHandshake = (h, h.waitForPeerRevision) := by
    rw [advanceHandshake, phase]
  have tail {what : HandshakeWrite} {bytes : List α} (present : bytes ≠ [])
      (same : h.outgoing what = some bytes)
      (here : h.waitForPeerRevision = .pending (.write bytes what)) :
      Lands (h, h.waitForPeerRevision) := by
    rw [here] at again ⊢
    exact .starts started present same again
  match answer : h.waitForPeerRevision with
  | .ready (.error f) => exact .fails h f
  | .ready (.ok progress) => exact .returns started progress
  | .pending w =>
    rw [← answer]
    have waits := answer
    unfold waitForPeerRevision at answer
    split at answer
    · cases answer
      refine ⟨fun _ => started, fun w written pending => ?_⟩
      rw [waits] at pending again
      cases pending
      exact .read phase again
    · split at answer
      · cases answer
      · split at answer
        · unfold writeV2Tail at answer
          split at answer
          · cases answer
          · split at answer
            · cases answer
            · next code found =>
              cases answer
              exact tail (by simp) (by rw [outgoing, found]; rfl) waits
        · split at answer
          · cases answer
            exact tail (by simp [encodeV3TailPostMajor, bytes]) rfl waits
          · cases answer

lemma receiveGreeting_lands (started : h.securityMechanism.Started)
    (phase : h.subPhase = .waitingForGreeting) : Lands h.receiveGreeting := by
  have again : h.advanceHandshake = h.receiveGreeting := by rw [advanceHandshake, phase]
  have waits := again
  unfold receiveGreeting at waits ⊢
  split
  · next short =>
    rw [if_pos short] at waits
    refine ⟨fun _ => started, fun w written pending => ?_⟩
    cases pending
    exact .read phase waits
  · dsimp only
    split
    · exact .fails _ _
    · exact .fails _ _
    · split
      · exact .fails _ _
      · exact .returns (by exact started) _

/-! ### READY -/

section

variable (started : h.securityMechanism.Started)
include started

lemma receiveReady_lands {goOn} (stands : h.Stands .ready)
    (again : ∀ {h' : ZmtpProtocolHandler SK Key H T α}, h'.subPhase = h.subPhase →
      h'.isServer = h.isServer → h'.advanceHandshake = h'.receiveReady goOn)
    (goesOn : ∀ properties (h' : ZmtpProtocolHandler SK Key H T α),
      h'.securityMechanism.Started → Lands (goOn properties h')) : Lands (h.receiveReady goOn) := by
  unfold receiveReady
  match answer : h.receivePeerReady with
  | (.error e, h') => exact .fails _ _
  | (.ok none, h') =>
    obtain ⟨samePhase, sameRole, sameMechanism⟩ := receivePeerReady_kept answer
    refine ⟨fun _ => sameMechanism ▸ started, fun w written pending => ?_⟩
    cases pending
    refine .read ?_ ?_
    · exact stands.imp (.imp samePhase.trans sameRole.trans) samePhase.trans
    · rw [again samePhase sameRole, receiveReady, receivePeerReady_again answer]
  | (.ok (some properties), h') =>
    exact goesOn _ _ ((receivePeerReady_kept answer).2.2 ▸ started)

lemma serverReceiveReady_lands (phase : h.subPhase = .readyExchange)
    (server : h.isServer = true) : Lands h.serverReceiveReady :=
  receiveReady_lands started (.inl ⟨phase, server⟩)
    (fun samePhase sameRole => by
      simp [advanceHandshake, samePhase, phase, sameRole, server, serverReceiveReady])
    fun _ _ kept => .returns (by exact kept) _

lemma clientReceiveReady_lands (phase : h.subPhase = .clientSentReady) :
    Lands h.clientReceiveReady :=
  receiveReady_lands started (.inr phase)
    (fun samePhase _ => by simp [advanceHandshake, samePhase, phase, clientReceiveReady])
    fun _ _ kept => .returns (by exact kept) _

lemma writeReady_lands {what} (same : h.outgoing what = some h.readyFrame)
    (again : h.advanceHandshake = (h, .pending (.write h.readyFrame what))) :
    Lands (h, .pending (.write h.readyFrame what)) :=
  .starts started (commandFrame_ne_nil _) same again

end

/-! ### ZMTP/2.0 -/

lemma exchangeV2Identity_lands (started : h.securityMechanism.Started)
    (phase : h.subPhase = .v2IdentityExchange) : Lands h.exchangeV2Identity := by
  have again : h.advanceHandshake = h.exchangeV2Identity := by rw [advanceHandshake, phase]
  have waits := again
  unfold exchangeV2Identity at waits ⊢
  split
  · next short =>
    rw [if_pos short] at waits
    refine ⟨fun _ => started, fun w written pending => ?_⟩
    cases pending
    exact .read phase waits
  · dsimp only
    split
    · exact .fails _ _
    · refine ⟨fun _ => started, fun w written pending => ?_⟩
      cases pending
      exact .writeIdentity (by simp [bytes]) phase

lemma readV2IdentityFrame_lands (started : h.securityMechanism.Started)
    (phase : h.subPhase = .v2IdentityExchange) : Lands h.readV2IdentityFrame := by
  have waits {h' : ZmtpProtocolHandler SK Key H T α} (started : h'.securityMechanism.Started)
      (phase : h'.subPhase = .v2IdentityExchange) : Lands (h', .pending (.read .v2Identity)) := by
    refine ⟨fun _ => started, fun w written pending => ?_⟩
    cases pending
    exact .readIdentity phase
  unfold readV2IdentityFrame
  split
  · exact waits started phase
  · dsimp only
    split
    · exact .fails _ _
    · exact waits started phase
    · split
      · exact .fails _ _
      · exact .returns (by exact started) _

/-! ### The security handshake -/

lemma finalizeMechanism_lands : Lands h.finalizeMechanism := by
  unfold finalizeMechanism
  split
  · exact .fails _ _
  · exact .returns (by trivial) _

section

variable (securing : Securing h)
include securing

lemma Securing.sends (token : List α) :
    Lands (h, .pending (.write (commandFrame token) .token)) := by
  refine ⟨fun _ => securing.started, fun w written pending => ?_⟩
  cases pending
  exact .token (commandFrame_ne_nil _) securing

lemma Securing.loops : Lands (h, .pending .again) := by
  refine ⟨fun _ => securing.started, fun w written pending => ?_⟩
  cases pending
  exact .again securing

lemma processPeerToken_lands (token : List α) : Lands (h.processPeerToken token) := by
  have kind := h.securityMechanism.processToken_kind token
  unfold processPeerToken
  match answer : h.securityMechanism.processToken token with
  | (.error f, m) => exact .fails _ _
  | (.ok action, m) =>
    rw [answer] at kind
    have processed : Securing (h.setMechanism m) :=
      ⟨securing.phase, kind ▸ securing.kind, SecurityMechanism.processToken_started answer⟩
    match action with
    | .continueWaiting | .handshakeComplete => exact processed.loops
    | .produceAndSend =>
      have kind := m.produceToken_kind
      dsimp only
      match answer : m.produceToken with
      | (.error f, m') | (.ok none, m') => exact .fails _ _
      | (.ok (some reply), m') =>
        rw [answer] at kind
        have produced : Securing (h.setMechanism m') :=
          ⟨securing.phase, kind ▸ processed.kind,
            SecurityMechanism.produceToken_started processed.started.patient answer⟩
        exact produced.sends reply

lemma advanceHandshake_dormant (dormant : h.securityMechanism.Dormant) :
    h.advanceHandshake = h.receiveToken := by
  rw [advanceHandshake, securing.phase]
  dsimp only
  rw [performSecurityHandshake, if_neg securing.kind]
  obtain ⟨⟨unready, unfailed⟩, silent⟩ := dormant
  unfold securityRound
  split
  · next ready => exact absurd ready unready
  · next failed => exact absurd failed unfailed
  · rw [silent]
    rfl

lemma receiveToken_lands (dormant : h.securityMechanism.Dormant) : Lands h.receiveToken := by
  obtain ⟨parser, buffer, read⟩ := h.readHandshakeCommandFrame_eq
  unfold receiveToken
  match answer : h.readHandshakeCommandFrame with
  | (.error e, h') => exact .fails _ _
  | (.ok none, h') =>
    rw [answer] at read
    dsimp only at read
    have stands : Securing h' ∧ h'.securityMechanism.Dormant := by
      rw [read]
      exact ⟨⟨securing.phase, securing.kind, securing.started⟩, dormant⟩
    refine ⟨fun _ => stands.1.started, fun w written pending => ?_⟩
    cases pending
    refine .read stands ?_
    rw [advanceHandshake_dormant stands.1 stands.2, receiveToken,
      readHandshakeCommandFrame_again answer]
  | (.ok (some msg), h') =>
    rw [answer] at read
    dsimp only at read
    refine processPeerToken_lands ?_ _
    rw [read]
    exact ⟨securing.phase, securing.kind, securing.started⟩

end

lemma securityRound_lands (phase : h.subPhase = .securityHandshake)
    (patient : h.securityMechanism.Patient) : Lands h.securityRound := by
  unfold securityRound
  split
  · exact finalizeMechanism_lands
  · exact .fails _ _
  · next going unfailed =>
    have kind := h.securityMechanism.produceToken_kind
    match answer : h.securityMechanism.produceToken with
    | (.error f, m) => exact .fails _ _
    | (.ok token, m) =>
      rw [answer] at kind
      have kept : Securing (h.setMechanism m) := by
        refine ⟨phase, ?_, SecurityMechanism.produceToken_started patient answer⟩
        intro null
        rw [setMechanism, kind] at null
        cases mechanism : h.securityMechanism <;> rw [mechanism] at null going
        case null => exact going rfl
        all_goals cases null
      match token with
      | some token => exact kept.sends token
      | none =>
        exact receiveToken_lands kept
          (SecurityMechanism.produceToken_dormant patient ⟨going, unfailed⟩ answer)

lemma performSecurityHandshake_lands (responders : RespondersWait H)
    (phase : h.subPhase = .securityHandshake) (started : h.securityMechanism.Started) :
    Lands h.performSecurityHandshake := by
  unfold performSecurityHandshake
  split
  · split
    · exact .fails _ _
    · split
      · exact .fails _ _
      · next m negotiated =>
        exact securityRound_lands phase
          (SecurityMechanism.negotiateSecurityMechanism_patient responders negotiated)
  · exact securityRound_lands phase started.patient

/-! ### The calls -/

lemma advanceHandshake_lands (responders : RespondersWait H)
    (started : h.securityMechanism.Started) : Lands h.advanceHandshake := by
  cases phase : h.subPhase with
  | greetingExchange =>
    have again : h.advanceHandshake = (h, .pending (.write
        (encodeSignature ++ bytes [greetingVersionMajorByte]) .signature)) := by
      rw [advanceHandshake, phase]
    rw [again]
    exact .starts started (by simp [bytes]) rfl again
  | waitingForPeerRevision =>
    simp only [advanceHandshake, phase]
    exact waitForPeerRevision_lands started phase
  | waitingForGreeting =>
    simp only [advanceHandshake, phase]
    exact receiveGreeting_lands started phase
  | securityHandshake =>
    simp only [advanceHandshake, phase]
    exact performSecurityHandshake_lands responders phase started
  | readyExchange =>
    cases server : h.isServer with
    | true =>
      simp only [advanceHandshake, phase, server, if_true]
      exact serverReceiveReady_lands started phase server
    | false =>
      have again : h.advanceHandshake = (h, .pending (.write h.readyFrame .clientReady)) := by
        simp [advanceHandshake, phase, server]
      rw [again]
      exact writeReady_lands started rfl again
  | clientSentReady =>
    simp only [advanceHandshake, phase]
    exact clientReceiveReady_lands started phase
  | serverReceivedReady =>
    have again : h.advanceHandshake = (h, .pending (.write h.readyFrame .serverReady)) := by
      simp [advanceHandshake, phase]
    rw [again]
    exact writeReady_lands started rfl again
  | v2IdentityExchange =>
    simp only [advanceHandshake, phase]
    exact exchangeV2Identity_lands started phase
  | done =>
    simp only [advanceHandshake, phase]
    exact .returns started _

lemma resumeRead_lands (started : h.securityMechanism.Started) {what}
    (stands : h.Stands what) : Lands (h.resumeRead what) := by
  cases what with
  | revision => exact waitForPeerRevision_lands started stands
  | greeting => exact receiveGreeting_lands started stands
  | token => exact receiveToken_lands stands.1 stands.2
  | ready =>
    simp only [resumeRead]
    rcases stands with ⟨phase, server⟩ | phase
    · rw [if_pos phase]
      exact serverReceiveReady_lands started phase server
    · rw [if_neg (by simp [phase])]
      exact clientReceiveReady_lands started phase
  | v2Greeting => exact exchangeV2Identity_lands started stands
  | v2Identity => exact readV2IdentityFrame_lands started stands

lemma resumeWrite_lands (started : h.securityMechanism.Started) {what}
    (token : what = .token → Securing h)
    (identity : what = .v2Identity → h.subPhase = .v2IdentityExchange) :
    Lands (h.resumeWrite what) := by
  cases what with
  | signature | v2Tail | v3Tail | clientReady | serverReady => exact .returns (by exact started) _
  | token => exact securityRound_lands (token rfl).phase started.patient
  | v2Identity => exact readV2IdentityFrame_lands started (identity rfl)

end ZmtpProtocolHandler

end Rzmq
