import Rzmq.Session.Waits
import Rzmq.Security.NoiseSymbolic

/-! Cancellation of the handshake: the loop of `sessionx/actor.rs` drops the future of its network
arm whenever another arm of `select!` is ready, and calls `advance_handshake` again in its next
turn.  `keepStep` is the session as it would be if the future was kept. -/

namespace Rzmq

open List Octet Curve Transition ZmtpProtocolHandler

variable {SK Key H T α : Type}

def SessionAction.Interrupts : SessionAction α → Prop
  | .cancel | .initializePipes => True
  | _ => False

def Await.OfIdentity : Await α → Prop
  | .read .v2Identity | .write _ .v2Identity | .flush .v2Identity => True
  | _ => False

namespace Session

section Settle

section

variable (s : Session SK Key H T α)
include s

lemma settle_rewrite (await) (written : List α)
    (p) :
    settle { s with await, written } p = { settle s p with written } := by
  obtain ⟨handler, poll⟩ := p
  match poll with
  | .pending await | .ready (.error f) => rfl
  | .ready (.ok progress) =>
    cases progress <;>
      simp only [settle, handleProgress, checkComplete, checkOperational] <;>
      split_ifs <;> rfl

lemma settle_unwritten (await) (written : List α)
    (p) :
    { settle { s with await, written } p with written := s.written } = settle s p := by
  rw [settle_rewrite]
  exact (settle_rewrite s s.await s.written p).symm

lemma checkOperational_kept :
    s.checkOperational.handler = s.handler ∧ s.checkOperational.await = s.await := by
  unfold checkOperational
  split <;> exact ⟨rfl, rfl⟩

lemma checkComplete_kept :
    s.checkComplete.handler = s.handler ∧ s.checkComplete.await = s.await := by
  unfold checkComplete
  split
  · exact checkOperational_kept _
  · exact ⟨rfl, rfl⟩

lemma handleProgress_kept (progress : HandshakeProgress α) :
    (s.handleProgress progress).handler = s.handler ∧
      (s.handleProgress progress).await = s.await := by
  cases progress <;> exact checkComplete_kept _

end

end Settle

variable [Octet α]

/-- The next call comes back to the wait: a read, but not of a ZMTP/2.0 identity, or a write of
which nothing is written, but not of a token or of a ZMTP/2.0 identity. -/
def Resumes (s : Session SK Key H T α) : Prop :=
  match s.await with
  | none => True
  | some (.read what) => what ≠ .v2Identity
  | some (.write left what) => s.handler.outgoing what = some left
  | some (.flush _) | some .again => False

def Careful (s : Session SK Key H T α) (a : SessionAction α) : Prop := a.Interrupts → s.Resumes

variable [CryptoBox Key α] [CurveSuite SK Key α] [SnowHandshake H T α] [DecidableEq α]

def keepStep (s : Session SK Key H T α) (a : SessionAction α) : Option (Session SK Key H T α) :=
  match a, s.await with
  | .cancel, _ => some s
  | .poll, some _ => some s
  | .initializePipes, some _ =>
    if s.attached ∨ s.currentPhase = .shuttingDownStream then none
    else some { s with attached := true }
  | a, _ => s.step a

/-- What the next call makes of a wait that cannot be resumed, beside the session as it would be. -/
inductive Damage (s : Session SK Key H T α) : Session SK Key H T α → Prop where
  /-- Bytes that have been written last are written again. -/
  | repeated {what part rest : _} (ends : part <:+ s.written) (present : part ≠ [])
      (same : s.handler.outgoing what = some (part ++ rest))
      (await : s.await = some (.write rest what) ∨ rest = [] ∧ s.await = some (.flush what)) :
      Damage s { s with await := some (.write (part ++ rest) what) }
  /-- The rest of a token is not written, and the handshake goes on behind it. -/
  | skipped {left t : _} (missing : left ≠ []) (await : s.await = some (.write left .token))
      (behind : s.step (.write left.length) = some t) : Damage s { t with written := s.written }
  /-- The greeting of the peer, which is already consumed, is waited for once more. -/
  | waits {w : _} (await : s.await = some w) (identity : w.OfIdentity)
      (short : s.handler.networkReadBuffer.length < v2GreetingLength) :
      Damage s { s with await := some (.read .v2Greeting) }
  /-- The bytes behind the greeting are consumed as a greeting. -/
  | consumed {w name : _} (await : s.await = some w) (identity : w.OfIdentity)
      (long : v2GreetingLength ≤ s.handler.networkReadBuffer.length)
      (accepted : validateV2SocketTypeCompat s.handler.config.socketTypeName
        ((reading s.handler.networkReadBuffer).getD 11 0) = .ok name) :
      Damage s { s with
        handler := { s.handler with
          networkReadBuffer := s.handler.networkReadBuffer.drop v2GreetingLength
          peerSocketType := some name }
        await := some (.write (bytes [0, 0]) .v2Identity) }
  | refused {w e : _} (await : s.await = some w) (identity : w.OfIdentity)
      (long : v2GreetingLength ≤ s.handler.networkReadBuffer.length)
      (refused : validateV2SocketTypeCompat s.handler.config.socketTypeName
        ((reading s.handler.networkReadBuffer).getD 11 0) = .error e) :
      Damage s s.shutDown

/-- The mechanism of the handler has been started, and its future waits in its place. -/
structure Poised (s : Session SK Key H T α) : Prop where
  started : s.handler.securityMechanism.Started
  placed : ∀ w, s.await = some w →
    s.currentPhase = .handshakeInProgress ∧ Placed s.written s.handler w

namespace Poised

variable {s s' : Session SK Key H T α}

lemma idle (poised : Poised s) : Poised { s with await := none } := ⟨poised.started, nofun⟩

lemma shutDown (s : Session SK Key H T α) : Poised s.shutDown := ⟨trivial, nofun⟩

lemma settle (running : s.currentPhase = .handshakeInProgress)
    {p} (lands : Lands p) : Poised (s.settle p) := by
  obtain ⟨handler, poll⟩ := p
  rcases poll with w | f | progress
  · refine ⟨lands.started (by simp), fun w' await => ⟨running, ?_⟩⟩
    cases await
    exact lands.placed w _ rfl
  · exact shutDown _
  · obtain ⟨sameHandler, sameAwait⟩ :=
      handleProgress_kept { s with handler := handler, await := none } progress
    refine ⟨?_, fun w await => ?_⟩
    · rw [Session.settle, sameHandler]
      exact lands.started (by simp)
    · rw [Session.settle, sameAwait] at await
      cases await

lemma resumeWrite (poised : Poised s) {what} (written : List α)
    (running : s.currentPhase = .handshakeInProgress)
    (token : what = .token → Securing s.handler)
    (identity : what = .v2Identity → s.handler.subPhase = .v2IdentityExchange) :
    Poised (Session.settle { s with written } (s.handler.resumeWrite what)) :=
  settle (s := { s with written }) running (resumeWrite_lands poised.started token identity)

lemma write (poised : Poised s) {count : Nat} (taken : s.step (.write count) = some s') :
    Poised s' := by
  obtain ⟨left, what, await, pos, ⟨short, rfl⟩ | ⟨-, rfl⟩⟩ := step_cases taken
  · obtain ⟨running, placed⟩ := poised.placed _ await
    have missing : left.drop count ≠ [] := by
      rw [Ne, drop_eq_nil_iff]
      omega
    refine ⟨poised.started, fun w await' => ⟨running, ?_⟩⟩
    cases await'
    cases placed with
    | @write _ part _ ends _ same again =>
      have split : part ++ left = part ++ left.take count ++ left.drop count := by
        rw [append_assoc, take_append_drop]
      rw [split] at same again
      exact .write (suffix_append_self_iff.mpr ends) missing same again
    | token _ securing => exact .token missing securing
    | writeIdentity _ phase => exact .writeIdentity missing phase
  · obtain ⟨running, placed⟩ := poised.placed _ await
    unfold wrote
    cases placed with
    | @write _ part _ ends present same again =>
      split
      · refine ⟨poised.started, fun w await' => ⟨running, ?_⟩⟩
        cases await'
        refine .flush (suffix_append_self_iff.mpr ends) ?_ same again
        simp [present]
      · refine poised.resumeWrite _ running ?_ ?_
        · rintro rfl
          cases same
        · rintro rfl
          cases same
    | token _ securing => exact poised.resumeWrite _ running (fun _ => securing) nofun
    | writeIdentity _ phase =>
      refine ⟨poised.started, fun w await' => ⟨running, ?_⟩⟩
      cases await'
      exact .flushIdentity phase

lemma flush (poised : Poised s) (taken : s.step .flush = some s') : Poised s' := by
  obtain ⟨what, await, rfl⟩ := step_cases taken
  obtain ⟨running, placed⟩ := poised.placed _ await
  refine poised.resumeWrite s.written running ?_ ?_
  · rintro rfl
    cases placed with
    | flush _ _ same _ => cases same
  · rintro rfl
    cases placed with
    | flush _ _ same _ => cases same
    | flushIdentity phase => exact phase

lemma read (poised : Poised s) {bytes} (taken : s.step (.read bytes) = some s') :
    Poised s' := by
  obtain ⟨what, await, -, rfl⟩ := step_cases taken
  obtain ⟨running, placed⟩ := poised.placed _ await
  refine settle (s := { s with received := s.received ++ bytes }) running
    (resumeRead_lands (by exact poised.started) ?_)
  have stands : s.handler.Stands what := by
    cases placed with
    | read stands _ => exact stands
    | readIdentity phase => exact phase
  cases what with
  | token => exact ⟨⟨stands.1.phase, stands.1.kind, stands.1.started⟩, stands.2⟩
  | revision | greeting | ready | v2Greeting | v2Identity => exact stands

lemma step (responders : RespondersWait H) (poised : Poised s) {a}
    (taken : s.step a = some s') : Poised s' := by
  cases a with
  | poll =>
    obtain ⟨-, running, rfl⟩ := step_cases taken
    exact settle running (advanceHandshake_lands responders poised.started)
  | read bytes => exact poised.read taken
  | write count => exact poised.write taken
  | flush => exact poised.flush taken
  | again =>
    obtain ⟨await, rfl⟩ := step_cases taken
    obtain ⟨running, placed⟩ := poised.placed _ await
    cases placed with
    | again securing =>
      exact settle running (securityRound_lands securing.phase poised.started.patient)
  | fail e =>
    obtain ⟨-, rfl⟩ := step_cases taken
    exact shutDown s
  | cancel =>
    obtain rfl := step_cases taken
    exact poised.idle
  | initializePipes =>
    obtain ⟨-, rfl⟩ := step_cases taken
    split
    · obtain ⟨sameHandler, sameAwait⟩ :=
        checkComplete_kept { s with attached := true, await := none }
      exact ⟨by rw [sameHandler]; exact poised.started, by rw [sameAwait]; exact nofun⟩
    · obtain ⟨sameHandler, sameAwait⟩ :=
        checkOperational_kept { s with attached := true, await := none }
      exact ⟨by rw [sameHandler]; exact poised.started, by rw [sameAwait]; exact nofun⟩
  | stop =>
    obtain rfl := step_cases taken
    exact shutDown s

lemma attach (poised : Poised s) : Poised { s with attached := true } :=
  ⟨poised.started, poised.placed⟩

end Poised

/-! ### The two sessions side by side -/

variable {s t u : Session SK Key H T α}

/-- The same session, or one whose future was dropped and is made anew by the next call. -/
structure Follows (s t : Session SK Key H T α) : Prop where
  poised : Poised t
  state : s = t ∨ (∃ w, t.await = some w ∧
    t.handler.advanceHandshake = (t.handler, .pending w)) ∧ s = { t with await := none }

lemma Follows.refl (poised : Poised s) : Follows s s := ⟨poised, .inl rfl⟩

variable {w : Await α}

lemma Resumes.again (resumes : s.Resumes) (poised : Poised s)
    (await : s.await = some w) : s.handler.advanceHandshake = (s.handler, .pending w) := by
  rw [Resumes, await] at resumes
  cases (poised.placed w await).2 with
  | read _ again => exact again
  | @write _ part left _ _ same again =>
    have whole : part ++ left = left := Option.some.inj (same.symm.trans resumes)
    rwa [whole] at again
  | flush | again | flushIdentity => exact resumes.elim
  | token | writeIdentity => cases resumes
  | readIdentity => exact absurd rfl resumes

lemma step_attach (taken : s.step .initializePipes = some u)
    (running : s.currentPhase = .handshakeInProgress) (going : s.handler.subPhase ≠ .done) :
    ¬ (s.attached ∨ s.currentPhase = .shuttingDownStream) ∧
      u = { s with attached := true, await := none } := by
  obtain ⟨free, rfl⟩ := step_cases taken
  refine ⟨free, ?_⟩
  rw [if_pos running, checkComplete, if_neg going]

lemma keepStep_attach (await : s.await = some w)
    (free : ¬ (s.attached ∨ s.currentPhase = .shuttingDownStream)) :
    s.keepStep .initializePipes = some { s with attached := true } := by
  simp only [keepStep, await]
  rw [if_neg free]

lemma Follows.drop (poised : Poised s) (resumes : s.Resumes) :
    Follows { s with await := none } s := by
  refine ⟨poised, ?_⟩
  cases await : s.await with
  | none => exact .inl (await ▸ rfl)
  | some w => exact .inr ⟨⟨w, rfl, resumes.again poised await⟩, rfl⟩

lemma Follows.step (responders : RespondersWait H) (follows : Follows s t)
    {a} (careful : s.Careful a) (taken : s.step a = some u) :
    ∃ v, t.keepStep a = some v ∧ Follows u v := by
  obtain ⟨poised, rfl | ⟨⟨w, await, again⟩, rfl⟩⟩ := follows
  · have kept : Follows u u := .refl (poised.step responders taken)
    cases a with
    | poll =>
      have idle := (step_cases taken).1
      refine ⟨u, ?_, kept⟩
      simp only [keepStep, idle]
      exact taken
    | cancel =>
      obtain rfl := step_cases taken
      exact ⟨s, rfl, .drop poised (careful trivial)⟩
    | initializePipes =>
      cases await : s.await with
      | none =>
        refine ⟨u, ?_, kept⟩
        simp only [keepStep, await]
        exact taken
      | some w =>
        have again := (careful trivial : s.Resumes).again poised await
        obtain ⟨running, placed⟩ := poised.placed w await
        obtain ⟨free, rfl⟩ := step_attach taken running placed.not_done
        exact ⟨_, keepStep_attach await free, poised.attach, .inr ⟨⟨w, await, again⟩, rfl⟩⟩
    | read | write | flush | again | fail | stop => exact ⟨u, taken, kept⟩
  · have running := (poised.placed w await).1
    cases a with
    | poll =>
      obtain ⟨-, -, rfl⟩ := step_cases taken
      refine ⟨t, by simp only [keepStep, await], poised, .inl ?_⟩
      simp [again, settle, ← await]
    | cancel =>
      obtain rfl := step_cases taken
      exact ⟨t, rfl, poised, .inr ⟨⟨w, await, again⟩, rfl⟩⟩
    | initializePipes =>
      obtain ⟨free, rfl⟩ := step_attach taken running (poised.placed w await).2.not_done
      exact ⟨_, keepStep_attach await free, poised.attach, .inr ⟨⟨w, await, again⟩, rfl⟩⟩
    | stop =>
      obtain rfl := step_cases taken
      exact ⟨t.shutDown, rfl, .refl (.shutDown t)⟩
    | read bytes =>
      obtain ⟨what, nowhere, -⟩ := step_cases taken
      cases nowhere
    | write count =>
      obtain ⟨left, what, nowhere, -⟩ := step_cases taken
      cases nowhere
    | flush =>
      obtain ⟨what, nowhere, -⟩ := step_cases taken
      cases nowhere
    | again => cases (step_cases taken).1
    | fail e => exact absurd rfl (step_cases taken).1

/-! ### A wait that is not resumed -/

lemma poll_dropped (running : s.currentPhase = .handshakeInProgress) :
    ({ s with await := none } : Session SK Key H T α).step .poll =
      some (s.settle s.handler.advanceHandshake) := by
  rw [← settle_unwritten s none s.written, settle_rewrite]
  exact (if_pos running).trans (congrArg some (settle_rewrite s none s.written _))

lemma damaged_token {left} (await : s.await = some (.write left .token))
    (missing : left ≠ []) (securing : Securing s.handler) :
    Damage s (s.settle s.handler.advanceHandshake) := by
  have again : s.handler.advanceHandshake = s.handler.securityRound := by
    rw [advanceHandshake, securing.phase]
    exact if_neg securing.kind
  have pos : 0 < left.length := length_pos_iff.mpr missing
  have behind : s.step (.write left.length) =
      some (settle { s with written := s.written ++ left } s.handler.securityRound) := by
    simp [step, await, pos, HandshakeWrite.flushes, resumeWrite]
  rw [again, ← settle_unwritten s s.await (s.written ++ left)]
  exact .skipped missing await behind

lemma damaged_identity (await : s.await = some w) (identity : w.OfIdentity)
    (phase : s.handler.subPhase = .v2IdentityExchange) :
    Damage s (s.settle s.handler.advanceHandshake) := by
  simp only [advanceHandshake, phase]
  unfold exchangeV2Identity
  split
  · next short => exact .waits await identity short
  · next long =>
    dsimp only
    split
    · next e refused =>
      exact .refused await identity (Nat.le_of_not_lt long) refused
    · next name accepted =>
      exact .consumed await identity (Nat.le_of_not_lt long) accepted

lemma Poised.damaged (poised : Poised s) (await : s.await = some w) (point : w ≠ .again)
    (lost : ¬ s.Resumes) : Damage s (s.settle s.handler.advanceHandshake) := by
  rw [Resumes, await] at lost
  cases (poised.placed w await).2 with
  | @read what stands again =>
    have identity : what = .v2Identity := by simpa using lost
    subst identity
    exact damaged_identity await trivial stands
  | @write what part left ends missing same again =>
    have present : part ≠ [] := by
      rintro rfl
      exact lost same
    rw [again]
    exact .repeated ends present same (.inl await)
  | @flush what part ends present same again =>
    rw [again]
    have whole := append_nil part
    rw [← whole] at same ⊢
    exact .repeated ends present same (.inr ⟨rfl, await⟩)
  | token missing securing => exact damaged_token await missing securing
  | again => exact absurd rfl point
  | writeIdentity missing phase | flushIdentity phase | readIdentity phase =>
    exact damaged_identity await trivial phase

/-- As long as the future of the network arm is dropped only where it can be resumed, the session is
the one whose future is kept, but for the future itself; where it is dropped at another await, the
next call does `Damage`. -/
theorem handshake_cancel_safe (responders : RespondersWait H) (config : ZmtpEngineConfig SK α)
    (isServer : Bool) (entropy : Entropy SK) {actions : List (SessionAction α)}
    (careful : Permitted step Careful (new config isServer entropy : Session SK Key H T α) actions)
    (ran : run step (new config isServer entropy) actions = some s) :
    ∃ t, run keepStep (new config isServer entropy) actions = some t ∧
      (s = t ∨ s = { t with await := none }) ∧
      ∀ a w u, a.Interrupts → s.await = some w → w ≠ .again → ¬ s.Resumes → s.step a = some u →
        ∃ v u', t.keepStep a = some v ∧ u.step .poll = some u' ∧ Damage v u' := by
  have start : Poised (new config isServer entropy : Session SK Key H T α) := ⟨trivial, nofun⟩
  obtain ⟨t, kept, follows⟩ := run_simulates
    (fun _ _ _ _ follows careful taken => follows.step responders careful taken)
    (Follows.refl start) careful ran
  refine ⟨t, kept, follows.state.imp_right And.right, ?_⟩
  intro a w u interrupts await point lost taken
  obtain ⟨poised, rfl | ⟨-, rfl⟩⟩ := follows
  · have running := (poised.placed w await).1
    cases a with
    | cancel =>
      obtain rfl := step_cases taken
      exact ⟨s, _, rfl, poll_dropped running, poised.damaged await point lost⟩
    | initializePipes =>
      obtain ⟨free, rfl⟩ := step_attach taken running (poised.placed w await).2.not_done
      exact ⟨_, _, keepStep_attach await free,
        poll_dropped (s := { s with attached := true }) running,
        poised.attach.damaged await point lost⟩
    | poll | read | write | flush | again | fail | stop => exact interrupts.elim
  · cases await

section Runs

open Noise

def pullSession : Session NoKey NoKey Handshake Transport Symbol :=
  .new { clearConfig "PULL" none with allowZmtp2 := true } true ⟨⟨⟩, 6⟩

def pushGreeting : List Symbol := bytes [0xFF, 0, 0, 0, 0, 0, 0, 0, 0, 0x7F, 0x01, 0x08]

lemma responders_wait : RespondersWait Handshake := by
  intro sk seed h built
  cases built
  rfl

/-- The future is dropped before anything is written, and again while it waits for the revision of
the peer. -/
theorem handshake_cancel_safe_pull :
    ∃ s t, run step pullSession [.poll, .cancel, .poll, .write 11, .flush, .poll, .initializePipes]
        = some s ∧
      run keepStep pullSession [.poll, .cancel, .poll, .write 11, .flush, .poll, .initializePipes]
        = some t ∧
      (s = t ∨ s = { t with await := none }) := by
  have careful : Permitted step Careful pullSession
      [.poll, .cancel, .poll, .write 11, .flush, .poll, .initializePipes] :=
    ⟨nofun, _, rfl, fun _ => rfl, _, rfl, nofun, _, rfl, nofun, _, rfl, nofun, _, rfl, nofun, _,
      rfl, fun _ => nofun, _, rfl, trivial⟩
  obtain ⟨t, kept, same, -⟩ := handshake_cancel_safe responders_wait _ _ _ careful rfl
  exact ⟨_, t, rfl, kept, same⟩

/-- The future is dropped at the identity of a ZMTP/2.0 peer, because the pipes are attached.  Its
successor waits for a second greeting. -/
theorem identity_lost :
    let actions : List (SessionAction Symbol) := [.poll, .write 11, .flush, .poll,
      .read pushGreeting, .write 1, .flush, .poll, .write 2, .flush, .initializePipes, .poll,
      .read (bytes [0, 0])]
    ((run step pullSession actions).map fun s => (s.currentPhase, s.received)) =
        some (.handshakeInProgress, pushGreeting ++ bytes [0, 0]) ∧
      ((run keepStep pullSession actions).map fun t => (t.currentPhase, t.received)) =
        some (.operational, pushGreeting ++ bytes [0, 0]) := by
  decide +kernel

end Runs

end Session

end Rzmq
