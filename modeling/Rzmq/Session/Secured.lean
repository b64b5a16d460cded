import Rzmq.Session.Actor

/-! A tokio session with security enabled: its handshake comes to its end only past a mechanism that
the configuration enables, or on the ZMTP/2.0 path.  `Guarded` says what each sub-phase has behind
it, and `Expects` what a future that waits has found out before. -/

namespace Rzmq

open Octet Curve Transition

variable {SK Key H T α : Type}

def Authenticated (config : ZmtpEngineConfig SK α)
    (completed : Option (SecurityMechanism SK Key H T α)) : Prop :=
  ∃ m, completed = some m ∧ m.kind ≠ .null ∧ config.enables m.kind = true ∧ m.status = .ready

variable [Octet α]

def Downgraded (config : ZmtpEngineConfig SK α) (received : List α) : Prop :=
  config.allowZmtp2 = true ∧ (reading received)[10]? = some v2Revision

lemma Downgraded.append {config : ZmtpEngineConfig SK α} {received : List α}
    (h : Downgraded config received) (bytes : List α) : Downgraded config (received ++ bytes) := by
  refine ⟨h.1, ?_⟩
  have long : 10 < (reading received).length := (List.getElem?_eq_some_iff.mp h.2).1
  rw [reading_append, List.getElem?_append_left long]
  exact h.2

lemma peekRevision_take {received : List α} {revision : UInt8}
    (peeked : peekRevision (reading (received.take (signatureLength + 1))) = .ok revision) :
    (reading received)[10]? = some revision := by
  have found := peekRevision_ok peeked
  rw [reading, List.map_take, List.getElem?_take_of_lt (by decide)] at found
  exact found

namespace SecurityMechanism

omit [Octet α] in
lemma lift_kind {μ β : Type} (box : μ → SecurityMechanism SK Key H T α) {kind}
    (boxed : ∀ m, (box m).kind = kind) (call : MechanismM μ β) (m : μ) :
    (lift box call m).2.kind = kind := by
  unfold lift
  split <;> exact boxed _

variable [CryptoBox Key α] [CurveSuite SK Key α] [SnowHandshake H T α] [DecidableEq α]

@[simp] lemma produceToken_kind (m : SecurityMechanism SK Key H T α) :
    m.produceToken.2.kind = m.kind := by
  cases m with
  | null => rfl
  | plain m => exact lift_kind .plain (fun _ => rfl) _ m
  | curve m => exact lift_kind .curve (fun _ => rfl) _ m
  | noiseXx m => exact lift_kind .noiseXx (fun _ => rfl) _ m

@[simp] lemma processToken_kind (token : List α) (m : SecurityMechanism SK Key H T α) :
    (m.processToken token).2.kind = m.kind := by
  cases m with
  | null => rfl
  | plain m => exact lift_kind .plain (fun _ => rfl) _ m
  | curve m => exact lift_kind .curve (fun _ => rfl) _ m
  | noiseXx m => exact lift_kind .noiseXx (fun _ => rfl) _ m

end SecurityMechanism

/-! ## The handshake -/

variable (config : ZmtpEngineConfig SK α) (received : List α)

def Behind (completed : Option (SecurityMechanism SK Key H T α)) (buffer : List α) :
    HandshakeSubPhase → Prop
  | .greetingExchange => received = []
  | .waitingForPeerRevision => buffer = received
  | .waitingForGreeting | .securityHandshake => True
  | .readyExchange | .clientSentReady | .serverReceivedReady => Authenticated config completed
  | .v2IdentityExchange => Downgraded config received
  | .done => Authenticated config completed ∨ Downgraded config received

structure Guarded (h : ZmtpProtocolHandler SK Key H T α) : Prop where
  same : h.config = config
  mechanism : h.securityMechanism.kind ≠ .null → config.enables h.securityMechanism.kind = true
  behind : Behind config received h.completed h.networkReadBuffer h.subPhase

def Expects (h : ZmtpProtocolHandler SK Key H T α) : Await α → Prop
  | .write _ .signature | .flush .signature => h.subPhase = .greetingExchange
  | .read .revision | .write _ .v3Tail | .flush .v3Tail => h.subPhase = .waitingForPeerRevision
  | .write _ .v2Tail | .flush .v2Tail =>
    h.subPhase = .waitingForPeerRevision ∧ Downgraded config received
  | .read .greeting => h.subPhase = .waitingForGreeting
  | .read .token | .write _ .token | .flush .token | .again =>
    h.subPhase = .securityHandshake ∧ h.securityMechanism.kind ≠ .null
  | .read .ready => h.subPhase = .readyExchange ∨ h.subPhase = .clientSentReady
  | .write _ .clientReady | .flush .clientReady => h.subPhase = .readyExchange
  | .write _ .serverReady | .flush .serverReady => h.subPhase = .serverReceivedReady
  | .read .v2Greeting | .read .v2Identity | .write _ .v2Identity | .flush .v2Identity =>
    h.subPhase = .v2IdentityExchange

structure Polled (p : ZmtpProtocolHandler SK Key H T α × Poll α) : Prop where
  guarded : Guarded config received p.1
  expects : ∀ a, p.2 = .pending a → Expects config received p.1 a

variable {config : ZmtpEngineConfig SK α} {received : List α}
  {h : ZmtpProtocolHandler SK Key H T α}

section

variable (guarded : Guarded config received h)
include guarded

lemma Polled.fails (f : Fault) : Polled config received (h, .ready (.error f)) :=
  ⟨guarded, nofun⟩

lemma Guarded.parsed (later : h.subPhase ≠ .waitingForPeerRevision) (parser)
    (buffer : List α) :
    Guarded config received { h with zmtpManualParser := parser, networkReadBuffer := buffer } := by
  refine ⟨guarded.same, guarded.mechanism, ?_⟩
  have behind := guarded.behind
  cases phase : h.subPhase with
  | waitingForPeerRevision => exact absurd phase later
  | _ =>
    simp only [phase] at behind ⊢
    exact behind

lemma Guarded.read (later : h.subPhase ≠ .greetingExchange) (bytes : List α) :
    Guarded config (received ++ bytes)
      { h with networkReadBuffer := h.networkReadBuffer ++ bytes } := by
  refine ⟨guarded.same, guarded.mechanism, ?_⟩
  have behind := guarded.behind
  cases phase : h.subPhase with
  | greetingExchange => exact absurd phase later
  | waitingForPeerRevision =>
    simp only [phase, Behind] at behind ⊢
    rw [behind]
  | waitingForGreeting | securityHandshake => trivial
  | readyExchange | clientSentReady | serverReceivedReady =>
    simp only [phase] at behind ⊢
    exact behind
  | v2IdentityExchange =>
    simp only [phase] at behind ⊢
    exact Downgraded.append behind bytes
  | done =>
    simp only [phase] at behind ⊢
    exact behind.imp_right (Downgraded.append · bytes)

end

variable {m : SecurityMechanism SK Key H T α}

lemma Guarded.setMechanism (guarded : Guarded config received h)
    (enabled : m.kind ≠ .null → config.enables m.kind = true) :
    Guarded config received (h.setMechanism m) :=
  ⟨guarded.same, enabled, guarded.behind⟩

lemma Guarded.replace (guarded : Guarded config received h)
    (kind : m.kind = h.securityMechanism.kind) : Guarded config received (h.setMechanism m) :=
  guarded.setMechanism (kind ▸ guarded.mechanism)

namespace ZmtpProtocolHandler

lemma readHandshakeCommandFrame_eq (h : ZmtpProtocolHandler SK Key H T α) :
    ∃ parser buffer, h.readHandshakeCommandFrame.2 =
      { h with zmtpManualParser := parser, networkReadBuffer := buffer } := by
  unfold readHandshakeCommandFrame
  split
  · exact ⟨h.zmtpManualParser, h.networkReadBuffer, rfl⟩
  · dsimp only
    split
    · exact ⟨_, _, rfl⟩
    · exact ⟨_, _, rfl⟩
    · split <;> exact ⟨_, _, rfl⟩

section

variable (guarded : Guarded config received h)
include guarded

lemma waitForPeerRevision_polled (waiting : h.subPhase = .waitingForPeerRevision) :
    Polled config received (h, h.waitForPeerRevision) := by
  have buffer : h.networkReadBuffer = received := by
    have behind := guarded.behind
    rwa [waiting] at behind
  refine ⟨guarded, fun a pending => ?_⟩
  unfold waitForPeerRevision at pending
  split at pending
  · cases pending
    exact waiting
  · split at pending
    · cases pending
    · rename_i revision peeked
      rw [buffer] at peeked
      split at pending
      · rename_i v2
        subst v2
        unfold writeV2Tail at pending
        split at pending
        · cases pending
        · rename_i allowed
          split at pending
          · cases pending
          · cases pending
            refine ⟨waiting, ?_, peekRevision_take peeked⟩
            rw [← guarded.same]
            simpa using allowed
      · split at pending
        · cases pending
          exact waiting
        · cases pending

lemma receiveGreeting_polled (waiting : h.subPhase = .waitingForGreeting) :
    Polled config received h.receiveGreeting := by
  have later : h.subPhase ≠ .waitingForPeerRevision := by simp [waiting]
  unfold receiveGreeting
  split
  · exact ⟨guarded, fun a pending => by cases pending; exact waiting⟩
  · have rest := guarded.parsed later h.zmtpManualParser
      (ZmtpGreeting.decode h.networkReadBuffer).2
    dsimp only
    split
    · exact .fails rest _
    · exact .fails rest _
    · split
      · exact .fails rest _
      · exact ⟨⟨guarded.same, guarded.mechanism, trivial⟩, nofun⟩

lemma exchangeV2Identity_polled (waiting : h.subPhase = .v2IdentityExchange) :
    Polled config received h.exchangeV2Identity := by
  have later : h.subPhase ≠ .waitingForPeerRevision := by simp [waiting]
  unfold exchangeV2Identity
  split
  · exact ⟨guarded, fun a pending => by cases pending; exact waiting⟩
  · have rest := guarded.parsed later h.zmtpManualParser (h.networkReadBuffer.drop v2GreetingLength)
    dsimp only
    split
    · exact .fails rest _
    · refine ⟨⟨rest.same, rest.mechanism, rest.behind⟩, fun a pending => ?_⟩
      cases pending
      exact waiting

lemma readV2IdentityFrame_polled (waiting : h.subPhase = .v2IdentityExchange) :
    Polled config received h.readV2IdentityFrame := by
  have later : h.subPhase ≠ .waitingForPeerRevision := by simp [waiting]
  have downgraded : Downgraded config received := by
    have behind := guarded.behind
    rwa [waiting] at behind
  unfold readV2IdentityFrame
  split
  · exact ⟨guarded, fun a pending => by cases pending; exact waiting⟩
  · have rest := guarded.parsed later
      (h.zmtpManualParser.decodeFromBuffer h.networkReadBuffer).2.1
      (h.zmtpManualParser.decodeFromBuffer h.networkReadBuffer).2.2
    dsimp only
    split
    · exact .fails rest _
    · exact ⟨rest, fun a pending => by cases pending; exact waiting⟩
    · split
      · exact .fails rest _
      · exact ⟨⟨guarded.same, guarded.mechanism, .inr downgraded⟩, nofun⟩

lemma receivePeerReady_guarded (later : h.subPhase ≠ .waitingForPeerRevision) :
    Guarded config received h.receivePeerReady.2 ∧
      h.receivePeerReady.2.subPhase = h.subPhase ∧
      h.receivePeerReady.2.completed = h.completed := by
  obtain ⟨parser, buffer, read⟩ := h.readHandshakeCommandFrame_eq
  have parsed := guarded.parsed later parser buffer
  rw [← read] at parsed
  unfold receivePeerReady
  generalize h.readHandshakeCommandFrame = frame at read parsed
  obtain ⟨result, h'⟩ := frame
  subst read
  match result with
  | .error e | .ok none => exact ⟨parsed, rfl, rfl⟩
  | .ok (some msg) =>
    dsimp only
    split
    · exact ⟨⟨parsed.same, parsed.mechanism, parsed.behind⟩, rfl, rfl⟩
    · exact ⟨parsed, rfl, rfl⟩

lemma receiveReady_polled {goOn}
    (waiting : h.subPhase = .readyExchange ∨ h.subPhase = .clientSentReady)
    (goesOn : ∀ properties h', Guarded config received h' → Authenticated config h'.completed →
      Polled config received (goOn properties h')) :
    Polled config received (h.receiveReady goOn) := by
  have behind := guarded.behind
  have authenticated : Authenticated config h.completed := by
    rcases waiting with waiting | waiting <;> rwa [waiting] at behind
  have after := receivePeerReady_guarded guarded (by
    rcases waiting with waiting | waiting <;> simp [waiting])
  unfold receiveReady
  generalize h.receivePeerReady = ready at after
  obtain ⟨result, h'⟩ := ready
  obtain ⟨kept, phase, completed⟩ := after
  match result with
  | .error e => exact .fails kept _
  | .ok none =>
    refine ⟨kept, fun a pending => ?_⟩
    cases pending
    exact waiting.imp phase.trans phase.trans
  | .ok (some properties) => exact goesOn properties h' kept (completed ▸ authenticated)

lemma serverReceiveReady_polled (waiting : h.subPhase = .readyExchange) :
    Polled config received h.serverReceiveReady :=
  receiveReady_polled guarded (.inl waiting) fun _ _ kept authenticated =>
    ⟨⟨kept.same, kept.mechanism, authenticated⟩, nofun⟩

lemma clientReceiveReady_polled (waiting : h.subPhase = .clientSentReady) :
    Polled config received h.clientReceiveReady :=
  receiveReady_polled guarded (.inr waiting) fun _ _ kept authenticated =>
    ⟨⟨kept.same, kept.mechanism, .inl authenticated⟩, nofun⟩

end

variable [CryptoBox Key α] [CurveSuite SK Key α] [SnowHandshake H T α] [DecidableEq α]

section

variable (guarded : Guarded config received h)
include guarded

omit [CryptoBox Key α] [SnowHandshake H T α] [DecidableEq α] in
lemma finalizeMechanism_polled (kind : h.securityMechanism.kind ≠ .null)
    (ready : h.securityMechanism.status = .ready) : Polled config received h.finalizeMechanism := by
  have null : (SecurityMechanism.null : SecurityMechanism SK Key H T α).kind ≠ .null →
      config.enables (SecurityMechanism.null : SecurityMechanism SK Key H T α).kind = true :=
    fun other => absurd rfl other
  unfold finalizeMechanism
  split
  · exact .fails (guarded.setMechanism null) _
  · refine ⟨⟨guarded.same, null, ?_⟩, nofun⟩
    exact ⟨h.securityMechanism, rfl, kind, guarded.mechanism kind, ready⟩

section

variable (waiting : h.subPhase = .securityHandshake)
include waiting

section

variable (kind : h.securityMechanism.kind ≠ .null)
include kind

lemma processPeerToken_polled (token : List α) :
    Polled config received (h.processPeerToken token) := by
  have same := h.securityMechanism.processToken_kind token
  unfold processPeerToken
  generalize h.securityMechanism.processToken token = processed at same
  obtain ⟨result, m⟩ := processed
  have kept := guarded.replace same
  match result with
  | .error f => exact .fails kept _
  | .ok .continueWaiting | .ok .handshakeComplete =>
    refine ⟨kept, fun a pending => ?_⟩
    cases pending
    exact ⟨waiting, same ▸ kind⟩
  | .ok .produceAndSend =>
    have again := m.produceToken_kind
    dsimp only
    generalize m.produceToken = produced at again
    obtain ⟨reply, m'⟩ := produced
    have kept' := guarded.replace (again.trans same)
    match reply with
    | .error f | .ok none => exact .fails kept' _
    | .ok (some reply) =>
      refine ⟨kept', fun a pending => ?_⟩
      cases pending
      exact ⟨waiting, (again.trans same) ▸ kind⟩

lemma receiveToken_polled : Polled config received h.receiveToken := by
  obtain ⟨parser, buffer, read⟩ := h.readHandshakeCommandFrame_eq
  have parsed := guarded.parsed (by simp [waiting]) parser buffer
  unfold receiveToken
  generalize h.readHandshakeCommandFrame = frame at read
  obtain ⟨result, h'⟩ := frame
  subst read
  match result with
  | .error e => exact .fails parsed _
  | .ok none =>
    refine ⟨parsed, fun a pending => ?_⟩
    cases pending
    exact ⟨waiting, kind⟩
  | .ok (some msg) => exact processPeerToken_polled parsed waiting kind _

lemma securityRound_polled : Polled config received h.securityRound := by
  unfold securityRound
  split
  · rename_i ready
    exact finalizeMechanism_polled guarded kind ready
  · exact .fails guarded _
  · have same := h.securityMechanism.produceToken_kind
    generalize h.securityMechanism.produceToken = produced at same
    obtain ⟨result, m⟩ := produced
    have kept := guarded.replace same
    match result with
    | .error f => exact .fails kept _
    | .ok (some token) =>
      refine ⟨kept, fun a pending => ?_⟩
      cases pending
      exact ⟨waiting, same ▸ kind⟩
    | .ok none => exact receiveToken_polled kept waiting (same ▸ kind)

end

end

end

lemma performSecurityHandshake_polled (secured : config.securityEnabled = true)
    (guarded : Guarded config received h) (waiting : h.subPhase = .securityHandshake) :
    Polled config received h.performSecurityHandshake := by
  unfold performSecurityHandshake
  split
  · split
    · exact .fails guarded _
    · split
      · exact .fails guarded _
      · rename_i m negotiated
        have enabled := negotiateSecurityMechanism_enabled negotiated
        rw [guarded.same] at enabled
        exact securityRound_polled (guarded.setMechanism fun _ => enabled) waiting
          (ZmtpEngineConfig.enables_ne_null secured enabled)
  · rename_i kind
    exact securityRound_polled guarded waiting kind

lemma advanceHandshake_polled (secured : config.securityEnabled = true)
    (guarded : Guarded config received h) : Polled config received h.advanceHandshake := by
  unfold advanceHandshake
  split
  case h_1 phase | h_7 phase => exact ⟨guarded, fun a pending => by cases pending; exact phase⟩
  case h_2 phase => exact waitForPeerRevision_polled guarded phase
  case h_3 phase => exact receiveGreeting_polled guarded phase
  case h_4 phase => exact performSecurityHandshake_polled secured guarded phase
  case h_5 phase =>
    split
    · exact serverReceiveReady_polled guarded phase
    · exact ⟨guarded, fun a pending => by cases pending; exact phase⟩
  case h_6 phase => exact clientReceiveReady_polled guarded phase
  case h_8 phase => exact exchangeV2Identity_polled guarded phase
  case h_9 phase => exact ⟨guarded, nofun⟩

lemma resumeRead_polled {what} (guarded : Guarded config received h)
    (expects : Expects config received h (.read what)) :
    Polled config received (h.resumeRead what) := by
  cases what with
  | revision => exact waitForPeerRevision_polled guarded expects
  | greeting => exact receiveGreeting_polled guarded expects
  | token => exact receiveToken_polled guarded expects.1 expects.2
  | ready =>
    simp only [resumeRead]
    split
    · rename_i server
      exact serverReceiveReady_polled guarded server
    · rename_i client
      exact clientReceiveReady_polled guarded (expects.resolve_left client)
  | v2Greeting => exact exchangeV2Identity_polled guarded expects
  | v2Identity => exact readV2IdentityFrame_polled guarded expects

lemma resumeWrite_polled {what} (guarded : Guarded config received h)
    (expects : Expects config received h (.flush what)) :
    Polled config received (h.resumeWrite what) := by
  have behind := guarded.behind
  cases what with
  | signature =>
    have start := expects
    rw [start] at behind
    exact ⟨⟨guarded.same, guarded.mechanism, behind.symm⟩, nofun⟩
  | v2Tail => exact ⟨⟨guarded.same, guarded.mechanism, expects.2⟩, nofun⟩
  | v3Tail => exact ⟨⟨guarded.same, guarded.mechanism, trivial⟩, nofun⟩
  | token => exact securityRound_polled guarded expects.1 expects.2
  | clientReady =>
    have ready := expects
    rw [ready] at behind
    exact ⟨⟨guarded.same, guarded.mechanism, behind⟩, nofun⟩
  | serverReady =>
    have ready := expects
    rw [ready] at behind
    exact ⟨⟨guarded.same, guarded.mechanism, .inl behind⟩, nofun⟩
  | v2Identity => exact readV2IdentityFrame_polled guarded expects

end ZmtpProtocolHandler

/-! ## The session -/

/-- Once the stream shuts down the handler is no longer guarded, but nothing is polled any more
either. -/
structure Session.Held (config : ZmtpEngineConfig SK α) (s : Session SK Key H T α) : Prop where
  guarded : s.currentPhase ≠ .shuttingDownStream → Guarded config s.received s.handler
  stopped : s.currentPhase = .shuttingDownStream → s.await = none
  expects : ∀ a, s.await = some a → Expects config s.received s.handler a
  done : s.handler.subPhase = .done →
    Authenticated config s.handler.completed ∨ Downgraded config s.received

namespace Session

variable {s t : Session SK Key H T α}

namespace Held

lemma awaiting (held : Held config s) {a} (await : s.await = some a) :
    s.currentPhase ≠ .shuttingDownStream := by
  intro stopped
  rw [held.stopped stopped] at await
  cases await

lemma of_guarded (running : s.currentPhase ≠ .shuttingDownStream)
    (guarded : Guarded config s.received s.handler)
    (expects : ∀ a, s.await = some a → Expects config s.received s.handler a) : Held config s where
  guarded _ := guarded
  stopped stopped := absurd stopped running
  expects
  done done := by
    have behind := guarded.behind
    rwa [done] at behind

lemma idle (held : Held config s) : Held config { s with await := none } where
  guarded := held.guarded
  stopped _ := rfl
  expects := nofun
  done := held.done

lemma shutDown (done : s.handler.subPhase = .done →
    Authenticated config s.handler.completed ∨ Downgraded config s.received) :
    Held config s.shutDown where
  guarded running := absurd rfl running
  stopped _ := rfl
  expects := nofun
  done := done

lemma checkOperational (held : Held config s) : Held config s.checkOperational := by
  unfold Session.checkOperational
  split
  · rename_i waiting
    exact of_guarded nofun (held.guarded (by simp [waiting.1])) held.expects
  · exact held

lemma checkComplete (held : Held config s) (running : s.currentPhase ≠ .shuttingDownStream) :
    Held config s.checkComplete := by
  unfold Session.checkComplete
  split
  · exact checkOperational (of_guarded nofun (held.guarded running) held.expects)
  · exact held

lemma handleProgress (held : Held config s) (running : s.currentPhase ≠ .shuttingDownStream)
    (progress : HandshakeProgress α) : Held config (s.handleProgress progress) := by
  cases progress with
  | inProgress | handshakeComplete => exact held.checkComplete running
  | identityReady identity =>
    exact checkComplete (of_guarded running (held.guarded running) held.expects) running

lemma settle (running : s.currentPhase ≠ .shuttingDownStream)
    {p} (polled : Polled config s.received p) :
    Held config (s.settle p) := by
  obtain ⟨handler, poll⟩ := p
  match poll with
  | .pending a =>
    refine of_guarded running polled.guarded fun b await => ?_
    cases await
    exact polled.expects a rfl
  | .ready (.ok progress) =>
    have held : Held config { s with handler, await := none } :=
      of_guarded running polled.guarded nofun
    exact held.handleProgress running progress
  | .ready (.error f) =>
    refine shutDown fun done => ?_
    have behind := polled.guarded.behind
    rwa [done] at behind

end Held

lemma Held.read_later (held : Held config s) {what}
    (await : s.await = some (.read what)) : s.handler.subPhase ≠ .greetingExchange := by
  have expects := held.expects _ await
  intro start
  cases what <;> simp [Expects, start] at expects

variable [CryptoBox Key α] [CurveSuite SK Key α] [SnowHandshake H T α] [DecidableEq α]

lemma Held.read (held : Held config s) {what}
    (await : s.await = some (.read what)) (bytes : List α) :
    Held config (Session.settle { s with received := s.received ++ bytes }
      (ZmtpProtocolHandler.resumeRead
        { s.handler with networkReadBuffer := s.handler.networkReadBuffer ++ bytes } what)) := by
  have running := held.awaiting await
  have guarded := (held.guarded running).read (held.read_later await) bytes
  refine settle (s := { s with received := s.received ++ bytes }) running
    (ZmtpProtocolHandler.resumeRead_polled guarded ?_)
  have expects := held.expects _ await
  cases what <;> exact expects

lemma Held.step (secured : config.securityEnabled = true) (held : Held config s)
    {a} (taken : s.step a = some t) : Held config t := by
  unfold Session.step at taken
  split at taken
  case h_1 =>
    split at taken
    · rename_i phase
      cases taken
      have running : s.currentPhase ≠ .shuttingDownStream := by simp [phase]
      exact settle running
        (ZmtpProtocolHandler.advanceHandshake_polled secured (held.guarded running))
    · cases taken
  case h_2 bytes what await =>
    split at taken
    · cases taken
    · cases taken
      exact held.read await bytes
  case h_3 count left what await =>
    have running := held.awaiting await
    have guarded := held.guarded running
    have expects := held.expects _ await
    dsimp only at taken
    split at taken
    · split at taken
      · cases taken
        refine of_guarded running guarded fun b next => ?_
        cases next
        cases what <;> exact expects
      · split at taken
        · cases taken
          refine of_guarded running guarded fun b next => ?_
          cases next
          cases what <;> exact expects
        · cases taken
          refine settle (s := { s with written := s.written ++ left.take count }) running
            (ZmtpProtocolHandler.resumeWrite_polled guarded ?_)
          cases what <;> exact expects
    · cases taken
  case h_4 what await =>
    cases taken
    have running := held.awaiting await
    exact settle running
      (ZmtpProtocolHandler.resumeWrite_polled (held.guarded running) (held.expects _ await))
  case h_5 await =>
    cases taken
    have running := held.awaiting await
    have expects := held.expects _ await
    exact settle running
      (ZmtpProtocolHandler.securityRound_polled (held.guarded running) expects.1 expects.2)
  case h_6 await | h_7 await | h_8 await =>
    cases taken
    have running := held.awaiting await
    exact settle running (.fails (held.guarded running) _)
  case h_9 =>
    cases taken
    exact held.idle
  case h_10 =>
    split at taken
    · cases taken
    · rename_i free
      cases taken
      have running : s.currentPhase ≠ .shuttingDownStream := fun stopped => free (.inr stopped)
      have attached : Held config { s with attached := true, await := none } :=
        of_guarded running (held.guarded running) nofun
      dsimp only
      split
      · exact attached.checkComplete running
      · exact attached.checkOperational
  case h_11 =>
    cases taken
    exact shutDown held.done
  case h_12 => cases taken

/-- In every run of a session with security enabled, the handshake is done only past a mechanism or
on the ZMTP/2.0 path. -/
lemma held_of_reaches {isServer : Bool} {entropy} (secured : config.securityEnabled = true)
    (reached : Reaches step (fun _ _ => True) (new config isServer entropy) s) : Held config s := by
  refine reached.invariant (fun _ _ _ held _ taken => held.step secured taken) ?_
  exact .of_guarded nofun ⟨rfl, fun other => absurd rfl other, rfl⟩ nofun

end Session

end Rzmq
