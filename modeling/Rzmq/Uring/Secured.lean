import Rzmq.Security.NoiseSymbolic
import Rzmq.Session.Secured
import Rzmq.Uring.Handler

/-! An io_uring handler with security enabled enters its data phase only past a mechanism that the
configuration enables, or on the ZMTP/2.0 path; with the result on tokio sessions this is said of
both backends. -/

namespace Rzmq

open List Option Octet Curve Transition ZmtpUringHandler

def ZmtpHandlerPhase.beforeRevision : ZmtpHandlerPhase → Bool
  | .initial | .sendSignature | .waitPeerRevision => true
  | _ => false

namespace ZmtpUringHandler

variable {SK Key H T α : Type}

/-- `h'` differs from `h` in what the guard below does not look at past the peek of the revision. -/
structure Frame (h h' : ZmtpUringHandler SK Key H T α) : Prop where
  config : h'.config = h.config
  received : h'.received = h.received
  completed : h'.completed = h.completed
  mechanism : h'.securityMechanism = h.securityMechanism
  phase : h'.phase = h.phase

lemma Frame.refl (h : ZmtpUringHandler SK Key H T α) : Frame h h := ⟨rfl, rfl, rfl, rfl, rfl⟩

lemma Frame.trans {h h' h'' : ZmtpUringHandler SK Key H T α} (first : Frame h h')
    (second : Frame h' h'') : Frame h h'' :=
  ⟨second.config.trans first.config, second.received.trans first.received,
    second.completed.trans first.completed, second.mechanism.trans first.mechanism,
    second.phase.trans first.phase⟩

lemma Frame.setMechanism {h h'} (frame : Frame h h')
    (m : SecurityMechanism SK Key H T α) : Frame (h.setMechanism m) (h'.setMechanism m) :=
  ⟨frame.config, frame.received, frame.completed, rfl, frame.phase⟩

variable [Octet α]

def Behind (config : ZmtpEngineConfig SK α) (received : List α)
    (completed : Option (SecurityMechanism SK Key H T α)) (greeting accumulator : List α) :
    ZmtpHandlerPhase → Prop
  | .initial | .sendSignature | .waitPeerRevision => greeting ++ accumulator = received
  | .sendV3Tail | .waitV3Greeting | .securityExchange | .error | .closing | .closed => True
  | .sendV2Tail | .v2GreetingExchange | .v2SendIdentity | .v2WaitIdentity =>
    Downgraded config received
  | .readyClientSend | .readyClientWaitServer | .readyServerWaitClient | .readyServerSend =>
    Authenticated config completed
  | .dataPhase => Authenticated config completed ∨ Downgraded config received

structure Guarded (config : ZmtpEngineConfig SK α) (h : ZmtpUringHandler SK Key H T α) :
    Prop where
  same : h.config = config
  mechanism : ∀ m, h.securityMechanism = some m → m.kind ≠ .null ∧ config.enables m.kind = true
  behind : Behind config h.received h.completed h.greetingBuffer h.networkReadAccumulator h.phase

variable {config : ZmtpEngineConfig SK α} {h h' : ZmtpUringHandler SK Key H T α}
  {received greeting accumulator greeting' accumulator' : List α}
  {completed : Option (SecurityMechanism SK Key H T α)} {phase : ZmtpHandlerPhase}

section

variable (behind : Behind config received completed greeting accumulator phase)
include behind

lemma Behind.buffers (later : phase.beforeRevision = false) :
    Behind config received completed greeting' accumulator' phase := by
  cases phase with
  | initial | sendSignature | waitPeerRevision => cases later
  | _ => exact behind

lemma Behind.regroup (same : greeting' ++ accumulator' = greeting ++ accumulator) :
    Behind config received completed greeting' accumulator' phase := by
  cases phase with
  | initial | sendSignature | waitPeerRevision => exact same.trans behind
  | _ => exact behind

end

lemma Guarded.frame (guarded : Guarded config h)
    (later : h.phase.beforeRevision = false) (frame : Frame h h') :
    Guarded config h' := by
  refine ⟨frame.config.trans guarded.same, frame.mechanism ▸ guarded.mechanism, ?_⟩
  rw [frame.received, frame.completed, frame.phase]
  exact guarded.behind.buffers later

lemma Guarded.setPhase (guarded : Guarded config h)
    (behind : Behind config h.received h.completed h.greetingBuffer h.networkReadAccumulator
      phase) : Guarded config (h.setPhase phase) :=
  ⟨guarded.same, guarded.mechanism, behind⟩

lemma Guarded.transitionToError (guarded : Guarded config h) (f : Fault) :
    Guarded config (h.transitionToError f) := by
  have ⟨same, mechanism, behind⟩ := guarded
  unfold ZmtpUringHandler.transitionToError
  split
  · exact ⟨same, mechanism, behind⟩
  · exact ⟨same, mechanism, behind⟩
  · exact ⟨same, mechanism, trivial⟩
  · exact ⟨same, mechanism, trivial⟩

omit [Octet α] in
lemma fillGreeting_append (h : ZmtpUringHandler SK Key H T α) (len : Nat) :
    (h.fillGreeting len).greetingBuffer ++ (h.fillGreeting len).networkReadAccumulator =
      h.greetingBuffer ++ h.networkReadAccumulator := by
  simp [fillGreeting, take_append_drop]

lemma Guarded.fillGreeting (guarded : Guarded config h) (len : Nat) :
    Guarded config (h.fillGreeting len) :=
  ⟨guarded.same, guarded.mechanism, guarded.behind.regroup (h.fillGreeting_append len)⟩

/-! ## The arms of the loop -/

lemma Guarded.peekRound (guarded : Guarded config h) (waiting : h.phase = .waitPeerRevision) :
    Guarded config h.peekRound.1 := by
  have filled := guarded.fillGreeting (signatureLength + 1)
  have phase : (h.fillGreeting (signatureLength + 1)).phase = .waitPeerRevision := waiting
  have whole := filled.behind
  rw [phase] at whole
  unfold ZmtpUringHandler.peekRound
  dsimp only
  generalize h.fillGreeting (signatureLength + 1) = g at filled phase whole
  split
  · exact filled
  · rename_i long
    split
    · exact filled
    · rename_i revision peeked
      have kept : g.greetingBuffer.take (signatureLength + 1) =
          g.received.take (signatureLength + 1) := by
        rw [← whole, take_append_of_le_length (Nat.le_of_not_lt long)]
      rw [kept] at peeked
      split
      · rename_i v2
        subst v2
        split
        · exact filled
        · rename_i allowed
          split
          · exact filled
          · have downgraded : Downgraded config g.received := by
              refine ⟨?_, peekRevision_take peeked⟩
              rw [← filled.same]
              simpa using allowed
            exact ⟨filled.same, filled.mechanism, downgraded⟩
      · split
        · exact ⟨filled.same, filled.mechanism, trivial⟩
        · exact filled

lemma Guarded.v2GreetingRound (guarded : Guarded config h)
    (waiting : h.phase = .v2GreetingExchange) : Guarded config h.v2GreetingRound.1 := by
  have filled := guarded.fillGreeting v2GreetingLength
  have phase : (h.fillGreeting v2GreetingLength).phase = .v2GreetingExchange := waiting
  have downgraded := filled.behind
  rw [phase] at downgraded
  unfold ZmtpUringHandler.v2GreetingRound
  dsimp only
  generalize h.fillGreeting v2GreetingLength = g at filled phase downgraded
  split
  · exact filled
  · split
    · exact filled.frame (by rw [phase]; rfl) ⟨rfl, rfl, rfl, rfl, rfl⟩
    · exact ⟨filled.same, filled.mechanism, downgraded⟩

lemma Guarded.replace (guarded : Guarded config h) (exchange : h.phase = .securityExchange)
    {m m'} (current : h.securityMechanism = some m)
    (kind : m'.kind = m.kind) (frame : Frame (h.setMechanism m') h') :
    Guarded config h' ∧ h'.phase = .securityExchange ∧ h'.securityMechanism = some m' := by
  have replaced : Guarded config (h.setMechanism m') := by
    refine ⟨guarded.same, fun n held => ?_, guarded.behind⟩
    cases held
    rw [kind]
    exact guarded.mechanism m current
  have phase : (h.setMechanism m').phase = .securityExchange := exchange
  exact ⟨replaced.frame (by rw [phase]; rfl) frame, frame.phase.trans phase, frame.mechanism⟩

section Framer

variable [CryptoBox Key α] [SnowTransport T α]

lemma tryReadMsg_frame (h : ZmtpUringHandler SK Key H T α) : Frame h h.tryReadMsg.2 :=
  ⟨rfl, rfl, rfl, rfl, rfl⟩

lemma sendMsg_frame (h : ZmtpUringHandler SK Key H T α) (msg : Msg α) :
    Frame h (h.sendMsg msg).2 := by
  unfold sendMsg
  split <;> exact ⟨rfl, rfl, rfl, rfl, rfl⟩

lemma receiveReady_frame (h : ZmtpUringHandler SK Key H T α) (unexpected : String) :
    Frame h (h.receiveReady unexpected).2 := by
  have read := h.tryReadMsg_frame
  unfold receiveReady
  generalize h.tryReadMsg = p at read
  obtain ⟨result, h'⟩ := p
  match result with
  | .error e | .ok none => exact read
  | .ok (some msg) =>
    dsimp only
    split
    · exact read.trans ⟨rfl, rfl, rfl, rfl, rfl⟩
    · exact read

lemma Guarded.v2IdentityRound (guarded : Guarded config h)
    (waiting : h.phase = .v2WaitIdentity) : Guarded config h.v2IdentityRound.1 := by
  have downgraded := guarded.behind
  rw [waiting] at downgraded
  have frame := h.tryReadMsg_frame
  unfold ZmtpUringHandler.v2IdentityRound
  generalize h.tryReadMsg = p at frame
  obtain ⟨result, h'⟩ := p
  have kept := guarded.frame (by rw [waiting]; rfl) frame
  split
  · exact guarded
  · match result with
    | .error e | .ok none => exact kept
    | .ok (some msg) =>
      dsimp only
      split
      · exact kept
      · split
        · exact kept
        · split
          · exact kept
          · exact ⟨kept.same, kept.mechanism, .inr (frame.received ▸ downgraded)⟩

lemma Guarded.readyServerRound (guarded : Guarded config h)
    (waiting : h.phase = .readyServerWaitClient) : Guarded config h.readyServerRound.1 := by
  have authenticated := guarded.behind
  rw [waiting] at authenticated
  have frame := h.receiveReady_frame "S: Expected READY from client, got other/unparseable"
  unfold ZmtpUringHandler.readyServerRound
  generalize h.receiveReady _ = p at frame
  obtain ⟨result, h'⟩ := p
  have kept := guarded.frame (by rw [waiting]; rfl) frame
  split
  · exact guarded
  · match result with
    | .error e | .ok false => exact kept
    | .ok true =>
      have sent : Frame h' h'.sendReady.2 := h'.sendMsg_frame _
      dsimp only
      generalize h'.sendReady = q at sent
      obtain ⟨result, h''⟩ := q
      have kept' := guarded.frame (by rw [waiting]; rfl) (frame.trans sent)
      match result with
      | .error e => exact kept'
      | .ok () => exact kept'.setPhase ((frame.trans sent).completed ▸ authenticated)

lemma Guarded.readyClientRound (guarded : Guarded config h)
    (waiting : h.phase = .readyClientWaitServer) : Guarded config h.readyClientRound.1 := by
  have authenticated := guarded.behind
  rw [waiting] at authenticated
  have frame := h.receiveReady_frame "C: Expected READY from server, got other/unparseable"
  unfold ZmtpUringHandler.readyClientRound
  generalize h.receiveReady _ = p at frame
  obtain ⟨result, h'⟩ := p
  have kept := guarded.frame (by rw [waiting]; rfl) frame
  split
  · exact guarded
  · match result with
    | .error e | .ok false => exact kept
    | .ok true => exact ⟨kept.same, kept.mechanism, .inl (frame.completed ▸ authenticated)⟩

lemma dataRound_frame (h : ZmtpUringHandler SK Key H T α) : Frame h h.dataRound.1 := by
  have frame := h.tryReadMsg_frame
  unfold dataRound
  generalize h.tryReadMsg = p at frame
  obtain ⟨result, h'⟩ := p
  match result with
  | .error e | .ok none => exact frame
  | .ok (some msg) =>
    dsimp only
    split
    · exact frame.trans ⟨rfl, rfl, rfl, rfl, rfl⟩
    · split
      · exact frame
      · split
        · rename_i context ping
          have sent := h'.sendMsg_frame (ZmtpProtocolHandler.commandMsg (createPong context))
          generalize h'.sendMsg _ = q at sent
          obtain ⟨result, h''⟩ := q
          match result with
          | .error e | .ok () => exact frame.trans sent
        · exact frame
        · exact frame

end Framer

variable [CryptoBox Key α] [SnowTransport T α] [CurveSuite SK Key α] [SnowHandshake H T α]
  [DecidableEq α] {m : SecurityMechanism SK Key H T α}

omit [CryptoBox Key α] [SnowTransport T α] [CurveSuite SK Key α] [DecidableEq α] in
lemma Guarded.greetingRound (secured : config.securityEnabled = true)
    (guarded : Guarded config h) (waiting : h.phase = .waitV3Greeting) :
    Guarded config h.greetingRound.1 := by
  have filled := guarded.fillGreeting greetingLength
  have phase : (h.fillGreeting greetingLength).phase = .waitV3Greeting := waiting
  unfold ZmtpUringHandler.greetingRound
  dsimp only
  generalize h.fillGreeting greetingLength = g at filled phase
  have later : g.phase.beforeRevision = false := by rw [phase]; rfl
  split
  · exact filled
  · split
    · exact filled.frame later ⟨rfl, rfl, rfl, rfl, rfl⟩
    · exact filled.frame later ⟨rfl, rfl, rfl, rfl, rfl⟩
    · split
      · exact filled.frame later ⟨rfl, rfl, rfl, rfl, rfl⟩
      · split
        · exact filled.frame later ⟨rfl, rfl, rfl, rfl, rfl⟩
        · rename_i negotiated
          have enabled := negotiateSecurityMechanism_enabled negotiated
          rw [filled.same] at enabled
          refine ⟨filled.same, fun m current => ?_, trivial⟩
          cases current
          exact ⟨ZmtpEngineConfig.enables_ne_null secured enabled, enabled⟩

lemma produceAndSend_frame (h : ZmtpUringHandler SK Key H T α)
    (m : SecurityMechanism SK Key H T α) :
    Frame (h.setMechanism (h.produceAndSend m).2.1) (h.produceAndSend m).2.2 ∧
      (h.produceAndSend m).2.1.kind = m.kind := by
  have same := m.produceToken_kind
  unfold produceAndSend
  generalize m.produceToken = produced at same
  obtain ⟨result, m'⟩ := produced
  match result with
  | .error f | .ok none => exact ⟨.refl _, same⟩
  | .ok (some token) =>
    have sent := (h.setMechanism m').sendMsg_frame (ZmtpProtocolHandler.commandMsg token)
    dsimp only
    generalize (h.setMechanism m').sendMsg _ = q at sent
    obtain ⟨result, h'⟩ := q
    match result with
    | .error e | .ok () => exact ⟨sent, same⟩

lemma consumeToken_frame (current : h.securityMechanism = some m) :
    Frame (h.setMechanism (h.consumeToken m).2.1) (h.consumeToken m).2.2 ∧
      (h.consumeToken m).2.1.kind = m.kind := by
  have held : Frame (h.setMechanism m) h := ⟨rfl, rfl, rfl, current, rfl⟩
  have read := h.tryReadMsg_frame
  unfold consumeToken
  generalize h.tryReadMsg = p at read
  obtain ⟨result, h'⟩ := p
  split
  · exact ⟨held, rfl⟩
  · match result with
    | .error e | .ok none => exact ⟨held.trans read, rfl⟩
    | .ok (some msg) =>
      dsimp only
      split
      · exact ⟨held.trans read, rfl⟩
      · have same := m.processToken_kind msg.body
        generalize m.processToken msg.body = processed at same
        obtain ⟨result, m'⟩ := processed
        match result with
        | .error f => exact ⟨read.setMechanism m', same⟩
        | .ok _ =>
          have ⟨sent, same'⟩ := (h'.setMechanism m').produceAndSend_frame m'
          dsimp only
          generalize (h'.setMechanism m').produceAndSend m' = q at sent same'
          obtain ⟨result, m'', h''⟩ := q
          match result with
          | .error f | .ok _ => exact ⟨(read.setMechanism m'').trans sent, same'.trans same⟩

omit [SnowHandshake H T α] [DecidableEq α] in
lemma Guarded.leaveSecurityExchange (guarded : Guarded config h)
    (exchange : h.phase = .securityExchange) (current : h.securityMechanism = some m)
    (ready : m.status = .ready) : Guarded config (h.leaveSecurityExchange m).1 := by
  have ⟨kind, enabled⟩ := guarded.mechanism m current
  have authenticated : Authenticated config (some m) := ⟨m, rfl, kind, enabled, ready⟩
  have left : ∀ n : SecurityMechanism SK Key H T α, none = some n →
      n.kind ≠ .null ∧ config.enables n.kind = true := by
    intro n held
    cases held
  unfold ZmtpUringHandler.leaveSecurityExchange
  dsimp only
  split
  · exact ⟨guarded.same, left, by rw [exchange]; trivial⟩
  · split
    · exact ⟨guarded.same, left, authenticated⟩
    · generalize taken : ZmtpUringHandler.setPhase _ .readyClientSend = g
      have ready : Guarded config g := by
        rw [← taken]
        exact ⟨guarded.same, left, authenticated⟩
      have phase : g.phase = .readyClientSend := by rw [← taken]; rfl
      have sent : Frame g g.sendReady.2 := g.sendMsg_frame _
      generalize g.sendReady = q at sent
      obtain ⟨result, h'⟩ := q
      match result with
      | .error e | .ok () => exact ready.frame (by rw [phase]; rfl) sent

lemma Guarded.securityRound (guarded : Guarded config h)
    (exchange : h.phase = .securityExchange) : Guarded config h.securityRound.1 := by
  unfold ZmtpUringHandler.securityRound
  split
  · exact guarded
  · rename_i m current
    split
    · rename_i ready
      exact guarded.leaveSecurityExchange exchange current ready
    · have ⟨frame, kind⟩ := h.produceAndSend_frame m
      generalize h.produceAndSend m = p at frame kind
      obtain ⟨result, m', h'⟩ := p
      have ⟨guarded', exchange', current'⟩ := guarded.replace exchange current kind frame
      match result with
      | .error f => exact guarded'
      | .ok produced =>
        have ⟨frame', kind'⟩ := consumeToken_frame current'
        dsimp only
        generalize h'.consumeToken m' = q at frame' kind'
        obtain ⟨result, m'', h''⟩ := q
        have ⟨guarded'', exchange'', current''⟩ :=
          guarded'.replace exchange' current' kind' frame'
        match result with
        | .error f => exact guarded''
        | .ok consumed =>
          dsimp only
          split
          · rename_i ready
            exact guarded''.leaveSecurityExchange exchange'' current'' ready
          · split
            · exact guarded''
            · split <;> exact guarded''

/-! ## The steps -/

lemma Guarded.round (secured : config.securityEnabled = true) (guarded : Guarded config h) :
    Guarded config h.round.1 := by
  unfold ZmtpUringHandler.round
  split
  case h_11 phase => exact guarded.peekRound phase
  case h_12 phase => exact guarded.greetingRound secured phase
  case h_13 phase => exact guarded.v2GreetingRound phase
  case h_14 phase => exact guarded.v2IdentityRound phase
  case h_15 phase => exact guarded.securityRound phase
  case h_16 phase => exact guarded.readyServerRound phase
  case h_17 phase => exact guarded.readyClientRound phase
  case h_18 phase => exact guarded.frame (by rw [phase]; rfl) h.dataRound_frame
  all_goals exact guarded

lemma Guarded.runRound (secured : config.securityEnabled = true) (guarded : Guarded config h) :
    Guarded config h.runRound := by
  have after := guarded.round secured
  unfold ZmtpUringHandler.runRound
  generalize h.round = p at after
  obtain ⟨h', result⟩ := p
  match result with
  | .fail f => exact after.transitionToError f
  | .stop => exact ⟨after.same, after.mechanism, after.behind⟩
  | .next progress =>
    dsimp only
    split
    · exact ⟨after.same, after.mechanism, after.behind⟩
    · exact after

omit [CryptoBox Key α] [SnowTransport T α] [CurveSuite SK Key α] [SnowHandshake H T α]
  [DecidableEq α] in
variable {completed : Option (SecurityMechanism SK Key H T α)}
  {received greeting accumulator : List α} {phase : ZmtpHandlerPhase}

omit [CryptoBox Key α] [SnowTransport T α] [CurveSuite SK Key α] [SnowHandshake H T α]
  [DecidableEq α] in
lemma Behind.acknowledged (behind : Behind config received completed greeting accumulator phase) :
    Behind config received completed greeting accumulator (acknowledged phase) := by
  cases phase with
  | readyServerSend => exact .inl behind
  | _ => exact behind

omit [CryptoBox Key α] [SnowTransport T α] [CurveSuite SK Key α] [SnowHandshake H T α]
  [DecidableEq α] in
lemma Behind.read (behind : Behind config received completed greeting accumulator phase)
    (bytes : List α) :
    Behind config (received ++ bytes) completed greeting (accumulator ++ bytes) phase := by
  cases phase with
  | initial | sendSignature | waitPeerRevision =>
    have whole : greeting ++ accumulator = received := behind
    simp [Behind, ← whole]
  | sendV2Tail | v2GreetingExchange | v2SendIdentity | v2WaitIdentity =>
    exact Downgraded.append behind bytes
  | dataPhase => exact behind.imp_right (Downgraded.append · bytes)
  | _ => exact behind

lemma Guarded.step (secured : config.securityEnabled = true) (guarded : Guarded config h)
    {a} (taken : h.step a = some h') : Guarded config h' := by
  have ⟨same, mechanism, behind⟩ := guarded
  unfold ZmtpUringHandler.step at taken
  split at taken
  case h_1 =>
    split at taken
    · rename_i phase
      cases taken
      rw [phase] at behind
      exact ⟨same, mechanism, behind⟩
    · cases taken
  case h_2 bytes _ =>
    split at taken
    · cases taken
      have ended := guarded.transitionToError (.error .connectionClosed)
      exact ⟨ended.same, ended.mechanism, ended.behind⟩
    · cases taken
      exact ⟨same, mechanism, behind.read bytes⟩
  case h_3 =>
    cases taken
    split <;> exact ⟨same, mechanism, behind.acknowledged⟩
  case h_4 e _ =>
    cases taken
    exact guarded.transitionToError _
  case h_5 =>
    cases taken
    exact guarded.runRound secured
  case h_6 =>
    split at taken
    · cases taken
    · cases taken
      exact guarded.transitionToError _
  case h_7 | h_8 =>
    cases taken
    exact guarded.setPhase trivial
  case h_9 => cases taken

lemma guarded_of_reaches {isServer : Bool} {entropy} (secured : config.securityEnabled = true)
    (reached : Reaches step (fun _ _ => True) (new config isServer entropy) h) :
    Guarded config h := by
  refine reached.invariant (fun _ _ _ guarded _ taken => guarded.step secured taken) ?_
  refine ⟨rfl, fun m held => ?_, rfl⟩
  cases held

end ZmtpUringHandler

/-! ## Both backends -/

section Backends

variable {SK Key H T α : Type} [Octet α] [CryptoBox Key α] [SnowTransport T α]
  [CurveSuite SK Key α] [SnowHandshake H T α] [DecidableEq α]

/-- With security enabled, either backend is past the handshake only when an enabled mechanism other
than NULL has become ready, or when the peer has announced ZMTP/2.0 and that is allowed. -/
theorem data_phase_secured (config : ZmtpEngineConfig SK α) (isServer : Bool)
    (entropy : Entropy SK) (secured : config.securityEnabled = true) :
    (∀ s : Session SK Key H T α,
      Reaches Session.step (fun _ _ => True) (.new config isServer entropy) s →
      s.handler.subPhase = .done →
      Authenticated config s.handler.completed ∨ Downgraded config s.received) ∧
    (∀ h : ZmtpUringHandler SK Key H T α,
      Reaches step (fun _ _ => True) (.new config isServer entropy) h →
      h.phase = .dataPhase →
      Authenticated config h.completed ∨ Downgraded config h.received) := by
  constructor
  · intro s reached done
    exact (Session.held_of_reaches secured reached).done done
  · intro h reached phase
    have behind := (guarded_of_reaches secured reached).behind
    rwa [phase] at behind

end Backends

open Noise

def plainConfig (allowZmtp2 : Bool) : ZmtpEngineConfig NoKey Symbol :=
  { clearConfig "PULL" none with
    securityEnabled := true
    usePlain := true
    plainUsername := some "user"
    plainPassword := some "password"
    allowZmtp2 }

def plainSession (isServer allowZmtp2 : Bool) :
    Session NoKey NoKey Handshake Transport Symbol :=
  .new (plainConfig allowZmtp2) isServer ⟨⟨⟩, 0⟩

def plainHandler (isServer allowZmtp2 : Bool) :
    ZmtpUringHandler NoKey NoKey Handshake Transport Symbol :=
  .new (plainConfig allowZmtp2) isServer ⟨⟨⟩, 0⟩

def plainPeer : List Symbol × List Symbol × List Symbol :=
  (encodeSignature ++ bytes [greetingVersionMajorByte] ++
      encodeV3TailPostMajor MechanismKind.plain.nameBytes false,
    ZmtpProtocolHandler.commandFrame (bytes
      (5 :: utf8 "HELLO" ++ PlainMechanism.createHelloBody (utf8 "user") (utf8 "password"))),
    ZmtpProtocolHandler.commandFrame (readyBody [(utf8 "Socket-Type", bytes (utf8 "PUSH"))]))

/-- What a PUSH peer sends that knows only ZMTP/2.0: its greeting and an empty identity. -/
def v2Peer : List Symbol := bytes ([0xFF, 0, 0, 0, 0, 0, 0, 0, 0, 0x7F, 0x01, 0x08] ++ [0, 0])

theorem data_phase_secured_plain : (plainConfig false).securityEnabled = true ∧
    (∃ s, Reaches Session.step (fun _ _ => True) (plainSession true false) s ∧
      s.handler.subPhase = .done ∧
      (Authenticated (plainConfig false) s.handler.completed ∨
        Downgraded (plainConfig false) s.received)) ∧
    (∃ h, Reaches step (fun _ _ => True) (plainHandler true false) h ∧
      h.phase = .dataPhase ∧
      (Authenticated (plainConfig false) h.completed ∨
        Downgraded (plainConfig false) h.received)) := by
  have sessionDone : (run Session.step (plainSession true false)
      [.poll, .write 11, .flush, .poll, .read plainPeer.1, .write 53, .flush, .poll, .poll,
        .read plainPeer.2.1, .write 10, .poll, .read plainPeer.2.2, .poll, .write 28]).map
      (·.handler.subPhase) = some .done := by decide +kernel
  have handlerDone : (run step (plainHandler true false)
      [.connectionReady, .completion, .ringRead plainPeer.1, .round, .round, .completion, .round,
        .round, .ringRead plainPeer.2.1, .round, .round, .ringRead plainPeer.2.2, .round, .round,
        .completion]).map (·.phase) = some .dataPhase := by decide +kernel
  obtain ⟨s, ran, done⟩ := map_eq_some_iff.mp sessionDone
  obtain ⟨h, ran', phase⟩ := map_eq_some_iff.mp handlerDone
  have reached := reaches_of_run _ (fun _ _ _ => trivial) ran
  have reached' := reaches_of_run _ (fun _ _ _ => trivial) ran'
  have guarded := data_phase_secured (H := Handshake) (plainConfig false) true ⟨⟨⟩, 0⟩ rfl
  exact ⟨rfl, ⟨s, reached, done, guarded.1 s reached done⟩,
    ⟨h, reached', phase, guarded.2 h reached' phase⟩⟩

/-- A peer that knows no password gets past the handshake of a client of either backend by
announcing ZMTP/2.0. -/
theorem v2_peer_not_authenticated : (plainConfig true).securityEnabled = true ∧
    (∃ s, Reaches Session.step (fun _ _ => True) (plainSession false true) s ∧
      s.handler.subPhase = .done ∧ ¬ Authenticated (plainConfig true) s.handler.completed) ∧
    (∃ h, Reaches step (fun _ _ => True) (plainHandler false true) h ∧
      h.phase = .dataPhase ∧ ¬ Authenticated (plainConfig true) h.completed) := by
  have none {completed : Option (SecurityMechanism NoKey NoKey Handshake Transport Symbol)}
      (absent : completed.isNone = true) : ¬ Authenticated (plainConfig true) completed := by
    rintro ⟨m, present, _⟩
    rw [present] at absent
    cases absent
  have sessionDone : (run Session.step (plainSession false true)
      [.poll, .write 11, .flush, .poll, .read v2Peer, .write 1, .flush, .poll, .write 2,
        .flush]).map (fun s => (s.handler.subPhase, s.handler.completed.isNone)) =
      some (.done, true) := by rfl
  have handlerDone : (run step (plainHandler false true)
      [.connectionReady, .completion, .ringRead v2Peer, .round, .round, .completion, .round,
        .round, .completion, .round]).map (fun h => (h.phase, h.completed.isNone)) =
      some (.dataPhase, true) := by rfl
  obtain ⟨s, ran, done⟩ := map_eq_some_iff.mp sessionDone
  obtain ⟨h, ran', phase⟩ := map_eq_some_iff.mp handlerDone
  obtain ⟨done, absent⟩ := Prod.mk.inj done
  obtain ⟨phase, absent'⟩ := Prod.mk.inj phase
  exact ⟨rfl, ⟨s, reaches_of_run _ (fun _ _ _ => trivial) ran, done, none absent⟩,
    ⟨h, reaches_of_run _ (fun _ _ _ => trivial) ran', phase, none absent'⟩⟩

end Rzmq
