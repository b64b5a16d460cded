import Rzmq.Security.PlainRun
import Rzmq.Session.Stream

/-! Where the identity that a session reports comes from.  Two sessions whose configurations differ
in what they say of themselves, and that hear the same bytes, are compared step by step: only a
PLAIN client takes its own user name for the identity of a peer that gives none. -/

namespace Rzmq

open Octet Curve Transition Frame

variable {SK Key H T α : Type}

/-- The configurations differ at most in the user name, the password and the routing id. -/
def ZmtpEngineConfig.Alike (c c' : ZmtpEngineConfig SK α) : Prop :=
  c' = { c with
    routingId := c'.routingId
    plainUsername := c'.plainUsername
    plainPassword := c'.plainPassword }

/-! ### The mechanisms -/

/-- Two PLAIN mechanisms in the same state.  A client has the user name of its configuration, and a
server that of its peer. -/
structure PlainMechanism.Alike (c c' : ZmtpEngineConfig SK α) (isServer : Bool)
    (m m' : PlainMechanism) : Prop where
  role : m.isServer = isServer
  role' : m'.isServer = isServer
  state : m'.state = m.state
  client : isServer = false →
    m.username = c.plainUsername.map utf8 ∧ m'.username = c'.plainUsername.map utf8
  server : isServer = true → m'.username = m.username

inductive SecurityMechanism.Alike (c c' : ZmtpEngineConfig SK α) (isServer : Bool) :
    SecurityMechanism SK Key H T α → SecurityMechanism SK Key H T α → Prop where
  | same (other : m.kind ≠ .plain) : Alike c c' isServer m m
  | plain (alike : m.Alike c c' isServer m') : Alike c c' isServer (.plain m) (.plain m')

namespace PlainMechanism

variable {c c' : ZmtpEngineConfig SK α} {isServer : Bool} {m m' : PlainMechanism}

lemma initializePlain_alike (isServer : Bool) :
    Alike c c' isServer (initializePlain isServer c.plainUsername c.plainPassword)
      (initializePlain isServer c'.plainUsername c'.plainPassword) := by
  cases isServer with
  | true => exact ⟨rfl, rfl, rfl, (Bool.noConfusion ·), fun _ => rfl⟩
  | false => exact ⟨rfl, rfl, rfl, fun _ => ⟨rfl, rfl⟩, (Bool.noConfusion ·)⟩

lemma IsHello.unique {token user pass user' pass'}
    (hello : IsHello token user pass) (hello' : IsHello token user' pass') :
    user = user' ∧ pass = pass' := by
  obtain ⟨short, short', trailing, rfl⟩ := hello
  obtain ⟨long, long', trailing', same⟩ := hello'
  have parsed := parseHelloBody_body short short' trailing
  rw [List.append_cancel_left same, parseHelloBody_body long long' trailing'] at parsed
  cases parsed
  exact ⟨rfl, rfl⟩

lemma Alike.produce (alike : Alike c c' isServer m m') :
    ∃ token token' n n', produceToken m = .ok token n ∧ produceToken m' = .ok token' n' ∧
      token.isSome = token'.isSome ∧ Alike c c' isServer n n' := by
  by_cases hello : m.state = .clientSendHello
  · exact ⟨_, _, _, _, produceToken_hello hello, produceToken_hello (alike.state.trans hello), rfl,
      alike.role, alike.role', rfl, alike.client, alike.server⟩
  · by_cases welcome : m.state = .serverSendWelcome
    · exact ⟨_, _, _, _, produceToken_welcome welcome,
        produceToken_welcome (alike.state.trans welcome), rfl, alike.role, alike.role', rfl,
        alike.client, alike.server⟩
    · exact ⟨_, _, _, _, produceToken_idle hello welcome, produceToken_idle
        (alike.state ▸ hello) (alike.state ▸ welcome), rfl, alike⟩

lemma Alike.process (alike : Alike c c' isServer m m') (token) :
    (∃ e n, processToken token m = .error e n) ∨ (∃ e n, processToken token m' = .error e n) ∨
    ∃ action n n', processToken token m = .ok action n ∧ processToken token m' = .ok action n' ∧
      Alike c c' isServer n n' := by
  cases isServer with
  | true =>
    obtain ⟨user, pass, -, hello, -, -, done⟩ | ⟨e, reason, failed⟩ :=
      processToken_server alike.role token
    · obtain ⟨user', pass', -, hello', -, -, done'⟩ | ⟨e, reason, failed⟩ :=
        processToken_server alike.role' token
      · obtain ⟨rfl, rfl⟩ := hello.unique hello'
        exact .inr (.inr ⟨_, _, _, done, done', alike.role, alike.role', rfl, nofun, fun _ => rfl⟩)
      · exact .inr (.inl ⟨_, _, failed⟩)
    · exact .inl ⟨_, _, failed⟩
  | false =>
    obtain ⟨-, done⟩ | ⟨e, reason, failed⟩ := processToken_client alike.role token
    · obtain ⟨-, done'⟩ | ⟨e, reason, failed⟩ := processToken_client alike.role' token
      · exact .inr (.inr ⟨_, _, _, done, done', alike.role, alike.role', rfl, alike.client,
          alike.server⟩)
      · exact .inr (.inl ⟨_, _, failed⟩)
    · exact .inl ⟨_, _, failed⟩

end PlainMechanism

namespace SecurityMechanism

variable {c c' : ZmtpEngineConfig SK α} {isServer : Bool}
  {m m' : SecurityMechanism SK Key H T α}

lemma Alike.kind (alike : Alike c c' isServer m m') : m'.kind = m.kind := by
  cases alike <;> rfl

lemma Alike.status (alike : Alike c c' isServer m m') : m'.status = m.status := by
  cases alike with
  | same => rfl
  | plain alike =>
    show PlainMechanism.status _ = PlainMechanism.status _
    rw [PlainMechanism.status, PlainMechanism.status, alike.state]

variable [Octet α] [CryptoBox Key α] [CurveSuite SK Key α] [SnowHandshake H T α] [DecidableEq α]

lemma Alike.produce (alike : Alike c c' isServer m m') : (∃ f n, m.produceToken = (.error f, n)) ∨
    ∃ token token' n n', m.produceToken = (.ok token, n) ∧ m'.produceToken = (.ok token', n') ∧
      token.isSome = token'.isSome ∧ Alike c c' isServer n n' := by
  cases alike with
  | same other =>
    have kept := m.produceToken_kind
    match answer : m.produceToken with
    | (.error f, n) => exact .inl ⟨f, n, rfl⟩
    | (.ok token, n) =>
      rw [answer] at kept
      exact .inr ⟨token, token, n, n, rfl, rfl, rfl, .same (by rw [kept]; exact other)⟩
  | plain alike =>
    obtain ⟨token, token', n, n', produced, produced', same, next⟩ := alike.produce
    refine .inr ⟨token.map bytes, token'.map bytes, .plain n, .plain n', ?_, ?_, ?_, .plain next⟩
    · simp [produceToken, lift, Functor.map, EStateM.map, produced]
    · simp [produceToken, lift, Functor.map, EStateM.map, produced']
    · simpa using same

lemma Alike.process (alike : Alike c c' isServer m m') (token : List α) :
    (∃ f n, m.processToken token = (.error f, n)) ∨
    (∃ f n, m'.processToken token = (.error f, n)) ∨
    ∃ action n n', m.processToken token = (.ok action, n) ∧
      m'.processToken token = (.ok action, n') ∧ Alike c c' isServer n n' := by
  cases alike with
  | same other =>
    have kept := m.processToken_kind token
    match answer : m.processToken token with
    | (.error f, n) => exact .inl ⟨f, n, rfl⟩
    | (.ok action, n) =>
      rw [answer] at kept
      exact .inr (.inr ⟨action, n, n, rfl, rfl, .same (by rw [kept]; exact other)⟩)
  | plain alike =>
    obtain ⟨f, n, failed⟩ | ⟨f, n, failed⟩ | ⟨action, n, n', done, done', next⟩ :=
      alike.process (reading token)
    · refine .inl ⟨f, .plain n, ?_⟩
      simp [processToken, lift, failed]
    · refine .inr (.inl ⟨f, .plain n, ?_⟩)
      simp [processToken, lift, failed]
    · refine .inr (.inr ⟨action, .plain n, .plain n', ?_, ?_, .plain next⟩)
      · simp [processToken, lift, done]
      · simp [processToken, lift, done']

omit [CryptoBox Key α] [SnowHandshake H T α] [DecidableEq α] in
/-- Both become framers with the same identity, or are PLAIN clients with their own user names. -/
lemma Alike.finalize (alike : Alike c c' isServer m m') (maxMsgSize : Int) :
    (∃ e, m.intoFramer maxMsgSize = .error e) ∨
    ∃ framer framer' id id', m.intoFramer maxMsgSize = .ok (framer, id) ∧
      m'.intoFramer maxMsgSize = .ok (framer', id') ∧
      (id = id' ∧ (isServer = true ∨ ∀ n, m ≠ .plain n) ∨
        ∃ n, m = .plain n ∧ isServer = false ∧ id = c.plainUsername.map (bytes ∘ utf8) ∧
          id' = c'.plainUsername.map (bytes ∘ utf8)) := by
  have status := alike.status
  cases alike with
  | same other =>
    match answer : m.intoFramer maxMsgSize with
    | .error e => exact .inl ⟨e, rfl⟩
    | .ok (framer, id) =>
      refine .inr ⟨framer, framer, id, id, rfl, rfl, .inl ⟨rfl, .inr fun n plain => ?_⟩⟩
      rw [plain] at other
      exact absurd rfl other
  | @plain n n' alike =>
    simp only [intoFramer]
    change n'.status = n.status at status
    rw [status]
    split
    · exact .inl ⟨_, rfl⟩
    · refine .inr ⟨_, _, _, _, rfl, rfl, ?_⟩
      cases isServer with
      | true => exact .inl ⟨by rw [alike.server rfl], .inl rfl⟩
      | false =>
        obtain ⟨own, own'⟩ := alike.client rfl
        refine .inr ⟨n, rfl, rfl, ?_, ?_⟩
        · rw [own, Option.map_map]
        · rw [own', Option.map_map]

omit [Octet α] [CryptoBox Key α] [CurveSuite SK Key α] [DecidableEq α] in
lemma negotiate_alike (configs : c.Alike c') (isServer : Bool) (greeting : ZmtpGreeting)
    (entropy) :
    (∃ e, (negotiateSecurityMechanism isServer c greeting entropy :
      Except ZmqError (SecurityMechanism SK Key H T α)) = .error e) ∨
    ∃ n n' : SecurityMechanism SK Key H T α,
      negotiateSecurityMechanism isServer c greeting entropy = .ok n ∧
      negotiateSecurityMechanism isServer c' greeting entropy = .ok n' ∧
      Alike c c' isServer n n' := by
  unfold negotiateSecurityMechanism
  cases knownMechanisms.find? (·.nameBytes = greeting.mechanism) with
  | none => exact .inl ⟨_, rfl⟩
  | some kind =>
    have enables : c'.enables kind = c.enables kind := by
      rw [configs]
      cases kind <;> rfl
    dsimp only
    rw [enables]
    split
    · cases kind with
      | plain => exact .inr ⟨_, _, rfl, rfl, .plain (PlainMechanism.initializePlain_alike isServer)⟩
      | null => exact .inr ⟨_, _, rfl, rfl, .same nofun⟩
      | curve =>
        have same : initializer .curve isServer c' entropy =
            (initializer .curve isServer c entropy :
              Except ZmqError (SecurityMechanism SK Key H T α)) := by
          rw [configs]
          rfl
        rw [same]
        match answer : (initializer .curve isServer c entropy :
            Except ZmqError (SecurityMechanism SK Key H T α)) with
        | .error e => exact .inl ⟨e, rfl⟩
        | .ok n =>
          exact .inr ⟨n, n, rfl, rfl, .same (by rw [initializer_kind answer]; nofun)⟩
      | noiseXx =>
        have same : initializer .noiseXx isServer c' entropy =
            (initializer .noiseXx isServer c entropy :
              Except ZmqError (SecurityMechanism SK Key H T α)) := by
          rw [configs]
          rfl
        rw [same]
        match answer : (initializer .noiseXx isServer c entropy :
            Except ZmqError (SecurityMechanism SK Key H T α)) with
        | .error e => exact .inl ⟨e, rfl⟩
        | .ok n =>
          exact .inr ⟨n, n, rfl, rfl, .same (by rw [initializer_kind answer]; nofun)⟩
    · exact .inl ⟨_, rfl⟩

end SecurityMechanism

/-! ### The handlers -/

def HandshakeWrite.phase : HandshakeWrite → HandshakeSubPhase
  | .signature => .greetingExchange
  | .v2Tail | .v3Tail => .waitingForPeerRevision
  | .token => .securityHandshake
  | .clientReady => .readyExchange
  | .serverReady => .serverReceivedReady
  | .v2Identity => .v2IdentityExchange

def HandshakeSubPhase.Past (phase : HandshakeSubPhase) : Prop :=
  phase = .readyExchange ∨ phase = .clientSentReady ∨ phase = .serverReceivedReady ∨ phase = .done

namespace ZmtpProtocolHandler

def swap (h : ZmtpProtocolHandler SK Key H T α) (config : ZmtpEngineConfig SK α)
    (securityMechanism : SecurityMechanism SK Key H T α) (framer : SecureFramer Key T α)
    (completed : Option (SecurityMechanism SK Key H T α)) : ZmtpProtocolHandler SK Key H T α :=
  { h with config, securityMechanism, framer, completed }

variable (c c' : ZmtpEngineConfig SK α)

/-- What the two have noted of the identity of their peer: nothing, the same, or each its own user
name. -/
inductive Noted (h : ZmtpProtocolHandler SK Key H T α) [Octet α] :
    Option (List α) → Option (List α) → Prop where
  | nothing (before : h.completed = none) : Noted h none none
  | same (past : h.subPhase.Past)
      (other : h.isServer = true ∨ ∀ m, h.completed ≠ some (.plain m)) : Noted h seen seen
  | own (past : h.subPhase.Past) (client : h.isServer = false)
      (completed : h.completed = some (.plain m)) :
      Noted h (c.plainUsername.map (bytes ∘ utf8)) (c'.plainUsername.map (bytes ∘ utf8))

structure Alike [Octet α] (h : ZmtpProtocolHandler SK Key H T α) (seen : Option (List α))
    (h' : ZmtpProtocolHandler SK Key H T α) (seen' : Option (List α)) : Prop where
  config : h.config = c
  twin : ∃ m f k, h' = h.swap c' m f k ∧
    SecurityMechanism.Alike c c' h.isServer h.securityMechanism m
  noted : Noted c c' h seen seen'

/-- What comes of two calls: one of them fails, or both wait for the same or return the same. -/
inductive Matches [Octet α] : ZmtpProtocolHandler SK Key H T α × Poll α → Option (List α) →
    ZmtpProtocolHandler SK Key H T α × Poll α → Option (List α) → Prop where
  | left : Matches (h, .ready (.error f)) seen p seen'
  | right : Matches p seen (h, .ready (.error f)) seen'
  | reads :
      Matches (h, .pending (.read what)) seen (h', .pending (.read what')) seen'
  | writes (alike : h.Alike c c' seen h' seen')
      (place : h.subPhase = what.phase) :
      Matches (h, .pending (.write left what)) seen (h', .pending (.write left' what)) seen'
  | again (alike : h.Alike c c' seen h' seen')
      (place : h.subPhase = .securityHandshake) :
      Matches (h, .pending .again) seen (h', .pending .again) seen'
  | returns (alike : h.Alike c c' (progress.noted seen) h' (progress'.noted seen'))
      (going : h.subPhase ≠ .done) :
      Matches (h, .ready (.ok progress)) seen (h', .ready (.ok progress')) seen'
  | ends (alike : h.Alike c c' seen h' seen')
      (done : h.subPhase = .done)
      : Matches (h, .ready (.ok progress)) seen (h', .ready (.ok progress)) seen'

section Swap

variable {c' : ZmtpEngineConfig SK α} {h : ZmtpProtocolHandler SK Key H T α}
  {m : SecurityMechanism SK Key H T α} {f : SecureFramer Key T α}
  {k : Option (SecurityMechanism SK Key H T α)} [Octet α]

lemma swap_waitForPeerRevision (configs : h.config.Alike c') :
    (h.swap c' m f k).waitForPeerRevision = h.waitForPeerRevision := by
  obtain ⟨r, u, p, rfl⟩ : ∃ r u p, c' = { h.config with
      routingId := r, plainUsername := u, plainPassword := p } := ⟨_, _, _, configs⟩
  rfl

lemma swap_receiveGreeting : (h.swap c' m f k).receiveGreeting =
    (h.receiveGreeting.1.swap c' m f k, h.receiveGreeting.2) := by
  by_cases short : h.networkReadBuffer.length < greetingLength
  · simp [receiveGreeting, swap, short]
  · simp only [receiveGreeting, swap, short, if_false]
    rcases (ZmtpGreeting.decode h.networkReadBuffer).1 with e | _ | greeting
    · rfl
    · rfl
    · by_cases old : greeting.version.1 < 3
      · simp [old]
      · simp [old]

lemma swap_exchangeV2Identity (configs : h.config.Alike c') : (h.swap c' m f k).exchangeV2Identity =
      (h.exchangeV2Identity.1.swap c' m f k, h.exchangeV2Identity.2) := by
  obtain ⟨r, u, p, rfl⟩ : ∃ r u p, c' = { h.config with
      routingId := r, plainUsername := u, plainPassword := p } := ⟨_, _, _, configs⟩
  by_cases short : h.networkReadBuffer.length < v2GreetingLength
  · simp [exchangeV2Identity, swap, short]
  · simp only [exchangeV2Identity, swap, short, if_false]
    cases validateV2SocketTypeCompat h.config.socketTypeName
      ((reading h.networkReadBuffer).getD 11 0) with
    | error e | ok name => rfl

lemma swap_readFrame :
    (h.swap c' m f k).readFrame = (h.readFrame.1, h.readFrame.2.swap c' m f k) := by
  by_cases empty : h.networkReadBuffer.isEmpty = true
  · simp [readFrame, swap, empty]
  · simp [readFrame, swap, empty]

lemma swap_readV2IdentityFrame : (h.swap c' m f k).readV2IdentityFrame =
    (h.readV2IdentityFrame.1.swap c' m f k, h.readV2IdentityFrame.2) := by
  rw [readV2IdentityFrame_readFrame, readV2IdentityFrame_readFrame, swap_readFrame]
  match h.readFrame with
  | (.error e, g) | (.ok none, g) => rfl
  | (.ok (some msg), g) =>
    dsimp only
    cases enforceV2IdentityConstraints msg <;> rfl

lemma swap_receivePeerReady : (h.swap c' m f k).receivePeerReady =
    (h.receivePeerReady.1, h.receivePeerReady.2.swap c' m f k) := by
  unfold receivePeerReady
  rw [readHandshakeCommandFrame_readFrame, readHandshakeCommandFrame_readFrame, swap_readFrame]
  match commandOnly h.readFrame.1 with
  | .error e | .ok none => rfl
  | .ok (some msg) =>
    dsimp only
    cases ZmtpCommand.parse msg with
    | none => rfl
    | some command => cases command <;> rfl

end Swap

/-! ### The calls of both -/

section Matches

variable {c c' : ZmtpEngineConfig SK α} {h h' g : ZmtpProtocolHandler SK Key H T α}
  {seen seen' : Option (List α)}

structure Spares (h g : ZmtpProtocolHandler SK Key H T α) : Prop where
  config : g.config = h.config
  role : g.isServer = h.isServer
  mechanism : g.securityMechanism = h.securityMechanism
  completed : g.completed = h.completed
  past : h.subPhase.Past → g.subPhase.Past

variable [Octet α]

lemma Noted.spared (noted : Noted c c' h seen seen') (spares : Spares h g) :
    Noted c c' g seen seen' := by
  cases noted with
  | nothing before => exact .nothing (spares.completed.trans before)
  | same past other =>
    refine .same (spares.past past) ?_
    rw [spares.role, spares.completed]
    exact other
  | own past client completed =>
    exact .own (spares.past past) (spares.role.trans client) (spares.completed.trans completed)

lemma readFrame_spares (h : ZmtpProtocolHandler SK Key H T α) : Spares h h.readFrame.2 := by
  unfold readFrame
  split <;> exact ⟨rfl, rfl, rfl, rfl, id⟩

lemma receivePeerReady_spares (h : ZmtpProtocolHandler SK Key H T α) :
    Spares h h.receivePeerReady.2 ∧ h.receivePeerReady.2.subPhase = h.subPhase := by
  have spares := readFrame_spares h
  have phase := readFrame_phase h
  unfold receivePeerReady
  rw [readHandshakeCommandFrame_readFrame]
  match commandOnly h.readFrame.1 with
  | .error e | .ok none => exact ⟨spares, phase⟩
  | .ok (some msg) =>
    dsimp only
    split
    · exact ⟨⟨spares.config, spares.role, spares.mechanism, spares.completed, spares.past⟩, phase⟩
    · exact ⟨spares, phase⟩

lemma Alike.spared {m f k} (alike : h.Alike c c' seen (h.swap c' m f k) seen')
    (mechanisms : SecurityMechanism.Alike c c' h.isServer h.securityMechanism m)
    (spares : Spares h g) : g.Alike c c' seen (g.swap c' m f k) seen' := by
  refine ⟨spares.config.trans alike.config, ⟨m, f, k, rfl, ?_⟩, alike.noted.spared spares⟩
  rw [spares.role, spares.mechanism]
  exact mechanisms

lemma Alike.mechanisms (alike : h.Alike c c' seen h' seen') :
    SecurityMechanism.Alike c c' h.isServer h.securityMechanism h'.securityMechanism := by
  obtain ⟨m, f, k, rfl, mechanisms⟩ := alike.twin
  exact mechanisms

lemma Alike.set (alike : h.Alike c c' seen h' seen') {n n'}
    (mechanisms : SecurityMechanism.Alike c c' h.isServer n n') :
    (h.setMechanism n).Alike c c' seen (h'.setMechanism n') seen' := by
  obtain ⟨m, f, k, rfl, -⟩ := alike.twin
  refine ⟨alike.config, ⟨n', f, k, rfl, mechanisms⟩, ?_⟩
  cases alike.noted with
  | nothing before => exact .nothing before
  | same past other => exact .same past other
  | own past client completed => exact .own past client completed

lemma waitForPeerRevision_matches (configs : c.Alike c') (alike : h.Alike c c' seen h' seen')
    (phase : h.subPhase = .waitingForPeerRevision) :
    Matches c c' (h, h.waitForPeerRevision) seen (h', h'.waitForPeerRevision) seen' := by
  obtain ⟨m, f, k, rfl, -⟩ := alike.twin
  rw [swap_waitForPeerRevision (alike.config ▸ configs)]
  unfold waitForPeerRevision
  split
  · exact .reads
  · split
    · exact .left
    · split
      · unfold writeV2Tail
        split
        · exact .left
        · split
          · exact .left
          · exact .writes alike phase
      · split
        · exact .writes alike phase
        · exact .left

lemma receiveGreeting_matches (alike : h.Alike c c' seen h' seen')
    (phase : h.subPhase = .waitingForGreeting) :
    Matches c c' h.receiveGreeting seen h'.receiveGreeting seen' := by
  obtain ⟨m, f, k, rfl, mechanisms⟩ := alike.twin
  have early : ¬ h.subPhase.Past := by simp [phase, HandshakeSubPhase.Past]
  rw [swap_receiveGreeting]
  unfold receiveGreeting
  split
  · exact .reads
  · dsimp only
    split
    · exact .left
    · exact .left
    · split
      · exact .left
      · exact .returns (alike.spared mechanisms ⟨rfl, rfl, rfl, rfl, fun past => absurd past early⟩)
          nofun

lemma exchangeV2Identity_matches (configs : c.Alike c') (alike : h.Alike c c' seen h' seen')
    (phase : h.subPhase = .v2IdentityExchange) :
    Matches c c' h.exchangeV2Identity seen h'.exchangeV2Identity seen' := by
  obtain ⟨m, f, k, rfl, mechanisms⟩ := alike.twin
  rw [swap_exchangeV2Identity (alike.config ▸ configs)]
  unfold exchangeV2Identity
  split
  · exact .reads
  · dsimp only
    split
    · exact .left
    · exact .writes (alike.spared mechanisms ⟨rfl, rfl, rfl, rfl, id⟩) phase

section

variable (alike : h.Alike c c' seen h' seen')
include alike

lemma readV2IdentityFrame_matches :
    Matches c c' h.readV2IdentityFrame seen h'.readV2IdentityFrame seen' := by
  obtain ⟨m, f, k, rfl, mechanisms⟩ := alike.twin
  have spares := readFrame_spares h
  rw [swap_readV2IdentityFrame, readV2IdentityFrame_readFrame]
  match h.readFrame, spares with
  | (.error e, g), _ => exact .left
  | (.ok none, g), _ => exact .reads
  | (.ok (some msg), g), spares =>
    dsimp only
    split
    · exact .left
    · exact .ends (alike.spared mechanisms ⟨spares.config, spares.role, spares.mechanism,
        spares.completed, fun _ => .inr (.inr (.inr rfl))⟩) rfl

lemma receiveReady_matches {goOn} (goesOn : ∀ properties g m f k,
      h.Alike c c' seen (h.swap c' m f k) seen' →
      SecurityMechanism.Alike c c' h.isServer h.securityMechanism m → Spares h g →
      Matches c c' (goOn properties g) seen (goOn properties (g.swap c' m f k)) seen') :
    Matches c c' (h.receiveReady goOn) seen (h'.receiveReady goOn) seen' := by
  obtain ⟨m, f, k, rfl, mechanisms⟩ := alike.twin
  have spares := (receivePeerReady_spares h).1
  unfold receiveReady
  rw [swap_receivePeerReady]
  match h.receivePeerReady, spares with
  | (.error e, g), _ => exact .left
  | (.ok none, g), _ => exact .reads
  | (.ok (some properties), g), spares => exact goesOn properties g m f k alike mechanisms spares

lemma serverReceiveReady_matches :
    Matches c c' h.serverReceiveReady seen h'.serverReceiveReady seen' :=
  receiveReady_matches alike fun _ _ _ _ _ alike mechanisms spares =>
    .returns (alike.spared mechanisms ⟨spares.config, spares.role, spares.mechanism,
      spares.completed, fun _ => .inr (.inr (.inl rfl))⟩) nofun

lemma clientReceiveReady_matches :
    Matches c c' h.clientReceiveReady seen h'.clientReceiveReady seen' :=
  receiveReady_matches alike fun _ _ _ _ _ alike mechanisms spares =>
    .ends (alike.spared mechanisms ⟨spares.config, spares.role, spares.mechanism,
      spares.completed, fun _ => .inr (.inr (.inr rfl))⟩) rfl

end

variable [CryptoBox Key α] [CurveSuite SK Key α] [SnowHandshake H T α] [DecidableEq α]

omit [CryptoBox Key α] [SnowHandshake H T α] [DecidableEq α] in
lemma finalizeMechanism_matches (configs : c.Alike c') (alike : h.Alike c c' seen h' seen')
    (phase : h.subPhase = .securityHandshake) :
    Matches c c' h.finalizeMechanism seen h'.finalizeMechanism seen' := by
  obtain ⟨m, f, k, rfl, mechanisms⟩ := alike.twin
  have early : ¬ h.subPhase.Past := by simp [phase, HandshakeSubPhase.Past]
  obtain ⟨rfl, rfl⟩ : seen = none ∧ seen' = none := by
    cases alike.noted with
    | nothing => exact ⟨rfl, rfl⟩
    | same past _ | own past _ _ => exact absurd past early
  have limit : (h.swap c' m f k).config.maxMsgSize = h.config.maxMsgSize := by
    have same : c'.maxMsgSize = c.maxMsgSize := by rw [configs]
    rw [alike.config]
    exact same
  have noted (id : Option (List α)) :
      (id.elim .inProgress .identityReady : HandshakeProgress α).noted none = id := by
    cases id <;> rfl
  unfold finalizeMechanism
  rw [limit]
  obtain ⟨e, failed⟩ | ⟨framer, framer', id, id', done, done', identity⟩ :=
    mechanisms.finalize h.config.maxMsgSize
  · simp only [failed]
    exact .left
  · have swapped : (h.swap c' m f k).securityMechanism = m := rfl
    rw [swapped, done, done']
    refine .returns ⟨alike.config, ⟨.null, framer', some m, rfl, .same nofun⟩, ?_⟩ nofun
    rw [noted, noted]
    obtain ⟨rfl, other⟩ | ⟨n, plain, client, rfl, rfl⟩ := identity
    · refine .same (.inl rfl) (other.imp_right fun unplain n same => ?_)
      exact unplain n (Option.some.inj same)
    · exact .own (.inl rfl) client (congrArg some plain)

lemma processPeerToken_matches (alike : h.Alike c c' seen h' seen')
    (phase : h.subPhase = .securityHandshake) (token : List α) :
    Matches c c' (h.processPeerToken token) seen (h'.processPeerToken token) seen' := by
  have mechanisms := alike.mechanisms
  unfold processPeerToken
  obtain ⟨f, n, failed⟩ | ⟨f, n, failed⟩ | ⟨action, n, n', done, done', next⟩ :=
    mechanisms.process token
  · rw [failed]
    exact .left
  · rw [failed]
    exact .right
  · rw [done, done']
    match action with
    | .continueWaiting | .handshakeComplete => exact .again (alike.set next) phase
    | .produceAndSend =>
      dsimp only
      obtain ⟨f, l, failed⟩ | ⟨reply, reply', l, l', produced, produced', same, last⟩ :=
        next.produce
      · rw [failed]
        exact .left
      · rw [produced, produced']
        match reply, reply', same with
        | none, none, _ => exact .left
        | some reply, some reply', _ => exact .writes (alike.set last) phase

lemma receiveToken_matches (alike : h.Alike c c' seen h' seen')
    (phase : h.subPhase = .securityHandshake) :
    Matches c c' h.receiveToken seen h'.receiveToken seen' := by
  obtain ⟨m, f, k, rfl, mechanisms⟩ := alike.twin
  have spares := readFrame_spares h
  have kept := readFrame_phase h
  unfold receiveToken
  rw [readHandshakeCommandFrame_readFrame, readHandshakeCommandFrame_readFrame, swap_readFrame]
  match commandOnly h.readFrame.1 with
  | .error e => exact .left
  | .ok none => exact .reads
  | .ok (some msg) =>
    exact processPeerToken_matches (alike.spared mechanisms spares) (kept.trans phase) msg.body

lemma securityRound_matches (configs : c.Alike c') (alike : h.Alike c c' seen h' seen')
    (phase : h.subPhase = .securityHandshake) :
    Matches c c' h.securityRound seen h'.securityRound seen' := by
  have mechanisms := alike.mechanisms
  unfold securityRound
  rw [mechanisms.status]
  split
  · exact finalizeMechanism_matches configs alike phase
  · exact .left
  · obtain ⟨f, n, failed⟩ | ⟨token, token', n, n', produced, produced', same, next⟩ :=
      mechanisms.produce
    · rw [failed]
      exact .left
    · rw [produced, produced']
      match token, token', same with
      | none, none, _ => exact receiveToken_matches (alike.set next) phase
      | some token, some token', _ => exact .writes (alike.set next) phase

lemma performSecurityHandshake_matches (configs : c.Alike c')
    (alike : h.Alike c c' seen h' seen') (phase : h.subPhase = .securityHandshake) :
    Matches c c' h.performSecurityHandshake seen h'.performSecurityHandshake seen' := by
  have heard : h'.pendingPeerGreeting = h.pendingPeerGreeting ∧ h'.isServer = h.isServer ∧
      h'.entropy = h.entropy ∧ h'.config = c' ∧
      h'.securityMechanism.kind = h.securityMechanism.kind := by
    obtain ⟨m, f, k, rfl, mechanisms⟩ := alike.twin
    exact ⟨rfl, rfl, rfl, rfl, mechanisms.kind⟩
  obtain ⟨greeting, role, entropy, config, kind⟩ := heard
  unfold performSecurityHandshake
  rw [kind, greeting, role, entropy, config, alike.config]
  split
  · split
    · exact .left
    · next g _ =>
      obtain ⟨e, failed⟩ | ⟨n, n', done, done', next⟩ :=
        @SecurityMechanism.negotiate_alike SK Key H T α c c' _ configs h.isServer g h.entropy
      · rw [failed]
        exact .left
      · rw [done, done']
        exact securityRound_matches configs (alike.set next) phase
  · exact securityRound_matches configs alike phase

lemma advanceHandshake_matches (configs : c.Alike c') (alike : h.Alike c c' seen h' seen') :
    Matches c c' h.advanceHandshake seen h'.advanceHandshake seen' := by
  have same : h'.subPhase = h.subPhase ∧ h'.isServer = h.isServer := by
    obtain ⟨m, f, k, rfl, -⟩ := alike.twin
    exact ⟨rfl, rfl⟩
  unfold advanceHandshake
  rw [same.1, same.2]
  cases phase : h.subPhase with
  | greetingExchange | serverReceivedReady => exact .writes alike phase
  | waitingForPeerRevision => exact waitForPeerRevision_matches configs alike phase
  | waitingForGreeting => exact receiveGreeting_matches alike phase
  | securityHandshake => exact performSecurityHandshake_matches configs alike phase
  | readyExchange =>
    dsimp only
    split
    · exact serverReceiveReady_matches alike
    · exact .writes alike phase
  | clientSentReady => exact clientReceiveReady_matches alike
  | v2IdentityExchange => exact exchangeV2Identity_matches configs alike phase
  | done => exact .ends alike phase

lemma resumeWrite_matches (configs : c.Alike c') (alike : h.Alike c c' seen h' seen')
    {what} (place : h.subPhase = what.phase) :
    Matches c c' (h.resumeWrite what) seen (h'.resumeWrite what) seen' := by
  cases what with
  | token => exact securityRound_matches configs alike place
  | v2Identity => exact readV2IdentityFrame_matches alike
  | signature | v2Tail | v3Tail =>
    obtain ⟨m, f, k, rfl, mechanisms⟩ := alike.twin
    refine .returns (alike.spared mechanisms ⟨rfl, rfl, rfl, rfl, fun past => ?_⟩) nofun
    simp [place, HandshakeWrite.phase, HandshakeSubPhase.Past] at past
  | clientReady =>
    obtain ⟨m, f, k, rfl, mechanisms⟩ := alike.twin
    exact .returns (alike.spared mechanisms ⟨rfl, rfl, rfl, rfl, fun _ => .inr (.inl rfl)⟩) nofun
  | serverReady =>
    obtain ⟨m, f, k, rfl, mechanisms⟩ := alike.twin
    exact .ends (alike.spared mechanisms ⟨rfl, rfl, rfl, rfl, fun _ => .inr (.inr (.inr rfl))⟩) rfl

end Matches

end ZmtpProtocolHandler

open ZmtpProtocolHandler

variable [Octet α] [CryptoBox Key α] [CurveSuite SK Key α] [SnowHandshake H T α] [DecidableEq α]
  {config config' : ZmtpEngineConfig SK α}

lemma Concludes.matched (configs : config.Alike config')
    {p p' : ZmtpProtocolHandler SK Key H T α × Poll α} {seen seen' : Option (List α)}
    {c c' : Conclusion SK Key H T α} (ends : Concludes p seen c) (ends' : Concludes p' seen' c')
    (matched : Matches config config' p seen p' seen') :
    c.last = c'.last ∧ c.handler.Alike config config' c.earlier c'.handler c'.earlier := by
  induction ends generalizing p' seen' with
  | stops done =>
    cases matched with
    | right => cases ends'
    | returns _ going => exact absurd done going
    | ends alike _ =>
      cases ends' with
      | stops => exact ⟨rfl, alike⟩
      | goes going =>
        obtain ⟨m, f, k, rfl, -⟩ := alike.twin
        exact absurd done going
  | goes going _ ih =>
    cases matched with
    | right => cases ends'
    | ends _ done => exact absurd done going
    | returns alike _ =>
      cases ends' with
      | stops done =>
        obtain ⟨m, f, k, rfl, -⟩ := alike.twin
        exact absurd done going
      | goes _ rest => exact ih rest (advanceHandshake_matches configs alike)
  | writes _ ih =>
    cases matched with
    | right => cases ends'
    | writes alike place =>
      cases ends' with
      | writes rest => exact ih rest (resumeWrite_matches configs alike place)
  | flushes _ _ =>
    cases matched with
    | right => cases ends'
  | again _ ih =>
    cases matched with
    | right => cases ends'
    | again alike place =>
      cases ends' with
      | again rest => exact ih rest (securityRound_matches configs alike place)

/-- A client has completed PLAIN, and the last step of the handshake has brought no identity of the
peer. -/
def Conclusion.Misnames (c : Conclusion SK Key H T α) : Prop :=
  c.handler.isServer = false ∧ (∃ m, c.handler.completed = some (.plain m)) ∧
    c.last.noted none = none

omit [CryptoBox Key α] [CurveSuite SK Key α] [SnowHandshake H T α] [DecidableEq α] in
lemma ZmtpProtocolHandler.Noted.identity_iff {h : ZmtpProtocolHandler SK Key H T α}
    {seen seen' : Option (List α)} (noted : Noted config config' h seen seen')
    (last : HandshakeProgress α) :
    last.noted seen = last.noted seen' ↔
      (h.isServer = false ∧ (∃ m, h.completed = some (.plain m)) ∧ last.noted none = none →
        config.plainUsername = config'.plainUsername) := by
  cases noted with
  | nothing before =>
    refine ⟨fun _ => ?_, fun _ => rfl⟩
    rintro ⟨-, ⟨m, plain⟩, -⟩
    cases before.symm.trans plain
  | same _ other =>
    refine ⟨fun _ => ?_, fun _ => rfl⟩
    rintro ⟨client, ⟨m, plain⟩, -⟩
    obtain server | unplain := other
    · cases client.symm.trans server
    · exact absurd plain (unplain m)
  | own _ client plain =>
    cases last with
    | identityReady id => exact ⟨fun _ => nofun, fun _ => rfl⟩
    | inProgress | handshakeComplete =>
      constructor
      · exact fun same _ => Option.map_injective bytes_utf8_injective same
      · intro named
        rw [named ⟨client, ⟨_, plain⟩, rfl⟩]

/-- Two sessions that differ only in user name, password and routing id, and hear the same bytes,
report the same identity of their peer, unless they are PLAIN clients with different user names
whose peer gives no identity. -/
theorem Session.peer_identity_heard (responders : RespondersWait H)
    (configs : config.Alike config') {isServer : Bool} {entropy : Entropy SK}
    {s s' : Session SK Key H T α}
    (reached : Reaches step Prudent (new config isServer entropy) s)
    (reached' : Reaches step Prudent (new config' isServer entropy) s') {stream : List α}
    (sent : s.received <+: stream) (sent' : s'.received <+: stream)
    {id id' : Option (List α)} {name name' : Option String}
    (reported : s.reported = some (id, name)) (reported' : s'.reported = some (id', name')) :
    id = id' ↔ ∀ c : Conclusion SK Key H T α, Hears config isServer entropy stream c →
      c.Misnames → config.plainUsername = config'.plainUsername := by
  obtain ⟨c, hears, rfl⟩ := hears_of_reported responders reached reported sent
  obtain ⟨c', hears', rfl⟩ := hears_of_reported responders reached' reported' sent'
  have start : (opened config isServer entropy stream :
      ZmtpProtocolHandler SK Key H T α).Alike config config' none
      (opened config' isServer entropy stream) none := by
    refine ⟨rfl, ⟨.null, .null (.new config'.maxMsgSize), none, ?_, .same nofun⟩, .nothing rfl⟩
    have limit : config'.maxMsgSize = config.maxMsgSize := by rw [configs]
    simp [opened, ZmtpProtocolHandler.new, ZmtpProtocolHandler.swap, limit]
  obtain ⟨last, alike⟩ :=
    hears.matched configs hears' (advanceHandshake_matches configs start)
  rw [Conclusion.identity, Conclusion.identity, ← last, alike.noted.identity_iff]
  constructor
  · intro named d heard misnames
    obtain rfl := hears.unique heard
    exact named misnames
  · exact fun named => named c hears

namespace Session

section Runs

open Noise

def plainDealerConfig (username : String) : ZmtpEngineConfig NoKey Symbol :=
  { clearConfig "DEALER" none with
    securityEnabled := true
    usePlain := true
    plainUsername := some username
    plainPassword := some "p" }

def routerType : List UInt8 × List Symbol := (utf8 "Socket-Type", bytes (utf8 "ROUTER"))

def plainDealer (username : String) : Session NoKey NoKey Handshake Transport Symbol :=
  .new (plainDealerConfig username) false ⟨⟨⟩, 6⟩

/-- What a PLAIN server sends that lets its client in: its greeting, WELCOME, and READY. -/
def plainServer (properties : Metadata Symbol) : List Symbol :=
  encodeSignature ++ bytes [greetingVersionMajorByte] ++
    encodeV3TailPostMajor MechanismKind.plain.nameBytes true ++
    commandFrame (bytes (PlainMechanism.commandFrame "WELCOME")) ++
    commandFrame (readyBody properties)

def plainSteps (stream : List Symbol) : List (SessionAction Symbol) :=
  [.poll, .write 11, .flush, .poll, .read stream, .write 53, .flush, .poll, .poll, .write 16,
    .again, .poll, .write 43, .poll]

lemma plainSteps_prudent (stream) :
    ∀ a ∈ plainSteps stream, ∀ s : Session NoKey NoKey Handshake Transport Symbol, s.Prudent a := by
  simp [plainSteps, Prudent, SessionAction.Interrupts]

lemma plainDealer_reports (username : String) (named : username = "alice" ∨ username = "carol") :
    ∃ s, Reaches step Prudent (plainDealer username) s ∧
      s.received = plainServer [routerType, (utf8 "Identity", bytes [114])] ∧
      s.reported = some (some (bytes [114]), some "ROUTER") := by
  have attached : Reaches step Prudent (plainDealer username)
      { plainDealer username with attached := true } :=
    .tail (a := .initializePipes) .refl (fun _ _ => nofun) rfl
  have ran : ((run step { plainDealer username with attached := true }
      (plainSteps (plainServer [routerType, (utf8 "Identity", bytes [114])]))).map
      fun s => (s.received, s.reported)) =
      some (plainServer [routerType, (utf8 "Identity", bytes [114])],
        some (some (bytes [114]), some "ROUTER")) := by
    obtain rfl | rfl := named <;> decide +kernel
  obtain ⟨s, last, seen⟩ := Option.map_eq_some_iff.mp ran
  obtain ⟨received, reported⟩ := Prod.mk.inj seen
  exact ⟨s, attached.trans (reaches_of_run _ (plainSteps_prudent _) last), received, reported⟩

/-- The READY of the server gives an identity, so that neither client takes its own name for it. -/
theorem peer_identity_heard_named : (plainDealerConfig "alice").Alike (plainDealerConfig "carol") ∧
    ∀ c : Conclusion NoKey NoKey Handshake Transport Symbol,
      Hears (plainDealerConfig "alice") false ⟨⟨⟩, 6⟩
        (plainServer [routerType, (utf8 "Identity", bytes [114])]) c → ¬ c.Misnames := by
  obtain ⟨s, reached, received, reported⟩ := plainDealer_reports "alice" (.inl rfl)
  obtain ⟨s', reached', received', reported'⟩ := plainDealer_reports "carol" (.inr rfl)
  have configs : (plainDealerConfig "alice").Alike (plainDealerConfig "carol") := rfl
  refine ⟨configs, fun c hears misnames => ?_⟩
  have named := (peer_identity_heard responders_wait configs reached reached'
    ⟨[], (List.append_nil _).trans received⟩ ⟨[], (List.append_nil _).trans received'⟩
    reported reported').mp rfl c hears misnames
  exact absurd named (by decide)

def pushStream : List Symbol :=
  pushGreeting ++ bytes [0, 10, 0, 0, 0, 0, 0, 0, 0, 0, 0, 8] ++ bytes [0, 1, 98]

/-- Two PLAIN clients whose server gives no identity report their own user names; and a session
whose future is dropped at the identity of a ZMTP/2.0 peer reports the frame behind it. -/
theorem own_username_reported : (plainDealerConfig "alice").Alike (plainDealerConfig "carol") ∧
    ((run step (plainDealer "alice")
        (.initializePipes :: plainSteps (plainServer [routerType]))).map
      fun s => (s.received, s.reported)) =
      some (plainServer [routerType], some (some (bytes (utf8 "alice")), some "ROUTER")) ∧
    ((run step (plainDealer "carol")
        (.initializePipes :: plainSteps (plainServer [routerType]))).map
      fun s => (s.received, s.reported)) =
      some (plainServer [routerType], some (some (bytes (utf8 "carol")), some "ROUTER")) ∧
    ((run step pullSession [.initializePipes, .poll, .write 11, .flush, .poll, .read pushStream,
        .write 1, .flush, .poll, .write 2, .flush]).map fun s => (s.received, s.reported)) =
      some (pushStream, some (some (bytes [0, 0, 0, 0, 0, 0, 0, 0, 0, 8]), some "PUSH")) ∧
    ((run step pullSession [.poll, .write 11, .flush, .poll, .read pushStream, .write 1, .flush,
        .poll, .initializePipes, .poll, .write 2, .flush]).map fun s => (s.received, s.reported)) =
      some (pushStream, some (some (bytes [98]), some "PUSH")) := by
  refine ⟨rfl, ?_, ?_, ?_, ?_⟩ <;> decide +kernel

end Runs

end Session

end Rzmq
