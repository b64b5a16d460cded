import Rzmq.Security.NoiseSymbolic

/-! A NOISE_XX client and the key of its server.  The last message of the handshake is prepared when
the server's message is read, and the key is checked when the prepared message is asked for;
whatever calls are made, nothing leaves the client between the two. -/

namespace Rzmq

open Bool Frame SnowHandshake

variable {SK Key H T α : Type} [SnowHandshake H T α]

/-- `At n h` says that `h` has `n` of the three messages behind it; no message out of turn is taken.
-/
structure XxInitiator (At : Nat → H → Prop) : Prop where
  built : ∀ {sk pk seed h}, buildInitiator sk pk seed = .ok h → At 0 h
  finished : ∀ {n h}, At n h → (isHandshakeFinished h = true ↔ n = 3)
  turn : ∀ {n h}, At n h → (isMyTurn h = true ↔ n = 0 ∨ n = 2)
  write : ∀ {n h}, At n h → n = 0 ∨ n = 2 →
    ∃ msg h', writeMessage h = (.ok msg, h') ∧ At (n + 1) h' ∧
      getRemoteStatic h' = getRemoteStatic h
  read : ∀ {h h' msg}, At 1 h → readMessage h msg = (.ok (), h') → At 2 h'
  refuse : ∀ {n h h' msg e}, At n h → readMessage h msg = (.error e, h') → At n h'
  order : ∀ {n h} (msg), At n h → n ≠ 1 → ∃ e, readMessage h msg = (.error e, h)

namespace Noise

/-- An initiator of the symbolic handshake.  The server's message names its ephemeral secret. -/
def Handshake.Initiates (n : Nat) (h : Handshake) : Prop :=
  h.initiator = true ∧ h.next = n ∧ n ≤ 3 ∧ (2 ≤ n → ∃ peer, h.peerSeed = some peer)

lemma Handshake.readMessage_error {h h' : Handshake} {msg : List Symbol} {e : SnowError}
    (taken : h.readMessage msg = (.error e, h')) : h' = h := by
  unfold Handshake.readMessage at taken
  split at taken
  · cases taken
  · split at taken <;> cases taken
    rfl
  · split at taken <;> cases taken
    rfl
  · cases taken
    rfl

lemma Handshake.xxInitiator : XxInitiator Handshake.Initiates where
  built created := by
    cases created
    exact ⟨rfl, rfl, by omega, by omega⟩
  finished at_ := by
    obtain ⟨-, rfl, -⟩ := at_
    simp [isHandshakeFinished]
  turn at_ := by
    obtain ⟨role, rfl, bound, -⟩ := at_
    simp [isMyTurn, role]
    omega
  write := by
    rintro n ⟨initiator, sk, seed, peerSeed, remote, next⟩ ⟨role, position, bound, named⟩ turn
    obtain rfl | rfl := turn
    · cases role
      cases position
      exact ⟨_, _, rfl, ⟨rfl, rfl, by omega, by omega⟩, rfl⟩
    · obtain ⟨peer, known⟩ := named (Nat.le_refl 2)
      cases role
      cases position
      cases known
      exact ⟨_, _, rfl, ⟨rfl, rfl, by omega, fun _ => ⟨peer, rfl⟩⟩, rfl⟩
  read := by
    rintro ⟨initiator, sk, seed, peerSeed, remote, next⟩ h' msg ⟨rfl, rfl, -⟩ taken
    simp only [SnowHandshake.readMessage, Handshake.readMessage] at taken
    split at taken
    · cases ‹true = false›
    · split at taken
      · cases taken
        exact ⟨rfl, rfl, by omega, fun _ => ⟨_, rfl⟩⟩
      · cases taken
    · cases ‹1 = 2›
    · cases taken
  refuse at_ taken := by
    simp only [SnowHandshake.readMessage] at taken
    rw [readMessage_error taken]
    exact at_
  order := by
    rintro n ⟨initiator, sk, seed, peerSeed, remote, next⟩ msg ⟨role, position, bound, -⟩ out
    cases role
    cases position
    match next, bound, out with
    | 0, _, _ | 2, _, _ | 3, _, _ => exact ⟨_, rfl⟩

end Noise

namespace NoiseXxMechanism

variable [DecidableEq α] {m : NoiseXxMechanism H T α} {h h' : H} {At : Nat → H → Prop}
  {pk : List α} {msg : List α}

lemma produceNew_writes (state : m.state = some h) (turn : isMyTurn h = true)
    (wrote : writeMessage h = (.ok msg, h')) (role : m.isServerRole = false) :
    produceNew m = .ok (some msg) { m with state := some h' } := by
  simp [produceNew, bind, EStateM.bind, get_eq, state, turn, wrote, role, modify_eq, pure_eq]

lemma readToken_error {token e} (state : m.state = some h)
    (read : readMessage h token = (.error e, h')) :
    readToken token m = .error (.error e.toZmqError) { m with state := some h' } := by
  simp only [readToken, bind, EStateM.bind, get_eq, state, read]
  rfl

lemma readToken_writes {token msg} {h'' : H} (state : m.state = some h)
    (read : readMessage h token = (.ok (), h'))
    (going : isHandshakeFinished h' = false)
    (turn : isMyTurn h' = true)
    (wrote : writeMessage h' = (.ok msg, h'')) :
    readToken token m = .ok .produceAndSend
      { m with state := some h'', pendingOutgoingHandshakeMsg := some msg } := by
  simp [readToken, bind, EStateM.bind, get_eq, state, read, going, turn, wrote, modify_eq, pure_eq]

omit [SnowHandshake H T α] in
lemma verifyServerKey_same (role : m.isServerRole = false)
    (key : m.configuredRemoteStaticPk = some pk) : verifyServerKey pk m = .ok () m := by
  simp [verifyServerKey, bind, EStateM.bind, get_eq, role, key, pure_eq]

omit [SnowHandshake H T α] in
lemma verifyServerKey_other {other} (role : m.isServerRole = false)
    (key : m.configuredRemoteStaticPk = some pk) (differ : other ≠ pk) :
    ∃ e reason, verifyServerKey other m =
      .error e { m with currentStatus := .error, errorReason := some reason } := by
  refine ⟨.error (SnowError.toZmqError .decrypt),
    "NOISE_XX: Server public key mismatch. Connection rejected.", ?_⟩
  simp [verifyServerKey, bind, EStateM.bind, get_eq, role, key,
    differ, setReason, modify_eq, throwSnow,
    throw_eq]

/-- A client whose handshake is finished has the key that it was configured with, or is in error. -/
lemma transitionToFinalState_client (role : m.isServerRole = false)
    (key : m.configuredRemoteStaticPk = some pk) (state : m.state = some h)
    (finished : isHandshakeFinished h = true) :
    (getRemoteStatic h = some pk ∧ ∃ transport,
      transitionToFinalState m = .ok () { m with
        verifiedPeerStaticPk := some pk, state := none, transportState := some transport,
        currentStatus := .ready }) ∨
    ∃ e m', transitionToFinalState m = .error e m' ∧ m'.currentStatus = .error ∧
      m'.isServerRole = m.isServerRole ∧
      m'.configuredRemoteStaticPk = m.configuredRemoteStaticPk ∧
      m'.pendingOutgoingHandshakeMsg = m.pendingOutgoingHandshakeMsg := by
  unfold transitionToFinalState
  rw [bind_of_ok (x := get) rfl]
  simp only [state, finished, Bool.not_true, false_eq_true, if_false]
  cases remote : getRemoteStatic h with
  | none => exact .inr ⟨_, _, rfl, rfl, rfl, rfl, rfl⟩
  | some other =>
    dsimp only
    rw [bind_of_ok (x := modify _) rfl]
    by_cases same : other = pk
    · subst same
      rw [bind_of_ok (verifyServerKey_same (m := { m with
        verifiedPeerStaticPk := some other }) role key), bind_of_ok (x := modify _) rfl]
      cases intoTransportMode h with
      | ok transport => exact .inl ⟨rfl, transport, rfl⟩
      | error e => exact .inr ⟨_, _, rfl, rfl, rfl, rfl, rfl⟩
    · obtain ⟨e, reason, failed⟩ := verifyServerKey_other (m := { m with
        verifiedPeerStaticPk := some other }) role key same
      rw [bind_of_error failed]
      exact .inr ⟨_, _, rfl, rfl, rfl, rfl, rfl⟩

inductive Call (α : Type) where
  | processToken (token : List α)
  | produceToken
  | setError (reason : String)

def call (m : NoiseXxMechanism H T α) : Call α → NoiseXxMechanism H T α
  | .processToken token => after (processToken token) m
  | .produceToken => after produceToken m
  | .setError reason => after (setError reason) m

def calls (m : NoiseXxMechanism H T α) (made : List (Call α)) : NoiseXxMechanism H T α :=
  made.foldl call m

lemma calls_append (m : NoiseXxMechanism H T α) (made more : List (Call α)) :
    calls m (made ++ more) = calls (calls m made) more := by
  simp [calls]

inductive Stage (At : Nat → H → Prop) (pk : List α) (m : NoiseXxMechanism H T α) : Prop where
  | opening {h : _} (state : m.state = some h) (position : At 0 h)
      (pending : m.pendingOutgoingHandshakeMsg = none)
      (status : m.currentStatus = .initializing ∨ m.currentStatus = .handshaking)
  | waiting {h : _} (state : m.state = some h) (position : At 1 h)
      (pending : m.pendingOutgoingHandshakeMsg = none) (status : m.currentStatus = .handshaking)
  /-- The last message is written, and the key of the server is known but not looked at. -/
  | prepared {h msg : _} (state : m.state = some h) (position : At 3 h)
      (pending : m.pendingOutgoingHandshakeMsg = some msg) (status : m.currentStatus = .handshaking)
  | ready (pending : m.pendingOutgoingHandshakeMsg = none) (status : m.currentStatus = .ready)
      (verified : m.verifiedPeerStaticPk = some pk)
  | error (pending : m.pendingOutgoingHandshakeMsg = none) (status : m.currentStatus = .error)

structure Client (At : Nat → H → Prop) (pk : List α) (m : NoiseXxMechanism H T α) : Prop where
  role : m.isServerRole = false
  key : m.configuredRemoteStaticPk = some pk
  stage : Stage At pk m

omit [DecidableEq α] in
lemma initializeNoiseXx_client (xx : XxInitiator At) {localSk}
    {seed : Nat} (built : initializeNoiseXx false localSk (some pk) seed = .ok m) :
    m.currentStatus = .initializing ∧ Client At pk m := by
  unfold initializeNoiseXx at built
  split at built
  · simp only [bind, Except.bind, pure, Except.pure, false_eq_true, if_false] at built
    split at built
    · cases built
    · next h initiator =>
      cases built
      exact ⟨rfl, rfl, rfl, .opening rfl (xx.built initiator) rfl (.inl rfl)⟩
  · cases built

/-- A token that is returned is the first message, or the last one with the right key. -/
def Emitted (At : Nat → H → Prop) (pk : List α) (m m' : NoiseXxMechanism H T α) : Prop :=
  (∃ h, m.state = some h ∧ At 0 h) ∨
  ∃ h, m.state = some h ∧ At 3 h ∧ getRemoteStatic h = some pk ∧
    m'.currentStatus = .ready

lemma produceToken_going (role : m.isServerRole = false)
    (pending : m.pendingOutgoingHandshakeMsg = none)
    (status : m.currentStatus = .initializing ∨ m.currentStatus = .handshaking) :
    produceToken m = produceNew { m with currentStatus := .handshaking } := by
  unfold produceToken
  rw [bind_of_ok (x := get) rfl]
  obtain init | going := status
  · simp only [pending, init]
    rw [bind_of_ok (x := modify _) rfl, role, if_neg Bool.false_ne_true]
    simp [pending]
  · simp only [pending, going]
    rw [← going]
    simp [← pending]

lemma produceToken_final (role : m.isServerRole = false) (state : m.state = some h)
    (finished : isHandshakeFinished h = true)
    (pending : m.pendingOutgoingHandshakeMsg = some msg) :
    produceToken m = (do transitionToFinalState; return some msg :
      MechanismM (NoiseXxMechanism H T α) (Option (List α)))
      { m with pendingOutgoingHandshakeMsg := none } := by
  unfold produceToken
  rw [bind_of_ok (x := get) rfl]
  simp only [pending]
  rw [bind_of_ok (x := modify _) rfl]
  simp [role, state, finished]

lemma produceToken_opening (xx : XxInitiator At) (client : Client At pk m)
    (state : m.state = some h) (position : At 0 h)
    (pending : m.pendingOutgoingHandshakeMsg = none)
    (status : m.currentStatus = .initializing ∨ m.currentStatus = .handshaking) :
    ∃ msg m', produceToken m = .ok (some msg) m' ∧ m'.currentStatus = .handshaking ∧
      Client At pk m' := by
  obtain ⟨msg, h', wrote, next, -⟩ := xx.write position (.inl rfl)
  have turn := (xx.turn position).mpr (.inl rfl)
  refine ⟨msg, { m with state := some h', currentStatus := .handshaking }, ?_, rfl, client.role,
    client.key, .waiting rfl next pending rfl⟩
  rw [produceToken_going client.role pending status]
  exact produceNew_writes (by exact state) turn wrote client.role

lemma produceToken_waiting (xx : XxInitiator At) (state : m.state = some h) (position : At 1 h)
    (pending : m.pendingOutgoingHandshakeMsg = none) (status : m.currentStatus = .handshaking) :
    produceToken m = .ok none m := by
  have turn : isMyTurn h = false := by
    rw [eq_false_iff, Ne, xx.turn position]
    omega
  simp [produceToken, produceNew, bind, EStateM.bind, get_eq, pending, status, state, turn, pure_eq]

lemma produceToken_prepared (xx : XxInitiator At) (client : Client At pk m)
    (state : m.state = some h) (position : At 3 h)
    (pending : m.pendingOutgoingHandshakeMsg = some msg) :
    (∃ m', produceToken m = .ok (some msg) m' ∧ getRemoteStatic h = some pk ∧
      m'.currentStatus = .ready ∧ Client At pk m') ∨
    ∃ e m', produceToken m = .error e m' ∧ m'.currentStatus = .error ∧ Client At pk m' := by
  have finished := (xx.finished position).mpr rfl
  rw [produceToken_final client.role state finished pending]
  obtain ⟨remote, transport, done⟩ | ⟨e, m', failed, status, role, key, left⟩ :=
    transitionToFinalState_client (m := { m with pendingOutgoingHandshakeMsg := none }) client.role
      client.key state finished
  · rw [bind_of_ok done]
    exact .inl ⟨_, rfl, remote, rfl, client.role, client.key, .ready rfl rfl rfl⟩
  · rw [bind_of_error failed]
    exact .inr ⟨_, _, rfl, status, role.trans client.role, key.trans client.key, .error left status⟩

lemma produceToken_over (pending : m.pendingOutgoingHandshakeMsg = none)
    (status : m.currentStatus = .ready ∨ m.currentStatus = .error) :
    produceToken m = .ok none m := by
  obtain status | status := status <;>
    simp [produceToken, bind, EStateM.bind, get_eq, pending, status, pure_eq]

lemma Client.produce (xx : XxInitiator At) (client : Client At pk m) :
    Client At pk (after produceToken m) := by
  cases client.stage with
  | opening state position pending status =>
    obtain ⟨_, _, produced, -, next⟩ :=
      produceToken_opening xx client state position pending status
    rw [after_ok produced]
    exact next
  | waiting state position pending status =>
    rw [after_ok (produceToken_waiting xx state position pending status)]
    exact client
  | prepared state position pending _ =>
    obtain ⟨_, produced, -, -, next⟩ | ⟨_, _, failed, -, next⟩ :=
      produceToken_prepared xx client state position pending
    · rw [after_ok produced]
      exact next
    · rw [after_error failed]
      exact next
  | ready pending status _ =>
    rw [after_ok (produceToken_over pending (.inl status))]
    exact client
  | error pending status =>
    rw [after_ok (produceToken_over pending (.inr status))]
    exact client

lemma Client.returned (xx : XxInitiator At) (client : Client At pk m)
    {m'} (produced : produceToken m = .ok (some msg) m') :
    Emitted At pk m m' := by
  cases client.stage with
  | opening state position _ _ => exact .inl ⟨_, state, position⟩
  | waiting state position pending status =>
    rw [produceToken_waiting xx state position pending status] at produced
    cases produced
  | prepared state position pending _ =>
    obtain ⟨_, done, remote, ready, -⟩ | ⟨_, _, failed, -⟩ :=
      produceToken_prepared xx client state position pending
    · rw [done] at produced
      cases produced
      exact .inr ⟨_, state, position, remote, ready⟩
    · rw [failed] at produced
      cases produced
  | ready pending status _ =>
    rw [produceToken_over pending (.inl status)] at produced
    cases produced
  | error pending status =>
    rw [produceToken_over pending (.inr status)] at produced
    cases produced

lemma processToken_going (token : List α)
    (status : m.currentStatus = .initializing ∨ m.currentStatus = .handshaking) :
    processToken token m = readToken token { m with currentStatus := .handshaking } := by
  unfold processToken
  rw [bind_of_ok (x := get) rfl]
  obtain init | going := status
  · simp only [init]
    rw [bind_of_ok (x := modify _) rfl]
  · simp only [going]
    rw [← going]

lemma processToken_over (token : List α)
    (status : m.currentStatus = .ready ∨ m.currentStatus = .error) :
    after (processToken token) m = m := by
  unfold after processToken
  rw [bind_of_ok (x := get) rfl]
  obtain status | status := status <;>
  · simp only [status]
    rfl

section

variable (xx : XxInitiator At)
include xx

section

variable (client : Client At pk m)
include client

lemma Client.process (token : List α) :
    Client At pk (after (processToken token) m) ∧
    (after (processToken token) m = m ∨
      (after (processToken token) m).currentStatus = .handshaking) := by
  cases client.stage with
  | opening state position pending status =>
    obtain ⟨e, refused⟩ := xx.order token position (by omega)
    rw [after, processToken_going token status, readToken_error (by exact state) refused]
    exact ⟨⟨client.role, client.key, .opening rfl position pending (.inr rfl)⟩, .inr rfl⟩
  | @waiting h state position pending status =>
    rw [after, processToken_going token (.inr status)]
    cases read : readMessage h token with
    | mk result h' =>
      cases result with
      | error e =>
        rw [readToken_error (by exact state) read]
        exact ⟨⟨client.role, client.key, .waiting rfl (xx.refuse position read) pending rfl⟩,
          .inr rfl⟩
      | ok _ =>
        have two := xx.read position read
        obtain ⟨msg, h'', wrote, three, -⟩ := xx.write two (.inr rfl)
        have going : isHandshakeFinished h' = false := by
          rw [eq_false_iff, Ne, xx.finished two]
          omega
        rw [readToken_writes (by exact state) read going ((xx.turn two).mpr (.inr rfl)) wrote]
        exact ⟨⟨client.role, client.key, .prepared rfl three rfl rfl⟩, .inr rfl⟩
  | prepared state position pending status =>
    obtain ⟨e, refused⟩ := xx.order token position (by omega)
    rw [after, processToken_going token (.inr status), readToken_error (by exact state) refused]
    exact ⟨⟨client.role, client.key, .prepared rfl position pending rfl⟩, .inr rfl⟩
  | ready _ status _ =>
    rw [processToken_over token (.inl status)]
    exact ⟨client, .inl rfl⟩
  | error _ status =>
    rw [processToken_over token (.inr status)]
    exact ⟨client, .inl rfl⟩

lemma Client.call (c : Call α) : Client At pk (m.call c) := by
  cases c with
  | processToken token => exact (client.process xx token).1
  | produceToken => exact client.produce xx
  | setError reason => exact ⟨client.role, client.key, .error rfl rfl⟩

lemma Client.calls (made) : Client At pk (m.calls made) := by
  induction made generalizing m with
  | nil => exact client
  | cons c rest ih => exact ih (client.call xx c)

/-- Only asking for the prepared message makes a client ready, and only with the right key. -/
lemma Client.call_ready {c} (ready : (m.call c).currentStatus = .ready) :
    m.currentStatus = .ready ∨ c = .produceToken ∧ ∃ h, m.state = some h ∧ At 3 h ∧
      getRemoteStatic h = some pk := by
  cases c with
  | processToken token =>
    obtain same | going := (client.process xx token).2
    · rw [NoiseXxMechanism.call, same] at ready
      exact .inl ready
    · rw [NoiseXxMechanism.call, going] at ready
      cases ready
  | produceToken =>
    rw [NoiseXxMechanism.call] at ready
    cases client.stage with
    | opening state position pending status =>
      obtain ⟨_, _, produced, going, -⟩ :=
        produceToken_opening xx client state position pending status
      rw [after_ok produced, going] at ready
      cases ready
    | waiting state position pending status =>
      rw [after_ok (produceToken_waiting xx state position pending status)] at ready
      exact .inl ready
    | prepared state position pending _ =>
      obtain ⟨_, -, remote, -⟩ | ⟨_, _, failed, status, -⟩ :=
        produceToken_prepared xx client state position pending
      · exact .inr ⟨rfl, _, state, position, remote⟩
      · rw [after_error failed, status] at ready
        cases ready
    | ready _ status _ => exact .inl status
    | error pending status =>
      rw [after_ok (produceToken_over pending (.inr status))] at ready
      exact .inl ready
  | setError reason => cases ready

end

end

omit [SnowHandshake H T α] [DecidableEq α] in
lemma Client.verified (client : Client At pk m) (ready : m.currentStatus = .ready) :
    m.verifiedPeerStaticPk = some pk := by
  cases client.stage with
  | ready _ _ verified => exact verified
  | opening _ _ _ status =>
    rw [ready] at status
    simp at status
  | waiting _ _ _ status | prepared _ _ _ status | error _ status =>
    rw [ready] at status
    cases status

lemma Client.call_error (client : Client At pk m) (c : Call α)
    (failed : m.currentStatus = .error) : (m.call c).currentStatus = .error := by
  have pending : m.pendingOutgoingHandshakeMsg = none := by
    cases client.stage with
    | error pending _ => exact pending
    | opening _ _ _ status =>
      rw [failed] at status
      simp at status
    | waiting _ _ _ status | prepared _ _ _ status | ready _ status _ =>
      rw [failed] at status
      cases status
  cases c with
  | processToken token =>
    rw [NoiseXxMechanism.call, processToken_over token (.inr failed)]
    exact failed
  | produceToken =>
    rw [NoiseXxMechanism.call, after_ok (produceToken_over pending (.inr failed))]
    exact failed
  | setError reason => rfl

/-- The prepared message was asked for while the handshake had authenticated the key `pk`. -/
def Authenticated (At : Nat → H → Prop) (pk : List α) (m : NoiseXxMechanism H T α)
    (made : List (Call α)) : Prop :=
  ∃ first later h, made = first ++ .produceToken :: later ∧ (m.calls first).state = some h ∧
    At 3 h ∧ getRemoteStatic h = some pk

lemma Client.authenticated (xx : XxInitiator At) (client : Client At pk m)
    (made : List (Call α)) (handshakes : m.currentStatus ≠ .ready)
    (ready : (m.calls made).currentStatus = .ready) : Authenticated At pk m made := by
  induction made using List.reverseRecOn with
  | nil => exact absurd ready handshakes
  | append_singleton made c ih =>
    rw [calls_append] at ready
    obtain before | ⟨rfl, h, state, position, remote⟩ := (client.calls xx made).call_ready xx ready
    · obtain ⟨first, later, h, rfl, rest⟩ := ih before
      exact ⟨first, later ++ [c], h, by simp, rest⟩
    · exact ⟨made, [], h, rfl, state, position, remote⟩

lemma Client.error_stays (xx : XxInitiator At) (client : Client At pk m)
    (failed : m.currentStatus = .error) (more) :
    (m.calls more).currentStatus = .error := by
  induction more generalizing m with
  | nil => exact failed
  | cons c rest ih => exact ih (client.call xx c) (client.call_error c failed)

section Framer

variable [Octet α] [Curve.CurveSuite SK Key α]

/-- A client is ready, and gives out a framer, only after it has authenticated the key that it was
configured with; its tokens are the first message or the last one behind that key, and it never
leaves an error. -/
theorem client_authenticates_server (xx : XxInitiator At) {localSk : Option (List UInt8)}
    {seed : Nat} (built : initializeNoiseXx false localSk (some pk) seed = .ok m)
    (made : List (Call α)) :
    ((m.calls made).currentStatus = .ready → Authenticated At pk m made) ∧
    (∀ maxMsgSize framer id, (SecurityMechanism.noiseXx (m.calls made) :
        SecurityMechanism SK Key H T α).intoFramer maxMsgSize = .ok (framer, id) →
      Authenticated At pk m made ∧ id = some pk) ∧
    (∀ msg m', (m.calls made).produceToken = .ok (some msg) m' → Emitted At pk (m.calls made) m') ∧
    ((m.calls made).currentStatus = .error →
      ∀ more, (m.calls (made ++ more)).currentStatus = .error) := by
  obtain ⟨init, start⟩ := initializeNoiseXx_client xx built
  have client := start.calls xx made
  have ready := start.authenticated xx made (by simp [init])
  refine ⟨ready, fun maxMsgSize framer id taken => ?_,
    fun msg m' produced => client.returned xx produced, fun failed more => ?_⟩
  · simp only [SecurityMechanism.intoFramer, intoDataCipher] at taken
    by_cases status : (m.calls made).currentStatus = .ready
    · refine ⟨ready status, ?_⟩
      rw [← client.verified status]
      simp only [status, ne_eq, not_true_eq_false, if_false] at taken
      cases transport : (m.calls made).transportState with
      | none =>
        simp only [transport] at taken
        cases taken
      | some _ =>
        simp only [transport] at taken
        cases taken
        rfl
    · rw [if_pos status] at taken
      cases taken
  · rw [calls_append]
    exact client.error_stays xx failed more

theorem client_authenticates_server_symbolic :
    ∃ m : NoiseXxMechanism Noise.Handshake Noise.Transport Noise.Symbol,
      initializeNoiseXx false (some [1]) (some [.publicKey [2]]) 7 = .ok m ∧
      (m.calls [.produceToken, .processToken [.ephemeral 9, .encrypted 7 9 [2]],
        .produceToken]).currentStatus = .ready ∧
      Authenticated Noise.Handshake.Initiates [.publicKey [2]] m
        [.produceToken, .processToken [.ephemeral 9, .encrypted 7 9 [2]], .produceToken] := by
  refine ⟨_, rfl, by decide +kernel, ?_⟩
  exact (@client_authenticates_server Noise.NoKey Noise.NoKey _ _ _ _ _ _ _ _ _ _
    Noise.Handshake.xxInitiator (some [1]) 7 rfl _).1 (by decide +kernel)

end Framer

end NoiseXxMechanism

end Rzmq
