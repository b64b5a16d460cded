import Rzmq.Lib.Transition
import Rzmq.Message

/-! The phases of a tokio session: the arms of `select!` in the `run_loop` of `sessionx/actor.rs`,
in any order, from the handshake to the report of the actor's end.  What the handler, the peer and
the socket answer is part of the actions.  The task is not aborted. -/

namespace Rzmq

open Option Transition

inductive ConnectionPhaseX where
  | handshakeInProgress
  | waitingForPipes
  | operational
  | shuttingDownStream
  | terminating
deriving DecidableEq

@[simp] def ConnectionPhaseX.rank : ConnectionPhaseX → Nat
  | handshakeInProgress => 0
  | waitingForPipes => 1
  | operational => 2
  | shuttingDownStream => 3
  | terminating => 4

inductive HandshakeProgressX where
  | inProgress
  | identityReady
  | handshakeComplete
  | protocolError (reason : String)
  | fatalError (e : ZmqError)

/-- `established` are the connections that `PeerIdentityEstablished` was published for, `panicked`
says that an `expect` failed, and `reported` is the error of `ActorStopping`. -/
structure SessionConnectionActor where
  currentPhase : ConnectionPhaseX
  handshakeDone : Bool
  isAttached : Bool
  routingId : Option Nat
  errorForDropGuard : Option ZmqError
  established : List Nat
  panicked : Bool
  reported : Option (Option ZmqError)

namespace SessionConnectionActor

inductive Arm where
  /-- A command, an event or a read that changes nothing. -/
  | ignored
  | initializePipes (readId : Nat)
  /-- `Stop`, or the end of the mailbox. -/
  | stop
  | contextTerminating
  | parentClosing
  | eventsLagged (n : Nat)
  | eventsClosed
  | handshakeTimeout
  | ping (error : Option ZmqError)
  | pongTimeout
  /-- A poll of `advance_handshake`, which may complete the handshake and returns or is dropped. -/
  | advanceHandshake (complete : Bool) (progress : Option HandshakeProgressX)
  /-- A frame, and the error that it gives rise to. -/
  | dataFrame (error : Option ZmqError)
  | readFailed (e : ZmqError)
  | outgoing (error : Option ZmqError)
  | pipeClosed

inductive Action where
  | select (arm : Arm)
  | performGracefulShutdown (error : Option ZmqError)
  | dropGuard

def new : SessionConnectionActor :=
  ⟨.handshakeInProgress, false, false, none, none, [], false, none⟩

variable (s : SessionConnectionActor)

def isShuttingDown : Bool :=
  s.currentPhase = .shuttingDownStream ∨ s.currentPhase = .terminating

def transitionToShutdownStream (accompanying : Option ZmqError) : SessionConnectionActor :=
  if s.isShuttingDown then s
  else { s with
    errorForDropGuard := s.errorForDropGuard.or accompanying
    currentPhase := .shuttingDownStream }

def setFatalError (e : ZmqError) : SessionConnectionActor :=
  transitionToShutdownStream { s with errorForDropGuard := s.errorForDropGuard.or (some e) } none

def checkAndTransitionToOperational : SessionConnectionActor :=
  if s.currentPhase = .waitingForPipes ∧ s.handshakeDone ∧ s.isAttached then
    match s.routingId with
    | some id => { s with currentPhase := .operational, established := s.established ++ [id] }
    | none => setFatalError { s with currentPhase := .operational }
        (.internal "Pipe routing ID missing post-attach")
  else s

def initializePipes (readId : Nat) : SessionConnectionActor :=
  if s.isAttached ∨ s.isShuttingDown then s
  else
    let s := { s with isAttached := true, routingId := some readId }
    if s.currentPhase = .waitingForPipes then s.checkAndTransitionToOperational
    else if s.currentPhase = .handshakeInProgress ∧ s.handshakeDone then
      checkAndTransitionToOperational { s with currentPhase := .waitingForPipes }
    else s

def handleHandshakeProgression : HandshakeProgressX → SessionConnectionActor
  | .inProgress | .identityReady | .handshakeComplete =>
    if s.handshakeDone then
      checkAndTransitionToOperational { s with currentPhase := .waitingForPipes }
    else s
  | .protocolError reason => s.setFatalError (.protocolViolation reason)
  | .fatalError e => s.setFatalError e

def handleIncomingFromNetwork (error : Option ZmqError) : SessionConnectionActor :=
  match s.routingId with
  | none => { s with panicked := true }
  | some _ => error.elim s s.setFatalError

def enabled : Arm → Bool
  | .handshakeTimeout | .advanceHandshake _ _ => s.currentPhase = .handshakeInProgress
  | .ping _ | .pongTimeout | .dataFrame _ => s.currentPhase = .operational
  | .readFailed _ => s.currentPhase = .handshakeInProgress ∨ s.currentPhase = .operational
  | .outgoing _ | .pipeClosed => s.currentPhase = .operational ∧ s.isAttached
  | _ => true

def select : Arm → SessionConnectionActor
  | .ignored => s
  | .initializePipes readId => s.initializePipes readId
  | .stop => s.transitionToShutdownStream none
  | .contextTerminating => s.transitionToShutdownStream (some (.internal "Context terminating"))
  | .parentClosing => s.transitionToShutdownStream (some (.internal "Parent socket closing"))
  | .eventsLagged n => s.setFatalError (.internal ("System event lagged by " ++ toString n))
  | .eventsClosed => s.setFatalError (.internal "System event channel closed")
  | .handshakeTimeout | .pongTimeout => s.setFatalError .timeout
  | .ping error | .outgoing error => error.elim s s.setFatalError
  | .advanceHandshake complete progress =>
    let s := { s with handshakeDone := s.handshakeDone || complete }
    progress.elim s s.handleHandshakeProgression
  | .dataFrame error => s.handleIncomingFromNetwork error
  | .readFailed e =>
    if e = .connectionClosed then s.transitionToShutdownStream (some e) else s.setFatalError e
  | .pipeClosed => s.transitionToShutdownStream (some .connectionClosed)

def step : Action → Option SessionConnectionActor
  | .select arm => if s.isShuttingDown ∨ ¬ s.enabled arm then none else some (s.select arm)
  | .performGracefulShutdown error =>
    if s.currentPhase = .shuttingDownStream then some { s with
      errorForDropGuard := s.errorForDropGuard.or error
      isAttached := false
      routingId := none
      currentPhase := .terminating }
    else none
  | .dropGuard =>
    if s.currentPhase = .terminating ∧ s.reported = none then
      some { s with reported := some s.errorForDropGuard, errorForDropGuard := none }
    else none

structure Sound : Prop where
  operational : s.currentPhase = .operational → s.handshakeDone = true ∧ s.isAttached = true
  routed : s.isAttached = true → s.routingId.isSome = true
  unpublished : s.currentPhase.rank < 2 → s.established = []
  once : s.established.length ≤ 1
  calm : s.panicked = false
  ended : s.reported.isSome = true → s.currentPhase = .terminating ∧ s.errorForDropGuard = none

def Recorded (e : ZmqError) : Prop :=
  s.errorForDropGuard = some e ∨ s.reported = some (some e)

structure Later (t : SessionConnectionActor) : Prop where
  sound : t.Sound
  phase : s.currentPhase.rank ≤ t.currentPhase.rank
  error : ∀ e, s.Recorded e → t.Recorded e

variable {s} {t u : SessionConnectionActor}

lemma Sound.later (sound : s.Sound) : s.Later s := ⟨sound, le_rfl, fun _ => id⟩

lemma Later.trans (first : Later s t) (second : Later t u) : Later s u :=
  ⟨second.sound, first.phase.trans second.phase,
    fun e known => second.error e (first.error e known)⟩

lemma Recorded.or {error e} (known : s.Recorded e) :
    Recorded { s with errorForDropGuard := s.errorForDropGuard.or error } e :=
  known.imp_left fun known => by simp [known]

lemma isShuttingDown_eq_false :
    s.isShuttingDown = false ↔ s.currentPhase.rank < 3 := by
  cases h : s.currentPhase <;> simp [isShuttingDown, h]

section

variable (sound : s.Sound)
include sound

lemma later_transition (error) :
    s.Later (s.transitionToShutdownStream error) := by
  unfold transitionToShutdownStream
  split
  · exact sound.later
  · rename_i early
    have early := isShuttingDown_eq_false.mp (Bool.not_eq_true _ ▸ early)
    refine ⟨⟨nofun, sound.routed, fun early => ?_, sound.once, sound.calm, fun ended => ?_⟩,
      Nat.le_of_lt early, fun e known => known.or⟩
    · exact absurd early (by simp)
    · simp [(sound.ended ended).1] at early

lemma later_setFatalError (early : s.currentPhase.rank < 3) (e : ZmqError) :
    s.Later (s.setFatalError e) := by
  have noted : s.Later { s with errorForDropGuard := s.errorForDropGuard.or (some e) } := by
    refine ⟨{ sound with ended := fun ended => ?_ }, le_rfl, fun e known => known.or⟩
    simp [(sound.ended ended).1] at early
  exact noted.trans (later_transition noted.sound none)

lemma later_check : s.Later s.checkAndTransitionToOperational := by
  unfold checkAndTransitionToOperational
  split
  · rename_i ready
    have routed := sound.routed ready.2.2
    have unpublished := sound.unpublished (by rw [ready.1]; decide)
    split
    · refine ⟨⟨fun _ => ready.2, sound.routed, ?_, ?_, sound.calm, fun ended => ?_⟩, ?_,
        fun _ => id⟩
      · simp
      · simp [unpublished]
      · exact absurd (sound.ended ended).1 (by rw [ready.1]; decide)
      · simp [ready.1]
    · rename_i missing
      rw [missing] at routed
      cases routed
  · exact sound.later

lemma later_complete (phase : s.currentPhase = .handshakeInProgress) :
    s.Later (checkAndTransitionToOperational { s with currentPhase := .waitingForPipes }) := by
  have first : s.Later { s with currentPhase := .waitingForPipes } := by
    refine ⟨⟨nofun, sound.routed, fun _ => ?_, sound.once, sound.calm, fun ended => ?_⟩, ?_,
      fun _ => id⟩
    · exact sound.unpublished (by rw [phase]; decide)
    · exact absurd (sound.ended ended).1 (by rw [phase]; decide)
    · simp [phase]
  exact first.trans (later_check first.sound)

lemma later_initializePipes (readId : Nat) : s.Later (s.initializePipes readId) := by
  unfold initializePipes
  split
  · exact sound.later
  · have attached : s.Later
        { s with isAttached := true, routingId := some readId } :=
      ⟨{ sound with
          operational := fun now => ⟨(sound.operational now).1, rfl⟩
          routed := fun _ => rfl }, le_rfl, fun _ => id⟩
    dsimp only
    split
    · exact attached.trans (later_check attached.sound)
    · split
      · rename_i complete
        exact attached.trans (later_complete attached.sound complete.1)
      · exact attached

lemma later_progression (phase : s.currentPhase = .handshakeInProgress)
    (progress : HandshakeProgressX) : s.Later (s.handleHandshakeProgression progress) := by
  cases progress with
  | inProgress | identityReady | handshakeComplete =>
    dsimp only [handleHandshakeProgression]
    split
    · exact later_complete sound phase
    · exact sound.later
  | protocolError | fatalError => exact later_setFatalError sound (by rw [phase]; decide) _

lemma later_elim (early : s.currentPhase.rank < 3) (error : Option ZmqError) :
    s.Later (error.elim s s.setFatalError) := by
  cases error with
  | none => exact sound.later
  | some e => exact later_setFatalError sound early e

lemma later_select (early : s.currentPhase.rank < 3) {arm : Arm}
    (enabled : s.enabled arm = true) : s.Later (s.select arm) := by
  cases arm with
  | ignored => exact sound.later
  | initializePipes readId => exact later_initializePipes sound readId
  | stop | contextTerminating | parentClosing | pipeClosed => exact later_transition sound _
  | eventsLagged | eventsClosed | handshakeTimeout | pongTimeout =>
    exact later_setFatalError sound early _
  | ping error | outgoing error => exact later_elim sound early error
  | advanceHandshake complete progress =>
    have phase := of_decide_eq_true enabled
    have polled : s.Later { s with handshakeDone := s.handshakeDone || complete } := by
      refine ⟨{ sound with operational := fun now => ?_ }, le_rfl, fun _ => id⟩
      simp [phase] at now
    cases progress with
    | none => exact polled
    | some progress => exact polled.trans (later_progression polled.sound phase progress)
  | dataFrame error =>
    have routed := sound.routed (sound.operational (of_decide_eq_true enabled)).2
    dsimp only [select, handleIncomingFromNetwork]
    split
    · rename_i missing
      rw [missing] at routed
      cases routed
    · exact later_elim sound early error
  | readFailed e =>
    dsimp only [select]
    split
    · exact later_transition sound _
    · exact later_setFatalError sound early e

lemma later_step {a} (taken : s.step a = some t) : s.Later t := by
  cases a with
  | select arm =>
    obtain ⟨free, ⟨⟩⟩ := ite_none_left_eq_some.mp taken
    rw [not_or, not_not, Bool.not_eq_true] at free
    exact later_select sound (isShuttingDown_eq_false.mp free.1) free.2
  | performGracefulShutdown error =>
    obtain ⟨phase, ⟨⟩⟩ := ite_none_right_eq_some.mp taken
    refine ⟨⟨nofun, nofun, ?_, sound.once, sound.calm, fun ended => ?_⟩, ?_,
      fun e known => known.or⟩
    · simp
    · exact absurd (sound.ended ended).1 (by rw [phase]; decide)
    · simp [phase]
  | dropGuard =>
    obtain ⟨⟨phase, unreported⟩, ⟨⟩⟩ := ite_none_right_eq_some.mp taken
    refine ⟨{ sound with ended := fun _ => ⟨phase, rfl⟩ }, le_rfl, fun e known => ?_⟩
    rcases known with known | known
    · exact .inr (congrArg some known)
    · rw [unreported] at known
      cases known

lemma later_run (reached : Reaches step (fun _ _ => True) s t) : s.Later t :=
  reached.invariant (fun _ _ _ before _ taken => before.trans (later_step before.sound taken))
    sound.later

end

end SessionConnectionActor

end Rzmq
