import Rzmq.Lib.Transition
import Mathlib.Data.Finset.Basic
import Mathlib.Logic.Function.Basic

/-! The shutdown of a socket: the core with its coordinator, the listeners and the sessions over
byte streams, and the pipes between them.  Transports are healthy: a session leaves its operational
phase only when it is told to. -/

namespace Rzmq

open List Option Function Transition

variable {β : Type}

inductive ShutdownPhase where
  | running
  | stoppingChildren
  | lingering
  | cleaningPipes
  | finished
deriving DecidableEq

structure ShutdownCoordinator where
  state : ShutdownPhase
  pendingChildActors : Finset Nat
  pendingConnectionsToClose : Finset Nat
  lingerDeadline : Option Nat

namespace ShutdownCoordinator

def new : ShutdownCoordinator where
  state := .running
  pendingChildActors := ∅
  pendingConnectionsToClose := ∅
  lingerDeadline := none

variable (c : ShutdownCoordinator)

def beginShutdownSequence (listeners sessions : Finset Nat) : ShutdownCoordinator :=
  if c.state = .running then
    { c with pendingChildActors := listeners, pendingConnectionsToClose := sessions }
  else c

def pendingEmpty : Bool :=
  c.pendingChildActors = ∅ ∧ c.pendingConnectionsToClose = ∅

def recordChildActorStopped (h : Nat) : ShutdownCoordinator × Bool :=
  if c.state ≠ .finished ∧ h ∈ c.pendingChildActors then
    let c := { c with pendingChildActors := c.pendingChildActors.erase h }
    (c, c.pendingEmpty)
  else (c, false)

def recordConnectionClosed (h : Nat) : ShutdownCoordinator × Bool :=
  if c.state ≠ .finished ∧ h ∈ c.pendingConnectionsToClose then
    let c := { c with pendingConnectionsToClose := c.pendingConnectionsToClose.erase h }
    (c, c.pendingEmpty)
  else (c, false)

def startLingerIfNeeded (linger : Option Nat) (now : Nat) : ShutdownCoordinator :=
  if c.state ≠ .lingering then c
  else if c.lingerDeadline.isSome ∧ linger ≠ some 0 then c
  else { c with lingerDeadline := linger.map (now + ·) }

def isLingerExpiredOrQueuesEmpty (queuesEmpty : Bool) (now : Nat) : Bool :=
  c.state = .lingering ∧ (queuesEmpty ∨ ∃ deadline ∈ c.lingerDeadline, deadline ≤ now)

def advanceToCleaningPhase : ShutdownCoordinator :=
  if c.state = .lingering then { c with state := .cleaningPipes } else c

def linger (linger : Option Nat) (now : Nat) : ShutdownCoordinator :=
  { c with state := .lingering }.startLingerIfNeeded linger now

end ShutdownCoordinator

namespace SocketCore

inductive ConnectionPhase where
  | operational
  | shuttingDownStream
  | terminating
deriving DecidableEq

/-- One `SessionConnectionActorX`: its mailbox, whether it has yet to read that its socket is
closing, its pipe, what it has taken from the pipe and framed, and whether it has announced its end.
-/
structure Session (β : Type) where
  phase : ConnectionPhase := .operational
  stops : Nat := 0
  closing : Bool := false
  pipe : List β := []
  taken : List β := []
  announced : Bool := false

def Session.accepted (x : Session β) : List β := x.taken ++ x.pipe

/-- What happens at a session: a sending call puts a message into its pipe, or it takes its own
next step. -/
inductive SessionAction (β : Type) where
  | send (message : β)
  | take
  | obeyStop
  | obeyClosing
  | shutdownStream
  | announce

/-- The arms are polled in a fixed order, but a command or an event may come between two polls, so
that the pipe can be read with one waiting. -/
def Session.step (capacity : Nat) (x : Session β) : SessionAction β → Option (Session β)
  | .send m =>
    if x.phase ≠ .terminating ∧ x.pipe.length < capacity then
      some { x with pipe := x.pipe ++ [m] }
    else none
  | .take =>
    match x.phase, x.pipe with
    | .operational, m :: rest => some { x with pipe := rest, taken := x.taken ++ [m] }
    | _, _ => none
  | .obeyStop =>
    match x.phase, x.stops with
    | .operational, n + 1 => some { x with stops := n, phase := .shuttingDownStream }
    | _, _ => none
  | .obeyClosing =>
    match x.phase, x.closing with
    | .operational, true => some { x with closing := false, phase := .shuttingDownStream }
    | _, _ => none
  | .shutdownStream =>
    match x.phase with
    | .shuttingDownStream => some { x with phase := .terminating }
    | _ => none
  | .announce =>
    match x.phase, x.announced with
    | .terminating, false => some { x with announced := true }
    | _, _ => none

structure Listener where
  told : Bool := false
  stopped : Bool := false

inductive ActorType where
  | listener
  | session

inductive SystemEvent where
  | socketClosing
  | actorStopping (type : ActorType) (h : Nat)

/-- Waiting in its loop, or between two awaits of `UserClose`, of an `ActorStopping` event, or of
the final cleanup. -/
inductive Task where
  | looping
  | publishing
  | initiating
  | stopping (listeners sessions : Finset Nat)
  | recording (type : ActorType) (h : Nat)
  | cleaning

end SocketCore

/-- The core of a socket with its children.  `before` is what each pipe had accepted when the
application first called `close`. -/
structure SocketCore (β : Type) where
  linger : Option Nat
  capacity : Nat
  coordinator : ShutdownCoordinator
  listenerEndpoints : Finset Nat
  sessionEndpoints : Finset Nat
  pipesTx : Finset Nat
  listeners : Nat → Option SocketCore.Listener
  sessions : Nat → Option (SocketCore.Session β)
  commands : Nat
  events : List SocketCore.SystemEvent
  task : SocketCore.Task
  before : Option (Nat → List β)

namespace SocketCore

def new (linger : Option Nat) (sndhwm : Nat) (listeners sessions : Finset Nat) :
    SocketCore β where
  linger
  capacity := max sndhwm 1
  coordinator := .new
  listenerEndpoints := listeners
  sessionEndpoints := sessions
  pipesTx := sessions
  listeners h := if h ∈ listeners then some {} else none
  sessions h := if h ∈ sessions then some {} else none
  commands := 0
  events := []
  task := .looping
  before := none

variable (s : SocketCore β)

def accepted (h : Nat) : List β :=
  (s.sessions h).elim [] Session.accepted

def publishSocketClosing : SocketCore β :=
  { s with
    sessions := fun h => (s.sessions h).map fun x => { x with closing := true }
    listeners := fun h => (s.listeners h).map fun x => { x with told := true }
    events := s.events ++ [.socketClosing] }

def pipesEmpty : Bool :=
  ∀ h ∈ s.pipesTx, (s.sessions h).all (·.pipe.isEmpty)

def advanceLinger (now : Nat) : SocketCore β :=
  if s.coordinator.isLingerExpiredOrQueuesEmpty s.pipesEmpty now then
    { s with coordinator := s.coordinator.advanceToCleaningPhase, task := .cleaning }
  else s

def cleanupStoppedChildResources : ActorType → Nat → SocketCore β
  | .listener, h => { s with listenerEndpoints := s.listenerEndpoints.erase h }
  | .session, h =>
    { s with
      sessionEndpoints := s.sessionEndpoints.erase h
      pipesTx := if h ∈ s.sessionEndpoints then s.pipesTx.erase h else s.pipesTx }

def recordStopped (type : ActorType) (h now : Nat) : SocketCore β :=
  if s.coordinator.state = .stoppingChildren then
    let (c, last) :=
      match type with
      | .listener => s.coordinator.recordChildActorStopped h
      | .session => s.coordinator.recordConnectionClosed h
    { s with coordinator := if last then c.linger s.linger now else c, task := .looping }
  else { s with task := .looping }

def decidePhase (now : Nat) : SocketCore β :=
  if s.coordinator.pendingEmpty then
    { s with coordinator := s.coordinator.linger s.linger now, task := .looping }.advanceLinger now
  else
    { s with coordinator := { s.coordinator with state := .stoppingChildren }, task := .looping }

def checkAndAdvanceLinger (now : Nat) : SocketCore β :=
  if s.coordinator.state ≠ .lingering then s
  else if s.coordinator.lingerDeadline.isNone ∧ s.linger ≠ some 0 then
    { s with coordinator := s.coordinator.startLingerIfNeeded s.linger now }.advanceLinger now
  else s.advanceLinger now

def performFinalPipeCleanup : SocketCore β :=
  { s with
    sessions := fun h =>
      if h ∈ s.sessionEndpoints then (s.sessions h).map fun x => { x with stops := x.stops + 1 }
      else s.sessions h
    pipesTx := ∅
    listenerEndpoints := ∅
    sessionEndpoints := ∅
    coordinator := { s.coordinator with state := .finished }
    task := .looping }

inductive CoreAction where
  | command
  | event
  | tick (now : Nat)
  | publish
  | initiate
  | stopListener (h : Nat)
  | stopSession (h : Nat)
  | decide (now : Nat)
  | record (now : Nat)
  | cleanup

def closeConnection (h : Nat) : SocketCore β :=
  { s with sessions :=
      update s.sessions h ((s.sessions h).map fun x => { x with stops := x.stops + 1 }) }

def stopChild (h : Nat) : SocketCore β :=
  { s with listeners :=
      if h ∈ s.listenerEndpoints then
        update s.listeners h ((s.listeners h).map fun x => { x with told := true })
      else s.listeners }

def loopStep : CoreAction → Option (SocketCore β)
  | .command =>
    match s.commands with
    | n + 1 => some { s with commands := n, task := .publishing }
    | 0 => none
  | .event =>
    match s.events with
    | .socketClosing :: rest => some { s with events := rest, task := .initiating }
    | .actorStopping type h :: rest =>
      some { s.cleanupStoppedChildResources type h with events := rest, task := .recording type h }
    | [] => none
  | .tick now => some (s.checkAndAdvanceLinger now)
  | _ => none

def initiateCoreShutdown : SocketCore β :=
  if s.coordinator.state = .running then
    let c := s.coordinator.beginShutdownSequence s.listenerEndpoints s.sessionEndpoints
    { s with
      coordinator := c
      task := .stopping c.pendingChildActors c.pendingConnectionsToClose }
  else { s with task := .looping }

def stopStep (listeners sessions : Finset Nat) : CoreAction → Option (SocketCore β)
  | .stopListener h =>
    if h ∈ listeners then
      some { s.stopChild h with task := .stopping (listeners.erase h) sessions }
    else none
  | .stopSession h =>
    if listeners = ∅ ∧ h ∈ sessions then
      some { s.closeConnection h with task := .stopping listeners (sessions.erase h) }
    else none
  | .decide now =>
    if listeners = ∅ ∧ sessions = ∅ then some (s.decidePhase now) else none
  | _ => none

def coreStep (a : CoreAction) : Option (SocketCore β) :=
  match s.task, a with
  | .looping, a => if s.coordinator.state = .finished then none else s.loopStep a
  | .publishing, .publish => some { s.publishSocketClosing with task := .initiating }
  | .initiating, .initiate => some s.initiateCoreShutdown
  | .stopping listeners sessions, a => s.stopStep listeners sessions a
  | .recording type h, .record now => some (s.recordStopped type h now)
  | .cleaning, .cleanup => some s.performFinalPipeCleanup
  | _, _ => none

/-- A step of the application that closes the socket, of the core's task, at a session or of a
listener. -/
inductive Action (β : Type) where
  | close
  | core (a : CoreAction)
  | session (h : Nat) (a : SessionAction β)
  | listenerStops (h : Nat)

def SessionAction.events (h : Nat) : SessionAction β → List SystemEvent
  | .announce => [.actorStopping .session h]
  | _ => []

def step : Action β → Option (SocketCore β)
  | .close => some { s with commands := s.commands + 1, before := s.before.or (some s.accepted) }
  | .core a => s.coreStep a
  | .session h a =>
    ((s.sessions h).bind (·.step s.capacity a)).map fun y =>
      { s with sessions := update s.sessions h (some y), events := s.events ++ a.events h }
  | .listenerStops h =>
    match s.listeners h with
    | some x =>
      if x.told ∧ ¬ x.stopped then
        some { s with
          listeners := update s.listeners h (some { x with stopped := true })
          events := s.events ++ [.actorStopping .listener h] }
      else none
    | none => none

/-- Once a session has left the operational phase it takes no more messages and never goes back. -/
structure Session.Moves (x y : Session β) : Prop where
  away : x.phase ≠ .operational → y.phase ≠ .operational ∧ y.taken = x.taken
  ended : x.phase = .terminating → y.phase = .terminating

structure Session.Told (x y : Session β) : Prop where
  phase : y.phase = x.phase
  taken : y.taken = x.taken

lemma Session.Told.refl (x : Session β) : x.Told x := ⟨rfl, rfl⟩

variable {s s' : SocketCore β} {a : SessionAction β} {x y : Session β}
  {R : Session β → Session β → Prop} {h : Nat} {listeners sessions : Finset Nat}

lemma Session.Told.moves (told : x.Told y) : x.Moves y where
  away left := ⟨told.phase ▸ left, told.taken⟩
  ended := told.phase.trans

inductive Session.Steps (x : Session β) : SessionAction β → Session β → Prop where
  | send (m : β) : x.Steps (.send m) { x with pipe := x.pipe ++ [m] }
  | take {m rest : _} (here : x.phase = .operational) (pipe : x.pipe = m :: rest) :
      x.Steps .take { x with pipe := rest, taken := x.taken ++ [m] }
  | obeyStop {n : _} (here : x.phase = .operational) (stops : x.stops = n + 1) :
      x.Steps .obeyStop { x with stops := n, phase := .shuttingDownStream }
  | obeyClosing (here : x.phase = .operational) (closing : x.closing = true) :
      x.Steps .obeyClosing { x with closing := false, phase := .shuttingDownStream }
  | shutdownStream (leaving : x.phase = .shuttingDownStream) :
      x.Steps .shutdownStream { x with phase := .terminating }
  | announce (ended : x.phase = .terminating) : x.Steps .announce { x with announced := true }

lemma Session.step_cases {capacity : Nat} (taken : x.step capacity a = some y) : x.Steps a y := by
  cases a with
  | send m =>
    simp only [Session.step, ite_none_right_eq_some, Option.some.injEq] at taken
    obtain ⟨_, rfl⟩ := taken
    exact .send m
  | take =>
    simp only [Session.step] at taken
    split at taken <;> cases taken
    exact .take ‹_› ‹_›
  | obeyStop =>
    simp only [Session.step] at taken
    split at taken <;> cases taken
    exact .obeyStop ‹_› ‹_›
  | obeyClosing =>
    simp only [Session.step] at taken
    split at taken <;> cases taken
    exact .obeyClosing ‹_› ‹_›
  | shutdownStream =>
    simp only [Session.step] at taken
    split at taken <;> cases taken
    exact .shutdownStream ‹_›
  | announce =>
    simp only [Session.step] at taken
    split at taken <;> cases taken
    exact .announce ‹_›

lemma Session.Steps.moves (steps : x.Steps a y) : x.Moves y := by
  cases steps with
  | send m | announce ended => exact ⟨fun away => ⟨away, rfl⟩, id⟩
  | take here pipe | obeyStop here _ | obeyClosing here _ =>
    exact ⟨fun away => absurd here away, by simp [here]⟩
  | shutdownStream leaving => exact ⟨fun _ => ⟨nofun, rfl⟩, fun _ => rfl⟩

def SessionAction.Ends : SessionAction β → Prop
  | .obeyStop | .obeyClosing => True
  | _ => False

lemma Session.Steps.ends (steps : x.Steps a y)
    (ends : a.Ends) : x.phase = .operational ∧ y.phase ≠ .operational ∧ y.taken = x.taken := by
  cases steps with
  | obeyStop here _ | obeyClosing here _ => exact ⟨here, nofun, rfl⟩
  | send | take | shutdownStream | announce => exact ends.elim

lemma Session.Steps.stays (steps : x.Steps a y) (stays : ¬ a.Ends)
    (here : x.phase = .operational) : y.phase = .operational := by
  cases steps with
  | send | take => exact here
  | obeyStop | obeyClosing => exact (stays trivial).elim
  | shutdownStream leaving => simp [here] at leaving
  | announce ended => simp [here] at ended

/-- The sessions are as they were, and so is what the pipes had accepted when the socket was
closed. -/
structure Frame (s s' : SocketCore β) : Prop where
  sessions : s'.sessions = s.sessions
  before : s'.before = s.before

section

variable (s)

lemma advanceLinger_cases (now : Nat) :
    s.advanceLinger now = s ∨ s.coordinator.state = .lingering ∧
      s.advanceLinger now =
        { s with
          coordinator := { s.coordinator with state := .cleaningPipes }
          task := .cleaning } := by
  unfold advanceLinger
  split
  · next expired =>
    have lingering : s.coordinator.state = .lingering := by
      simp only [ShutdownCoordinator.isLingerExpiredOrQueuesEmpty, decide_eq_true_eq] at expired
      exact expired.1
    exact .inr ⟨lingering, by rw [ShutdownCoordinator.advanceToCleaningPhase, if_pos lingering]⟩
  · exact .inl rfl

lemma advanceLinger_frame (now : Nat) : s.Frame (s.advanceLinger now) := by
  obtain same | ⟨_, moved⟩ := advanceLinger_cases s now
  · rw [same]
    exact ⟨rfl, rfl⟩
  · rw [moved]
    exact ⟨rfl, rfl⟩

lemma decidePhase_frame (now : Nat) : s.Frame (s.decidePhase now) := by
  unfold decidePhase
  split
  · have frame := advanceLinger_frame
      { s with coordinator := s.coordinator.linger s.linger now, task := .looping } now
    exact ⟨frame.sessions, frame.before⟩
  · exact ⟨rfl, rfl⟩

lemma checkAndAdvanceLinger_frame (now : Nat) :
    s.Frame (s.checkAndAdvanceLinger now) := by
  unfold checkAndAdvanceLinger
  split_ifs
  · exact ⟨rfl, rfl⟩
  · have frame := advanceLinger_frame
      { s with coordinator := s.coordinator.startLingerIfNeeded s.linger now } now
    exact ⟨frame.sessions, frame.before⟩
  · exact advanceLinger_frame s now

lemma recordStopped_frame (type : ActorType) (h now : Nat) :
    s.Frame (s.recordStopped type h now) := by
  unfold recordStopped
  split <;> exact ⟨rfl, rfl⟩

lemma cleanupStoppedChildResources_frame (type : ActorType) (h : Nat) :
    s.Frame (s.cleanupStoppedChildResources type h) := by
  cases type <;> exact ⟨rfl, rfl⟩

lemma initiateCoreShutdown_frame : s.Frame s.initiateCoreShutdown := by
  unfold initiateCoreShutdown
  split <;> exact ⟨rfl, rfl⟩

end

def Along (R : Session β → Session β → Prop) (s s' : SocketCore β) : Prop :=
  ∀ h, Option.Rel R (s.sessions h) (s'.sessions h)

lemma Along.of_eq (refl : ∀ x, R x x) (same : s'.sessions = s.sessions) : s.Along R s' := by
  intro h
  rw [same]
  cases s.sessions h with
  | none => exact .none
  | some x => exact .some (refl x)

lemma Along.of_map (f : Session β → Session β) (told : ∀ x, Session.Told x (f x))
    (here : ∀ h, s'.sessions h = s.sessions h ∨ s'.sessions h = (s.sessions h).map f) :
    s.Along Session.Told s' := by
  intro h
  obtain same | mapped := here h
  · rw [same]
    exact Along.of_eq Session.Told.refl (rfl : s.sessions = s.sessions) h
  · rw [mapped]
    cases s.sessions h with
    | none => exact .none
    | some x => exact .some (told x)

lemma Along.mono {R R'} (weaker : ∀ x y, R x y → R' x y)
    (along : s.Along R s') : s.Along R' s' := by
  intro h
  have related := along h
  generalize s.sessions h = before, s'.sessions h = after at related
  cases related with
  | none => exact .none
  | some related => exact .some (weaker _ _ related)

lemma Along.found (along : s.Along R s') {y} (found : s'.sessions h = some y) :
    ∃ x, s.sessions h = some x ∧ R x y := by
  have related := along h
  rw [found] at related
  generalize s.sessions h = before at related
  cases related with
  | some related => exact ⟨_, rfl, related⟩

inductive CoreSteps (s : SocketCore β) : SocketCore β → Prop where
  | command {n : _} (looping : s.task = .looping) (commands : s.commands = n + 1) :
      CoreSteps s { s with commands := n, task := .publishing }
  | closing {rest : _} (looping : s.task = .looping) (events : s.events = .socketClosing :: rest) :
      CoreSteps s { s with events := rest, task := .initiating }
  | stopped {type h rest : _} (looping : s.task = .looping)
      (events : s.events = .actorStopping type h :: rest) :
      CoreSteps s
        { s.cleanupStoppedChildResources type h with events := rest, task := .recording type h }
  | tick (now : Nat) (looping : s.task = .looping) : CoreSteps s (s.checkAndAdvanceLinger now)
  | publish (publishing : s.task = .publishing) :
      CoreSteps s { s.publishSocketClosing with task := .initiating }
  | initiate (initiating : s.task = .initiating) : CoreSteps s s.initiateCoreShutdown
  | stopListener {listeners sessions : _} (h : Nat)
      (stopping : s.task = .stopping listeners sessions) :
      CoreSteps s { s.stopChild h with task := .stopping (listeners.erase h) sessions }
  | stopSession {listeners sessions : _} (h : Nat)
      (stopping : s.task = .stopping listeners sessions) :
      CoreSteps s { s.closeConnection h with task := .stopping listeners (sessions.erase h) }
  | decide {listeners sessions : _} (now : Nat)
      (stopping : s.task = .stopping listeners sessions) : CoreSteps s (s.decidePhase now)
  | record {type h : _} (now : Nat) (recording : s.task = .recording type h) :
      CoreSteps s (s.recordStopped type h now)
  | cleanup (cleaning : s.task = .cleaning) : CoreSteps s s.performFinalPipeCleanup

lemma loopStep_cases {a} (looping : s.task = .looping)
    (taken : s.loopStep a = some s') : s.CoreSteps s' := by
  unfold loopStep at taken
  split at taken
  · split at taken <;> cases taken
    exact .command looping ‹_›
  · split at taken <;> cases taken
    · exact .closing looping ‹_›
    · exact .stopped looping ‹_›
  · cases taken
    exact .tick _ looping
  · cases taken

lemma stopStep_cases {a} (stopping : s.task = .stopping listeners sessions)
    (taken : s.stopStep listeners sessions a = some s') : s.CoreSteps s' := by
  unfold stopStep at taken
  split at taken
  · obtain ⟨_, ⟨⟩⟩ := ite_none_right_eq_some.mp taken
    exact .stopListener _ stopping
  · obtain ⟨_, ⟨⟩⟩ := ite_none_right_eq_some.mp taken
    exact .stopSession _ stopping
  · obtain ⟨_, ⟨⟩⟩ := ite_none_right_eq_some.mp taken
    exact .decide _ stopping
  · cases taken

lemma coreStep_cases {a} (taken : s.coreStep a = some s') : s.CoreSteps s' := by
  unfold coreStep at taken
  split at taken
  · exact loopStep_cases ‹_› (ite_none_left_eq_some.mp taken).2
  · cases taken
    exact .publish ‹_›
  · cases taken
    exact .initiate ‹_›
  · exact stopStep_cases ‹_› taken
  · cases taken
    exact .record _ ‹_›
  · cases taken
    exact .cleanup ‹_›
  · cases taken

lemma CoreSteps.told (steps : s.CoreSteps s') :
    s.Along Session.Told s' ∧ s'.before = s.before := by
  have same {t : SocketCore β} (frame : s.Frame t) : s.Along Session.Told t ∧ t.before = s.before :=
    ⟨.of_eq Session.Told.refl frame.sessions, frame.before⟩
  cases steps with
  | command | closing | stopListener => exact same ⟨rfl, rfl⟩
  | @stopped type h =>
    have frame := cleanupStoppedChildResources_frame s type h
    exact same ⟨frame.sessions, frame.before⟩
  | tick now => exact same (checkAndAdvanceLinger_frame s now)
  | publish =>
    refine ⟨.of_map (fun x => { x with closing := true }) (fun x => ⟨rfl, rfl⟩) ?_, rfl⟩
    exact fun h => .inr rfl
  | initiate => exact same (initiateCoreShutdown_frame s)
  | stopSession h =>
    refine ⟨.of_map (fun x => { x with stops := x.stops + 1 }) (fun x => ⟨rfl, rfl⟩) ?_, rfl⟩
    intro k
    by_cases here : k = h
    · subst here
      exact .inr (update_self ..)
    · exact .inl (update_of_ne here ..)
  | decide now => exact same (decidePhase_frame s now)
  | record now => exact same (recordStopped_frame ..)
  | cleanup =>
    refine ⟨.of_map (fun x => { x with stops := x.stops + 1 }) (fun x => ⟨rfl, rfl⟩) ?_, rfl⟩
    intro h
    by_cases left : h ∈ s.sessionEndpoints
    · exact .inr (if_pos left)
    · exact .inl (if_neg left)

inductive Steps (s : SocketCore β) : Action β → SocketCore β → Prop where
  | close :
      Steps s .close { s with commands := s.commands + 1, before := s.before.or (some s.accepted) }
  | core {a s' : _} (steps : s.CoreSteps s') : Steps s (.core a) s'
  | session {h a x y : _} (found : s.sessions h = some x) (steps : x.Steps a y) :
      Steps s (.session h a)
        { s with sessions := update s.sessions h (some y), events := s.events ++ a.events h }
  | listenerStops {h x : _} (found : s.listeners h = some x) (told : x.told = true) :
      Steps s (.listenerStops h)
        { s with
          listeners := update s.listeners h (some { x with stopped := true })
          events := s.events ++ [.actorStopping .listener h] }

lemma step_cases {a} (taken : s.step a = some s') : s.Steps a s' := by
  cases a with
  | close =>
    cases taken
    exact .close
  | core a => exact .core (coreStep_cases taken)
  | session h a =>
    simp only [step, map_eq_some_iff, bind_eq_some_iff] at taken
    obtain ⟨y, ⟨x, found, steps⟩, rfl⟩ := taken
    exact .session found (Session.step_cases steps)
  | listenerStops h =>
    simp only [step] at taken
    split at taken
    · next x found =>
      obtain ⟨told, ⟨⟩⟩ := ite_none_right_eq_some.mp taken
      exact .listenerStops found told.1
    · cases taken

lemma Steps.moves {a} (steps : s.Steps a s') : s.Along Session.Moves s' := by
  cases steps with
  | close | listenerStops => exact .of_eq (fun x => (Session.Told.refl x).moves) rfl
  | core steps => exact steps.told.1.mono fun _ _ => Session.Told.moves
  | @session h a x y found steps =>
    intro k
    by_cases here : k = h
    · subst here
      simp only [found, update_self]
      exact .some steps.moves
    · simp only [update_of_ne here]
      exact (Along.of_eq (fun x => (Session.Told.refl x).moves) (rfl : s.sessions = s.sessions)) k

def Ended (sessions : Nat → Option (Session β)) (h : Nat) : Prop :=
  ∀ x, sessions h = some x → x.phase = .terminating

lemma Along.ended (along : s.Along Session.Moves s')
    (ended : Ended s.sessions h) : Ended s'.sessions h := by
  intro y found
  obtain ⟨x, earlier, moves⟩ := along.found found
  exact moves.ended (ended x earlier)

structure Untouched (s : SocketCore β) : Prop where
  looping : s.task = .looping
  running : s.coordinator.state = .running
  commands : s.commands = 0
  events : s.events = []
  listeners : ∀ h x, s.listeners h = some x → x.told = false
  sessions : ∀ h x, s.sessions h = some x → x.phase = .operational ∧ x.stops = 0 ∧ x.closing = false

lemma CoreSteps.of_untouched (untouched : s.Untouched) (steps : s.CoreSteps s') : s' = s := by
  have looping := untouched.looping
  cases steps with
  | command _ commands => simp [untouched.commands] at commands
  | closing _ events | stopped _ events => simp [untouched.events] at events
  | tick now =>
    have running : s.coordinator.state ≠ .lingering := by simp [untouched.running]
    rw [checkAndAdvanceLinger, if_pos running]
  | publish task | initiate task | stopListener h task | stopSession h task | decide now task
  | record now task | cleanup task => simp [looping] at task

lemma Session.Steps.untouched (steps : x.Steps a y)
    (untouched : x.phase = .operational ∧ x.stops = 0 ∧ x.closing = false) :
    (y.phase = .operational ∧ y.stops = 0 ∧ y.closing = false) ∧ ∀ h, a.events h = [] := by
  obtain ⟨here, stops, closing⟩ := untouched
  cases steps with
  | send | take => exact ⟨⟨here, stops, closing⟩, fun _ => rfl⟩
  | obeyStop _ some => simp [stops] at some
  | obeyClosing _ some => simp [closing] at some
  | shutdownStream leaving => simp [here] at leaving
  | announce ended => simp [here] at ended

lemma Steps.untouched {a} (steps : s.Steps a s')
    (untouched : s.before = none → s.Untouched) (unclosed : s'.before = none) : s'.Untouched := by
  cases steps with
  | close => simp at unclosed
  | core steps =>
    have untouched := untouched (steps.told.2 ▸ unclosed)
    exact steps.of_untouched untouched ▸ untouched
  | @session h a x y found steps =>
    have untouched := untouched unclosed
    obtain ⟨kept, silent⟩ := steps.untouched (untouched.sessions h x found)
    refine { untouched with events := ?_, sessions := ?_ }
    · simp [untouched.events, silent]
    · intro k z found
      by_cases here : k = h
      · subst here
        cases (update_self .. : update s.sessions k (some y) k = _).symm.trans found
        exact kept
      · exact untouched.sessions k z ((update_of_ne here ..).symm.trans found)
  | @listenerStops h x found told =>
    have idle := (untouched unclosed).listeners h x found
    simp [idle] at told

/-- From the start of the shutdown every session that still reads its pipe is pending. -/
structure Tracked (s : SocketCore β) : Prop where
  announced : ∀ h, .actorStopping .session h ∈ s.events → Ended s.sessions h
  recorded : ∀ h, s.task = .recording .session h → Ended s.sessions h
  registered : s.coordinator.state = .running → ∀ h, h ∈ s.sessionEndpoints ∨ Ended s.sessions h
  pending : (s.coordinator.state ≠ .running ∨ ∃ l c, s.task = .stopping l c) →
    ∀ h, h ∈ s.coordinator.pendingConnectionsToClose ∨ Ended s.sessions h
  settled : s.coordinator.state ≠ .running → s.coordinator.state ≠ .stoppingChildren →
    s.coordinator.pendingConnectionsToClose = ∅
  cleaning : s.task = .cleaning → s.coordinator.state = .cleaningPipes

lemma Tracked.all_ended {s : SocketCore β} (tracked : s.Tracked)
    (state : s.coordinator.state = .cleaningPipes ∨ s.coordinator.state = .finished) (h : Nat) :
    Ended s.sessions h := by
  have past : s.coordinator.state ≠ .running ∧ s.coordinator.state ≠ .stoppingChildren := by
    obtain state | state := state <;> simp [state]
  refine (tracked.pending (.inl past.1) h).resolve_left ?_
  simp [tracked.settled past.1 past.2]

lemma Tracked.frame (tracked : s.Tracked) (ended : ∀ h, Ended s.sessions h → Ended s'.sessions h)
    (task : s'.task = s.task) (coordinator : s'.coordinator = s.coordinator)
    (endpoints : s'.sessionEndpoints = s.sessionEndpoints)
    (announced : ∀ h, .actorStopping .session h ∈ s'.events →
      .actorStopping .session h ∈ s.events ∨ Ended s'.sessions h) : s'.Tracked where
  announced h mem := (announced h mem).elim (fun old => ended h (tracked.announced h old)) id
  recorded h := by rw [task]; exact fun now => ended h (tracked.recorded h now)
  registered := by
    rw [coordinator, endpoints]
    exact fun running h => (tracked.registered running h).imp_right (ended h)
  pending := by
    rw [coordinator, task]
    exact fun begun h => (tracked.pending begun h).imp_right (ended h)
  settled := by rw [coordinator]; exact tracked.settled
  cleaning := by rw [coordinator, task]; exact tracked.cleaning

lemma startLingerIfNeeded_frame (c : ShutdownCoordinator) (linger) (now : Nat) :
    (c.startLingerIfNeeded linger now).state = c.state ∧
      (c.startLingerIfNeeded linger now).pendingConnectionsToClose =
        c.pendingConnectionsToClose := by
  unfold ShutdownCoordinator.startLingerIfNeeded
  split_ifs <;> exact ⟨rfl, rfl⟩

lemma linger_frame (c : ShutdownCoordinator) (linger) (now : Nat) :
    (c.linger linger now).state = .lingering ∧
      (c.linger linger now).pendingConnectionsToClose = c.pendingConnectionsToClose :=
  startLingerIfNeeded_frame { c with state := .lingering } linger now

lemma Tracked.advanceLinger {s : SocketCore β} (tracked : s.Tracked) (now : Nat) :
    (s.advanceLinger now).Tracked := by
  obtain same | ⟨lingering, moved⟩ := advanceLinger_cases s now
  · rwa [same]
  · have begun : s.coordinator.state ≠ .running := by simp [lingering]
    rw [moved]
    refine ⟨tracked.announced, nofun, nofun, fun _ => tracked.pending (.inl begun), fun _ _ => ?_,
      fun _ => rfl⟩
    exact tracked.settled begun (by simp [lingering])

lemma Tracked.decidePhase {s : SocketCore β} (tracked : s.Tracked) (now : Nat)
    (stopping : s.task = .stopping listeners sessions) : (s.decidePhase now).Tracked := by
  have pending := tracked.pending (.inr ⟨_, _, stopping⟩)
  unfold SocketCore.decidePhase
  split
  · next empty =>
    obtain ⟨state, same⟩ := linger_frame s.coordinator s.linger now
    simp only [ShutdownCoordinator.pendingEmpty, decide_eq_true_eq] at empty
    refine Tracked.advanceLinger (s := { s with
      coordinator := s.coordinator.linger s.linger now, task := .looping }) ?_ now
    refine ⟨tracked.announced, nofun, fun running => ?_, fun _ => ?_, fun _ _ => ?_, nofun⟩
    · simp [state] at running
    · simpa only [same] using pending
    · simpa only [same] using empty.2
  · exact ⟨tracked.announced, nofun, nofun, fun _ => pending, fun _ out => absurd rfl out, nofun⟩

lemma Tracked.checkAndAdvanceLinger {s : SocketCore β} (tracked : s.Tracked) (now : Nat) :
    (s.checkAndAdvanceLinger now).Tracked := by
  unfold SocketCore.checkAndAdvanceLinger
  split_ifs
  · exact tracked
  · obtain ⟨state, same⟩ := startLingerIfNeeded_frame s.coordinator s.linger now
    refine Tracked.advanceLinger (s := { s with
      coordinator := s.coordinator.startLingerIfNeeded s.linger now }) ?_ now
    constructor
    · exact tracked.announced
    · exact tracked.recorded
    · simpa only [state] using tracked.registered
    · simpa only [state, same] using tracked.pending
    · simpa only [state, same] using tracked.settled
    · simpa only [state] using tracked.cleaning
  · exact tracked.advanceLinger now

lemma Tracked.initiateCoreShutdown {s : SocketCore β} (tracked : s.Tracked) :
    s.initiateCoreShutdown.Tracked := by
  unfold SocketCore.initiateCoreShutdown
  split
  · next running =>
    simp only [ShutdownCoordinator.beginShutdownSequence, if_pos running]
    refine ⟨tracked.announced, nofun, tracked.registered, fun _ => tracked.registered running,
      fun begun => absurd running begun, nofun⟩
  · next begun =>
    exact ⟨tracked.announced, nofun, fun running => absurd running begun,
      fun _ => tracked.pending (.inl begun), tracked.settled, nofun⟩

lemma recorded_pending {c : ShutdownCoordinator} {Ended : Nat → Prop}
    (pending : ∀ h, h ∈ c.pendingConnectionsToClose ∨ Ended h) (type : ActorType) {k : Nat}
    (ended : type = .session → Ended k) :
    let after := match type with
      | .listener => c.recordChildActorStopped k
      | .session => c.recordConnectionClosed k
    (∀ h, h ∈ after.1.pendingConnectionsToClose ∨ Ended h) ∧ after.1.state = c.state ∧
      (after.2 = true → after.1.pendingConnectionsToClose = ∅) := by
  cases type with
  | listener =>
    simp only [ShutdownCoordinator.recordChildActorStopped]
    split
    · refine ⟨pending, rfl, fun empty => ?_⟩
      simp only [ShutdownCoordinator.pendingEmpty, decide_eq_true_eq] at empty
      exact empty.2
    · exact ⟨pending, rfl, nofun⟩
  | session =>
    simp only [ShutdownCoordinator.recordConnectionClosed]
    split
    · refine ⟨fun h => ?_, rfl, fun empty => ?_⟩
      · by_cases same : h = k
        · exact .inr (same ▸ ended rfl)
        · exact (pending h).imp_left fun mem => Finset.mem_erase.mpr ⟨same, mem⟩
      · simp only [ShutdownCoordinator.pendingEmpty, decide_eq_true_eq] at empty
        exact empty.2
    · exact ⟨pending, rfl, nofun⟩

lemma Tracked.recordStopped {s : SocketCore β} (tracked : s.Tracked) {type : ActorType}
    (now : Nat) (recording : s.task = .recording type h) :
    (s.recordStopped type h now).Tracked := by
  unfold SocketCore.recordStopped
  split
  · next stopping =>
    have begun : s.coordinator.state ≠ .running := by simp [stopping]
    have ended : type = .session → Ended s.sessions h := by
      rintro rfl
      exact tracked.recorded h recording
    have recorded := recorded_pending (tracked.pending (.inl begun)) type ended
    revert recorded
    generalize (match type with
      | .listener => s.coordinator.recordChildActorStopped h
      | .session => s.coordinator.recordConnectionClosed h) = after
    obtain ⟨c, last⟩ := after
    rintro ⟨pending, state, empty⟩
    cases last with
    | true =>
      obtain ⟨lingering, same⟩ := linger_frame c s.linger now
      refine ⟨tracked.announced, nofun, fun running => ?_, fun _ => ?_, fun _ _ => ?_, nofun⟩
      · simp [lingering] at running
      · simpa only [if_true, same] using pending
      · simpa only [if_true, same] using empty rfl
    | false =>
      have stopping : c.state = .stoppingChildren := state.trans stopping
      refine ⟨tracked.announced, nofun, fun running => ?_, fun _ => pending, fun _ out => ?_, nofun⟩
      · simp [stopping] at running
      · exact absurd stopping out
  · refine ⟨tracked.announced, nofun, tracked.registered, fun begun => ?_, tracked.settled, nofun⟩
    exact tracked.pending (.inl (begun.resolve_right nofun))

lemma Tracked.cleanupStoppedChildResources {s : SocketCore β} (tracked : s.Tracked)
    {type : ActorType} {rest : List SystemEvent}
    (events : s.events = .actorStopping type h :: rest) :
    { s.cleanupStoppedChildResources type h with
      events := rest, task := .recording type h }.Tracked := by
  have later (k : Nat) (mem : .actorStopping .session k ∈ rest) : Ended s.sessions k :=
    tracked.announced k (events ▸ mem_cons_of_mem _ mem)
  have pending (begun : s.coordinator.state ≠ .running ∨
      ∃ l c, Task.recording type h = .stopping l c) := tracked.pending (begun.imp_right nofun)
  cases type with
  | listener => exact ⟨later, nofun, tracked.registered, pending, tracked.settled, nofun⟩
  | session =>
    have ended : Ended s.sessions h := tracked.announced h (events ▸ mem_cons_self)
    refine ⟨later, ?_, fun running k => ?_, pending, tracked.settled, nofun⟩
    · rintro k recording
      cases recording
      exact ended
    · by_cases same : k = h
      · exact .inr (same ▸ ended)
      · exact (tracked.registered running k).imp_left fun mem => Finset.mem_erase.mpr ⟨same, mem⟩

lemma CoreSteps.tracked (steps : s.CoreSteps s') (tracked : s.Tracked) : s'.Tracked := by
  have ended : ∀ h, Ended s.sessions h → Ended s'.sessions h := fun h =>
    (steps.told.1.mono fun _ _ => Session.Told.moves).ended
  cases steps with
  | command looping commands =>
    exact ⟨tracked.announced, nofun, tracked.registered,
      fun begun => tracked.pending (begun.imp_right nofun), tracked.settled, nofun⟩
  | closing looping events =>
    refine ⟨fun h mem => ?_, nofun, tracked.registered,
      fun begun => tracked.pending (begun.imp_right nofun), tracked.settled, nofun⟩
    exact tracked.announced h (events ▸ mem_cons_of_mem _ mem)
  | stopped looping events => exact tracked.cleanupStoppedChildResources events
  | tick now => exact tracked.checkAndAdvanceLinger now
  | publish publishing =>
    refine ⟨fun h mem => ended h (tracked.announced h ?_), nofun, fun running h => ?_,
      fun begun h => ?_, tracked.settled, nofun⟩
    · simpa [publishSocketClosing] using mem
    · exact (tracked.registered running h).imp_right (ended h)
    · exact (tracked.pending (begun.imp_right nofun) h).imp_right (ended h)
  | initiate => exact tracked.initiateCoreShutdown
  | stopListener h stopping =>
    exact ⟨tracked.announced, nofun, tracked.registered,
      fun _ => tracked.pending (.inr ⟨_, _, stopping⟩), tracked.settled, nofun⟩
  | stopSession h stopping =>
    refine ⟨fun k mem => ended k (tracked.announced k mem), nofun, fun running k => ?_,
      fun _ k => ?_, tracked.settled, nofun⟩
    · exact (tracked.registered running k).imp_right (ended k)
    · exact (tracked.pending (.inr ⟨_, _, stopping⟩) k).imp_right (ended k)
  | decide now stopping => exact tracked.decidePhase now stopping
  | record now recording => exact tracked.recordStopped now recording
  | cleanup cleaning =>
    have state := tracked.cleaning cleaning
    have all := tracked.all_ended (.inl state)
    refine ⟨fun h _ => ended h (all h), nofun, nofun, fun _ h => .inr (ended h (all h)),
      fun _ _ => ?_, nofun⟩
    exact tracked.settled (by simp [state]) (by simp [state])

lemma Steps.tracked {a} (steps : s.Steps a s') (tracked : s.Tracked) : s'.Tracked := by
  have ended : ∀ h, Ended s.sessions h → Ended s'.sessions h := fun h => steps.moves.ended
  cases steps with
  | close => exact tracked.frame ended rfl rfl rfl fun h => .inl
  | core steps => exact steps.tracked tracked
  | @session h a x y found steps =>
    refine tracked.frame ended rfl rfl rfl fun k mem => ?_
    obtain old | new := mem_append.mp mem
    · exact .inl old
    · cases steps with
      | announce terminated =>
        cases mem_singleton.mp new
        refine .inr fun z later => ?_
        cases (update_self ..).symm.trans later
        exact terminated
      | send | take | obeyStop | obeyClosing | shutdownStream => cases new
  | listenerStops => exact tracked.frame ended rfl rfl rfl fun h mem => .inl (by simpa using mem)

def Delivered (s : SocketCore β) : Prop :=
  ∀ b, s.before = some b → ∀ h x, s.sessions h = some x → b h <+: x.taken

/-- A session obeys a stop only when its pipe holds no message from before the close. -/
def Drained (s : SocketCore β) : Action β → Prop
  | .session h .obeyStop | .session h .obeyClosing =>
    ∀ b, s.before = some b → ∀ x, s.sessions h = some x → b h <+: x.taken
  | _ => True

lemma drained_of_not_ends (s : SocketCore β) (h : Nat) (stays : ¬ a.Ends) :
    s.Drained (.session h a) := by
  cases a with
  | obeyStop | obeyClosing => exact (stays trivial).elim
  | send | take | shutdownStream | announce => trivial

lemma drained_iff (s : SocketCore β) (h : Nat) (ends : a.Ends) : s.Drained (.session h a) ↔
      ∀ b, s.before = some b → ∀ x, s.sessions h = some x → b h <+: x.taken := by
  cases a with
  | obeyStop | obeyClosing => exact Iff.rfl
  | send | take | shutdownStream | announce => exact ends.elim

structure Kept (s : SocketCore β) : Prop where
  untouched : s.before = none → s.Untouched
  tracked : s.Tracked
  drained : ∀ b, s.before = some b → ∀ h x, s.sessions h = some x → x.phase ≠ .operational →
    b h <+: x.taken

lemma kept_new (linger) (sndhwm : Nat) (listeners sessions : Finset Nat) :
    (new linger sndhwm listeners sessions : SocketCore β).Kept where
  untouched _ := by
    refine ⟨rfl, rfl, rfl, rfl, fun h x found => ?_, fun h x found => ?_⟩
    · obtain ⟨_, rfl⟩ : h ∈ listeners ∧ ({} : Listener) = x := by simpa [new] using found
      rfl
    · obtain ⟨_, rfl⟩ : h ∈ sessions ∧ ({} : Session β) = x := by simpa [new] using found
      exact ⟨rfl, rfl, rfl⟩
  tracked := by
    refine ⟨nofun, nofun, fun _ h => ?_, ?_, nofun, nofun⟩
    · by_cases mem : h ∈ sessions
      · exact .inl mem
      · refine .inr fun x found => ?_
        simp [new, mem] at found
    · rintro (begun | ⟨_, _, stopping⟩)
      · exact absurd rfl begun
      · cases stopping
  drained := nofun

lemma Steps.before {a} (steps : s.Steps a s') {b} (closed : s'.before = some b) :
    s.before = some b ∨ s.before = none ∧ s'.sessions = s.sessions := by
  cases steps with
  | close =>
    cases earlier : s.before with
    | some c => exact .inl (by simpa [earlier] using closed)
    | none =>
      exact .inr ⟨rfl, rfl⟩
  | core steps => exact .inl (steps.told.2 ▸ closed)
  | session | listenerStops => exact .inl closed

lemma Steps.leaves {a} (steps : s.Steps a s') (earlier : s.sessions h = some x)
    (later : s'.sessions h = some y) (here : x.phase = .operational)
    (away : y.phase ≠ .operational) :
    y.taken = x.taken ∧ ∃ b : SessionAction β, a = .session h b ∧ b.Ends := by
  cases steps with
  | close | listenerStops =>
    cases earlier.symm.trans later
    exact absurd here away
  | core steps =>
    obtain ⟨z, found, told⟩ := steps.told.1.found later
    cases earlier.symm.trans found
    exact absurd (told.phase.trans here) away
  | @session k b z w found steps =>
    by_cases same : h = k
    · subst same
      cases earlier.symm.trans found
      cases (update_self ..).symm.trans later
      by_cases ends : b.Ends
      · exact ⟨(steps.ends ends).2.2, b, rfl, ends⟩
      · exact absurd (steps.stays ends here) away
    · cases (earlier.symm.trans (update_of_ne same ..).symm).trans later
      exact absurd here away

lemma Steps.kept {a} (steps : s.Steps a s') (kept : s.Kept) (drained : s.Drained a) : s'.Kept where
  untouched := steps.untouched kept.untouched
  tracked := steps.tracked kept.tracked
  drained b closed h y later away := by
    obtain ⟨x, earlier, moves⟩ := steps.moves.found later
    obtain before | ⟨unclosed, same⟩ := steps.before closed
    · by_cases here : x.phase = .operational
      · obtain ⟨taken, c, rfl, ends⟩ := steps.leaves earlier later here away
        rw [taken]
        exact (drained_iff s h ends).mp drained b before x earlier
      · rw [(moves.away here).2]
        exact kept.drained b before h x earlier here
    · have running := (kept.untouched unclosed).sessions h y (same ▸ later)
      exact absurd running.1 away

def Dropped (s : SocketCore β) : Prop :=
  ∃ b h x, s.before = some b ∧ s.sessions h = some x ∧ x.phase ≠ .operational ∧ ¬ b h <+: x.taken

lemma Dropped.not_delivered {s : SocketCore β} (lost : s.Dropped) : ¬ s.Delivered := by
  obtain ⟨b, h, x, closed, found, _, short⟩ := lost
  exact fun delivered => short (delivered b closed h x found)

lemma Along.after (along : s.Along R s') {x} (found : s.sessions h = some x) :
    ∃ y, s'.sessions h = some y ∧ R x y := by
  have related := along h
  rw [found] at related
  generalize s'.sessions h = after at related
  cases related with
  | some related => exact ⟨_, rfl, related⟩

lemma Steps.closed {a} (steps : s.Steps a s') {b}
    (before : s.before = some b) : s'.before = some b := by
  cases steps with
  | close => simp [before]
  | core steps => exact steps.told.2.trans before
  | session | listenerStops => exact before

lemma Steps.lost {a} (steps : s.Steps a s') (lost : s.Dropped) : s'.Dropped := by
  obtain ⟨b, h, x, before, found, away, short⟩ := lost
  obtain ⟨y, later, moves⟩ := steps.moves.after found
  obtain ⟨still, same⟩ := moves.away away
  exact ⟨b, h, y, steps.closed before, later, still, same ▸ short⟩

lemma Steps.lost_of_not_drained {a} (steps : s.Steps a s')
    (undrained : ¬ s.Drained a) : s'.Dropped := by
  cases steps with
  | close | core | listenerStops => exact (undrained trivial).elim
  | @session h a x y found steps =>
    by_cases ends : a.Ends
    · obtain ⟨-, away, same⟩ := steps.ends ends
      simp only [drained_iff s h ends, not_forall] at undrained
      obtain ⟨b, before, z, there, short⟩ := undrained
      cases found.symm.trans there
      exact ⟨b, h, y, before, update_self .., away, same ▸ short⟩
    · exact (undrained (drained_of_not_ends s h ends)).elim

/-- A shutdown whose sessions drain their pipes before they obey loses no message accepted before
the close; a session that does not loses one. -/
theorem shutdown_delivers (linger : Option Nat) (sndhwm : Nat) (listeners sessions : Finset Nat)
    {s : SocketCore β} (reached : Reaches step Drained (new linger sndhwm listeners sessions) s) :
    (s.coordinator.state = .cleaningPipes ∨ s.coordinator.state = .finished → s.Delivered) ∧
      ∀ a s' t, s.step a = some s' → ¬ s.Drained a → Reaches step (fun _ _ => True) s' t →
        ¬ t.Delivered := by
  have kept : s.Kept := by
    refine reached.invariant (fun s a s' kept drained taken => ?_) (kept_new ..)
    exact (step_cases taken).kept kept drained
  constructor
  · intro state b closed h x found
    have ended : x.phase = .terminating := kept.tracked.all_ended state h x found
    exact kept.drained b closed h x found (by simp [ended])
  · intro a s' t taken undrained after
    have lost : s'.Dropped := (step_cases taken).lost_of_not_drained undrained
    have still : t.Dropped :=
      after.invariant (fun _ _ _ lost _ taken => (step_cases taken).lost lost) lost
    exact still.not_delivered

theorem shutdown_delivers_one :
    ∃ s : SocketCore Nat, s.coordinator.state = .cleaningPipes ∧ s.accepted 7 = [42] ∧
      s.Delivered := by
  let actions : List (Action Nat) :=
    [.session 7 (.send 42), .close, .core .command, .core .publish, .core .initiate,
      .core (.stopSession 7), .core (.decide 0), .session 7 .take, .session 7 .obeyStop,
      .session 7 .shutdownStream, .session 7 .announce, .core .event, .core .initiate,
      .core .event, .core (.record 0), .core (.tick 100)]
  have drained : Permitted step Drained (new none 1000 ∅ {7}) actions := by
    iterate 8 refine ⟨trivial, _, rfl, ?_⟩
    refine ⟨?_, _, rfl, ?_⟩
    · intro b closed x found
      cases closed
      cases found
      exact prefix_rfl
    · iterate 7 refine ⟨trivial, _, rfl, ?_⟩
      exact trivial
  have reached := reaches_of_permitted drained rfl
  exact ⟨_, rfl, rfl, (shutdown_delivers none 1000 ∅ {7} reached).1 (.inl rfl)⟩

/-- Infinite linger: the session reads that its socket is closing before it reads its pipe. -/
theorem message_lost :
    ∃ s : SocketCore Nat, Reaches step (fun _ _ => True) (new none 1000 ∅ {7}) s ∧
      s.coordinator.state = .cleaningPipes ∧ s.accepted 7 = [42] ∧
      (s.sessions 7).map (·.taken) = some [] ∧ ¬ s.Delivered := by
  let actions : List (Action Nat) :=
    [.session 7 (.send 42), .close, .core .command, .core .publish, .session 7 .obeyClosing,
      .core .initiate, .core (.stopSession 7), .core (.decide 0), .session 7 .shutdownStream,
      .session 7 .announce, .core .event, .core .initiate, .core .event, .core (.record 0),
      .core (.tick 100)]
  refine ⟨_, reaches_of_run actions (fun _ _ _ => trivial) rfl, rfl, rfl, rfl, fun delivered => ?_⟩
  have taken : [42] <+: [] := delivered _ rfl 7 _ rfl
  exact absurd taken (by decide)

end SocketCore

end Rzmq
