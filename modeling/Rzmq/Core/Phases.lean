import Rzmq.Core.Shutdown

/-! The phases of a shutdown, with whatever events the loop of the core processes: the children and
connections at its start, the time and the state of the pipes are arbitrary at every event. -/

namespace Rzmq

open Transition

def ShutdownPhase.rank : ShutdownPhase → Nat
  | running => 0
  | stoppingChildren => 1
  | lingering => 2
  | cleaningPipes => 3
  | finished => 4

namespace ShutdownCoordinator

structure Reading where
  linger : Option Nat
  now : Nat
  queuesEmpty : Bool

inductive Event where
  /-- `UserClose`, `Stop`, `SocketClosing`, the end of the context, or an error of the loop; of the
  connections, those in `inproc` are closed at once. -/
  | initiate (listeners connections : Finset Nat) (inproc : List Nat) (r : Reading)
  | actorStopping (type : SocketCore.ActorType) (h : Nat) (r : Reading)
  | uringFdError (fd : Nat) (r : Reading)
  | newConnectionEstablished
  | tick (r : Reading)
  | finalPipeCleanup

variable (c : ShutdownCoordinator)

def advanceLinger (r : Reading) : ShutdownCoordinator :=
  if c.isLingerExpiredOrQueuesEmpty r.queuesEmpty r.now then c.advanceToCleaningPhase else c

def initiateCoreShutdown (listeners connections : Finset Nat) (inproc : List Nat) (r : Reading) :
    ShutdownCoordinator :=
  if c.state ≠ .running then c
  else
    let begun := c.beginShutdownSequence listeners connections
    let c := inproc.foldl (fun c h => (c.recordConnectionClosed h).1) begun
    if c.pendingEmpty then (c.linger r.linger r.now).advanceLinger r
    else { c with state := .stoppingChildren }

def recordStopped (h : Nat) : SocketCore.ActorType → ShutdownCoordinator × Bool
  | .listener => c.recordChildActorStopped h
  | .session => c.recordConnectionClosed h

def handleActorStopping (type : SocketCore.ActorType) (h : Nat) (r : Reading) :
    ShutdownCoordinator :=
  if c.state = .stoppingChildren then
    let (c, last) := c.recordStopped h type
    if last then c.linger r.linger r.now else c
  else c

def checkAndAdvanceLinger (r : Reading) : ShutdownCoordinator :=
  if c.state ≠ .lingering then c
  else if c.lingerDeadline.isNone ∧ r.linger ≠ some 0 then
    (c.startLingerIfNeeded r.linger r.now).advanceLinger r
  else c.advanceLinger r

def step : Event → Option ShutdownCoordinator
  | .initiate listeners connections inproc r =>
    some (c.initiateCoreShutdown listeners connections inproc r)
  | .actorStopping type h r => some (c.handleActorStopping type h r)
  | .uringFdError fd r => some (c.handleActorStopping .session fd r)
  | .newConnectionEstablished => some c
  | .tick r => some (c.checkAndAdvanceLinger r)
  | .finalPipeCleanup =>
    if c.state = .cleaningPipes then some { c with state := .finished } else none

def NothingPending : Prop :=
  c.pendingChildActors = ∅ ∧ c.pendingConnectionsToClose = ∅

def Sound : Prop :=
  (c.state = .stoppingChildren → ¬ c.NothingPending) ∧ (2 ≤ c.state.rank → c.NothingPending)

def Forward (c d : ShutdownCoordinator) : Prop := c.state.rank ≤ d.state.rank ∧ d.Sound

variable {c d : ShutdownCoordinator}

lemma pendingEmpty_iff : c.pendingEmpty = true ↔ c.NothingPending := by
  simp [pendingEmpty, NothingPending]

lemma sound_of_nothingPending (none : c.NothingPending) (later : 2 ≤ c.state.rank) : c.Sound :=
  ⟨fun stopping => by simp [stopping, ShutdownPhase.rank] at later, fun _ => none⟩

lemma startLinger_frame (linger) (now : Nat) :
    (c.startLingerIfNeeded linger now).state = c.state ∧
      ((c.startLingerIfNeeded linger now).NothingPending ↔ c.NothingPending) := by
  unfold startLingerIfNeeded
  split_ifs <;> exact ⟨rfl, Iff.rfl⟩

lemma forward_advanceLinger (none : c.NothingPending) (lingering : c.state = .lingering)
    (r : Reading) : c.Forward (c.advanceLinger r) := by
  unfold advanceLinger advanceToCleaningPhase
  split_ifs
  · exact ⟨by simp [lingering, ShutdownPhase.rank], sound_of_nothingPending none
      (by simp [ShutdownPhase.rank])⟩
  · exact ⟨Nat.le_refl _, sound_of_nothingPending none (by simp [lingering, ShutdownPhase.rank])⟩

lemma forward_linger (none : c.NothingPending) (early : c.state.rank < 2) (r : Reading) :
    c.Forward (c.linger r.linger r.now) ∧ (c.linger r.linger r.now).NothingPending ∧
      (c.linger r.linger r.now).state = .lingering := by
  obtain ⟨state, same⟩ := startLinger_frame (c := { c with state := .lingering }) r.linger r.now
  have after := same.mpr none
  have lingering : (c.linger r.linger r.now).state = .lingering := state
  have later : (c.linger r.linger r.now).state.rank = 2 := by rw [lingering]; rfl
  exact ⟨⟨by omega, sound_of_nothingPending after later.ge⟩, after, lingering⟩

lemma recordConnections_state (inproc : List Nat) :
    (inproc.foldl (fun c h => (c.recordConnectionClosed h).1) c).state = c.state := by
  induction inproc generalizing c with
  | nil => rfl
  | cons h rest ih =>
    rw [List.foldl_cons, ih, recordConnectionClosed]
    split_ifs <;> rfl

lemma forward_initiate (sound : c.Sound) (listeners connections : Finset Nat)
    (inproc : List Nat) (r : Reading) :
    c.Forward (c.initiateCoreShutdown listeners connections inproc r) := by
  unfold initiateCoreShutdown
  split
  · exact ⟨Nat.le_refl _, sound⟩
  · rename_i running
    rw [not_not] at running
    have start : c.state.rank = 0 := by rw [running]; rfl
    have state := (recordConnections_state (c := c.beginShutdownSequence listeners connections)
      inproc).trans (by rw [beginShutdownSequence, if_pos running])
    dsimp only
    split
    · rename_i empty
      obtain ⟨-, none, lingering⟩ := forward_linger (pendingEmpty_iff.mp empty)
        (by rw [state, start]; decide) r
      exact ⟨by omega, (forward_advanceLinger none lingering r).2⟩
    · rename_i left
      refine ⟨by omega, fun _ none => left (pendingEmpty_iff.mpr none), fun later => ?_⟩
      simp [ShutdownPhase.rank] at later

lemma recorded (some : ¬ c.NothingPending) (type) (h : Nat) :
    (c.recordStopped h type).1.state = c.state ∧
      ((c.recordStopped h type).2 = true ↔ (c.recordStopped h type).1.NothingPending) := by
  cases type <;>
    simp only [recordStopped, recordChildActorStopped, recordConnectionClosed] <;> split
  · exact ⟨rfl, pendingEmpty_iff⟩
  · exact ⟨rfl, iff_of_false Bool.false_ne_true some⟩
  · exact ⟨rfl, pendingEmpty_iff⟩
  · exact ⟨rfl, iff_of_false Bool.false_ne_true some⟩

lemma forward_actorStopping (sound : c.Sound) (type) (h : Nat)
    (r : Reading) : c.Forward (c.handleActorStopping type h r) := by
  unfold handleActorStopping
  split
  · rename_i stopping
    obtain ⟨same, last⟩ := recorded (sound.1 stopping) type h
    have early : c.state.rank = 1 := by rw [stopping]; rfl
    dsimp only
    split
    · rename_i ended
      have forward := (forward_linger (last.mp ended) (by rw [same, early]; decide) r).1
      rwa [Forward, same] at forward
    · rename_i more
      exact ⟨(congrArg ShutdownPhase.rank same).ge, fun _ none => more (last.mpr none),
        fun later => by rw [same] at later; omega⟩
  · exact ⟨Nat.le_refl _, sound⟩

lemma forward_step {e} (sound : c.Sound) (taken : c.step e = some d) : c.Forward d := by
  cases e with
  | initiate listeners connections inproc r =>
    cases taken
    exact forward_initiate sound ..
  | actorStopping type h r | uringFdError fd r =>
    cases taken
    exact forward_actorStopping sound ..
  | newConnectionEstablished =>
    cases taken
    exact ⟨Nat.le_refl _, sound⟩
  | tick r =>
    cases taken
    unfold checkAndAdvanceLinger
    split
    · exact ⟨Nat.le_refl _, sound⟩
    · rename_i lingering
      rw [not_not] at lingering
      have none := sound.2 (by rw [lingering]; decide)
      split
      · obtain ⟨state, same⟩ := startLinger_frame (c := c) r.linger r.now
        have := forward_advanceLinger (same.mpr none) (state.trans lingering) r
        rwa [Forward, state] at this
      · exact forward_advanceLinger none lingering r
  | finalPipeCleanup =>
    obtain ⟨cleaning, ⟨⟩⟩ := Option.ite_none_right_eq_some.mp taken
    have none := sound.2 (by rw [cleaning]; decide)
    exact ⟨by simp [cleaning, ShutdownPhase.rank],
      sound_of_nothingPending none (by simp [ShutdownPhase.rank])⟩

end ShutdownCoordinator

end Rzmq
