import Rzmq.Lib.Transition
import Rzmq.Message

/-! The write permit of one pipe, with any number of calls that ask for it, counted by where they
stand; the pipes share nothing but the map.  The look-up, the check of the flag and each poll of the
semaphore are steps of their own, and so are the three effects of a removal. -/

namespace Rzmq

open Option Transition

/-- `remove_pipe` takes the entry out of the map, sets the flag, and closes the semaphore. -/
inductive PipeStage where
  | absent
  | mapped
  | unmapped
  | closing
  | closed
deriving DecidableEq

/-- A call that waits: without a limit, with one, or woken with the permit and not run since. -/
inductive PermitWaiter where
  | queued
  | timed
  | assigned
deriving DecidableEq

structure PipePermit where
  stage : PipeStage
  permits : Nat
  /-- The calls that found the entry and have not polled the semaphore yet. -/
  begun : Nat
  queued : Nat
  timed : Nat
  assigned : Nat
  holding : Nat

namespace PipePermit

def new : PipePermit := ⟨.absent, 0, 0, 0, 0, 0, 0⟩

variable (s : PipePermit)

def waiting : Nat := s.queued + s.timed + s.assigned

inductive Action where
  | addPipe
  | removePipe
  | acquireSendPermit
  | isClosing
  /-- The first poll: without waiting, or with a limit or none. -/
  | tryAcquire
  | acquire (limit : Bool)
  | poll (w : PermitWaiter)
  | timeout
  | cancel (w : PermitWaiter)
  /-- The permit is dropped, and given to the first call of the queue if there is one. -/
  | drop
  | assign (w : PermitWaiter)

def unknown : ZmqError := .hostUnreachable "Target pipe for send not available or recently detached"

def closing : ZmqError := .hostUnreachable "Target pipe is closing or has been detached"

def detached : ZmqError := .hostUnreachable "Target pipe was detached during send operation"

def leave : PermitWaiter → Option PipePermit
  | .queued => if s.queued = 0 then none else some { s with queued := s.queued - 1 }
  | .timed => if s.timed = 0 then none else some { s with timed := s.timed - 1 }
  | .assigned =>
    if s.assigned = 0 then none
    else some { s with assigned := s.assigned - 1, permits := s.permits + 1 }

def take : PipePermit :=
  { s with permits := s.permits - 1, holding := s.holding + 1 }

/-- A dropped permit goes into the semaphore before `assign` gives it to a call, and a closed
semaphore has none. -/
def step : Action → Option (PipePermit × Option (Except ZmqError Unit))
  | .addPipe =>
    if s.stage = .absent then some ({ s with stage := .mapped, permits := 1 }, none) else none
  | .removePipe =>
    match s.stage with
    | .mapped => some ({ s with stage := .unmapped }, none)
    | .unmapped => some ({ s with stage := .closing }, none)
    | .closing => some ({ s with stage := .closed }, none)
    | _ => none
  | .acquireSendPermit =>
    if s.stage = .mapped then some ({ s with begun := s.begun + 1 }, none)
    else some (s, some (.error unknown))
  | .isClosing =>
    if s.begun = 0 ∨ s.stage ≠ .closing ∧ s.stage ≠ .closed then none
    else some ({ s with begun := s.begun - 1 }, some (.error closing))
  | .tryAcquire =>
    let t := { s with begun := s.begun - 1 }
    if s.begun = 0 then none
    else if s.stage = .closed ∨ s.permits = 0 then some (t, some (.error .resourceLimitReached))
    else some (t.take, some (.ok ()))
  | .acquire limit =>
    let t := { s with begun := s.begun - 1 }
    if s.begun = 0 then none
    else if s.stage = .closed then some (t, some (.error detached))
    else if s.permits ≠ 0 then some (t.take, some (.ok ()))
    else if limit then some ({ t with timed := s.timed + 1 }, none)
    else some ({ t with queued := s.queued + 1 }, none)
  | .poll w => (s.leave w).bind fun t =>
      if s.stage = .closed then some (t, some (.error detached))
      else if w = .assigned then some (t.take, some (.ok ()))
      else none
  | .timeout => (s.leave .timed).map fun t => (t, some (.error .timeout))
  | .cancel w => (s.leave w).map fun t => (t, none)
  | .drop =>
    if s.holding = 0 then none
    else some ({ s with holding := s.holding - 1, permits := s.permits + 1 }, none)
  | .assign w =>
    if w = .assigned ∨ s.stage = .closed ∨ s.permits = 0 then none
    else (s.leave w).map fun t =>
      ({ t with assigned := t.assigned + 1, permits := t.permits - 1 }, none)

def next (a : Action) : Option PipePermit := (s.step a).map Prod.fst

/-- The one permit is in the semaphore, on its way to a call, or with one; a pipe that was not added
has none. -/
structure Exclusive : Prop where
  one : s.permits + s.assigned + s.holding ≤ 1
  absent : s.stage = .absent → s.permits + s.assigned + s.holding = 0

structure Moves (a : Action) (t : PipePermit) (r : Option (Except ZmqError Unit)) : Prop where
  permit : t.permits + t.assigned + t.holding = s.permits + s.assigned + s.holding ∧
      (t.stage = .absent → s.stage = .absent) ∨
    s.stage = .absent ∧ t.stage ≠ .absent ∧ t.permits = 1 ∧ t.assigned = s.assigned ∧
      t.holding = s.holding
  grant : s.holding < t.holding → s.stage ≠ .closed
  closed : s.stage = .closed → t.waiting = s.waiting ∨ t.waiting + 1 = s.waiting ∧
    (r = some (.error detached) ∨ r = some (.error .timeout) ∨ ∃ w, a = .cancel w)

variable {s t : PipePermit} {a : Action} {r : Option (Except ZmqError Unit)}

lemma leave_eq_some {w} (left : s.leave w = some t) :
    t.stage = s.stage ∧ t.holding = s.holding ∧ t.waiting + 1 = s.waiting ∧
      t.permits + t.assigned = s.permits + s.assigned ∧ (w = .assigned → t.permits ≠ 0) ∧
      (w ≠ .assigned → t.permits = s.permits) := by
  cases w <;> obtain ⟨some, ⟨⟩⟩ := ite_none_left_eq_some.mp left <;> simp [waiting] <;> omega

lemma step_moves (taken : s.step a = some (t, r)) : s.Moves a t r := by
  cases a with
  | addPipe =>
    obtain ⟨absent, ⟨⟩⟩ := ite_none_right_eq_some.mp taken
    exact ⟨.inr ⟨absent, nofun, rfl, rfl, rfl⟩, (absurd · (Nat.lt_irrefl _)), fun _ => .inl rfl⟩
  | removePipe =>
    dsimp only [step] at taken
    split at taken <;> cases taken <;>
      exact ⟨.inl ⟨rfl, nofun⟩, (absurd · (Nat.lt_irrefl _)), fun _ => .inl rfl⟩
  | acquireSendPermit =>
    dsimp only [step] at taken
    split at taken <;> cases taken <;>
      exact ⟨.inl ⟨rfl, id⟩, (absurd · (Nat.lt_irrefl _)), fun _ => .inl rfl⟩
  | isClosing =>
    obtain ⟨_, ⟨⟩⟩ := ite_none_left_eq_some.mp taken
    exact ⟨.inl ⟨rfl, id⟩, (absurd · (Nat.lt_irrefl _)), fun _ => .inl rfl⟩
  | tryAcquire =>
    obtain ⟨_, taken⟩ := ite_none_left_eq_some.mp taken
    split at taken <;> cases taken
    · exact ⟨.inl ⟨rfl, id⟩, (absurd · (Nat.lt_irrefl _)), fun _ => .inl rfl⟩
    · rename_i free
      rw [not_or] at free
      refine ⟨.inl ⟨?_, id⟩, fun _ => free.1, (absurd · free.1)⟩
      simp [take]
      omega
  | acquire limit =>
    obtain ⟨_, taken⟩ := ite_none_left_eq_some.mp taken
    split at taken
    · cases taken
      exact ⟨.inl ⟨rfl, id⟩, (absurd · (Nat.lt_irrefl _)), fun _ => .inl rfl⟩
    · rename_i opened
      split at taken
      · cases taken
        refine ⟨.inl ⟨?_, id⟩, fun _ => opened, (absurd · opened)⟩
        simp [take]
        omega
      · split at taken <;> cases taken <;>
          exact ⟨.inl ⟨rfl, id⟩, (absurd · (Nat.lt_irrefl _)), (absurd · opened)⟩
  | poll w =>
    obtain ⟨u, left, taken⟩ := bind_eq_some_iff.mp taken
    obtain ⟨stage, holding, waiting, permit, full, -⟩ := leave_eq_some left
    split at taken
    · cases taken
      exact ⟨.inl ⟨by omega, (stage ▸ ·)⟩, by omega, fun _ => .inr ⟨waiting, .inl rfl⟩⟩
    · rename_i opened
      obtain ⟨mine, ⟨⟩⟩ := ite_none_right_eq_some.mp taken
      have := full mine
      refine ⟨.inl ⟨?_, (stage ▸ ·)⟩, fun _ => opened, (absurd · opened)⟩
      simp [take]
      omega
  | timeout =>
    obtain ⟨u, left, ⟨⟩⟩ := map_eq_some_iff.mp taken
    obtain ⟨stage, holding, waiting, permit, -⟩ := leave_eq_some left
    exact ⟨.inl ⟨by omega, (stage ▸ ·)⟩, by omega, fun _ => .inr ⟨waiting, .inr (.inl rfl)⟩⟩
  | cancel w =>
    obtain ⟨u, left, ⟨⟩⟩ := map_eq_some_iff.mp taken
    obtain ⟨stage, holding, waiting, permit, -⟩ := leave_eq_some left
    exact ⟨.inl ⟨by omega, (stage ▸ ·)⟩, by omega,
      fun _ => .inr ⟨waiting, .inr (.inr ⟨w, rfl⟩)⟩⟩
  | drop =>
    obtain ⟨_, ⟨⟩⟩ := ite_none_left_eq_some.mp taken
    exact ⟨.inl ⟨by simp only; omega, id⟩, fun more => by simp only at more; omega,
      fun _ => .inl rfl⟩
  | assign w =>
    obtain ⟨free, taken⟩ := ite_none_left_eq_some.mp taken
    simp only [not_or] at free
    obtain ⟨u, left, ⟨⟩⟩ := map_eq_some_iff.mp taken
    obtain ⟨stage, holding, -, permit, -, same⟩ := leave_eq_some left
    have := same free.1
    refine ⟨.inl ⟨by simp only; omega, (stage ▸ ·)⟩, fun more => ?_, (absurd · free.2.1)⟩
    simp only at more
    omega

lemma Exclusive.next (exclusive : s.Exclusive) (taken : s.next a = some t) : t.Exclusive := by
  obtain ⟨⟨_, r⟩, stepped, ⟨⟩⟩ := map_eq_some_iff.mp taken
  have one := exclusive.one
  rcases (step_moves stepped).permit with ⟨same, absent⟩ |
    ⟨absent, added, permits, assigned, holding⟩
  · exact ⟨by simp only; omega, fun still => same.trans (exclusive.absent (absent still))⟩
  · have := exclusive.absent absent
    exact ⟨by simp only; omega, (absurd · added)⟩

/-- At most one permit of a pipe is with a call, none is given once the pipe is removed, and a call
that waits then can only go on with `HostUnreachable` or its time-out. -/
theorem permit_exclusive (reached : Reaches next (fun _ _ => True) new s) :
    s.holding ≤ 1 ∧
    (∀ a t r, s.step a = some (t, r) → s.holding < t.holding → s.stage ≠ .closed) ∧
    (s.stage = .closed →
      (∀ w, (s.leave w).isSome → ∃ t, s.step (.poll w) = some (t, some (.error detached))) ∧
      ∀ a t r, s.step a = some (t, r) → t.waiting = s.waiting ∨ t.waiting + 1 = s.waiting ∧
        (r = some (.error detached) ∨ r = some (.error .timeout) ∨ ∃ w, a = .cancel w)) := by
  have exclusive : s.Exclusive :=
    reached.invariant (fun _ _ _ inv _ taken => inv.next taken) ⟨Nat.zero_le _, fun _ => rfl⟩
  have one := exclusive.one
  refine ⟨by omega, fun a t r taken => (step_moves taken).grant, fun closed => ⟨fun w some => ?_,
    fun a t r taken => (step_moves taken).closed closed⟩⟩
  obtain ⟨t, left⟩ := isSome_iff_exists.mp some
  exact ⟨t, by simp [step, left, closed]⟩

theorem permit_exclusive_removed :
    Reaches next (fun _ _ => True) new ⟨.closed, 0, 0, 1, 0, 0, 1⟩ ∧
    ∃ t, step ⟨.closed, 0, 0, 1, 0, 0, 1⟩ (.poll .queued) = some (t, some (.error detached)) := by
  have reached : Reaches next (fun _ _ => True) new ⟨.closed, 0, 0, 1, 0, 0, 1⟩ :=
    reaches_of_run [.addPipe, .acquireSendPermit, .acquire false, .acquireSendPermit,
      .acquire false, .removePipe, .removePipe, .removePipe] (fun _ _ _ => trivial) rfl
  exact ⟨reached, ((permit_exclusive reached).2.2 rfl).1 .queued rfl⟩

end PipePermit

end Rzmq
