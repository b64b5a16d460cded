import Rzmq.Lib.Notify
import Rzmq.Lib.Transition

/-! The group that the termination of a context waits for.  Each access to the counter and each call
on the notifier is a step of its own, so a `done` can run between the load of the counter and the
registration of a `wait`. -/

namespace Rzmq

open Option Transition

structure WaitGroup where
  count : Nat
  notifyOnZero : Notify
  /-- The calls of `done` that took the counter to zero and have not notified yet. -/
  notifying : Nat
  /-- The calls of `wait` that saw a counter above zero and are not registered yet. -/
  checked : Nat

namespace WaitGroup

def new : WaitGroup := ⟨0, .new, 0, 0⟩

inductive Action where
  | add (delta : Nat)
  | done
  | notifyWaiters
  | wait
  | notified
  | recheck
  /-- The time-out of `wait_for_termination` drops a call of `wait`. -/
  | timeout

variable (g : WaitGroup)

def load : WaitGroup :=
  if g.count = 0 then g else { g with checked := g.checked + 1 }

/-- An actor calls `done` once, after its `add`; at zero the source panics.  The counter is a
`usize`, and no number of actors comes near 2 ^ 64. -/
def step : Action → Option WaitGroup
  | .add delta => some { g with count := g.count + delta }
  | .done =>
    match g.count with
    | 0 => none
    | 1 => some { g with count := 0, notifying := g.notifying + 1 }
    | n + 1 => some { g with count := n }
  | .notifyWaiters =>
    if g.notifying = 0 then none
    else some { g with
      notifying := g.notifying - 1
      notifyOnZero := g.notifyOnZero.notifyWaiters }
  | .wait => some g.load
  | .notified =>
    if g.checked = 0 then none
    else some { g with checked := g.checked - 1, notifyOnZero := g.notifyOnZero.notified }
  | .recheck => g.notifyOnZero.resume.map fun n => load { g with notifyOnZero := n }
  | .timeout => g.notifyOnZero.leave.map fun n => { g with notifyOnZero := n }

/-- A caller of `wait` is parked, the counter is zero, and no notification is on its way. -/
def Lost : Prop :=
  0 < g.notifyOnZero.parked ∧ g.count = 0 ∧ g.notifying = 0

/-- The last notification of a counter at zero finds every caller of `wait` registered. -/
def Prompt (a : Action) : Prop :=
  a = .notifyWaiters → g.count = 0 → g.notifying = 1 → g.checked = 0

/-- Without a notification on its way, nobody waits for a counter at zero, nor is about to. -/
structure Calm : Prop where
  permit : g.notifyOnZero.permit = false
  none : g.count = 0 → g.notifying = 0 → g.checked = 0 ∧ g.notifyOnZero.parked = 0

lemma Calm.load {g : WaitGroup} (settled : g.Calm) : g.load.Calm := by
  unfold WaitGroup.load
  split
  · exact settled
  · exact ⟨settled.permit, fun zero => absurd zero ‹_›⟩

variable {g h : WaitGroup}

lemma Calm.step {a : Action} (settled : g.Calm) (prompt : Prompt g a)
    (taken : step g a = some h) : h.Calm := by
  obtain ⟨permit, none⟩ := settled
  cases a with
  | add delta =>
    cases taken
    exact ⟨permit, fun zero quiet => none (by simp only at zero; omega) quiet⟩
  | done =>
    dsimp only [WaitGroup.step] at taken
    split at taken <;> cases taken
    · exact ⟨permit, fun _ quiet => absurd quiet (Nat.succ_ne_zero _)⟩
    · exact ⟨permit, fun zero _ => by simp_all⟩
  | notifyWaiters =>
    dsimp only [WaitGroup.step] at taken
    split at taken <;> cases taken
    refine ⟨permit, fun zero quiet => ⟨prompt rfl zero ?_, rfl⟩⟩
    simp only at quiet
    omega
  | wait =>
    cases taken
    exact Calm.load ⟨permit, none⟩
  | notified =>
    dsimp only [WaitGroup.step] at taken
    split at taken <;> cases taken
    refine ⟨(Notify.notified_waits permit).1, fun zero quiet => ?_⟩
    exact absurd (none zero quiet).1 ‹_›
  | recheck =>
    obtain ⟨n, ran, rfl⟩ := map_eq_some_iff.mp taken
    obtain ⟨_, same, parked⟩ := Notify.resume_eq_some ran
    exact Calm.load ⟨same.trans permit, fun zero quiet => parked ▸ none zero quiet⟩
  | timeout =>
    obtain ⟨n, left, rfl⟩ := map_eq_some_iff.mp taken
    obtain ⟨parked, free, _⟩ := Notify.leave_eq_some left
    refine ⟨free, fun zero quiet => ⟨(none zero quiet).1, ?_⟩⟩
    have := (none zero quiet).2
    simp only
    omega

def Quiet (_ : WaitGroup) (a : Action) : Prop := a ≠ .timeout ∧ ∀ delta, a ≠ .add delta

lemma Lost.step {a} (free : g.notifyOnZero.permit = false) (lost : g.Lost)
    (quiet : Quiet g a) (taken : step g a = some h) : h.notifyOnZero.permit = false ∧ h.Lost := by
  obtain ⟨parked, zero, silent⟩ := lost
  cases a with
  | add delta => exact absurd rfl (quiet.2 delta)
  | done => simp [WaitGroup.step, zero] at taken
  | notifyWaiters => simp [WaitGroup.step, silent] at taken
  | wait =>
    cases taken
    rw [load, if_pos zero]
    exact ⟨free, parked, zero, silent⟩
  | notified =>
    dsimp only [WaitGroup.step] at taken
    split at taken <;> cases taken
    obtain ⟨free', waits, -⟩ := Notify.notified_waits free
    exact ⟨free', by simp only; omega, zero, silent⟩
  | recheck =>
    obtain ⟨n, ran, rfl⟩ := map_eq_some_iff.mp taken
    obtain ⟨-, same, still⟩ := Notify.resume_eq_some ran
    rw [load, if_pos zero]
    exact ⟨same.trans free, still ▸ parked, zero, silent⟩
  | timeout => exact absurd rfl quiet.1

lemma Lost.stays (free : g.notifyOnZero.permit = false) (lost : g.Lost)
    (reached : Reaches WaitGroup.step Quiet g h) : h.Lost :=
  (reached.invariant (fun _ _ _ inv quiet taken => Lost.step inv.1 inv.2 quiet taken)
    ⟨free, lost⟩).2

/-- No last notification is lost unless it finds a caller between its load of the counter and its
registration. -/
theorem wait_wakes_unless_unregistered (g : WaitGroup) (reached : Reaches step Prompt new g) :
    ¬ g.Lost ∧ ∀ a h, step g a = some h → ¬ Prompt g a →
      ∃ k, Reaches step (fun _ _ => True) h k ∧ k.Lost ∧ ∀ l, Reaches step Quiet k l → l.Lost := by
  have settled : g.Calm := reached.invariant
    (fun _ _ _ inv prompt taken => inv.step prompt taken) ⟨rfl, fun _ _ => ⟨rfl, rfl⟩⟩
  refine ⟨fun lost => ?_, fun a h taken late => ?_⟩
  · have := (settled.none lost.2.1 lost.2.2).2
    have := lost.1
    omega
  · have permit := settled.permit
    simp only [Prompt, Classical.not_imp] at late
    obtain ⟨rfl, zero, last, between⟩ := late
    rw [step, if_neg (by omega)] at taken
    cases taken
    obtain ⟨free, waits, -⟩ := Notify.notified_waits (n := g.notifyOnZero.notifyWaiters) permit
    refine ⟨_, Reaches.refl.tail trivial (a := .notified) (if_neg between), ?_⟩
    have lost : Lost { g with
        notifying := g.notifying - 1
        checked := g.checked - 1
        notifyOnZero := g.notifyOnZero.notifyWaiters.notified } :=
      ⟨by simp only; omega, zero, by simp only; omega⟩
    exact ⟨lost, fun l later => Lost.stays free lost later⟩

theorem wait_wakes_unless_unregistered_parked :
    ∃ g, run step new [.add 1, .wait, .notified, .done, .notifyWaiters] = some g ∧
      g.notifyOnZero.woken = 1 ∧ g.notifyOnZero.parked = 0 ∧ ¬ g.Lost := by
  refine exists_of_permitted ?_ rfl fun reached =>
    ⟨rfl, rfl, (wait_wakes_unless_unregistered _ reached).1⟩
  iterate 4 refine ⟨nofun, _, rfl, ?_⟩
  exact ⟨fun _ _ _ => rfl, _, rfl, trivial⟩

/-- The only actor is done, and notifies, between the load and the registration of `wait`. -/
theorem wait_unregistered_lost :
    ∃ g, run step new [.add 1, .wait, .done, .notifyWaiters, .notified] = some g ∧ g.Lost :=
  ⟨_, rfl, by decide, rfl, rfl⟩

end WaitGroup

end Rzmq
