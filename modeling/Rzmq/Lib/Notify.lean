import Mathlib.Data.Nat.Notation

/-! A notifier that tasks wait on: it wakes one of them, or stores one permit when there is none, or
wakes all that wait at the moment. -/

/-- The stored permit, the tasks that wait, and the tasks that were woken and have not run since. -/
structure Notify where
  permit : Bool
  parked : Nat
  woken : Nat
  /-- No permit is stored while a task waits. -/
  idle : permit = true → parked = 0

namespace Notify

variable {n m : Notify}

def new : Notify := ⟨false, 0, 0, fun _ => rfl⟩

def notifyOne (n : Notify) : Notify :=
  if none : n.parked = 0 then ⟨true, n.parked, n.woken, fun _ => none⟩
  else ⟨n.permit, n.parked - 1, n.woken + 1, fun stored => absurd (n.idle stored) none⟩

def notifyWaiters (n : Notify) : Notify := ⟨n.permit, 0, n.woken + n.parked, fun _ => rfl⟩

def notified (n : Notify) : Notify :=
  if n.permit = true then ⟨false, n.parked, n.woken + 1, nofun⟩
  else ⟨false, n.parked + 1, n.woken, nofun⟩

def resume (n : Notify) : Option Notify :=
  if n.woken = 0 then none else some ⟨n.permit, n.parked, n.woken - 1, n.idle⟩

def leave (n : Notify) : Option Notify :=
  if n.parked = 0 then none else some ⟨false, n.parked - 1, n.woken, nofun⟩

lemma notifyOne_none (none : n.parked = 0) :
    n.notifyOne.permit = true ∧ n.notifyOne.parked = 0 ∧ n.notifyOne.woken = n.woken := by
  simp [notifyOne, none]

lemma notifyOne_some (some : n.parked ≠ 0) :
    n.notifyOne.permit = false ∧ n.notifyOne.parked = n.parked - 1 ∧
      n.notifyOne.woken = n.woken + 1 := by
  have free : n.permit = false := Bool.eq_false_iff.mpr fun stored => some (n.idle stored)
  simp [notifyOne, some, free]

lemma notified_permit (stored : n.permit = true) :
    n.notified.permit = false ∧ n.notified.parked = 0 ∧ n.notified.woken = n.woken + 1 := by
  simp [notified, stored, n.idle stored]

lemma notified_waits (free : n.permit = false) :
    n.notified.permit = false ∧ n.notified.parked = n.parked + 1 ∧ n.notified.woken = n.woken := by
  simp [notified, free]

lemma resume_eq_some (ran : n.resume = some m) :
    n.woken = m.woken + 1 ∧ m.permit = n.permit ∧ m.parked = n.parked := by
  unfold resume at ran
  split at ran <;> cases ran
  exact ⟨by simp only; omega, rfl, rfl⟩

lemma leave_eq_some (left : n.leave = some m) :
    n.parked = m.parked + 1 ∧ m.permit = false ∧ m.woken = n.woken := by
  unfold leave at left
  split at left <;> cases left
  exact ⟨by simp only; omega, rfl, rfl⟩

end Notify
