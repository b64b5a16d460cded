import Mathlib.Algebra.Group.Int.Even
import Mathlib.Data.List.Induction

/-! The balance of an `AdaptiveThrottle`.  A session has one and calls `begin_work` for each message
of its life.  Sums wrap, as in a release build; where a checked build panics, `overflows` is true.
The moving average is left to the configuration. -/

namespace Rzmq

open List

inductive Direction where
  | ingress
  | egress
deriving DecidableEq

/-- What an operation adds to the balance, in credits. -/
def Direction.sign : Direction → Int
  | ingress => 1
  | egress => -1

structure AdaptiveThrottleConfig (φ : Type) where
  creditPerMessage : Int32
  nudgeIntervalOps : UInt32
  learn : Int → φ → φ

structure AdaptiveThrottle (φ : Type) where
  currentBalance : Int32
  learnedBalance : φ
  consecutiveIngress : UInt32
  consecutiveEgress : UInt32
  opsSinceNudge : UInt32

namespace AdaptiveThrottle

variable {φ : Type}

def new (learned : φ) : AdaptiveThrottle φ := ⟨0, learned, 0, 0, 0⟩

variable (c : AdaptiveThrottleConfig φ)

def newBalance (t : AdaptiveThrottle φ) : Direction → Int32
  | .ingress => t.currentBalance + c.creditPerMessage
  | .egress => t.currentBalance - c.creditPerMessage

def beginWork (t : AdaptiveThrottle φ) (dir : Direction) : AdaptiveThrottle φ :=
  let balance := newBalance c t dir
  let since := t.opsSinceNudge + 1
  let nudged := c.nudgeIntervalOps ≤ since
  { currentBalance := balance
    learnedBalance := if nudged then c.learn balance.toInt t.learnedBalance else t.learnedBalance
    consecutiveIngress := if dir = .ingress then t.consecutiveIngress + 1 else 0
    consecutiveEgress := if dir = .egress then t.consecutiveEgress + 1 else 0
    opsSinceNudge := if nudged then 0 else since }

def Fits (x : Int) : Prop := -2 ^ 31 ≤ x ∧ x < 2 ^ 31

/-- One of the sums of the call does not fit in its type. -/
def Overflows (t : AdaptiveThrottle φ) (dir : Direction) : Prop :=
  ¬ Fits (t.currentBalance.toInt + c.creditPerMessage.toInt * dir.sign) ∨
    2 ^ 32 ≤ t.opsSinceNudge.toNat + 1

variable (start : φ)

def after (ops : List Direction) : AdaptiveThrottle φ := ops.foldl (beginWork c) (new start)

/-- The balance that the operations add up to. -/
def exactly (ops : List Direction) : Int :=
  c.creditPerMessage.toInt * (ops.count .ingress - ops.count .egress)

/-- No call overflows, and each leaves the exact balance and learns from it. -/
def Exact (ops : List Direction) : Prop :=
  ∀ done dir, done ++ [dir] <+: ops →
    (newBalance c (after c start done) dir).toInt = exactly c (done ++ [dir]) ∧
    (after c start (done ++ [dir])).currentBalance.toInt = exactly c (done ++ [dir]) ∧
    ¬ Overflows c (after c start done) dir

lemma bmod_eq_iff (x : Int) : x.bmod (2 ^ 32) = x ↔ Fits x := by
  rw [Int.bmod_def, Fits]
  omega

lemma after_append (done) (dir : Direction) :
    after c start (done ++ [dir]) = beginWork c (after c start done) dir := by
  rw [after, foldl_append, foldl_cons, foldl_nil, after]

lemma exactly_append (done) (dir : Direction) :
    exactly c (done ++ [dir]) = exactly c done + c.creditPerMessage.toInt * dir.sign := by
  rw [exactly, exactly, ← Int.mul_add]
  congr 1
  cases dir <;> simp [count_append, Direction.sign] <;> omega

/-- The balance is right up to a multiple of `2 ^ 32`, whatever happened before. -/
lemma balance_toInt (ops) :
    (after c start ops).currentBalance.toInt = (exactly c ops).bmod (2 ^ 32) := by
  induction ops using reverseRecOn with
  | nil => simp [after, new, exactly]
  | append_singleton done dir ih =>
    rw [after_append, exactly_append, ← Int.bmod_add_bmod, ← ih]
    cases dir with
    | ingress => simp [beginWork, newBalance, Int32.toInt_add, Direction.sign]
    | egress => simp [beginWork, newBalance, Int32.toInt_sub, Direction.sign, Int.sub_eq_add_neg]

lemma opsSinceNudge_lt (ops) :
    (after c start ops).opsSinceNudge.toNat + 1 < 2 ^ 32 := by
  induction ops using reverseRecOn with
  | nil => simp [after, new]
  | append_singleton done dir ih =>
    have since : ((after c start done).opsSinceNudge + 1).toNat =
        (after c start done).opsSinceNudge.toNat + 1 := by
      rw [UInt32.toNat_add]
      simp
      omega
    have := c.nudgeIntervalOps.toNat_lt
    rw [after_append, beginWork]
    dsimp only
    split
    · simp
    · rename_i before
      rw [UInt32.le_iff_toNat_le] at before
      omega

lemma overflows_iff {done} (fits : Fits (exactly c done)) (dir : Direction) :
    Overflows c (after c start done) dir ↔ ¬ Fits (exactly c (done ++ [dir])) := by
  have since := opsSinceNudge_lt c start done
  rw [Overflows, balance_toInt, (bmod_eq_iff _).mpr fits, exactly_append]
  exact or_iff_left (by omega)

/-- The balance of a throttle is exact, and no call overflows, as long as the exact balance after
every beginning of the work fits in an `i32`. -/
theorem balance_exact_iff (ops : List Direction) :
    Exact c start ops ↔ ∀ done, done <+: ops → Fits (exactly c done) := by
  constructor
  · intro exact done before
    induction done using reverseRecOn with
    | nil => simp [exactly, Fits]
    | append_singleton done dir ih =>
      have earlier := ih ((prefix_append done [dir]).trans before)
      apply not_not.mp
      rw [← overflows_iff c start earlier dir]
      exact (exact done dir before).2.2
  · intro fits done dir before
    have balance : (after c start (done ++ [dir])).currentBalance.toInt =
        exactly c (done ++ [dir]) := by
      rw [balance_toInt]
      exact (bmod_eq_iff _).mpr (fits _ before)
    refine ⟨?_, balance, ?_⟩
    · rw [← balance, after_append, beginWork]
    · rw [overflows_iff c start (fits done ((prefix_append done [dir]).trans before)) dir]
      exact not_not.mpr (fits _ before)

/-- The second message of a session with the largest credit: the balance wraps to -2. -/
theorem second_message_overflows :
    let c : AdaptiveThrottleConfig Unit := ⟨2147483647, 100, fun _ => id⟩
    (after c () [.ingress, .ingress]).currentBalance = -2 ∧ ¬ Exact c () [.ingress, .ingress] := by
  refine ⟨by decide, fun exact => ?_⟩
  exact absurd (exact [.ingress] .ingress prefix_rfl).1 (by decide)

end AdaptiveThrottle

end Rzmq
