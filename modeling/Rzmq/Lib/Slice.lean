import Mathlib.Data.List.TakeDrop

/-! Slices with bounds that are checked.  A slice that is out of range has no value; `range?_eq` and
`from?_eq` say what it is otherwise. -/

namespace Slice

variable {α : Type}

def range? (xs : List α) (a b : Nat) : Option (List α) :=
  if a ≤ b ∧ b ≤ xs.length then some ((xs.drop a).take (b - a)) else none

def from? (xs : List α) (a : Nat) : Option (List α) :=
  if a ≤ xs.length then some (xs.drop a) else none

lemma range?_eq {xs : List α} {a n : Nat} (fits : a + n ≤ xs.length) :
    range? xs a (a + n) = some ((xs.drop a).take n) := by
  rw [range?, if_pos ⟨Nat.le_add_right a n, fits⟩, Nat.add_sub_cancel_left]

lemma from?_eq {xs : List α} {a : Nat} (fits : a ≤ xs.length) : from? xs a = some (xs.drop a) :=
  if_pos fits

lemma range?_zero {xs : List α} {n : Nat} (fits : ¬ xs.length < n) :
    range? xs 0 n = some (xs.take n) := by
  simp [range?, Nat.not_lt.mp fits]

end Slice
