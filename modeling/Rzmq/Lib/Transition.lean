import Mathlib.Order.Defs.LinearOrder

/-! Transition systems given by a partial step function: the state after a list of actions, the
states that are reached by steps of a permitted kind, and the induction rules for them. -/

namespace Transition

open Option

variable {σ ι : Type} {step : σ → ι → Option σ} {allowed allowed' : σ → ι → Prop}

def run (step : σ → ι → Option σ) : σ → List ι → Option σ
  | s, [] => some s
  | s, a :: rest => (step s a).bind fun t => run step t rest

/-- The states reached from `s` by steps that `allowed` permits in the state before them. -/
inductive Reaches (step : σ → ι → Option σ) (allowed : σ → ι → Prop) (s : σ) : σ → Prop where
  | refl : Reaches step allowed s s
  | tail {t u : σ} {a : ι} (before : Reaches step allowed s t) (permitted : allowed t a)
      (taken : step t a = some u) : Reaches step allowed s u

lemma Reaches.invariant {Inv : σ → Prop}
    (kept : ∀ s a t, Inv s → allowed s a → step s a = some t → Inv t) {s t : σ}
    (reached : Reaches step allowed s t) (start : Inv s) : Inv t := by
  induction reached with
  | refl => exact start
  | tail _ permitted taken ih => exact kept _ _ _ ih permitted taken

lemma Reaches.trans {s t u : σ} (first : Reaches step allowed s t)
    (second : Reaches step allowed t u) : Reaches step allowed s u := by
  induction second with
  | refl => exact first
  | tail _ permitted taken ih => exact ih.tail permitted taken

lemma Reaches.weaken (weaker : ∀ s a, allowed s a → allowed' s a) {s t : σ}
    (reached : Reaches step allowed s t) : Reaches step allowed' s t := by
  induction reached with
  | refl => exact .refl
  | tail _ permitted taken ih => exact ih.tail (weaker _ _ permitted) taken

/-- A list of actions that are enabled in turn reaches its last state, when every action is
permitted in every state. -/
lemma reaches_of_run (actions : List ι) {s t : σ}
    (permitted : ∀ a ∈ actions, ∀ s, allowed s a) (ran : run step s actions = some t) :
    Reaches step allowed s t := by
  induction actions generalizing s with
  | nil =>
    cases ran
    exact .refl
  | cons a rest ih =>
    obtain ⟨u, taken, after⟩ := bind_eq_some_iff.mp ran
    have here := permitted a List.mem_cons_self s
    have later := ih (fun b mem => permitted b (List.mem_cons_of_mem _ mem)) after
    exact (Reaches.refl.tail here taken).trans later

def Permitted (step : σ → ι → Option σ) (allowed : σ → ι → Prop) : σ → List ι → Prop
  | _, [] => True
  | s, a :: rest => allowed s a ∧ ∃ t, step s a = some t ∧ Permitted step allowed t rest

lemma reaches_of_permitted {actions} {s t : σ}
    (permitted : Permitted step allowed s actions) (ran : run step s actions = some t) :
    Reaches step allowed s t := by
  induction actions generalizing s with
  | nil =>
    cases ran
    exact .refl
  | cons a rest ih =>
    obtain ⟨here, u, taken, later⟩ := permitted
    rw [run, taken, bind_some] at ran
    exact (Reaches.refl.tail here taken).trans (ih later ran)

lemma exists_of_permitted {actions} {s t : σ} {P : σ → Prop}
    (permitted : Permitted step allowed s actions) (ran : run step s actions = some t)
    (holds : Reaches step allowed s t → P t) : ∃ t, run step s actions = some t ∧ P t :=
  ⟨t, ran, holds (reaches_of_permitted permitted ran)⟩

/-- Two systems that take the same actions, and a relation that permitted steps of the first keep.
-/
lemma run_simulates {τ : Type} {step' : τ → ι → Option τ} {R : σ → τ → Prop}
    (follows : ∀ s t a u, R s t → allowed s a → step s a = some u →
      ∃ v, step' t a = some v ∧ R u v) {actions : List ι} {s u : σ} {t : τ} (related : R s t)
    (permitted : Permitted step allowed s actions) (ran : run step s actions = some u) :
    ∃ v, run step' t actions = some v ∧ R u v := by
  induction actions generalizing s t with
  | nil =>
    cases ran
    exact ⟨t, rfl, related⟩
  | cons a rest ih =>
    obtain ⟨here, next, taken, later⟩ := permitted
    rw [run, taken, bind_some] at ran
    obtain ⟨next', taken', kept⟩ := follows s t a next related here taken
    obtain ⟨v, ran', last⟩ := ih kept later ran
    refine ⟨v, ?_, last⟩
    rw [run, taken', bind_some, ran']

/-- Whatever permitted steps are taken from `s`, one is always enabled until the goal is reached,
and it is reached. -/
inductive Inevitable (step : σ → ι → Option σ) (allowed : σ → ι → Prop) (goal : σ → Prop) :
    σ → Prop where
  | here {s : σ} (reached : goal s) : Inevitable step allowed goal s
  | next {s : σ} (enabled : ∃ a t, allowed s a ∧ step s a = some t)
      (after : ∀ a t, allowed s a → step s a = some t → Inevitable step allowed goal t) :
      Inevitable step allowed goal s

lemma Inevitable.reaches {goal} {s : σ} (comes : Inevitable step allowed goal s) :
    ∃ t, Reaches step allowed s t ∧ goal t := by
  induction comes with
  | here reached => exact ⟨_, .refl, reached⟩
  | next enabled _ ih =>
    obtain ⟨a, u, permitted, taken⟩ := enabled
    obtain ⟨t, reached, there⟩ := ih a u permitted taken
    exact ⟨t, (Reaches.refl.tail permitted taken).trans reached, there⟩

lemma Inevitable.forced {goal} {s t : σ} {a : ι} (permitted : allowed s a)
    (taken : step s a = some t) (only : ∀ b u, allowed s b → step s b = some u → u = t)
    (later : Inevitable step allowed goal t) : Inevitable step allowed goal s := by
  refine .next ⟨a, t, permitted, taken⟩ fun b u permitted' taken' => ?_
  rw [only b u permitted' taken']
  exact later

lemma Inevitable.of_rank {Inv goal : σ → Prop} (rank : σ → Nat)
    (enabled : ∀ s, Inv s → goal s ∨ ∃ a t, allowed s a ∧ step s a = some t)
    (falls : ∀ s a t, Inv s → ¬ goal s → allowed s a → step s a = some t →
      Inv t ∧ (goal t ∨ rank t < rank s)) {s : σ} (start : Inv s) :
    Inevitable step allowed goal s := by
  by_cases reached : goal s
  · exact .here reached
  · refine .next ((enabled s start).resolve_left reached) fun a t permitted taken => ?_
    obtain ⟨kept, there | less⟩ := falls s a t start reached permitted taken
    · exact .here there
    · exact of_rank rank enabled falls kept
termination_by rank s

end Transition
