import Mathlib.Data.Finset.Basic
import Rzmq.Lib.Transition

/-! The inproc names of a context.  Each socket runs its own commands one after the other, and the
sockets run beside each other: the registry and the names of a socket are changed in separate steps
of `bind`, of `unbind`, and of the cleanup behind the command loop. -/

namespace Rzmq

open Option Transition Function

/-- How far the command of a socket has come: the checks of `bind` are passed, the name is
registered and not yet noted, the name is forgotten and not yet unregistered, or the names taken
by the cleanup are being unregistered. -/
inductive InprocStage where
  | idle
  | binding (name : String)
  | registered (name : String)
  | removed (name : String)
  | closing (rest : Finset String)
  | closed

def InprocStage.inFlight : InprocStage → Finset String
  | .registered name | .removed name => {name}
  | .closing rest => rest
  | _ => ∅

open InprocStage (inFlight)

structure InprocRegistry where
  registry : String → Option Nat
  boundInprocNames : Nat → Finset String
  stage : Nat → InprocStage

namespace InprocRegistry

inductive Action where
  | bind (name : String)
  | registerInproc
  | insert
  | unbind (name : String)
  | unregisterInproc (name : String)
  | close
  | finish

def new : InprocRegistry := ⟨fun _ => none, fun _ => ∅, fun _ => .idle⟩

variable (s : InprocRegistry) (i : Nat)

def put (registry : String → Option Nat) (names : Finset String) (stage : InprocStage) :
    InprocRegistry :=
  ⟨registry, update s.boundInprocNames i names, update s.stage i stage⟩

/-- One step of socket `i`. -/
def step (s : InprocRegistry) : Nat × Action → Option InprocRegistry
  | (i, a) => match s.stage i, a with
    | .idle, .bind name =>
      if name ∈ s.boundInprocNames i ∨ (s.registry name).isSome then some s
      else some (s.put i s.registry (s.boundInprocNames i) (.binding name))
    | .binding name, .registerInproc =>
      if (s.registry name).isSome then some (s.put i s.registry (s.boundInprocNames i) .idle)
      else
        some (s.put i (update s.registry name (some i)) (s.boundInprocNames i) (.registered name))
    | .registered name, .insert =>
      some (s.put i s.registry (insert name (s.boundInprocNames i)) .idle)
    | .idle, .unbind name =>
      if name ≠ "" ∧ name ∈ s.boundInprocNames i then
        some (s.put i s.registry ((s.boundInprocNames i).erase name) (.removed name))
      else some s
    | .removed name, .unregisterInproc other =>
      if other = name then
        some (s.put i (update s.registry name none) (s.boundInprocNames i) .idle)
      else none
    | .idle, .close => some (s.put i s.registry ∅ (.closing (s.boundInprocNames i)))
    | .closing rest, .unregisterInproc name =>
      if name ∈ rest then
        some (s.put i (update s.registry name none) (s.boundInprocNames i)
          (.closing (rest.erase name)))
      else none
    | .closing rest, .finish =>
      if rest = ∅ then some (s.put i s.registry (s.boundInprocNames i) .closed) else none
    | _, _ => none

/-- The names that a socket has registered are its own and those of the command it is in. -/
structure Agree : Prop where
  entry : ∀ name i,
    s.registry name = some i ↔ name ∈ s.boundInprocNames i ∨ name ∈ (s.stage i).inFlight
  apart : ∀ name i, name ∈ (s.stage i).inFlight → name ∉ s.boundInprocNames i

variable {s i}

/-- An entry is set or removed that no other socket has. -/
lemma update_others {name value}
    (before : ∀ j, j ≠ i → s.registry name ≠ some j) (after : ∀ j, j ≠ i → value ≠ some j)
    (name' : String) (j : Nat) (other : j ≠ i) :
    update s.registry name value name' = some j ↔ s.registry name' = some j := by
  by_cases same : name' = name
  · subst same
    simp [after j other, before j other]
  · rw [update_of_ne same]

/-- What a step of `i` leaves alone. -/
structure Spares (s : InprocRegistry) (i : Nat) (t : InprocRegistry) : Prop where
  agree : t.Agree
  names : ∀ j, j ≠ i → t.boundInprocNames j = s.boundInprocNames j
  registry : ∀ name j, j ≠ i → (t.registry name = some j ↔ s.registry name = some j)

lemma Spares.put (agree : s.Agree) {registry names stage}
    (own : ∀ name, registry name = some i ↔ name ∈ names ∨ name ∈ stage.inFlight)
    (apart : ∀ name ∈ stage.inFlight, name ∉ names)
    (others : ∀ name j, j ≠ i → (registry name = some j ↔ s.registry name = some j)) :
    Spares s i (s.put i registry names stage) := by
  refine ⟨⟨fun name j => ?_, fun name j => ?_⟩, fun _ other => update_of_ne other .., others⟩ <;>
    by_cases same : j = i
  · subst same
    simpa [put] using own name
  · simpa [InprocRegistry.put, same] using (others name j same).trans (agree.entry name j)
  · subst same
    simpa [put] using apart name
  · simpa [InprocRegistry.put, same] using agree.apart name j

lemma step_spares {t a} (agree : s.Agree) (taken : step s (i, a) = some t) : Spares s i t := by
  have own name := agree.entry name i
  have apart name := agree.apart name i
  have stay : Spares s i s := ⟨agree, fun _ _ => rfl, fun _ _ _ => .rfl⟩
  have held {name} (mine : s.registry name = some i) : ∀ j, j ≠ i → s.registry name ≠ some j :=
    fun j other theirs => other (some.inj (theirs.symm.trans mine))
  dsimp only [step] at taken
  split at taken <;> rename_i stage <;> simp only [stage, inFlight] at own apart
  · split at taken <;> cases taken
    · exact stay
    · exact .put agree own apart fun _ _ _ => .rfl
  · split at taken <;> cases taken
    · exact .put agree own apart fun _ _ _ => .rfl
    · rename_i name free
      have none : s.registry name = none := by simpa using free
      have new := own name
      refine .put agree (fun other => ?_) ?_ (update_others (by simp [none]) (by simp [eq_comm]))
      · by_cases same : other = name
        · simp [same, inFlight]
        · simpa [same, inFlight] using own other
      · simpa [none, inFlight] using new
  · cases taken
    refine .put agree (fun other => ?_) (by simp [inFlight]) fun _ _ _ => .rfl
    simpa [inFlight, or_comm] using own other
  · split at taken <;> cases taken
    · rename_i name mem
      refine .put agree (fun other => ?_) (by simp [inFlight]) fun _ _ _ => .rfl
      by_cases same : other = name <;> simp_all [inFlight]
    · exact stay
  · obtain ⟨rfl, ⟨⟩⟩ := ite_none_right_eq_some.mp taken
    rename_i name
    refine .put agree (fun other => ?_) (by simp [inFlight])
      (update_others (held ((own name).mpr (by simp))) nofun)
    by_cases same : other = name
    · simpa [same, inFlight] using apart name
    · simpa [same, inFlight] using own other
  · cases taken
    refine .put agree (fun other => ?_) (by simp) fun _ _ _ => .rfl
    simpa [inFlight] using own other
  · obtain ⟨mem, ⟨⟩⟩ := ite_none_right_eq_some.mp taken
    rename_i rest name
    refine .put agree (fun other => ?_)
      (fun other later => apart other (Finset.mem_of_mem_erase later))
      (update_others (held ((own name).mpr (.inr mem))) nofun)
    by_cases same : other = name
    · simpa [same, inFlight] using apart name mem
    · simpa [same, inFlight] using own other
  · obtain ⟨rfl, ⟨⟩⟩ := ite_none_right_eq_some.mp taken
    exact .put agree (by simpa [inFlight] using own) (by simp [inFlight])
      fun _ _ _ => .rfl
  · cases taken

lemma bind_unchanged {name t} (taken : step s (i, .bind name) = some t) :
    t.registry = s.registry ∧ t.boundInprocNames = s.boundInprocNames := by
  cases stage : s.stage i <;> simp only [step, stage, reduceCtorEq] at taken
  split at taken <;> cases taken
  · exact ⟨rfl, rfl⟩
  · exact ⟨rfl, update_eq_self ..⟩

lemma refused_unchanged {t} (taken : step s (i, .registerInproc) = some t)
    (idle : t.stage i = .idle) :
    t.registry = s.registry ∧ t.boundInprocNames = s.boundInprocNames := by
  cases stage : s.stage i <;> simp only [step, stage, reduceCtorEq] at taken
  split at taken <;> cases taken
  · exact ⟨rfl, update_eq_self ..⟩
  · simp [put] at idle

lemma reached_agree (reached : Reaches step (fun _ _ => True) new s) : s.Agree := by
  have kept s a t (agree : s.Agree) (_ : True) (taken : step s a = some t) : t.Agree :=
    (step_spares (i := a.1) agree taken).agree
  exact reached.invariant kept ⟨by simp [new, inFlight], by simp [new]⟩

/-- In every state the registry leads to a socket between two commands, or closed, exactly for the
names that it has, and no name has two binders; what a `bind` does before it fails changes neither
side, and no step of a socket touches a name of another one. -/
theorem registry_matches_binders (s : InprocRegistry)
    (reached : Reaches step (fun _ _ => True) new s) :
    (∀ i name, (s.stage i).inFlight = ∅ →
      (s.registry name = some i ↔ name ∈ s.boundInprocNames i)) ∧
    (∀ name i j, name ∈ s.boundInprocNames i → name ∈ s.boundInprocNames j → i = j) ∧
    ∀ i a t, step s (i, a) = some t →
      ((∃ name, a = .bind name) ∨ a = .registerInproc ∧ t.stage i = .idle →
        t.registry = s.registry ∧ t.boundInprocNames = s.boundInprocNames) ∧
      ∀ j, j ≠ i → t.boundInprocNames j = s.boundInprocNames j ∧
        ∀ name, t.registry name = some j ↔ s.registry name = some j := by
  have agree := reached_agree reached
  refine ⟨fun i name quiet => ?_, fun name i j mine theirs => ?_, fun i a t taken => ⟨?_, ?_⟩⟩
  · simpa [quiet] using agree.entry name i
  · have mine := (agree.entry name i).mpr (.inl mine)
    have theirs := (agree.entry name j).mpr (.inl theirs)
    exact some.inj (mine.symm.trans theirs)
  · rintro (⟨name, rfl⟩ | ⟨rfl, idle⟩)
    · exact bind_unchanged taken
    · exact refused_unchanged taken idle
  · exact fun j other => ⟨(step_spares agree taken).names j other,
      fun name => (step_spares agree taken).registry name j other⟩

theorem registry_matches_binders_one : ∃ s,
    run step new [(1, .bind "a"), (1, .registerInproc), (1, .insert)] = some s ∧
      s.registry "a" = some 1 ∧ "a" ∈ s.boundInprocNames 1 :=
  have reached := reaches_of_run [(1, .bind "a"), (1, .registerInproc), (1, .insert)]
    (fun _ _ _ => trivial) rfl
  ⟨_, rfl, rfl, ((registry_matches_binders _ reached).1 1 "a" rfl).mp rfl⟩

end InprocRegistry

end Rzmq
