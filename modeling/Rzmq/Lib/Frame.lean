import Mathlib.Logic.Basic

/-! Rules for computations with a state and errors, which follow the way a computation is built.
`Keeps proj x` says that `x`, when it returns, has left the part `proj` of the state as it was, and
`Stays P x` that it has not left `P`. -/

namespace Frame

variable {ε σ β γ δ : Type} {proj : σ → δ}

def Keeps (proj : σ → δ) (x : EStateM ε σ β) : Prop :=
  ∀ ⦃s : σ⦄ ⦃b : β⦄ ⦃s' : σ⦄, x s = .ok b s' → proj s' = proj s

def after (x : EStateM ε σ β) (s : σ) : σ :=
  match x s with
  | .ok _ t => t
  | .error _ t => t

variable {x : EStateM ε σ β} {f : β → EStateM ε σ γ} {s t : σ}

lemma after_ok {b : β} (h : x s = .ok b t) : after x s = t := by
  rw [after, h]

lemma after_error {e : ε} (h : x s = .error e t) : after x s = t := by
  rw [after, h]

lemma get_eq (s : σ) : (get : EStateM ε σ σ) s = .ok s s := rfl

lemma set_eq (s t : σ) : (set t : EStateM ε σ PUnit) s = .ok ⟨⟩ t := rfl

lemma modify_eq (g : σ → σ) (s : σ) : (modify g : EStateM ε σ PUnit) s = .ok ⟨⟩ (g s) := rfl

lemma pure_eq (b : β) (s : σ) : (pure b : EStateM ε σ β) s = .ok b s := rfl

lemma throw_eq (e : ε) (s : σ) : (throw e : EStateM ε σ β) s = .error e s := rfl

lemma bind_of_ok {b : β} (h : x s = .ok b t) : (x >>= f) s = f b t := by
  change EStateM.bind x f s = _
  rw [EStateM.bind, h]

lemma bind_of_error {e : ε} (h : x s = .error e t) : (x >>= f) s = .error e t := by
  change EStateM.bind x f s = _
  rw [EStateM.bind, h]

lemma bind_ok {s s' : σ} {c : γ}
    (h : (x >>= f) s = .ok c s') : ∃ b t, x s = .ok b t ∧ f b t = .ok c s' := by
  change EStateM.bind x f s = _ at h
  unfold EStateM.bind at h
  split at h
  · rename_i b t hb
    exact ⟨b, t, hb, h⟩
  · cases h

lemma keeps_pure (b : β) : Keeps proj (pure b : EStateM ε σ β) := by
  rintro s _ _ ⟨⟩
  rfl

lemma keeps_throw (e : ε) : Keeps proj (throw e : EStateM ε σ β) := by
  rintro s b s' ⟨⟩

lemma keeps_get : Keeps proj (get : EStateM ε σ σ) := by
  rintro s _ _ ⟨⟩
  rfl

lemma keeps_modify {g} (h : ∀ s, proj (g s) = proj s) :
    Keeps proj (modify g : EStateM ε σ PUnit) := by
  rintro s _ _ ⟨⟩
  exact h s

lemma keeps_bind (hx : Keeps proj x) (hf : ∀ b, Keeps proj (f b)) : Keeps proj (x >>= f) := by
  intro s c s' h
  obtain ⟨b, t, hb, hc⟩ := bind_ok h
  exact (hf b hc).trans (hx hb)

def Stays (P : σ → Prop) (x : EStateM ε σ β) : Prop :=
  ∀ ⦃s : σ⦄ ⦃b : β⦄ ⦃s' : σ⦄, P s → x s = .ok b s' → P s'

variable {P : σ → Prop}

lemma stays_pure (b : β) : Stays P (pure b : EStateM ε σ β) := by
  rintro s _ _ start ⟨⟩
  exact start

lemma stays_throw (e : ε) : Stays P (throw e : EStateM ε σ β) := by
  rintro s b s' start ⟨⟩

lemma stays_get : Stays P (get : EStateM ε σ σ) := by
  rintro s _ _ start ⟨⟩
  exact start

lemma stays_modify {g} (h : ∀ s, P s → P (g s)) :
    Stays P (modify g : EStateM ε σ PUnit) := by
  rintro s _ _ start ⟨⟩
  exact h s start

lemma stays_bind {x : EStateM ε σ β} {f : β → EStateM ε σ γ} (hx : Stays P x)
    (hf : ∀ b, Stays P (f b)) : Stays P (x >>= f) := by
  intro s c s' start h
  obtain ⟨b, t, hb, hc⟩ := bind_ok h
  exact hf b (hx start hb) hc

lemma stays_guard {c : Prop} [Decidable c] {x : EStateM ε σ β} {y : EStateM ε σ γ}
    (hx : Stays P x) (hy : Stays P y) : Stays P (if c then x >>= fun _ => y else y) := by
  split
  · exact stays_bind hx fun _ => hy
  · exact hy

def Leads (R : σ → σ → Prop) (x : EStateM ε σ β) : Prop := ∀ s, R s (after x s)

section Leads

variable {R : σ → σ → Prop}

lemma leads_pure (refl : ∀ s, R s s) (b : β) : Leads R (pure b : EStateM ε σ β) := refl

lemma leads_modify {g} (h : ∀ s, R s (g s)) : Leads R (modify g : EStateM ε σ PUnit) := h

lemma leads_bind {x : EStateM ε σ β} {f : β → EStateM ε σ γ}
    (trans : ∀ s t u, R s t → R t u → R s u) (hx : Leads R x) (hf : ∀ b, Leads R (f b)) :
    Leads R (x >>= f) := by
  intro s
  cases ran : x s with
  | ok b t =>
    have first := hx s
    rw [after_ok ran] at first
    rw [after, bind_of_ok ran]
    exact trans s t _ first (hf b t)
  | error e t =>
    rw [after_error (bind_of_error ran), ← after_error ran]
    exact hx s

lemma Leads.keeps (leads : Leads (fun s s' => proj s' = proj s) x) : Keeps proj x := by
  intro s b s' ok
  have same := leads s
  rwa [after_ok ok] at same

end Leads

def Fails (Q : ε → Prop) (x : EStateM ε σ β) (s : σ) : Prop :=
  ∃ e t, x s = .error e t ∧ Q e

variable {Q : ε → Prop} {s : σ}

lemma fails_throw {e : ε} : Fails Q (throw e : EStateM ε σ β) s ↔ Q e := by
  constructor
  · rintro ⟨_, _, ⟨⟩, failed⟩
    exact failed
  · exact fun failed => ⟨e, s, rfl, failed⟩

lemma not_fails_pure (b : β) : ¬ Fails Q (pure b : EStateM ε σ β) s := by
  rintro ⟨_, _, ⟨⟩, _⟩

lemma not_fails_modify (g : σ → σ) : ¬ Fails Q (modify g : EStateM ε σ PUnit) s := by
  rintro ⟨_, _, ⟨⟩, _⟩

lemma fails_bind {x : EStateM ε σ β} {f : β → EStateM ε σ γ} :
    Fails Q (x >>= f) s ↔ Fails Q x s ∨ ∃ b t, x s = .ok b t ∧ Fails Q (f b) t := by
  cases ran : x s with
  | ok b t =>
    have first : ¬ Fails Q x s := by
      rintro ⟨e, t, failed, _⟩
      cases ran.symm.trans failed
    rw [Fails, bind_of_ok ran]
    constructor
    · exact fun failed => .inr ⟨b, t, rfl, failed⟩
    · rintro (failed | ⟨_, _, ⟨⟩, failed⟩)
      · exact absurd failed first
      · exact failed
  | error e t =>
    rw [Fails, bind_of_error ran, Fails, ran]
    constructor
    · rintro ⟨_, _, ⟨⟩, failed⟩
      exact .inl ⟨e, t, rfl, failed⟩
    · rintro (⟨_, _, ⟨⟩, failed⟩ | ⟨_, _, ⟨⟩, _⟩)
      exact ⟨e, t, rfl, failed⟩

end Frame
