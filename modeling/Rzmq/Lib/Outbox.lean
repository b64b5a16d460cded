import Mathlib.Data.List.Nodup
import Mathlib.Data.List.Perm.Basic

/-! An outbox: messages that are promised, and then delivered at once or through a queue that a
worker drains.  A worker that is no longer `live` may hold a second copy, and delivers nothing. -/

namespace Outbox

inductive Event (β : Type) where
  | quiet
  | direct (m : β)
  | enqueue (m : β)
  | pop
  | copy
  | putBack
  | deliver

end Outbox

structure Outbox (β : Type) where
  promised : List β
  queue : List β
  hand : List β
  delivered : List β
  live : Bool

namespace Outbox

open List

variable {β : Type} {s s' : Outbox β} {e : Event β} {m : β}

inductive Step (s : Outbox β) : Event β → Outbox β → Prop where
  | quiet {live : _} (fades : live = true → s.live = true) : Step s .quiet { s with live }
  | direct {m : _} (fresh : m ∉ s.promised) :
      Step s (.direct m) { s with
        promised := s.promised ++ [m]
        delivered := s.delivered ++ [m] }
  | enqueue {m : _} (fresh : m ∉ s.promised) :
      Step s (.enqueue m) { s with promised := s.promised ++ [m], queue := s.queue ++ [m] }
  | pop {m rest : _} (first : s.queue = m :: rest) (free : s.hand = []) :
      Step s .pop { s with queue := rest, hand := [m] }
  | copy {m : _} (held : s.hand = [m]) (dead : s.live = false) : Step s .copy
      { s with hand := [m, m] }
  | putBack {m rest : _} (held : s.hand = m :: rest) :
      Step s .putBack { s with queue := m :: s.queue, hand := rest }
  | deliver {m live : _} (held : s.hand = [m]) (working : s.live = true) :
      Step s .deliver { s with hand := [], delivered := s.delivered ++ [m], live }

def waiting (s : Outbox β) : List β := s.hand ++ s.queue

lemma Step.promised (taken : Step s e s') (all : ∀ m ∈ s.waiting ++ s.delivered, m ∈ s.promised) :
    ∀ m ∈ s'.waiting ++ s'.delivered, m ∈ s'.promised := by
  simp only [waiting, mem_append] at all ⊢
  cases taken with
  | quiet => exact all
  | direct fresh | enqueue fresh =>
    intro n mem
    simp only [mem_append, mem_singleton] at mem ⊢
    have old := all n
    tauto
  | pop first free =>
    intro n mem
    apply all
    rw [first, free]
    simpa using mem
  | copy held dead =>
    intro n mem
    apply all
    rw [held]
    simpa using mem
  | putBack held =>
    intro n mem
    apply all
    rw [held]
    simp only [mem_cons] at mem ⊢
    tauto
  | deliver held working =>
    intro n mem
    apply all
    rw [held]
    simp only [mem_append, mem_singleton, not_mem_nil, false_or] at mem ⊢
    tauto

/-! Every promised message once -/

structure Accounted (s : Outbox β) : Prop where
  distinct : s.promised.Nodup
  once : (s.waiting ++ s.delivered).Perm s.promised

lemma nodup_concat {l} (distinct : l.Nodup) (fresh : m ∉ l) : (l ++ [m]).Nodup := by
  rw [← concat_eq_append]
  exact distinct.concat fresh

lemma Step.accounted_iff (taken : Step s e s') (accounted : s.Accounted) :
    s'.Accounted ↔ e ≠ .copy := by
  obtain ⟨distinct, once⟩ := accounted
  simp only [waiting, append_assoc] at once
  cases taken with
  | quiet => exact ⟨fun _ => nofun, fun _ => ⟨distinct, by simpa [waiting] using once⟩⟩
  | @direct m fresh =>
    refine ⟨fun _ => nofun, fun _ => ⟨nodup_concat distinct fresh, ?_⟩⟩
    have more := once.append_right [m]
    simpa [waiting] using more
  | @enqueue m fresh =>
    refine ⟨fun _ => nofun, fun _ => ⟨nodup_concat distinct fresh, ?_⟩⟩
    have moved : (s.hand ++ ((s.queue ++ [m]) ++ s.delivered)).Perm
        ((s.hand ++ (s.queue ++ s.delivered)) ++ [m]) := by
      simp only [append_assoc]
      exact (List.Perm.append_left _ (List.Perm.append_left _ perm_append_comm))
    simpa [waiting] using moved.trans (once.append_right [m])
  | @pop m rest first free =>
    refine ⟨fun _ => nofun, fun _ => ⟨distinct, ?_⟩⟩
    simpa [waiting, first, free] using once
  | @copy m held dead =>
    refine ⟨fun after => ?_, fun none => absurd rfl none⟩
    have more := after.once.length_eq
    have same := once.length_eq
    simp [waiting, held] at more same
    omega
  | @putBack m rest held =>
    refine ⟨fun _ => nofun, fun _ => ⟨distinct, ?_⟩⟩
    have moved : (rest ++ (m :: (s.queue ++ s.delivered))).Perm
        (m :: (rest ++ (s.queue ++ s.delivered))) := perm_middle
    rw [held] at once
    simpa [waiting] using moved.trans once
  | @deliver m live held working =>
    refine ⟨fun _ => nofun, fun _ => ⟨distinct, ?_⟩⟩
    have moved : (s.queue ++ (s.delivered ++ [m])).Perm (m :: (s.queue ++ s.delivered)) := by
      rw [← append_assoc]
      exact perm_append_singleton m _
    rw [held] at once
    simpa [waiting] using moved.trans once

/-! The order of the messages -/

/-- What has not been delivered comes after what has, and is what waits. -/
structure Ordered (s : Outbox β) : Prop where
  single : s.live = true → s.hand.length ≤ 1
  rest : ∃ rest, s.promised = s.delivered ++ rest ∧ (∀ m, m ∈ rest ↔ m ∈ s.waiting) ∧
    (s.live = true → rest = s.waiting)

def InTurn (s : Outbox β) : Event β → Prop
  | .direct _ => s.waiting = []
  | _ => True

lemma Ordered.delivered_first (ordered : s.Ordered) : s.delivered <+: s.promised := by
  obtain ⟨rest, promised, -⟩ := ordered.rest
  exact ⟨rest, promised.symm⟩

lemma Step.ordered (taken : Step s e s') (ordered : s.Ordered) (inTurn : s.InTurn e) :
    s'.Ordered := by
  obtain ⟨single, rest, promised, mem, same⟩ := ordered
  cases taken with
  | quiet fades =>
    exact ⟨fun on => single (fades on), rest, promised, mem, fun on => same (fades on)⟩
  | @direct m fresh =>
    have none : s.waiting = [] := inTurn
    have last : rest = [] := by
      rw [eq_nil_iff_forall_not_mem]
      intro n there
      rw [mem, none] at there
      cases there
    subst last
    refine ⟨single, [], ?_, mem, same⟩
    rw [promised]
    simp
  | @enqueue m fresh =>
    refine ⟨single, rest ++ [m], ?_, ?_, ?_⟩
    · simp [promised]
    · intro n
      have was := mem n
      simp only [waiting, mem_append] at was ⊢
      rw [was]
      tauto
    · intro on
      simp [waiting, same on]
  | @pop m tail first free =>
    have unmoved : ({ s with queue := tail, hand := [m] } : Outbox β).waiting = s.waiting := by
      simp [waiting, first, free]
    refine ⟨fun _ => Nat.le_refl 1, rest, promised, ?_, ?_⟩
    · rw [unmoved]
      exact mem
    · rw [unmoved]
      exact same
  | @copy m held dead =>
    refine ⟨fun on => ?_, rest, promised, ?_, fun on => ?_⟩
    · rw [dead] at on
      cases on
    · intro n
      rw [mem]
      simp [waiting, held]
    · rw [dead] at on
      cases on
  | @putBack m left held =>
    refine ⟨fun on => ?_, rest, promised, ?_, fun on => ?_⟩
    · have one := single on
      rw [held, length_cons] at one
      show left.length ≤ 1
      omega
    · intro n
      rw [mem]
      simp only [waiting, held, mem_append, mem_cons]
      tauto
    · have one := single on
      rw [held, length_cons] at one
      have empty : left = [] := length_eq_zero_iff.mp (by omega)
      rw [same on, waiting, waiting, held, empty]
      rfl
  | @deliver m live held working =>
    have next : rest = m :: s.queue := by
      rw [same working, waiting, held]
      rfl
    refine ⟨fun _ => Nat.zero_le 1, s.queue, ?_, fun n => Iff.rfl, fun _ => rfl⟩
    simp [promised, next]

lemma Step.inTurn_iff (taken : Step s e s') (ordered : s.Ordered) :
    s'.delivered <+: s'.promised ↔ s.InTurn e := by
  constructor
  · intro ends
    cases taken with
    | @direct m fresh =>
      obtain ⟨-, rest, promised, mem, -⟩ := ordered
      have short : rest = [] := by
        obtain ⟨tail, whole⟩ := ends
        simp only [promised, append_assoc, append_cancel_left_eq] at whole
        cases rest with
        | nil => rfl
        | cons first later =>
          obtain ⟨rfl, -⟩ := cons.inj whole
          exact absurd (by rw [promised]; simp) fresh
      rw [InTurn, eq_nil_iff_forall_not_mem]
      intro n there
      rw [← mem, short] at there
      cases there
    | quiet | enqueue | pop | copy | putBack | deliver => trivial
  · exact fun inTurn => (taken.ordered ordered inTurn).delivered_first

end Outbox
