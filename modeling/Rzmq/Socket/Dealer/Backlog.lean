import Rzmq.Lib.Transition
import Mathlib.Logic.Basic

/-! The length of the pending queue of a DEALER.  A sender measures the queue and pushes under two
locks, and the processor puts back what it could not send: twice, if it finds the socket closed. -/

namespace Rzmq

open Option Transition

/-- What the processor is at: no message, one in its hands, or one that is in the queue again and is
put there once more. -/
inductive ProcessorHolds where
  | nothing
  | message
  | again
deriving DecidableEq

/-- The pending queue by its length, with the senders that found room and have not pushed yet. -/
structure DealerBacklog where
  sndhwm : Nat
  running : Bool
  queue : Nat
  pushing : Nat
  processor : ProcessorHolds

namespace DealerBacklog

def new (sndhwm : Nat) : DealerBacklog := ⟨sndhwm, true, 0, 0, .nothing⟩

inductive Action where
  /-- A sender measures the queue. -/
  | measure
  | push
  | pop
  | sent
  /-- The attempts of the processor are used up. -/
  | requeue
  /-- The processor finds the socket closed before an attempt. -/
  | closing
  | shutdown

variable (s : DealerBacklog)

def limit : Nat := max s.sndhwm 1

def step : Action → Option DealerBacklog
  | .measure => if s.queue < s.limit then some { s with pushing := s.pushing + 1 } else none
  | .push =>
    if s.pushing = 0 then none
    else some { s with pushing := s.pushing - 1, queue := s.queue + 1 }
  | .pop =>
    if s.processor ≠ .nothing ∨ s.queue = 0 then none
    else some { s with queue := s.queue - 1, processor := .message }
  | .sent => if s.processor = .message then some { s with processor := .nothing } else none
  | .requeue =>
    if s.processor = .nothing then none
    else some { s with queue := s.queue + 1, processor := .nothing }
  | .closing =>
    if s.processor = .message ∧ s.running = false then
      some { s with queue := s.queue + 1, processor := .again }
    else none
  | .shutdown => some { s with running := false }

/-- What the processor may still put back; one that finds the socket closed does so twice. -/
def held : Nat :=
  match s.processor with
  | .nothing => 0
  | .message => if s.running then 1 else 2
  | .again => 1

def load : Nat := s.queue + s.pushing + s.held

/-- A push, and a message that may come back from the processor, find room. -/
def Roomy : Action → Prop
  | .measure => s.load < s.limit
  | .pop => s.running = false → s.load < s.limit
  | .shutdown => s.processor = .message → s.running = true → s.load < s.limit
  | _ => True

variable {s t : DealerBacklog} {a : Action}

lemma load_step (taken : s.step a = some t) : t.sndhwm = s.sndhwm ∧
    (s.Roomy a → s.load ≤ s.limit → t.load ≤ s.limit) ∧ (¬ s.Roomy a → s.limit < t.load) := by
  cases a with
  | measure =>
    obtain ⟨_, ⟨⟩⟩ := ite_none_right_eq_some.mp taken
    have more : load { s with pushing := s.pushing + 1 } = s.load + 1 := by
      simp [load, held]
      omega
    exact ⟨rfl, fun roomy _ => more.symm ▸ roomy,
      fun tight => by rw [more]; exact Nat.lt_succ_of_le (Nat.not_lt.mp tight)⟩
  | push =>
    obtain ⟨_, ⟨⟩⟩ := ite_none_left_eq_some.mp taken
    refine ⟨rfl, fun _ fits => ?_, fun tight => absurd trivial tight⟩
    simp only [load, held] at fits ⊢
    omega
  | pop =>
    obtain ⟨ready, ⟨⟩⟩ := ite_none_left_eq_some.mp taken
    obtain ⟨nothing, some⟩ := not_or.mp ready
    rw [not_not] at nothing
    cases running : s.running <;> simp [Roomy, load, held, nothing, running] <;> omega
  | sent =>
    obtain ⟨message, ⟨⟩⟩ := ite_none_right_eq_some.mp taken
    refine ⟨rfl, fun _ fits => ?_, fun tight => absurd trivial tight⟩
    simp only [load, held] at fits ⊢
    omega
  | requeue =>
    obtain ⟨holds, ⟨⟩⟩ := ite_none_left_eq_some.mp taken
    refine ⟨rfl, fun _ fits => ?_, fun tight => absurd trivial tight⟩
    cases processor : s.processor <;> simp [load, held, processor] at holds fits ⊢
    · split at fits <;> omega
    · omega
  | closing =>
    obtain ⟨⟨message, closed⟩, ⟨⟩⟩ := ite_none_right_eq_some.mp taken
    refine ⟨rfl, fun _ fits => ?_, fun tight => absurd trivial tight⟩
    simp only [load, held, message, closed] at fits ⊢
    simp at fits
    omega
  | shutdown =>
    cases taken
    cases processor : s.processor <;> cases running : s.running
    all_goals simp [Roomy, load, held, processor, running]
    omega

lemma queue_fills (s : DealerBacklog) :
    ∃ t, Reaches step (fun _ _ => True) s t ∧ s.load ≤ t.queue := by
  by_cases pushing : s.pushing = 0
  · cases processor : s.processor with
    | nothing => exact ⟨s, .refl, by simp [load, held, processor, pushing]⟩
    | again =>
      refine ⟨_, Reaches.refl.tail trivial (a := .requeue) (if_neg (by simp [processor])), ?_⟩
      simp [load, held, processor, pushing]
    | message =>
      cases running : s.running with
      | true =>
        refine ⟨_, Reaches.refl.tail trivial (a := .requeue) (if_neg (by simp [processor])), ?_⟩
        simp [load, held, processor, pushing, running]
      | false =>
        have closing : s.step .closing =
            some { s with queue := s.queue + 1, processor := .again } :=
          if_pos ⟨processor, running⟩
        refine ⟨_, (Reaches.refl.tail trivial closing).tail trivial (a := .requeue) rfl, ?_⟩
        simp [load, held, processor, pushing, running]
  · obtain ⟨t, later, full⟩ :=
      queue_fills { s with pushing := s.pushing - 1, queue := s.queue + 1 }
    refine ⟨t, (Reaches.refl.tail trivial (a := .push) (if_neg pushing)).trans later, ?_⟩
    simp only [load, held] at full ⊢
    omega
termination_by s.pushing

def Bounded (h : Nat) (s : DealerBacklog) : Prop := s.sndhwm = h ∧ s.load ≤ s.limit

lemma Bounded.step {h : Nat} (bounded : s.Bounded h) (roomy : s.Roomy a)
    (taken : s.step a = some t) : t.Bounded h := by
  obtain ⟨same, after, -⟩ := load_step taken
  refine ⟨same.trans bounded.1, ?_⟩
  rw [limit, same]
  exact after roomy bounded.2

/-- The queue stays within its limit as long as every step leaves room for what may still be pushed
or put back, and no longer. -/
theorem queue_within_hwm (h : Nat) : (∀ s, Reaches step Roomy (new h) s → s.queue ≤ max h 1) ∧
    ∀ s a t, Reaches step Roomy (new h) s → s.step a = some t → ¬ s.Roomy a →
      ∃ u, Reaches step (fun _ _ => True) t u ∧ max h 1 < u.queue := by
  have kept : ∀ s, Reaches step Roomy (new h) s → s.Bounded h := fun s reached =>
    reached.invariant (fun _ _ _ inv roomy taken => inv.step roomy taken)
      ⟨rfl, Nat.zero_le _⟩
  refine ⟨fun s reached => ?_, fun s a t reached taken tight => ?_⟩
  · obtain ⟨same, fits⟩ := kept s reached
    rw [limit, same] at fits
    rw [load] at fits
    omega
  · obtain ⟨-, -, more⟩ := load_step taken
    obtain ⟨u, later, full⟩ := queue_fills t
    have exceeds := more tight
    rw [limit, (kept s reached).1] at exceeds
    exact ⟨u, later, Nat.lt_of_lt_of_le exceeds full⟩

theorem queue_within_hwm_pushed :
    Reaches step Roomy (new 1) ⟨1, true, 1, 0, .nothing⟩ ∧
      (⟨1, true, 1, 0, .nothing⟩ : DealerBacklog).queue ≤ max 1 1 := by
  have reached : Reaches step Roomy (new 1) ⟨1, true, 1, 0, .nothing⟩ :=
    (Reaches.refl.tail (a := .measure) Nat.one_pos rfl).tail (a := .push) trivial rfl
  exact ⟨reached, (queue_within_hwm 1).1 _ reached⟩

theorem two_senders_exceed_hwm :
    ∃ s, run step (new 1) [.measure, .measure, .push, .push] = some s ∧ s.queue = 2 :=
  ⟨_, rfl, rfl⟩

end DealerBacklog

end Rzmq
