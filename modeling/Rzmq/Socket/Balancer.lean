import Rzmq.Lib.Notify
import Rzmq.Lib.Transition
import Rzmq.Socket.Outgoing

/-! The rotation of a load balancer, and the tasks that wait for its first connection.  Those read
the URIs under their lock and ask the notifier after it, so an addition can come between. -/

namespace Rzmq.LoadBalancer

open Option Transition

/-- A balancer, its notifier, and the calls of `wait_for_connection` that found no URI and have not
asked to be notified yet. -/
structure Waiting where
  balancer : LoadBalancer
  notify : Notify
  checked : Nat

namespace Waiting

def new : Waiting := ⟨.new, .new, 0⟩

inductive Action where
  | addConnection (uri : String)
  | removeConnection (uri : String)
  | getNextConnectionUri
  | waitForConnection
  | notified
  | recheck
  /-- The time-out of a send drops the call, before or after it was woken. -/
  | timeout
  | timeoutWoken

variable (w : Waiting)

def check : Waiting :=
  if w.balancer.hasConnections = true then w else { w with checked := w.checked + 1 }

def step : Action → Option Waiting
  | .addConnection uri =>
    if uri ∈ w.balancer.connectionUris then some w
    else some { w with
      balancer := w.balancer.addConnection uri
      notify := w.notify.notifyOne }
  | .removeConnection uri => some { w with balancer := w.balancer.removeConnection uri }
  | .getNextConnectionUri =>
    match w.balancer.getNextConnectionUri with
    | none => some w
    | some (_, b) => some { w with balancer := b }
  | .waitForConnection => some w.check
  | .notified =>
    if w.checked = 0 then none
    else some { w with checked := w.checked - 1, notify := w.notify.notified }
  | .recheck => w.notify.resume.map fun n => check { w with notify := n }
  | .timeout => w.notify.leave.map fun n => { w with notify := n }
  | .timeoutWoken => w.notify.resume.map fun n => { w with notify := n.notifyOne }

def Stuck : Prop :=
  w.checked = 0 ∧ w.notify.woken = 0 ∧ 0 < w.notify.parked ∧
    w.balancer.hasConnections = true ∧ w.notify.permit = false

def Lone (a : Action) : Prop :=
  ∀ uri, a = .addConnection uri → uri ∉ w.balancer.connectionUris → w.notify.parked + w.checked ≤ 1

def Covered : Prop :=
  w.notify.parked = 0 ∧ (w.checked = 0 ∨ w.checked = 1 ∧ w.notify.permit = true)

def Served : Prop := w.balancer.hasConnections = true → w.Covered

lemma hasConnections_iff {b : LoadBalancer} :
    b.hasConnections = true ↔ b.connectionUris ≠ [] := by
  simp [hasConnections]

lemma hasConnections_addConnection (b : LoadBalancer) (uri : String) :
    (b.addConnection uri).hasConnections = true := by
  rw [hasConnections_iff, addConnection]
  split
  · exact List.ne_nil_of_mem ‹_›
  · simp

variable {w : Waiting}

lemma Served.check (served : w.Served) : w.check.Served := by
  unfold Waiting.check
  split
  · exact served
  · exact fun has => absurd has ‹_›

lemma Served.notifyOne (room : w.notify.parked + w.checked ≤ 1) (b) :
    Served { w with balancer := b, notify := w.notify.notifyOne } := by
  intro _
  by_cases none : w.notify.parked = 0
  · obtain ⟨stored, parked, -⟩ := Notify.notifyOne_none none
    refine ⟨parked, ?_⟩
    by_cases idle : w.checked = 0
    · exact .inl idle
    · exact .inr ⟨by simp only; omega, stored⟩
  · obtain ⟨-, parked, -⟩ := Notify.notifyOne_some none
    exact ⟨by simp only; omega, .inl (by simp only; omega)⟩

lemma Served.step {w v : Waiting} {a : Action} (served : w.Served) (lone : Lone w a)
    (taken : step w a = some v) : v.Served := by
  cases a with
  | addConnection uri =>
    dsimp only [Waiting.step] at taken
    split at taken <;> cases taken
    · exact served
    · exact Served.notifyOne (lone uri rfl ‹_›) _
  | removeConnection uri =>
    cases taken
    intro has
    refine served (hasConnections_iff.mpr fun none => hasConnections_iff.mp has ?_)
    simp [LoadBalancer.removeConnection, none]
  | getNextConnectionUri =>
    dsimp only [Waiting.step] at taken
    split at taken <;> cases taken
    · exact served
    · rename_i next
      refine fun _ => served (hasConnections_iff.mpr fun none => ?_)
      rw [getNextConnectionUri_eq_none.mpr none] at next
      cases next
  | waitForConnection =>
    cases taken
    exact served.check
  | notified =>
    dsimp only [Waiting.step] at taken
    split at taken <;> cases taken
    intro has
    obtain ⟨_, idle | ⟨one, stored⟩⟩ := served has
    · exact absurd idle ‹_›
    · exact ⟨(Notify.notified_permit stored).2.1, .inl (by simp only; omega)⟩
  | recheck =>
    obtain ⟨n, ran, rfl⟩ := map_eq_some_iff.mp taken
    obtain ⟨_, permit, parked⟩ := Notify.resume_eq_some ran
    refine Served.check fun has => ?_
    obtain ⟨none, rest⟩ := served has
    exact ⟨parked.trans none, permit ▸ rest⟩
  | timeout =>
    obtain ⟨n, left, rfl⟩ := map_eq_some_iff.mp taken
    obtain ⟨one, _, _⟩ := Notify.leave_eq_some left
    intro has
    have := (served has).1
    omega
  | timeoutWoken =>
    obtain ⟨n, ran, rfl⟩ := map_eq_some_iff.mp taken
    obtain ⟨_, _, parked⟩ := Notify.resume_eq_some ran
    intro has
    have covered := served has
    have room : n.parked + w.checked ≤ 1 := by
      unfold Covered at covered
      omega
    exact Served.notifyOne (w := { w with notify := n }) room _ has

def Starved (w : Waiting) : Prop :=
  w.balancer.hasConnections = true ∧
    (0 < w.notify.parked ∨ 1 < w.checked ∨ 0 < w.checked ∧ w.notify.permit = false)

lemma Starved.notified (starved : w.Starved) :
    Starved { w with checked := w.checked - 1, notify := w.notify.notified } := by
  refine ⟨starved.1, ?_⟩
  cases stored : w.notify.permit with
  | true =>
    have none := w.notify.idle stored
    obtain ⟨permit, parked, -⟩ := Notify.notified_permit stored
    have more := starved.2
    simp only [none, stored, Bool.true_eq_false, and_false, or_false] at more
    exact .inr (.inr ⟨by simp only; omega, permit⟩)
  | false =>
    obtain ⟨_, parked, -⟩ := Notify.notified_waits stored
    exact .inl (by simp only; omega)

lemma Starved.stuck {w} (starved : w.Starved) :
    ∃ v, Reaches step (fun _ _ => True) w v ∧ v.Stuck := by
  by_cases left : w.checked = 0
  · by_cases ran : w.notify.woken = 0
    · have parked : 0 < w.notify.parked := by
        have := starved.2
        omega
      refine ⟨w, .refl, left, ran, parked, starved.1, Bool.eq_false_iff.mpr fun stored => ?_⟩
      have := w.notify.idle stored
      omega
    · let v : Waiting := { w with notify :=
        ⟨w.notify.permit, w.notify.parked, w.notify.woken - 1, w.notify.idle⟩ }
      have taken : step w .recheck = some v := by
        simp [step, Notify.resume, ran, check, starved.1, v]
      obtain ⟨u, later, stuck⟩ := Starved.stuck (w := v) starved
      exact ⟨u, (Reaches.refl.tail trivial taken).trans later, stuck⟩
  · obtain ⟨u, later, stuck⟩ := Starved.stuck starved.notified
    exact ⟨u, (Reaches.refl.tail trivial (a := .notified) (if_neg left)).trans later, stuck⟩
termination_by 2 * w.checked + w.notify.woken
decreasing_by
  · omega
  · cases stored : w.notify.permit with
    | true =>
      have := (Notify.notified_permit stored).2.2
      omega
    | false =>
      have := (Notify.notified_waits stored).2.2
      omega

/-- Every caller that sleeps is woken by the URI that is added, as long as there is at most one. -/
theorem wait_for_connection_wakes_one (w : Waiting) (reached : Reaches step Lone new w) :
    ¬ w.Stuck ∧ ∀ a v, step w a = some v → ¬ Lone w a →
      ∃ u, Reaches step (fun _ _ => True) v u ∧ u.Stuck := by
  refine ⟨fun stuck => ?_, fun a v taken crowd => ?_⟩
  · obtain ⟨-, -, parked, has, -⟩ := stuck
    have served : w.Served :=
      reached.invariant (fun _ _ _ inv lone taken => inv.step lone taken) nofun
    have := (served has).1
    omega
  · simp only [Lone, not_forall, Nat.not_le] at crowd
    obtain ⟨uri, rfl, unknown, crowd⟩ := crowd
    rw [step, if_neg unknown] at taken
    cases taken
    refine Starved.stuck ⟨hasConnections_addConnection _ _, ?_⟩
    by_cases none : w.notify.parked = 0
    · exact .inr (.inl (by simp only; omega))
    · obtain ⟨permit, parked, -⟩ := Notify.notifyOne_some none
      by_cases more : 0 < w.checked
      · exact .inr (.inr ⟨more, permit⟩)
      · exact .inl (by simp only; omega)

theorem wait_for_connection_wakes_one_parked :
    ∃ w, run step new [.waitForConnection, .notified, .addConnection "tcp://a"] = some w ∧
      w.balancer.connectionUris = ["tcp://a"] ∧ w.notify.woken = 1 ∧ ¬ w.Stuck := by
  refine exists_of_permitted ?_ rfl fun reached =>
    ⟨rfl, rfl, (wait_for_connection_wakes_one _ reached).1⟩
  exact ⟨nofun, _, rfl, nofun, _, rfl, fun _ _ _ => Nat.le_refl 1, _, rfl, trivial⟩

theorem two_waiters_one_connection :
    ∃ w, run step new [.waitForConnection, .notified, .waitForConnection, .notified,
      .addConnection "tcp://a", .recheck] = some w ∧ w.Stuck :=
  ⟨_, rfl, rfl, rfl, by decide, rfl, rfl⟩

end Waiting

/-! The rotation. -/

open List

inductive Op where
  | add (uri : String)
  | remove (uri : String)
  | next
deriving DecidableEq

def call (b : LoadBalancer) : Op → Option String × LoadBalancer
  | .add uri => (none, b.addConnection uri)
  | .remove uri => (none, b.removeConnection uri)
  | .next =>
    match b.getNextConnectionUri with
    | none => (none, b)
    | some (uri, b') => (some uri, b')

def after (b : LoadBalancer) (ops : List Op) : LoadBalancer :=
  ops.foldl (fun b op => (b.call op).2) b

def returned (b : LoadBalancer) : List Op → List String
  | [] => []
  | op :: rest => (b.call op).1.toList ++ returned (b.call op).2 rest

variable {b : LoadBalancer} {u v : String}

lemma nodup_call (nodup : b.connectionUris.Nodup) (op : Op) :
    (b.call op).2.connectionUris.Nodup := by
  cases op with
  | add uri =>
    simp only [call, addConnection]
    split
    · exact nodup
    · exact (perm_append_singleton uri _).nodup_iff.mpr (nodup_cons.mpr ⟨‹_›, nodup⟩)
  | remove uri => exact nodup.erase uri
  | next =>
    unfold call getNextConnectionUri
    cases uris : b.connectionUris with
    | nil => simp [uris]
    | cons uri rest => exact (perm_append_singleton uri rest).nodup_iff.mpr (uris ▸ nodup)

lemma nodup_after (nodup : b.connectionUris.Nodup) (ops : List Op) :
    (b.after ops).connectionUris.Nodup := by
  induction ops generalizing b with
  | nil => exact nodup
  | cons op rest ih => exact ih (nodup_call nodup op)

/-- `u` has been returned, and then `v` as often as `turns` says: they are in line in this order. -/
def InLine (u v : String) (turns : Nat) (uris : List String) : Prop :=
  turns = 0 ∧ [v, u] <+ uris ∨ turns = 1 ∧ [u, v] <+ uris

lemma InLine.mono {turns : Nat} {uris uris' : List String} (line : InLine u v turns uris)
    (kept : ∀ {x y}, x = u ∧ y = v ∨ x = v ∧ y = u → [x, y] <+ uris → [x, y] <+ uris') :
    InLine u v turns uris' :=
  line.imp (And.imp_right (kept (.inr ⟨rfl, rfl⟩))) (And.imp_right (kept (.inl ⟨rfl, rfl⟩)))

lemma InLine.call {turns : Nat} (line : InLine u v turns b.connectionUris) (other : v ≠ u)
    (nodup : b.connectionUris.Nodup) {op}
    (stays : op ≠ .remove u) (stays' : op ≠ .remove v) (skips : (b.call op).1 ≠ some u) :
    InLine u v (turns + (b.call op).1.toList.count v) (b.call op).2.connectionUris := by
  cases op with
  | add uri =>
    refine line.mono fun _ before => ?_
    simp only [LoadBalancer.call, addConnection]
    split
    · exact before
    · exact before.trans (sublist_append_left _ _)
  | remove uri =>
    refine line.mono fun {x y} names before => ?_
    have left : [x, y].erase uri = [x, y] := erase_of_not_mem fun mem => by
      simp only [mem_cons, not_mem_nil, or_false] at mem
      obtain ⟨rfl, rfl⟩ | ⟨rfl, rfl⟩ := names <;> obtain rfl | rfl := mem <;> contradiction
    exact left ▸ before.erase uri
  | next =>
    unfold LoadBalancer.call getNextConnectionUri at skips ⊢
    cases uris : b.connectionUris with
    | nil => simp [uris, InLine] at line
    | cons uri rest =>
      rw [uris] at line skips
      have notU : uri ≠ u := fun same => skips (congrArg some same)
      have later : ∀ {x y}, x ≠ uri → [x, y] <+ uri :: rest → [x, y] <+ rest ++ [uri] :=
        fun first before => (before.of_cons_of_ne first).trans (sublist_append_left _ _)
      obtain ⟨rfl, before⟩ | ⟨rfl, before⟩ := line
      · by_cases same : uri = v
        · subst same
          have mem : u ∈ rest := (mem_cons.mp (before.mem (by simp))).resolve_left notU.symm
          exact .inr ⟨by simp, (singleton_sublist.mpr mem).append (Sublist.refl [uri])⟩
        · exact .inl ⟨by simp [same], later (Ne.symm same) before⟩
      · have behind : uri ≠ v := by
          rintro rfl
          have mem := (before.of_cons_of_ne other.symm).mem (mem_cons_of_mem u mem_cons_self)
          exact (nodup_cons.mp (uris ▸ nodup)).1 mem
        exact .inr ⟨by simp [behind], later notU.symm before⟩

lemma InLine.after {turns : Nat} (line : InLine u v turns b.connectionUris) (other : v ≠ u)
    (nodup : b.connectionUris.Nodup) {ops} (stays : .remove u ∉ ops) (stays' : .remove v ∉ ops)
    (skips : u ∉ b.returned ops) :
    InLine u v (turns + (b.returned ops).count v) (b.after ops).connectionUris := by
  induction ops generalizing b turns with
  | nil => exact line
  | cons op rest ih =>
    rw [mem_cons, not_or] at stays stays'
    rw [returned, mem_append, not_or] at skips
    have first : (b.call op).1 ≠ some u := fun same => skips.1 (by simp [same])
    have next := line.call other nodup (Ne.symm stays.1) (Ne.symm stays'.1) first
    rw [returned, count_append, ← Nat.add_assoc]
    exact ih next (nodup_call nodup op) stays.2 stays'.2 skips.2

/-- The URIs are never listed twice, and between two returns of `u` every other URI that stays is
returned exactly once. -/
theorem round_robin_fair (before ops : List Op) :
    (new.after before).connectionUris.Nodup ∧ ∀ u b b' v,
      (new.after before).getNextConnectionUri = some (u, b) →
      (b.after ops).getNextConnectionUri = some (u, b') → u ∉ b.returned ops → .remove u ∉ ops →
      v ≠ u → v ∈ b.connectionUris → .remove v ∉ ops → (b.returned ops).count v = 1 := by
  have nodup : (new.after before).connectionUris.Nodup := nodup_after nodup_nil before
  refine ⟨nodup, fun u b b' v first last skips stays other mem stays' => ?_⟩
  have nodup' : b.connectionUris.Nodup := by
    have := nodup_call nodup .next
    rwa [LoadBalancer.call, first] at this
  have line : InLine u v 0 b.connectionUris := by
    unfold getNextConnectionUri at first
    split at first <;> cases first
    rename_i rest _
    have mem := (mem_append.mp mem).resolve_right (by simpa using other)
    exact .inl ⟨rfl, (singleton_sublist.mpr mem).append (Sublist.refl [u])⟩
  obtain ⟨-, inverted⟩ | ⟨once, -⟩ := line.after other nodup' stays stays' skips
  · have nodup := nodup_after nodup' ops
    unfold getNextConnectionUri at last
    split at last <;> cases last
    rename_i rest uris
    rw [uris] at inverted nodup
    have mem := (inverted.of_cons_of_ne other).mem (mem_cons_of_mem v mem_cons_self)
    exact absurd mem (nodup_cons.mp nodup).1
  · rwa [Nat.zero_add] at once

theorem round_robin_fair_two :
    (new.after [.add "a", .add "b", .next]).returned [.next] = ["b"] ∧
      ((new.after [.add "a", .add "b", .next]).returned [.next]).count "b" = 1 :=
  ⟨by decide, (round_robin_fair [.add "a", .add "b"] [.next]).2 "a" _ _ "b" rfl rfl
    (by decide) (by decide) (by decide) (by decide) (by decide)⟩

lemma call_front {front back op} (line : b.connectionUris = front ++ v :: back)
    (stays : op ≠ .remove v) (waits : (b.call op).1 ≠ some v) :
    ∃ front' back', (b.call op).2.connectionUris = front' ++ v :: back' ∧
      (b.call op).1.toList ++ front' <+ front := by
  cases op with
  | add uri =>
    simp only [call, addConnection]
    split
    · exact ⟨front, back, line, .refl _⟩
    · exact ⟨front, back ++ [uri], by simp [line], .refl _⟩
  | remove uri =>
    have other : v ≠ uri := fun same => stays (same ▸ rfl)
    simp only [call, removeConnection, line, erase_append]
    split
    · exact ⟨front.erase uri, back, rfl, erase_sublist⟩
    · exact ⟨front, back.erase uri, by simp [other], .refl _⟩
  | next =>
    unfold call getNextConnectionUri at waits ⊢
    rw [line] at waits ⊢
    cases front with
    | nil => exact absurd rfl waits
    | cons uri front => exact ⟨front, back ++ [uri], by simp, .refl _⟩

/-- However URIs come and go, `v` waits for those in front of it, and for each of them once. -/
theorem waits_for_front {front back ops} (line : b.connectionUris = front ++ v :: back)
    (stays : .remove v ∉ ops) (waits : v ∉ b.returned ops) : b.returned ops <+ front := by
  induction ops generalizing b front back with
  | nil => exact nil_sublist front
  | cons op rest ih =>
    rw [mem_cons, not_or] at stays
    rw [returned, mem_append, not_or] at waits
    obtain ⟨front', back', line, ahead⟩ :=
      call_front line (Ne.symm stays.1) fun same => waits.1 (by simp [same])
    exact ((Sublist.refl _).append (ih line stays.2 waits.2)).trans ahead

theorem waits_for_front_second :
    (⟨["a", "b"]⟩ : LoadBalancer).returned [.next, .remove "a", .add "c"] <+ ["a"] :=
  waits_for_front (show _ = ["a"] ++ "b" :: [] from rfl) (by decide) (by decide)

end Rzmq.LoadBalancer
