import Rzmq.Uring.Generations
import Rzmq.Uring.SendIntegrity

/-! The connections that get the number of an earlier one.  The worker keeps them apart just as long
as nothing of the earlier one is left when the number is given out again, and no shutdown of the
earlier one comes late. -/

namespace Rzmq

open List Option Function Nat Transition FdTables

lemma submitBatches_all {β : Type} (batches : List (List β)) {budget room : Nat}
    (enough : batches.length < budget) (fits : batches.flatten.length < room) :
    submitBatches budget room batches = (batches.flatten, []) := by
  induction batches generalizing budget room with
  | nil => cases budget <;> rfl
  | cons batch rest ih =>
    rw [flatten_cons, length_append] at fits
    cases budget with
    | zero => cases enough
    | succ budget =>
      rw [submitBatches, if_neg (by omega), ih (lt_of_succ_lt_succ enough) (by omega)]
      rfl

namespace FdTables

variable {σ α M : Type} {t : FdTables σ α M} {generation : Nat}

lemma call_crossed {h} (present : t.handler = some h)
    (other : h.generation ≠ generation) (heeded : Bool) (method : σ → σ × HandlerIoOps α) :
    (t.call generation heeded method).crossed = true := by
  simp [call, present, handed, bne_iff_ne.mpr other]

variable {blueprints : List (Nat × HandlerSqeBlueprint α)} {g : Nat} {zerocopy : Nat → Bool}

lemma calls_crossed {β : Type} {items : List β} (of : β → Nat)
    {method : β → σ → σ × HandlerIoOps α} {b : β} (present : t.handler.map (·.generation) = some g)
    (mem : b ∈ items) (other : g ≠ of b) :
    (items.foldl (fun t b => t.call (of b) false (method b)) t).crossed = true := by
  induction items generalizing t with
  | nil => cases mem
  | cons b' rest ih =>
    rcases mem_cons.mp mem with rfl | mem
    · obtain ⟨h, there, rfl⟩ := map_eq_some_iff.mp present
      exact (calls_aside rest of method _).crossed (call_crossed there other false (method b))
    · exact ih ((t.call_aside (of b') (method b')).handler.trans present) mem

lemma issue_crossed (t : FdTables σ α M) (userData : Nat) (zerocopy : Bool) (generation : Nat)
    (blueprint : HandlerSqeBlueprint α) (yes : t.crossed = true) :
    (t.issue userData zerocopy generation blueprint).crossed = true := by
  cases blueprint with
  | requestSend | requestSendZeroCopy | requestClose | requestSetCork => exact yes
  | requestNewRingReadMultishot | requestNewAsyncCancel =>
    simp [issue, inform, handed, yes]

lemma issueAll_crossed {userData : Nat} (yes : t.crossed = true) :
    (t.issueAll zerocopy userData blueprints).crossed = true := by
  induction blueprints generalizing t userData with
  | nil => exact yes
  | cons entry rest ih => exact ih (issue_crossed t _ _ _ _ yes)

lemma issue_ops (t : FdTables σ α M) (userData : Nat) (zerocopy : Bool) (generation : Nat)
    (blueprint : HandlerSqeBlueprint α) :
    ∃ opType, (t.issue userData zerocopy generation blueprint).ops =
      t.ops ++ [⟨userData, opType, generation, none⟩] := by
  cases blueprint <;> exact ⟨_, rfl⟩

/-- The operations that are not with the kernel yet are there, and are not of generation `g`. -/
structure Waiting (g : Nat) (t : FdTables σ α M) : Prop where
  others : ∀ op ∈ t.ops, op.executed = none → op.generation ≠ g
  waits : ∃ op ∈ t.ops, op.executed = none

lemma executeOps_crossed {ops} (others : ∀ op ∈ ops, op.executed = none → op.generation ≠ g)
    (waits : ∃ op ∈ ops, op.executed = none) :
    (executeOps (some g) ops).1.any InternalOp.astray = true := by
  induction ops with
  | nil =>
    obtain ⟨_, mem, _⟩ := waits
    cases mem
  | cons op rest ih =>
    cases executed : op.executed with
    | none =>
      have astray := bne_iff_ne.mpr (others op mem_cons_self executed).symm
      simp [executeOps, executed, InternalOp.astray, astray]
    | some file =>
      have later := ih (fun op mem => others op (mem_cons_of_mem _ mem)) (by
        obtain ⟨op', mem, queued⟩ := waits
        rcases mem_cons.mp mem with rfl | mem
        · rw [executed] at queued
          cases queued
        · exact ⟨op', mem, queued⟩)
      simp [executeOps, executed, later]

lemma Waiting.execute (waiting : t.Waiting g) (file : t.file = some g) :
    t.execute.crossed = true := by
  have astray := executeOps_crossed waiting.others waiting.waits
  simp [FdTables.execute, file, astray]

lemma issueAll_waiting {userData : Nat}
    (others : ∀ op ∈ t.ops, op.executed = none → op.generation ≠ g)
    (old : ∀ entry ∈ blueprints, entry.1 ≠ g)
    (waits : blueprints ≠ [] ∨ ∃ op ∈ t.ops, op.executed = none) :
    (t.issueAll zerocopy userData blueprints).Waiting g := by
  induction blueprints generalizing t userData with
  | nil => exact ⟨others, waits.resolve_left (absurd rfl)⟩
  | cons entry rest ih =>
    obtain ⟨generation, blueprint⟩ := entry
    obtain ⟨opType, ops⟩ := t.issue_ops userData (zerocopy userData) generation blueprint
    refine ih (fun op mem queued => ?_) (fun entry mem => old entry (mem_cons_of_mem _ mem))
      (.inr ⟨⟨userData, opType, generation, none⟩, ?_, rfl⟩)
    · rw [ops] at mem
      rcases mem_append.mp mem with mem | mem
      · exact others op mem queued
      · rw [mem_singleton.mp mem]
        exact old _ mem_cons_self
    · rw [ops]
      exact mem_append_right _ (mem_singleton.mpr rfl)

lemma issueAll_file (zerocopy : Nat → Bool) (userData : Nat) (t : FdTables σ α M)
    (blueprints : List (Nat × HandlerSqeBlueprint α)) :
    (t.issueAll zerocopy userData blueprints).file = t.file := by
  induction blueprints generalizing t userData with
  | nil => rfl
  | cons entry rest ih =>
    refine (ih _ _).trans ?_
    obtain ⟨_, blueprint⟩ := entry
    cases blueprint <;> rfl

section Handlers

variable [UringConnectionHandler σ α M]

open UringConnectionHandler

structure Gathered (t t' : FdTables σ α M) : Prop where
  handler : t'.handler.map (·.generation) = t.handler.map (·.generation)
  appData : t'.appData = t.drain.appData
  file : t'.file = t.file
  claim : t'.claim = t.claim

lemma gather_gathered (t : FdTables σ α M) (clock : Clock) : Gathered t (t.gather clock) := by
  obtain ⟨handler, appData, _, file, claim, _⟩ := (t.drain.prepare clock).initiateClose_aside
  have drained : t.drain.handler = t.handler ∧ t.drain.file = t.file ∧
      t.drain.claim = t.claim := by
    unfold drain
    split <;> exact ⟨rfl, rfl, rfl⟩
  have prepared : (t.drain.prepare clock).handler.map (·.generation) =
        t.drain.handler.map (·.generation) ∧
      (t.drain.prepare clock).appData = t.drain.appData ∧
      (t.drain.prepare clock).file = t.drain.file ∧
      (t.drain.prepare clock).claim = t.drain.claim := by
    unfold prepare
    split
    · exact ⟨rfl, rfl, rfl, rfl⟩
    · rename_i h present
      exact ⟨by rw [present]; rfl, rfl, rfl, rfl⟩
  obtain ⟨same, file', claim'⟩ := drained
  obtain ⟨handler', appData', file'', claim''⟩ := prepared
  exact ⟨handler.trans (handler'.trans (by rw [same])), appData.trans appData',
    file.trans (file''.trans file'), claim.trans (claim''.trans claim')⟩

variable {h : RegisteredHandler σ}

lemma gather_handler (clock : Clock) (present : t.handler = some h) :
    ∃ h', (t.gather clock).handler = some h' ∧ h'.generation = h.generation := by
  have same := (t.gather_gathered clock).handler
  rw [present] at same
  exact map_eq_some_iff.mp same

/-- What is left of earlier connections is still there when the newest one gets its handler. -/
structure Enrolled (generation : Nat) (t t' : FdTables σ α M) : Prop where
  handler : ∃ h, t'.handler = some h ∧ h.generation = generation
  appData : ∀ entry ∈ t.appData, entry ∈ t'.drain.appData
  closePass : ∀ g ∈ t.closePass, g ∈ t'.closePass
  ops : t'.ops = t.ops

lemma register_enrolled (made : σ) (absent : t.handler = none) :
    Enrolled generation t (t.register generation (some made) false) := by
  unfold register
  rw [absent]
  refine ⟨⟨_, rfl, rfl⟩, fun entry mem => mem_append_left _ mem, fun g mem => ?_, rfl⟩
  dsimp only
  split
  · exact mem_append_left _ mem
  · exact mem

lemma gather_absent (clock : Clock) (absent : t.handler = none) (deaf : t.receiver = none) :
    t.gather clock = { t with closePass := [] } := by
  have idle : ∀ (pass : List Nat) (u : FdTables σ α M), u.handler = none →
      pass.foldl (fun t generation => t.call generation false closeInitiated) u = u := by
    intro pass u none
    induction pass with
    | nil => rfl
    | cons g rest ih =>
      have same : u.call g false closeInitiated = u := by rw [call, none]
      rw [foldl_cons, same, ih]
  have drained : t.drain = t := by rw [drain, deaf]
  have prepared : t.prepare clock = t := by rw [prepare, absent]
  rw [gather, drained, prepared]
  exact idle t.closePass { t with closePass := [] } absent

lemma gather_crossed {g : Nat} (clock : Clock) (present : t.handler = some h)
    (mem : g ∈ t.closePass) (other : h.generation ≠ g) : (t.gather clock).crossed = true := by
  have passed : t.drain.closePass = t.closePass ∧ t.drain.handler = t.handler := by
    unfold drain
    split <;> exact ⟨rfl, rfl⟩
  have kept : g ∈ (t.drain.prepare clock).closePass := by
    unfold prepare
    rw [passed.2, present]
    dsimp only
    rw [passed.1, isEmpty_eq_false_iff.mpr (ne_nil_of_mem mem), Bool.and_false]
    exact mem
  have present' : (t.drain.prepare clock).handler.map (·.generation) = some h.generation := by
    unfold prepare
    rw [passed.2, present]
    rfl
  exact calls_crossed id present' kept other

lemma convert_crossed {entry : Nat × M} (present : t.handler = some h) (mem : entry ∈ t.appData)
    (other : h.generation ≠ entry.1) : t.convert.crossed = true := by
  unfold convert
  rw [if_pos (by rw [present]; rfl)]
  refine calls_crossed Prod.fst ?_ mem other
  rw [present]
  rfl

lemma complete_crossed {op cqe} (present : t.handler = some h)
    (other : h.generation ≠ op.generation) (executed : op.executed.isSome = true)
    (harms : ¬ op.Harmless)
    (notifies : cqe.notification = true) : (t.complete op cqe).crossed = true := by
  have called (method : σ → σ × HandlerIoOps α) :
      ((t.takeOp op.userData).call op.generation true method).crossed = true := by
    have there : (t.takeOp op.userData).handler = some h := present
    exact call_crossed there other true method
  unfold InternalOp.Harmless at harms
  unfold complete
  dsimp only
  split
  · rename_i isClose
    have open' : op.executed.join.isSome = true := by
      cases file : op.executed with
      | none =>
        rw [file] at executed
        cases executed
      | some file' =>
        cases file' with
        | none => exact absurd ⟨executed, .inr (.inr ⟨isClose, file⟩)⟩ harms
        | some g => rfl
    simp [closed, if_pos open', handed, takeOp, present, bne_iff_ne.mpr other]
  · exact called _
  · exact called _
  · rw [notifies]
    exact called _
  · split
    · exact called _
    · exact called _
  · rename_i type
    exact absurd ⟨executed, .inl type⟩ harms
  · rename_i type
    exact absurd ⟨executed, .inr (.inl type)⟩ harms

end Handlers

end FdTables

namespace UringWorker

variable {σ α M : Type}

lemma update_tables (w : UringWorker σ α M) (fd : Nat) (t : FdTables σ α M) :
    (w.update fd t).tables fd = t := update_self ..

variable [UringConnectionHandler σ α M] {w w' : UringWorker σ α M}

def Doomed (w : UringWorker σ α M) : Prop :=
  ∃ u, Reaches step (fun _ _ => True) w u ∧ ∃ fd, (u.tables fd).crossed = true

lemma Doomed.before {a} (taken : w.step a = some w') (doomed : w'.Doomed) :
    w.Doomed := by
  obtain ⟨u, reached, crossed⟩ := doomed
  exact ⟨u, (Reaches.refl.tail trivial taken).trans reached, crossed⟩

lemma doomed_of_crossed (fd : Nat) (crossed : (w.tables fd).crossed = true) : w.Doomed :=
  ⟨w, .refl, fd, crossed⟩

lemma Doomed.gathering (doomed : { w with phase := .gathering }.Doomed) : w.Doomed := by
  obtain ⟨phase, nextId, tables⟩ := w
  cases phase with
  | gathering => exact doomed
  | submitting => exact .before (a := .submit false) rfl (.before (a := .reaped) rfl doomed)
  | reaping => exact .before (a := .reaped) rfl doomed

def calm : Nat → Clock := fun _ => ⟨false, false, false⟩

variable {h : RegisteredHandler σ} {g : Nat}

section

variable (fd : Nat)
include fd

lemma doomed_of_closePass (present : (w.tables fd).handler = some h)
    (mem : g ∈ (w.tables fd).closePass) (other : h.generation ≠ g) : w.Doomed := by
  refine .gathering (.before (a := .gather calm) rfl ?_)
  exact doomed_of_crossed fd (gather_crossed _ present mem other)

lemma doomed_of_appData {entry} (present : (w.tables fd).handler = some h)
    (mem : entry ∈ (w.tables fd).drain.appData) (other : h.generation ≠ entry.1) : w.Doomed := by
  obtain ⟨h', present', same⟩ := gather_handler (calm fd) present
  rw [← same] at other
  rw [← ((w.tables fd).gather_gathered (calm fd)).appData] at mem
  refine .gathering (.before (a := .gather calm) rfl ?_)
  refine .before (a := .work fd 1 1 fun _ => false) rfl (doomed_of_crossed fd ?_)
  dsimp only [update]
  rw [update_self]
  exact issueAll_crossed (convert_crossed present' mem other)

lemma Doomed.completed {op} {nextId : Nat} (cqe : Cqe α)
    (numbered : (w.tables fd).Numbered nextId) (mem : op ∈ (w.tables fd).ops)
    (executed : op.executed.isSome = true)
    (doomed : ({ w with phase := .reaping }.update fd ((w.tables fd).complete op cqe)).Doomed) :
    { w with phase := .reaping }.Doomed := by
  refine .before (a := .complete fd op.userData cqe) ?_ doomed
  have found : (w.tables fd).ops.find? (·.userData == op.userData) = some op := by
    cases found : (w.tables fd).ops.find? (·.userData == op.userData) with
    | none => exact absurd (beq_self_eq_true _) (find?_eq_none.mp found op mem)
    | some op' =>
      have same := find?_some found
      rw [numbered.eq mem (mem_of_find?_eq_some found) (beq_iff_eq.mp same)]
  simp [step, found, executed]

lemma doomed_of_op {op} {N : Nat} (numbered : (w.tables fd).Numbered N)
    (present : (w.tables fd).handler = some h) (mem : op ∈ (w.tables fd).ops)
    (executed : op.executed.isSome = true) (harms : ¬ op.Harmless)
    (other : h.generation ≠ op.generation) : w.Doomed := by
  obtain ⟨h', present', same⟩ := gather_handler (calm fd) present
  rw [← same] at other
  have ops := (w.tables fd).gather_ops (calm fd)
  rw [← ops] at mem
  have numbered' : ((w.tables fd).gather (calm fd)).Numbered N :=
    ⟨by rw [ops]; exact numbered.distinct, by rw [ops]; exact numbered.fresh⟩
  refine .gathering (.before (a := .gather calm) rfl ?_)
  refine .before (a := .submit false) rfl ?_
  refine .completed fd ⟨0, none, false, true, .connectionClosed⟩ numbered' mem executed ?_
  refine doomed_of_crossed fd ?_
  dsimp only [update]
  rw [update_self]
  exact complete_crossed present' other executed harms rfl

lemma doomed_of_waiting (absent : (w.tables fd).handler = none)
    (deaf : (w.tables fd).receiver = none) (file : (w.tables fd).file = some g)
    (waiting : (w.tables fd).Waiting g) : w.Doomed := by
  obtain ⟨others, waits⟩ := waiting
  refine .gathering (.before (a := .gather calm) rfl ?_)
  refine .before (a := .submit true) rfl (doomed_of_crossed fd ?_)
  dsimp only
  rw [if_pos rfl, gather_absent _ absent deaf]
  exact FdTables.Waiting.execute ⟨others, waits⟩ file

lemma doomed_of_batches (absent : (w.tables fd).handler = none)
    (deaf : (w.tables fd).receiver = none) (file : (w.tables fd).file = some g)
    (others : ∀ op ∈ (w.tables fd).ops, op.executed = none → op.generation ≠ g)
    (old : ∀ entry ∈ (w.tables fd).batches.flatten, entry.1 ≠ g)
    (some : (w.tables fd).batches.flatten ≠ []) : w.Doomed := by
  have all := submitBatches_all (w.tables fd).batches (lt_succ_self _)
    (lt_succ_self _)
  refine .gathering (.before (a := .gather calm) rfl ?_)
  refine .before (a := .work fd ((w.tables fd).batches.length + 1)
    ((w.tables fd).batches.flatten.length + 1) fun _ => false) (by
      simp only [step, succ_pos, and_true, if_true]
      rfl) ?_
  refine .before (a := .submit true) rfl (doomed_of_crossed fd ?_)
  dsimp only [update]
  rw [if_pos rfl, update_self, gather_absent _ absent deaf]
  have idle : { w.tables fd with closePass := [] }.convert =
      { w.tables fd with closePass := [] } := by
    rw [convert, absent]
    rfl
  rw [idle, submitWork, all]
  refine FdTables.Waiting.execute (issueAll_waiting others old (.inl some)) ?_
  rw [issueAll_file]
  exact file

lemma Doomed.registered (made : σ) (file : (w.tables fd).file = some g)
    (free : (w.tables fd).claim = .unclaimed)
    (doomed : ({ w with phase := .gathering }.update fd
      ((w.tables fd).register g (some made) false)).Doomed) : w.Doomed := by
  refine .gathering (.before (a := .register fd (some made) false) ?_ doomed)
  simp [step, file, free]

lemma doomed_of_left {g N : Nat} (made : σ) (numbered : (w.tables fd).Numbered N)
    (absent : (w.tables fd).handler = none) (file : (w.tables fd).file = some g)
    (free : (w.tables fd).claim = .unclaimed)
    (left : (∃ entry ∈ (w.tables fd).appData, g ≠ entry.1) ∨
      (∃ g' ∈ (w.tables fd).closePass, g ≠ g') ∨
      ∃ op ∈ (w.tables fd).ops, op.executed.isSome = true ∧ ¬ op.Harmless ∧ g ≠ op.generation) :
    w.Doomed := by
  have enrolled : Enrolled g _ _ := register_enrolled made absent
  obtain ⟨⟨h, present, rfl⟩, appData, closePass, ops⟩ := enrolled
  refine .registered fd made file free ?_
  rcases left with ⟨entry, mem, other⟩ | ⟨g', mem, other⟩ | ⟨op, mem, executed, harms, other⟩
  · refine doomed_of_appData fd ?_ ?_ other
    all_goals rw [update_tables]
    · exact present
    · exact appData entry mem
  · refine doomed_of_closePass fd ?_ ?_ other
    all_goals rw [update_tables]
    · exact present
    · exact closePass g' mem
  · refine doomed_of_op fd (N := N) ?_ ?_ ?_ executed harms other
    all_goals rw [update_tables]
    · exact ⟨by rw [ops]; exact numbered.distinct, by rw [ops]; exact numbered.fresh⟩
    · exact present
    · rw [ops]
      exact mem

lemma doomed_of_handler (own : w.Own) (made : σ) (m : M) (shut : (w.tables fd).file = none)
    (present : (w.tables fd).handler = some h) : (w.update fd (w.tables fd).openFile).Doomed := by
  have own' := own.tables fd
  have numbered := own.numbered fd
  obtain ⟨op, mem, isClose, executed⟩ := own'.closing h present shut
  obtain ⟨⟨g, queue⟩, receives⟩ : ∃ r, (w.tables fd).receiver = some r := by
    rw [← isSome_iff_exists, ← own'.paired, present]
    rfl
  have mine := own'.receiver _ receives
  let t : FdTables σ α M := { (w.tables fd).openFile with receiver := some (g, queue ++ [m]) }
  obtain ⟨_, appData, file, claim⟩ := t.gather_gathered (calm fd)
  have ops := t.gather_ops (calm fd)
  have sent : (g, m) ∈ (t.gather (calm fd)).appData := by
    rw [appData]
    refine mem_append_right _ (mem_map.mpr ⟨m, ?_, rfl⟩)
    exact mem_append_right _ (mem_singleton.mpr rfl)
  have completed : ∀ cqe : Cqe α, (t.gather (calm fd)).complete op cqe =
      { ((t.gather (calm fd)).takeOp op.userData).handed op.generation with
        receiver := none, handler := none } := fun cqe => by
    rw [complete, isClose]
    dsimp only
    rw [closed, executed]
    rfl
  have tables := w.update_tables fd (w.tables fd).openFile
  generalize w.update fd (w.tables fd).openFile = u at tables
  have taken : u.step (.appSend fd m) = some (u.update fd t) := by
    have receives' : (w.tables fd).openFile.receiver = some (g, queue) := receives
    simp [step, tables, receives', t]
  refine .before taken (.gathering (.before (a := .gather calm) rfl ?_))
  let v : UringWorker σ α M :=
    ⟨.submitting, u.nextId, fun fd' => ((u.update fd t).tables fd').gather (calm fd')⟩
  have gathered : v.tables fd = t.gather (calm fd) :=
    congrArg (·.gather (calm fd)) (u.update_tables fd t)
  have numbered' : (v.tables fd).Numbered w.nextId := by
    rw [gathered]
    exact ⟨by rw [ops]; exact numbered.distinct, by rw [ops]; exact numbered.fresh⟩
  refine .before (a := .submit false) rfl (Doomed.completed (w := v) fd
    ⟨0, none, false, false, .connectionClosed⟩ numbered' ?_ (by rw [executed]; rfl) ?_)
  · rw [gathered, ops]
    exact mem
  · rw [gathered, completed]
    refine doomed_of_left fd (N := w.nextId) (g := (w.tables fd).opened) made ?_ ?_ ?_ ?_
      (.inl ⟨(g, m), ?_, by omega⟩)
    all_goals rw [update_tables]
    · rw [gathered] at numbered'
      exact ⟨(numbered'.takeOp op.userData).distinct, (numbered'.takeOp op.userData).fresh⟩
    · exact file
    · exact claim
    · exact sent

lemma doomed_of_openFile (own : w.Own) (made : σ) (m : M) (shut : (w.tables fd).file = none)
    (loud : ¬ (w.tables fd).Quiet) : (w.update fd (w.tables fd).openFile).Doomed := by
  have own' := own.tables fd
  have numbered : (w.tables fd).openFile.Numbered w.nextId :=
    ⟨(own.numbered fd).distinct, (own.numbered fd).fresh⟩
  cases present : (w.tables fd).handler with
  | some h => exact doomed_of_handler fd own made m shut present
  | none =>
    have deaf : (w.tables fd).receiver = none := by
      rw [← isNone_iff_eq_none, ← not_isSome, ← own'.paired, present]
      rfl
    have tables := w.update_tables fd (w.tables fd).openFile
    generalize w.update fd (w.tables fd).openFile = w' at tables
    have left := doomed_of_left (w := w') fd (N := w.nextId) (g := (w.tables fd).opened) made
    rw [tables] at left
    have left := left numbered present rfl rfl
    by_cases appData : (w.tables fd).appData = []
    swap
    · obtain ⟨entry, mem⟩ := exists_mem_of_ne_nil _ appData
      have old := own'.appData entry mem
      exact left (.inl ⟨entry, mem, by omega⟩)
    by_cases closePass : (w.tables fd).closePass = []
    swap
    · obtain ⟨g, mem⟩ := exists_mem_of_ne_nil _ closePass
      have old := own'.passed g mem
      exact left (.inr (.inl ⟨g, mem, by omega⟩))
    have queued : ∀ op ∈ (w.tables fd).ops, op.executed = none →
        op.generation ≠ (w.tables fd).opened := fun op mem waits => by
      have old := own'.queued mem waits
      omega
    by_cases batches : (w.tables fd).batches.flatten = []
    swap
    · refine doomed_of_batches fd (g := (w.tables fd).opened) ?_ ?_ ?_ ?_ ?_ ?_
      all_goals rw [tables]
      · exact present
      · exact deaf
      · rfl
      · exact queued
      · intro entry mem
        have old := own'.batches entry mem
        omega
      · exact batches
    obtain ⟨op, mem, harms⟩ : ∃ op ∈ (w.tables fd).ops, ¬ op.Harmless := by
      by_contra none
      push Not at none
      exact loud ⟨present, appData, batches, closePass, none⟩
    have old := (own'.ops op mem).resolve_right harms
    cases executed : op.executed with
    | some _ => exact left (.inr (.inr ⟨op, mem, by rw [executed]; rfl, harms, by omega⟩))
    | none =>
      refine doomed_of_waiting fd (g := (w.tables fd).opened) ?_ ?_ ?_ ?_
      all_goals rw [tables]
      · exact present
      · exact deaf
      · rfl
      · exact ⟨queued, op, mem, executed⟩

lemma doomed_of_shutdown (own : w.Own) (made : σ) (live : (w.tables fd).Live)
    (late : g + 1 ≠ (w.tables fd).opened) : (w.update fd
      { w.tables fd with closePass := (w.tables fd).closePass ++ [g] }).Doomed := by
  have own' := own.tables fd
  have numbered := own.numbered fd
  have asked : g ∈ (w.tables fd).closePass ++ [g] :=
    mem_append_right _ (mem_singleton.mpr rfl)
  cases present : (w.tables fd).handler with
  | some h =>
    have mine := own'.handler h present
    have other : h.generation ≠ g := by omega
    refine doomed_of_closePass fd ?_ ?_ other
    all_goals rw [update_tables]
    · exact present
    · exact asked
  | none =>
    rcases live with there | ⟨isOpen, free⟩
    · rw [present] at there
      cases there
    · obtain ⟨newest, file⟩ := isSome_iff_exists.mp isOpen
      have mine := own'.file newest file
      have other : newest ≠ g := by omega
      refine doomed_of_left fd (N := w.nextId) (g := newest) made ?_ ?_ ?_ ?_
        (.inr (.inl ⟨g, ?_, other⟩))
      all_goals rw [update_tables]
      · exact ⟨numbered.distinct, numbered.fresh⟩
      · exact present
      · exact file
      · exact free
      · exact asked

end

/-- As long as a number is given out again only with nothing left under it, and no shutdown comes
late, nothing of one connection gets to another one.  Without that it can. -/
theorem generations_apart (nextId : Nat) (made : σ) (m : M) :
    (∀ w, Reaches step Unshared (start nextId : UringWorker σ α M) w →
      ∀ fd, (w.tables fd).crossed = false) ∧
    ∀ w a w', Reaches step Unshared (start nextId : UringWorker σ α M) w → w.step a = some w' →
      ¬ w.Unshared a → ∃ u, Reaches step (fun _ _ => True) w' u ∧
        ∃ fd, (u.tables fd).crossed = true := by
  have own : ∀ w, Reaches step Unshared (start nextId : UringWorker σ α M) w → w.Own :=
    fun w reached => reached.invariant (fun _ _ _ own unshared taken => own.step unshared taken)
      (start_own nextId)
  refine ⟨fun w reached fd => ((own w reached).tables fd).uncrossed,
    fun w a w' reached taken shared => ?_⟩
  cases a with
  | openFile fd =>
    obtain ⟨shut, ⟨⟩⟩ := ite_none_right_eq_some.mp taken
    exact doomed_of_openFile fd (own w reached) made m shut shared
  | shutdown fd g =>
    obtain ⟨_, ⟨⟩⟩ := ite_none_right_eq_some.mp taken
    obtain ⟨live, late⟩ := Classical.not_imp.mp shared
    exact doomed_of_shutdown fd (own w reached) made live late
  | abandon | appSend | register | gather | work | ensureRead | submit | complete | reaped =>
    exact absurd trivial shared

end UringWorker

open Octet Noise

namespace UringWorker

def pushSender : ZmtpUringSender NoKey NoKey Handshake Transport Symbol :=
  ⟨.new UringConnection.pushConfig false ⟨⟨⟩, 0⟩, false, [], []⟩

def pushWorker : UringWorker (ZmtpUringSender NoKey NoKey Handshake Transport Symbol) Symbol
    (List (Msg Symbol)) := start 1

/-- The handshake with a silent peer takes too long, and its descriptor is closed while a read is
pending.  The next connection gets the number again; then the silent peer speaks. -/
def lateRead : List (WorkerAction (ZmtpUringSender NoKey NoKey Handshake Transport Symbol) Symbol
    (List (Msg Symbol))) :=
  [.openFile 7, .register 7 (some pushSender) false, .gather calm, .work 7 64 256 fun _ => false,
    .ensureRead 7, .submit true, .complete 7 1 ⟨11, none, false, false, .timeout⟩, .reaped,
    .gather fun _ => ⟨true, false, false⟩, .work 7 64 256 fun _ => false, .submit true,
    .complete 7 3 ⟨0, none, false, false, .timeout⟩, .reaped,
    .openFile 7, .register 7 (some pushSender) false, .gather calm, .submit true,
    .complete 7 2 ⟨3, some (bytes [0xFF, 0, 0]), false, false, .timeout⟩]

theorem late_read_crosses : ∃ w, Reaches step (fun _ _ => True) pushWorker w ∧
      (w.tables 7).handler.map (fun h => (h.generation, h.state.handler.received)) =
        some (1, (bytes [0xFF, 0, 0] : List Symbol)) ∧ (w.tables 7).crossed = true := by
  have ran : (run step pushWorker lateRead).map (fun w =>
      ((w.tables 7).handler.map (fun h => (h.generation, h.state.handler.received)),
        (w.tables 7).crossed)) = some (some (1, bytes [0xFF, 0, 0]), true) := by
    decide +kernel
  obtain ⟨w, ran, found⟩ := map_eq_some_iff.mp ran
  obtain ⟨received, crossed⟩ := Prod.mk.inj found
  exact ⟨w, reaches_of_run _ (fun _ _ _ => trivial) ran, received, crossed⟩

end UringWorker

end Rzmq
