import Rzmq.Uring.Worker
import Mathlib.Data.List.Nodup

/-! The connections that share a number of the io_uring worker.  They are kept apart as long as the
kernel gives a number out again only when the worker has nothing left under it, and nobody asks to
shut a connection down whose number has gone to another one. -/

namespace Rzmq

open Transition FdTables
open List (mem_append mem_cons mem_cons_of_mem mem_cons_self mem_singleton)
open Option (isSome_map ite_none_right_eq_some)

namespace InternalOp

/-- The kernel has it, and its completion reaches no handler but one that waits for it by its user
data. -/
def Harmless (op : InternalOp) : Prop :=
  op.executed.isSome ∧ (op.opType = .ringReadMultishot ∨ op.opType = .asyncCancel ∨
    (op.opType = .closeFd ∧ op.executed = some none))

instance (op : InternalOp) : Decidable op.Harmless := inferInstanceAs (Decidable (_ ∧ _))

end InternalOp

namespace FdTables

variable {σ α M : Type} (t : FdTables σ α M)

structure Quiet : Prop where
  handler : t.handler = none
  appData : t.appData = []
  batches : t.batches.flatten = []
  closePass : t.closePass = []
  ops : ∀ op ∈ t.ops, op.Harmless

def Live : Prop :=
  t.handler.isSome = true ∨ (t.file.isSome = true ∧ t.claim = .unclaimed)

def mapReader (f : Option MultishotReader → Option MultishotReader) : FdTables σ α M :=
  { t with handler := t.handler.map fun h => { h with reader := f h.reader } }

def track (op : InternalOp) : FdTables σ α M :=
  { t with ops := t.ops ++ [op] }

/-- All that is under the number is of the newest connection, but for operations that are
harmless. -/
structure Own : Prop where
  handler : ∀ h, t.handler = some h → h.generation + 1 = t.opened
  receiver : ∀ r, t.receiver = some r → r.1 + 1 = t.opened
  paired : t.handler.isSome = t.receiver.isSome
  appData : ∀ entry ∈ t.appData, entry.1 + 1 = t.opened
  batches : ∀ entry ∈ t.batches.flatten, entry.1 + 1 = t.opened
  closePass : t.Live → ∀ g ∈ t.closePass, g + 1 = t.opened
  passed : ∀ g ∈ t.closePass, g < t.opened
  ops : ∀ op ∈ t.ops, op.generation + 1 = t.opened ∨ op.Harmless
  reader : ∀ h r, t.handler = some h → h.reader = some r →
    ∀ op ∈ t.ops, r.matchesCqe op.userData = true → op.generation + 1 = t.opened
  straight : ∀ op ∈ t.ops, op.astray = false
  file : ∀ g, t.file = some g → g + 1 = t.opened
  unclaimed : t.file.isSome = true → t.claim ≠ .registered → t.handler = none
  closing : ∀ h, t.handler = some h → t.file = none →
    ∃ op ∈ t.ops, op.opType = .closeFd ∧ op.executed = some (some h.generation)
  uncrossed : t.crossed = false

/-- The user data of the operations under a number are distinct, and were all given out. -/
structure Numbered (nextId : Nat) (t : FdTables σ α M) : Prop where
  distinct : (t.ops.map (·.userData)).Nodup
  fresh : ∀ op ∈ t.ops, op.userData < nextId

lemma empty_own : (empty : FdTables σ α M).Own :=
  ⟨nofun, nofun, rfl, nofun, nofun, nofun, nofun, nofun, nofun, nofun, nofun, nofun, nofun, rfl⟩

variable {t : FdTables σ α M} {generation : Nat}

/-! ### What keeps the generations apart, for one number -/

lemma handed_eq (mine : ∀ h, t.handler = some h → h.generation = generation) :
    t.handed generation = t := by
  have same : t.handler.any (·.generation != generation) = false := by
    cases present : t.handler with
    | none => rfl
    | some h => simp only [Option.any_some, mine h present, bne_self_eq_false]
  unfold handed
  rw [same, Bool.or_false]

lemma Own.handed (own : t.Own) (newest : t.handler.isSome = true → generation + 1 = t.opened) :
    t.handed generation = t := by
  refine handed_eq fun h present => ?_
  have mine := own.handler h present
  have newest := newest (by rw [present]; rfl)
  omega

lemma Own.pushed (own : t.Own) (newest : generation + 1 = t.opened)
    (blueprints : List (HandlerSqeBlueprint α)) :
    ∀ entry ∈ (pushBatch t.batches (blueprints.map (generation, ·))).flatten,
      entry.1 + 1 = t.opened := by
  have before := own.batches
  rw [pushBatch_flatten]
  grind

lemma Own.advance (own : t.Own) {h} (present : t.handler = some h)
    (state : σ) (blueprints : List (HandlerSqeBlueprint α)) {closePass}
    (newest : ∀ g ∈ closePass, g + 1 = t.opened) :
    ({ t with
      handler := some { h with state }
      batches := pushBatch t.batches (blueprints.map (h.generation, ·))
      closePass } : FdTables σ α M).Own := by
  have pushed := own.pushed (own.handler h present) blueprints
  cases own
  constructor <;> grind

lemma Own.call (own : t.Own) (heeded : Bool) (method : σ → σ × HandlerIoOps α)
    (newest : t.handler.isSome = true → generation + 1 = t.opened) :
    (t.call generation heeded method).Own := by
  unfold FdTables.call
  split
  · exact own
  · rename_i h present
    have old := own.closePass (.inl (by rw [present]; rfl))
    rw [own.handed newest]
    refine own.advance present _ _ fun g mem => ?_
    split at mem
    · rcases mem_append.mp mem with mem | mem
      · exact old g mem
      · rw [mem_singleton.mp mem]
        exact own.handler h present
    · exact old g mem

@[simp] lemma call_ops (t : FdTables σ α M) (generation : Nat) (heeded : Bool)
    (method : σ → σ × HandlerIoOps α) : (t.call generation heeded method).ops = t.ops := by
  unfold call
  split <;> rfl

@[simp] lemma call_opened (t : FdTables σ α M) (generation : Nat) (heeded : Bool)
    (method : σ → σ × HandlerIoOps α) : (t.call generation heeded method).opened = t.opened := by
  unfold call
  split <;> rfl

lemma Own.mapReader (own : t.Own) (f)
    (apart : ∀ h r, t.handler = some h → f h.reader = some r → ∀ op ∈ t.ops,
      r.matchesCqe op.userData = true → op.generation + 1 = t.opened) :
    (t.mapReader f).Own := by
  cases own
  constructor <;> grind [mapReader, Live, Option.map_eq_some_iff]

lemma Own.setReader (own : t.Own) {r}
    (apart : ∀ op ∈ t.ops, r.matchesCqe op.userData = true → op.generation + 1 = t.opened) :
    (t.setReader r).Own := by
  refine own.mapReader (fun _ => some r) fun _ r' _ eq => ?_
  cases eq
  exact apart

lemma Own.takeOp (own : t.Own) (userData : Nat)
    (other : ∀ op ∈ t.ops, op.userData = userData → op.opType ≠ .closeFd ∨
      op.executed = some none ∨ op.executed = none) : (t.takeOp userData).Own := by
  cases own
  constructor <;> grind [takeOp, Live]

lemma Own.openFile (own : t.Own) (quiet : t.Quiet) : t.openFile.Own := by
  cases own
  obtain ⟨_, _, _, _, _⟩ := quiet
  constructor <;> grind [openFile]

lemma Own.abandon (own : t.Own) (free : t.handler = none) : t.abandon.Own := by
  cases own
  constructor <;> grind [abandon, Live]

variable {nextId : Nat} {op : InternalOp} {userData : Nat} {ops : List InternalOp}

lemma Own.track (own : t.Own) (mine : op.generation + 1 = t.opened)
    (queued : op.executed = none) : (t.track op).Own := by
  cases own
  constructor <;> grind [track, Live, InternalOp.astray]

lemma Own.inform (own : t.Own) (mark : MultishotReader → MultishotReader)
    (newest : generation + 1 = t.opened)
    (apart : ∀ h r, t.handler = some h → h.reader = some r → ∀ op ∈ t.ops,
      (mark r).matchesCqe op.userData = true → op.generation + 1 = t.opened) :
    (t.inform generation mark).Own := by
  unfold FdTables.inform
  rw [own.handed fun _ => newest]
  refine own.mapReader (Option.map mark) fun h r present has => ?_
  obtain ⟨r, had, rfl⟩ := Option.map_eq_some_iff.mp has
  exact apart h r present had

lemma Own.issue (own : t.Own) (numbered : t.Numbered userData) (zerocopy : Bool)
    (blueprint : HandlerSqeBlueprint α) (newest : generation + 1 = t.opened) :
    (t.issue userData zerocopy generation blueprint).Own := by
  have tracked (opType : InternalOpType) : (t.track ⟨userData, opType, generation, none⟩).Own :=
    own.track newest rfl
  cases blueprint with
  | requestSend | requestSendZeroCopy | requestClose | requestSetCork => exact tracked _
  | requestNewRingReadMultishot =>
    refine (tracked .ringReadMultishot).inform _ newest fun h r present has op mem hit => ?_
    rcases mem_append.mp mem with mem | mem
    · have less := numbered.fresh op mem
      simp only [MultishotReader.matchesCqe, Option.some_beq_some, beq_iff_eq, Bool.or_eq_true,
        reduceCtorEq, or_false] at hit
      omega
    · rw [mem_singleton.mp mem]
      exact newest
  | requestNewAsyncCancel =>
    refine (tracked .asyncCancel).inform _ newest fun h r present has op mem hit => ?_
    rcases mem_append.mp mem with mem' | mem'
    · have less := numbered.fresh op mem'
      refine own.reader h r present has op mem' ?_
      simp only [MultishotReader.matchesCqe, Option.some_beq_some, beq_iff_eq, Bool.or_eq_true]
        at hit ⊢
      rcases hit with hit | hit
      · exact .inl hit
      · omega
    · rw [mem_singleton.mp mem']
      exact newest

lemma Numbered.track (numbered : t.Numbered userData) (opType : InternalOpType) (generation : Nat) :
    (t.track ⟨userData, opType, generation, none⟩).Numbered (userData + 1) := by
  constructor
  · rw [FdTables.track, List.map_append, List.map_singleton, List.nodup_append]
    refine ⟨numbered.distinct, List.pairwise_singleton _ _, fun a mem b mem' => ?_⟩
    obtain ⟨op, tracked, rfl⟩ := List.mem_map.mp mem
    rw [mem_singleton.mp mem']
    exact Nat.ne_of_lt (numbered.fresh op tracked)
  · intro op mem
    rcases mem_append.mp mem with mem | mem
    · exact Nat.lt_succ_of_lt (numbered.fresh op mem)
    · rw [mem_singleton.mp mem]
      exact Nat.lt_succ_self _

lemma Numbered.issue (numbered : t.Numbered userData) (zerocopy : Bool) (generation : Nat)
    (blueprint : HandlerSqeBlueprint α) :
    (t.issue userData zerocopy generation blueprint).Numbered (userData + 1) := by
  cases blueprint with
  | requestSend | requestSendZeroCopy | requestClose | requestSetCork =>
    exact numbered.track _ generation
  | requestNewRingReadMultishot =>
    obtain ⟨distinct, fresh⟩ := numbered.track .ringReadMultishot generation
    exact ⟨distinct, fresh⟩
  | requestNewAsyncCancel =>
    obtain ⟨distinct, fresh⟩ := numbered.track .asyncCancel generation
    exact ⟨distinct, fresh⟩

lemma issue_opened (t : FdTables σ α M) (userData : Nat) (zerocopy : Bool) (generation : Nat)
    (blueprint : HandlerSqeBlueprint α) :
    (t.issue userData zerocopy generation blueprint).opened = t.opened := by
  cases blueprint <;> rfl

lemma Own.issueAll {zerocopy blueprints} (own : t.Own) (numbered : t.Numbered userData)
    (newest : ∀ entry ∈ blueprints, entry.1 + 1 = t.opened) :
    (t.issueAll zerocopy userData blueprints).Own ∧
      (t.issueAll zerocopy userData blueprints).Numbered (userData + blueprints.length) := by
  induction blueprints generalizing t userData with
  | nil => exact ⟨own, numbered⟩
  | cons entry rest ih =>
    obtain ⟨generation, blueprint⟩ := entry
    have next := ih
      (own.issue numbered (zerocopy userData) blueprint (newest _ mem_cons_self))
      (numbered.issue (zerocopy userData) generation blueprint) (fun entry mem => by
        rw [issue_opened]
        exact newest entry (mem_cons_of_mem _ mem))
    rwa [Nat.add_right_comm] at next

lemma Own.submitWork (own : t.Own) (numbered : t.Numbered userData) (budget room : Nat)
    (zerocopy : Nat → Bool) : (t.submitWork userData budget room zerocopy).Own ∧
      (t.submitWork userData budget room zerocopy).Numbered
        (userData + (submitBatches budget room t.batches).1.length) := by
  have whole := submitBatches_flatten budget room t.batches
  have left : { t with batches := (submitBatches budget room t.batches).2 }.Own :=
    { own with
      batches := fun entry mem => own.batches entry (by
        rw [← whole]
        exact List.mem_append_right _ mem) }
  refine left.issueAll ⟨numbered.distinct, numbered.fresh⟩ fun entry mem => ?_
  refine own.batches entry ?_
  rw [← whole]
  exact List.mem_append_left _ mem

/-! ### The submission -/

lemma mem_executeOps {file op'}
    (mem : op' ∈ (executeOps file ops).1) : ∃ op ∈ ops, op' = op ∧ op.executed.isSome = true ∨
      op.executed = none ∧ (op' = { op with executed := some file } ∨
        op' = { op with executed := some none }) := by
  fun_induction executeOps file ops with
  | case1 => cases mem
  | case2 file op rest _ executed ih =>
    rcases mem_cons.mp mem with rfl | mem
    · exact ⟨op', mem_cons_self, .inl ⟨rfl, by rw [executed]; rfl⟩⟩
    · obtain ⟨op, old, how⟩ := ih mem
      exact ⟨op, mem_cons_of_mem _ old, how⟩
  | case3 file op rest queued later ih =>
    rcases mem_cons.mp mem with rfl | mem
    · exact ⟨op, mem_cons_self, .inr ⟨queued, .inl rfl⟩⟩
    · obtain ⟨op', old, how⟩ := ih mem
      refine ⟨op', mem_cons_of_mem _ old, ?_⟩
      rcases how with same | ⟨queued', new | new⟩
      · exact .inl same
      · split at new
        · exact .inr ⟨queued', .inr new⟩
        · exact .inr ⟨queued', .inl new⟩
      · exact .inr ⟨queued', .inr new⟩

lemma executeOps_userData (file ops) :
    (executeOps file ops).1.map (·.userData) = ops.map (·.userData) := by
  fun_induction executeOps file ops with
  | case1 => rfl
  | case2 _ _ _ _ _ ih => simp only [List.map_cons, ih]
  | case3 _ op _ _ _ ih => exact congrArg (op.userData :: ·) ih

lemma mem_executeOps_of_executed {file} (mem : op ∈ ops)
    (executed : op.executed.isSome = true) : op ∈ (executeOps file ops).1 := by
  fun_induction executeOps file ops with
  | case1 => cases mem
  | case2 file op' rest _ _ ih =>
    rcases mem_cons.mp mem with rfl | mem
    · exact mem_cons_self
    · exact mem_cons_of_mem _ (ih mem)
  | case3 file op' rest queued later ih =>
    rcases mem_cons.mp mem with rfl | mem
    · rw [queued] at executed
      cases executed
    · exact mem_cons_of_mem _ (ih mem)

lemma executeOps_file (file ops) :
    (executeOps file ops).2 = file ∨ ((executeOps file ops).2 = none ∧
      ∃ op ∈ (executeOps file ops).1, op.opType = .closeFd ∧ op.executed = some file) := by
  fun_induction executeOps file ops with
  | case1 => exact .inl rfl
  | case2 file op rest _ _ ih =>
    refine ih.imp_right fun ⟨shut, op, mem, how⟩ => ⟨shut, op, mem_cons_of_mem _ mem, how⟩
  | case3 file op rest queued later ih =>
    by_cases isClose : op.opType = .closeFd
    · have eq : later = executeOps none rest := by simp only [later, if_pos isClose]
      rw [if_pos isClose, ← eq] at ih
      exact .inr ⟨ih.elim id (·.1), _, mem_cons_self, isClose, rfl⟩
    · have eq : later = executeOps file rest := by simp only [later, if_neg isClose]
      rw [if_neg isClose, ← eq] at ih
      refine ih.imp_right fun ⟨shut, op, mem, how⟩ => ⟨shut, op, mem_cons_of_mem _ mem, how⟩

lemma Own.queued (own : t.Own) (mem : op ∈ t.ops)
    (queued : op.executed = none) : op.generation + 1 = t.opened := by
  rcases own.ops op mem with mine | ⟨executed, _⟩
  · exact mine
  · rw [queued] at executed
    cases executed

lemma Own.execute (own : t.Own) : t.execute.Own := by
  have origin : ∀ op' ∈ t.execute.ops, ∃ op ∈ t.ops, op'.userData = op.userData ∧
      op'.generation = op.generation ∧ (op' = op ∨ op.generation + 1 = t.opened) ∧
      op'.astray = false := fun op' mem => by
    obtain ⟨op, old, ⟨rfl, _⟩ | ⟨queued, rfl | rfl⟩⟩ := mem_executeOps mem
    · exact ⟨op', old, rfl, rfl, .inl rfl, own.straight op' old⟩
    · refine ⟨op, old, rfl, rfl, .inr (own.queued old queued), ?_⟩
      cases file : t.file with
      | none => rfl
      | some g =>
        have mine := own.file g file
        have mine' := own.queued old queued
        have eq : g = op.generation := by omega
        simp [InternalOp.astray, eq]
    · exact ⟨op, old, rfl, rfl, .inr (own.queued old queued), rfl⟩
  have straight : ∀ op' ∈ t.execute.ops, op'.astray = false := fun op' mem => by
    obtain ⟨_, _, _, _, _, straight⟩ := origin op' mem
    exact straight
  have stays : ∀ {g}, t.execute.file = some g → t.file = some g := fun {g} file => by
    rcases executeOps_file t.file t.ops with same | ⟨shut, _⟩
    · exact same.symm.trans file
    · cases shut.symm.trans file
  have stays' : t.execute.file.isSome = true → t.file.isSome = true := fun isOpen => by
    obtain ⟨g, file⟩ := Option.isSome_iff_exists.mp isOpen
    rw [stays file]
    rfl
  exact { own with
    closePass := fun live => own.closePass (live.imp_right fun free => ⟨stays' free.1, free.2⟩)
    ops := fun op' mem => by
      obtain ⟨op, old, _, same, how, _⟩ := origin op' mem
      rcases how with rfl | mine
      · exact own.ops op' old
      · rw [same]
        exact .inl mine
    reader := fun h r present has op' mem hit => by
      obtain ⟨op, old, userData, same, _, _⟩ := origin op' mem
      rw [userData] at hit
      rw [same]
      exact own.reader h r present has op old hit
    straight
    file := fun g file => own.file g (stays file)
    unclaimed := fun isOpen => own.unclaimed (stays' isOpen)
    closing := fun h present shut => by
      cases file : t.file with
      | none =>
        obtain ⟨op, mem, isClose, executed⟩ := own.closing h present file
        exact ⟨op, mem_executeOps_of_executed mem (by rw [executed]; rfl), isClose, executed⟩
      | some g =>
        have mine := own.file g file
        have mine' := own.handler h present
        have eq : g = h.generation := by omega
        rcases executeOps_file t.file t.ops with same | ⟨_, op, mem, isClose, executed⟩
        · rw [show (executeOps t.file t.ops).2 = none from shut, file] at same
          cases same
        · exact ⟨op, mem, isClose, by rw [executed, file, eq]⟩
    uncrossed := by
      have none : t.execute.ops.any InternalOp.astray = false :=
        List.any_eq_false.mpr fun op' mem => by
          rw [straight op' mem]
          exact Bool.false_ne_true
      exact (congrArg₂ (· || ·) own.uncrossed none) }

lemma Numbered.execute (numbered : t.Numbered nextId) : t.execute.Numbered nextId := by
  constructor
  · have same := executeOps_userData t.file t.ops
    exact same ▸ numbered.distinct
  · intro op' mem
    obtain ⟨op, old, ⟨rfl, _⟩ | ⟨_, rfl | rfl⟩⟩ := mem_executeOps mem
    · exact numbered.fresh op' old
    · exact numbered.fresh op old
    · exact numbered.fresh op old

/-! ### The completions -/

section

variable (numbered : t.Numbered nextId)
include numbered

lemma Numbered.eq {op op'} (mem : op ∈ t.ops) (mem' : op' ∈ t.ops)
    (same : op'.userData = op.userData) : op' = op :=
  List.inj_on_of_nodup_map numbered.distinct mem' mem same

lemma Numbered.takeOp (userData : Nat) : (t.takeOp userData).Numbered nextId where
  distinct := (List.filter_sublist.map _).nodup numbered.distinct
  fresh op mem := numbered.fresh op (List.mem_filter.mp mem).1

lemma Numbered.call (generation : Nat) (heeded : Bool) (method : σ → σ × HandlerIoOps α) :
    (t.call generation heeded method).Numbered nextId :=
  ⟨by rw [call_ops]; exact numbered.distinct, by rw [call_ops]; exact numbered.fresh⟩

lemma Numbered.setReader (r : MultishotReader) :
    (t.setReader r).Numbered nextId := ⟨numbered.distinct, numbered.fresh⟩

end

lemma Own.finish (own : t.Own) (numbered : t.Numbered nextId) (mem : op ∈ t.ops)
    (other : op.opType ≠ .closeFd) : (t.takeOp op.userData).Own :=
  own.takeOp op.userData fun op' mem' same => .inl (by rwa [numbered.eq mem mem' same])

lemma Own.closed (own : t.Own) (numbered : t.Numbered nextId) (mem : op ∈ t.ops)
    (isClose : op.opType = .closeFd) : (t.closed op).Own := by
  unfold FdTables.closed
  split
  · rename_i executed
    have mine : op.generation + 1 = t.opened := by
      rcases own.ops op mem with mine | ⟨_, no | no | ⟨_, no⟩⟩
      · exact mine
      · rw [isClose] at no
        cases no
      · rw [isClose] at no
        cases no
      · rw [no] at executed
        cases executed
    have eq : (t.takeOp op.userData).handed op.generation = t.takeOp op.userData :=
      handed_eq fun h present => by
        have mine' := own.handler h present
        omega
    rw [eq]
    cases own
    constructor <;> grind [FdTables.takeOp, Live]
  · rename_i unexecuted
    refine own.takeOp op.userData fun op' mem' same => .inr ?_
    rw [numbered.eq mem mem' same]
    cases executed : op.executed with
    | none => exact .inr rfl
    | some file =>
      cases file with
      | none => exact .inl rfl
      | some g =>
        rw [executed] at unexecuted
        exact absurd rfl unexecuted

lemma Own.drain (own : t.Own) : t.drain.Own := by
  unfold FdTables.drain
  split
  · exact own
  · rename_i g queue present
    cases own
    constructor <;> grind [Live]

structure Aside (t t' : FdTables σ α M) : Prop where
  handler : t'.handler.map (·.generation) = t.handler.map (·.generation)
  appData : t'.appData = t.appData
  ops : t'.ops = t.ops
  file : t'.file = t.file
  claim : t'.claim = t.claim
  opened : t'.opened = t.opened
  crossed : t.crossed = true → t'.crossed = true

lemma Aside.isSome {t'} (aside : Aside t t') :
    t'.handler.isSome = t.handler.isSome := by
  have same := congrArg Option.isSome aside.handler
  rwa [isSome_map, isSome_map] at same

lemma call_aside (t : FdTables σ α M) (generation : Nat) (method : σ → σ × HandlerIoOps α) :
    Aside t (t.call generation false method) := by
  unfold call
  split
  · exact ⟨rfl, rfl, rfl, rfl, rfl, rfl, id⟩
  · rename_i h present
    exact ⟨by rw [present]; rfl, rfl, rfl, rfl, rfl, rfl, fun yes => by
      simp only [handed, yes, Bool.true_or]⟩

lemma Own.calls {β : Type} {items : List β} {method : β → σ → σ × HandlerIoOps α}
    (own : t.Own) (of : β → Nat)
    (newest : ∀ b ∈ items, t.handler.isSome = true → of b + 1 = t.opened) :
    (items.foldl (fun t b => t.call (of b) false (method b)) t).Own := by
  induction items generalizing t with
  | nil => exact own
  | cons b rest ih =>
    have aside := t.call_aside (of b) (method b)
    refine ih (own.call false (method b) (newest b mem_cons_self)) fun b' mem present => ?_
    rw [aside.isSome] at present
    rw [aside.opened]
    exact newest b' (mem_cons_of_mem _ mem) present

lemma calls_aside {β : Type} (items : List β) (of : β → Nat)
    (method : β → σ → σ × HandlerIoOps α) (t : FdTables σ α M) :
    Aside t (items.foldl (fun t b => t.call (of b) false (method b)) t) := by
  induction items generalizing t with
  | nil => exact ⟨rfl, rfl, rfl, rfl, rfl, rfl, id⟩
  | cons b rest ih =>
    have first := t.call_aside (of b) (method b)
    have later := ih (t.call (of b) false (method b))
    exact ⟨later.handler.trans first.handler, later.appData.trans first.appData,
      later.ops.trans first.ops, later.file.trans first.file, later.claim.trans first.claim,
      later.opened.trans first.opened, fun yes => later.crossed (first.crossed yes)⟩

lemma Own.deliver (own : t.Own) (numbered : t.Numbered nextId) (mem : op ∈ t.ops)
    (other : op.opType ≠ .closeFd) (other' : op.opType ≠ .ringReadMultishot)
    (other'' : op.opType ≠ .asyncCancel) (method : σ → σ × HandlerIoOps α) :
    ((t.takeOp op.userData).call op.generation true method).Own := by
  refine (own.finish numbered mem other).call true method fun _ => ?_
  rcases own.ops op mem with mine | ⟨_, no | no | ⟨no, _⟩⟩
  · exact mine
  · exact absurd no other'
  · exact absurd no other''
  · exact absurd no other

section Handlers

variable [UringConnectionHandler σ α M]

open UringConnectionHandler

lemma Own.register (own : t.Own) (state : Option σ) (multishot : Bool)
    (file : t.file = some generation) (free : t.claim = .unclaimed) :
    (t.register generation state multishot).Own := by
  have mine := own.file generation file
  have live : t.Live := .inr ⟨by rw [file]; rfl, free⟩
  have absent := own.unclaimed (by rw [file]; rfl) (by rw [free]; decide)
  have newest (c : Bool) : ∀ g ∈ if c then t.closePass ++ [generation] else t.closePass,
      g + 1 = t.opened := fun g mem => by
    split at mem
    · rcases mem_append.mp mem with mem | mem
      · exact own.closePass live g mem
      · rw [mem_singleton.mp mem]
        exact mine
    · exact own.closePass live g mem
  unfold FdTables.register
  split
  · exact { own with
      handler := fun _ eq => by
        cases eq
        exact mine
      receiver := fun _ eq => by
        cases eq
        exact mine
      paired := rfl
      batches := own.pushed mine _
      closePass := fun _ => newest _
      passed := fun g mem => Nat.lt_of_succ_le (Nat.le_of_eq (newest _ g mem))
      reader := fun _ r eq has op _ hit => by
        cases eq
        dsimp only at has
        split at has
        · cases has
          cases hit
        · cases has
      unclaimed := fun _ no => absurd rfl no
      closing := fun _ _ shut => by cases file.symm.trans shut }
  · exact { own with
      receiver := nofun
      paired := by rw [absent]; rfl
      closePass := fun _ => own.closePass live
      unclaimed := fun _ _ => absent }

lemma register_ops (t : FdTables σ α M) (generation : Nat) (state : Option σ) (multishot : Bool) :
    (t.register generation state multishot).ops = t.ops := by
  unfold register
  split <;> rfl

section

variable (own : t.Own)
include own

lemma Own.prepare (clock : Clock) : (t.prepare clock).Own := by
  unfold FdTables.prepare
  split
  · exact own
  · rename_i h present
    refine own.advance present _ _ fun g mem => ?_
    split at mem
    · rw [mem_singleton.mp mem]
      exact own.handler h present
    · exact own.closePass (.inl (by rw [present]; rfl)) g mem

lemma Own.initiateClose : t.initiateClose.Own := by
  have cleared : { t with closePass := [] }.Own := { own with closePass := nofun, passed := nofun }
  exact cleared.calls id fun g mem present => own.closePass (.inl present) g mem

lemma Own.gather (clock : Clock) : (t.gather clock).Own :=
  (own.drain.prepare clock).initiateClose

lemma Own.convert : t.convert.Own := by
  unfold FdTables.convert
  split
  · have taken : { t with appData := [] }.Own := { own with appData := nofun }
    exact taken.calls Prod.fst fun entry mem _ => own.appData entry mem
  · exact own

lemma Own.processCqe {nextId : Nat} {h r op} (numbered : t.Numbered nextId) (mem : op ∈ t.ops)
    (other : op.opType ≠ .closeFd) (present : t.handler = some h) (has : h.reader = some r)
    (hit : r.matchesCqe op.userData = true) (cqe : Cqe α) :
    (t.processCqe h.generation r op cqe).Own := by
  have newest := own.reader h r present has op mem hit
  have inactive : ∀ op ∈ t.ops, r.inactive.matchesCqe op.userData = true →
      op.generation + 1 = t.opened := fun op mem hit =>
    own.reader h r present has op mem (Bool.or_eq_true_iff.mpr (.inr hit))
  unfold FdTables.processCqe
  rw [own.handed fun _ => newest]
  split
  · split
    · have idle := (own.setReader inactive).finish (numbered.setReader _) mem other
      have mine := own.handler h present
      have closePass := idle.closePass
      have passed := idle.passed
      have opened : ((t.setReader r.inactive).takeOp op.userData).opened = t.opened := rfl
      exact { idle with
        closePass := fun live => by have := closePass live; grind
        passed := by grind }
    · rename_i bytes _
      have called := own.call true (processRingReadData bytes) fun _ => newest
      dsimp only
      split
      · exact called
      · have idle := called.setReader (r := r.inactive) (by
          rw [call_ops, call_opened]
          exact inactive)
        refine idle.finish ((numbered.call _ true _).setReader _) ?_ other
        rwa [FdTables.setReader, call_ops]
  · exact (own.setReader fun _ _ hit => by cases hit).finish (numbered.setReader _) mem other

lemma Own.complete {nextId : Nat} {op} (numbered : t.Numbered nextId) (mem : op ∈ t.ops)
    (cqe : Cqe α) : (t.complete op cqe).Own := by
  have keep (other : op.opType ≠ .closeFd) (c : Prop) [Decidable c] :
      (if c then t else t.takeOp op.userData).Own := by
    split
    · exact own
    · exact own.finish numbered mem other
  unfold FdTables.complete
  dsimp only
  split
  · exact own.closed numbered mem ‹_›
  · exact own.deliver numbered mem (by simp [*]) (by simp [*]) (by simp [*]) _
  · exact own.deliver numbered mem (by simp [*]) (by simp [*]) (by simp [*]) _
  · split
    · exact own
    · exact own.deliver numbered mem (by simp [*]) (by simp [*]) (by simp [*]) _
  · split
    · exact own.deliver numbered mem (by simp [*]) (by simp [*]) (by simp [*]) _
    · exact own.deliver numbered mem (by simp [*]) (by simp [*]) (by simp [*]) _
  all_goals
    split
    · rename_i present
      split
      · exact own.processCqe numbered mem (by simp [*]) present rfl ‹_› cqe
      · exact keep (by simp [*]) _
    · exact keep (by simp [*]) _

end

lemma Numbered.complete {nextId : Nat} (numbered : t.Numbered nextId) (op)
    (cqe : Cqe α) : (t.complete op cqe).Numbered nextId := by
  have taken := numbered.takeOp op.userData
  have keep (c : Prop) [Decidable c] : (if c then t else t.takeOp op.userData).Numbered nextId := by
    split
    · exact numbered
    · exact taken
  have process (g : Nat) (r : MultishotReader) : (t.processCqe g r op cqe).Numbered nextId := by
    unfold processCqe
    split
    · split
      · exact ⟨taken.distinct, taken.fresh⟩
      · dsimp only
        split
        · exact numbered.call _ _ _
        · exact ((numbered.call _ _ _).setReader _).takeOp _
    · exact ⟨taken.distinct, taken.fresh⟩
  unfold FdTables.complete
  dsimp only
  split
  · unfold closed
    split
    · exact ⟨taken.distinct, taken.fresh⟩
    · exact taken
  · exact taken.call _ _ _
  · exact taken.call _ _ _
  · split
    · exact numbered
    · exact taken.call _ _ _
  · split
    · exact taken.call _ _ _
    · exact taken.call _ _ _
  all_goals
    split
    · split
      · exact process _ _
      · exact keep _
    · exact keep _

lemma drain_prepare_ops (t : FdTables σ α M) (clock : Clock) :
    (t.drain.prepare clock).ops = t.ops := by
  unfold prepare drain
  split
  · split <;> rfl
  · split <;> rfl

lemma initiateClose_aside (t : FdTables σ α M) :
    Aside { t with closePass := [] } t.initiateClose :=
  calls_aside t.closePass id (fun _ => closeInitiated) _

lemma gather_ops (t : FdTables σ α M) (clock : Clock) : (t.gather clock).ops = t.ops :=
  (t.drain.prepare clock).initiateClose_aside.ops.trans (t.drain_prepare_ops clock)

lemma convert_ops (t : FdTables σ α M) : t.convert.ops = t.ops := by
  unfold convert
  split
  · exact (calls_aside t.appData Prod.fst (fun entry => handleOutgoingAppData entry.2)
      { t with appData := [] }).ops
  · rfl

end Handlers

end FdTables

namespace UringWorker

variable {σ α M : Type}

/-- The number is given out again with nothing left under it, and a connection is asked to shut down
while the number is its own. -/
def Unshared (w : UringWorker σ α M) : WorkerAction σ α M → Prop
  | .openFile fd => (w.tables fd).Quiet
  | .shutdown fd generation => (w.tables fd).Live → generation + 1 = (w.tables fd).opened
  | _ => True

structure Own (w : UringWorker σ α M) : Prop where
  tables : ∀ fd, (w.tables fd).Own
  numbered : ∀ fd, (w.tables fd).Numbered w.nextId

variable {w w' : UringWorker σ α M}

lemma Own.update (own : w.Own) {fd nextId : Nat} {t} (more : w.nextId ≤ nextId)
    (kept : t.Own) (numbered : t.Numbered nextId) : { w.update fd t with nextId }.Own where
  tables fd' := by
    rcases eq_or_ne fd' fd with rfl | other
    · simpa only [UringWorker.update, Function.update_self] using kept
    · simpa only [UringWorker.update, Function.update_of_ne other] using own.tables fd'
  numbered fd' := by
    rcases eq_or_ne fd' fd with rfl | other
    · simpa only [UringWorker.update, Function.update_self] using numbered
    · obtain ⟨distinct, fresh⟩ := own.numbered fd'
      simp only [UringWorker.update, Function.update_of_ne other]
      exact ⟨distinct, fun op mem => Nat.lt_of_lt_of_le (fresh op mem) more⟩

lemma start_own (nextId : Nat) : (start nextId : UringWorker σ α M).Own where
  tables _ := empty_own
  numbered _ := ⟨List.nodup_nil, nofun⟩

variable [UringConnectionHandler σ α M]

lemma Own.step {a} (own : w.Own) (unshared : w.Unshared a)
    (taken : w.step a = some w') : w'.Own := by
  cases a with
  | openFile fd =>
    obtain ⟨_, ⟨⟩⟩ := ite_none_right_eq_some.mp taken
    obtain ⟨distinct, fresh⟩ := own.numbered fd
    exact own.update (Nat.le_refl _) ((own.tables fd).openFile unshared) ⟨distinct, fresh⟩
  | abandon fd =>
    obtain ⟨⟨isOpen, free⟩, ⟨⟩⟩ := ite_none_right_eq_some.mp taken
    obtain ⟨distinct, fresh⟩ := own.numbered fd
    have absent := (own.tables fd).unclaimed isOpen free
    exact own.update (Nat.le_refl _) ((own.tables fd).abandon absent) ⟨distinct, fresh⟩
  | appSend fd m =>
    obtain ⟨distinct, fresh⟩ := own.numbered fd
    dsimp only [UringWorker.step] at taken
    split at taken
    · rename_i generation queue present
      cases taken
      have mine := (own.tables fd).receiver _ present
      refine own.update (Nat.le_refl _) ?_ ⟨distinct, fresh⟩
      exact { own.tables fd with
        receiver := fun _ eq => by
          cases eq
          exact mine
        paired := by rw [(own.tables fd).paired, present]; rfl }
    · cases taken
  | register fd state multishot =>
    dsimp only [UringWorker.step] at taken
    split at taken
    · rename_i free file
      cases taken
      refine own.update (Nat.le_refl _) ((own.tables fd).register state multishot file free)
        ⟨?_, ?_⟩
      · rw [register_ops]
        exact (own.numbered fd).distinct
      · rw [register_ops]
        exact (own.numbered fd).fresh
    · cases taken
  | shutdown fd generation =>
    obtain ⟨⟨_, given⟩, ⟨⟩⟩ := ite_none_right_eq_some.mp taken
    obtain ⟨distinct, fresh⟩ := own.numbered fd
    refine own.update (Nat.le_refl _) ?_ ⟨distinct, fresh⟩
    have closePass := (own.tables fd).closePass
    have passed := (own.tables fd).passed
    exact { own.tables fd with
      closePass := fun live => by have := closePass live; have := unshared live; grind
      passed := by grind }
  | gather clock =>
    obtain ⟨_, ⟨⟩⟩ := ite_none_right_eq_some.mp taken
    refine ⟨fun fd => (own.tables fd).gather (clock fd), fun fd => ?_⟩
    obtain ⟨distinct, fresh⟩ := own.numbered fd
    constructor
    · rwa [gather_ops]
    · rwa [gather_ops]
  | work fd budget room zerocopy =>
    obtain ⟨_, ⟨⟩⟩ := ite_none_right_eq_some.mp taken
    have numbered : (w.tables fd).convert.Numbered w.nextId :=
      ⟨by rw [convert_ops]; exact (own.numbered fd).distinct,
        by rw [convert_ops]; exact (own.numbered fd).fresh⟩
    obtain ⟨kept, numbered'⟩ := (own.tables fd).convert.submitWork numbered budget room zerocopy
    exact own.update (Nat.le_add_right _ _) kept numbered'
  | ensureRead fd =>
    dsimp only [UringWorker.step] at taken
    split at taken
    · rename_i h submitting present
      obtain ⟨_, ⟨⟩⟩ := Option.ite_none_left_eq_some.mp taken
      exact own.update (Nat.le_succ _)
        ((own.tables fd).track ((own.tables fd).handler h present) rfl)
        ((own.numbered fd).track _ _)
    · cases taken
  | submit ok =>
    obtain ⟨_, ⟨⟩⟩ := ite_none_right_eq_some.mp taken
    cases ok with
    | false => exact ⟨own.tables, own.numbered⟩
    | true =>
      exact ⟨fun fd => (own.tables fd).execute, fun fd => (own.numbered fd).execute⟩
  | complete fd userData cqe =>
    dsimp only [UringWorker.step] at taken
    split at taken
    · rename_i op reaping found
      obtain ⟨_, ⟨⟩⟩ := ite_none_right_eq_some.mp taken
      exact own.update (Nat.le_refl _)
        ((own.tables fd).complete (own.numbered fd) (List.mem_of_find?_eq_some found) cqe)
        ((own.numbered fd).complete op cqe)
    · cases taken
  | reaped =>
    obtain ⟨_, ⟨⟩⟩ := ite_none_right_eq_some.mp taken
    exact ⟨own.tables, own.numbered⟩

end UringWorker

end Rzmq
