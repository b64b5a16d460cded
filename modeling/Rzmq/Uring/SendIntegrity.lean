import Rzmq.Security.NoiseSymbolic
import Rzmq.Uring.Sends

/-! The stream of a connection of the io_uring worker.  As long as each send that the kernel does
not refuse takes all of its bytes, what it took and what is on the way are what the framer wrote.  A
completion with fewer bytes, or with `EAGAIN`, is taken for a complete one. -/

namespace Rzmq

open List Option Octet Curve Transition UringConnection
open ZmtpUringSender (call_orderly handleInternalSqeCompletion handleInternalSqeCompletion_orderly
  handleOutgoingAppData isClosingOrClosed prepareSqes sendQueued)

namespace UringConnection

variable {SK Key H T α : Type} (c : UringConnection SK Key H T α)

def heldSlots : List Nat :=
  c.inFlight.filterMap (·.slot) ++ c.notifying.map (·.1) ++ c.others

def inRing : List α :=
  c.inFlight.flatMap (·.bytes c.pool)

def scheduled : List α :=
  c.batches.flatten.flatMap (·.data) ++ c.ops.flatMap (·.data)

def stream : List α :=
  c.taken ++ (c.inRing ++ c.scheduled)

lemma collect_stream (c : UringConnection SK Key H T α)
    (output : ZmtpUringSender SK Key H T α × HandlerIoOps α) :
    (c.collect output).stream = c.stream ++ output.2.blueprints.flatMap (·.data) := by
  unfold collect
  split
  · simp [stream, inRing, scheduled]
  · simp [stream, inRing, scheduled, pushBatch_flatten]

variable [Octet α] [CryptoBox Key α] [SnowTransport T α] (c : UringConnection SK Key H T α)

/-- What the kernel took and is still to take is what was written, in order; the messages among it,
with those that wait, are those of the application; and no buffer that the kernel may still read has
changed. -/
structure Intact : Prop where
  stream : c.stream = c.sender.written.flatMap (·.wire)
  order : c.sender.written.filterMap (·.source) ++ (c.sender.outgoing ++ (c.appData ++ c.channel)) =
    c.given
  framed : ∀ w ∈ c.sender.written, ∀ msgs, w.source = some msgs →
    ∃ framer : SecureFramer Key T α, (framer.writeMsgMultipart msgs).1 = .ok w.wire
  buffers : ∀ entry ∈ c.notifying, (c.pool.slots entry.1).buffer.take entry.2.length = entry.2

def Closing : Prop := c.sender.isClosingOrClosed = true

/-- `Intact` inside a turn, where `waiting` are the messages yet to be converted and `pending` the
blueprints. -/
structure Along (waiting : List (List (Msg α))) (pending : List (HandlerSqeBlueprint α)) :
    Prop where
  stream : c.taken ++ (c.inRing ++ (pending.flatMap (·.data) ++ c.scheduled)) =
    c.sender.written.flatMap (·.wire)
  order : c.sender.written.filterMap (·.source) ++ (c.sender.outgoing ++ (waiting ++ c.channel)) =
    c.given
  framed : ∀ w ∈ c.sender.written, ∀ msgs, w.source = some msgs →
    ∃ framer : SecureFramer Key T α, (framer.writeMsgMultipart msgs).1 = .ok w.wire
  buffers : ∀ entry ∈ c.notifying, (c.pool.slots entry.1).buffer.take entry.2.length = entry.2
  apart : (c.heldSlots ++ c.pool.freeIds).Nodup
  idle : c.sender.handler.looping = false → c.ops = []

variable {c : UringConnection SK Key H T α} {waiting : List (List (Msg α))}
  {pending : List (HandlerSqeBlueprint α)}

lemma Along.intact (along : c.Along c.appData []) : c.Intact :=
  ⟨along.stream, along.order, along.framed, along.buffers⟩

variable {output : ZmtpUringSender SK Key H T α × HandlerIoOps α} {pool : SendBufferPool α}
  {id : Nat} {data : List α} {new : List (Written α)}

lemma Along.collect {more} (along : c.Along (more ++ waiting) [])
    (wrote : c.sender.Wrote output.1 output.2.blueprints more new) :
    (c.collect output).Along waiting [] := by
  have order : output.1.written.filterMap (·.source) ++
      (output.1.outgoing ++ (waiting ++ c.channel)) = c.given := by
    rw [wrote.written, filterMap_append, append_assoc,
      ← append_assoc (new.filterMap _), wrote.order, ← along.order]
    simp
  have framed : ∀ w ∈ output.1.written, ∀ msgs, w.source = some msgs →
      ∃ framer : SecureFramer Key T α, (framer.writeMsgMultipart msgs).1 = .ok w.wire := by
    intro w mem msgs source
    rw [wrote.written] at mem
    obtain old | new := mem_append.mp mem
    · exact along.framed w old msgs source
    · exact wrote.framed w new msgs source
  have stream : (c.collect output).stream = output.1.written.flatMap (·.wire) := by
    rw [collect_stream, wrote.written, flatMap_append, ← wrote.wire, ← along.stream]
    rfl
  unfold UringConnection.collect at stream ⊢
  split
  · rename_i looping
    rw [if_pos looping] at stream
    refine ⟨stream, order, framed, along.buffers, along.apart, fun idle => ?_⟩
    rw [looping] at idle
    cases idle
  · rename_i quiet
    rw [if_neg quiet] at stream
    exact ⟨stream, order, framed, along.buffers, along.apart, fun _ => rfl⟩

lemma Along.foldl_convert {msgs} (along : c.Along msgs []) :
    (msgs.foldl convert c).Along [] [] := by
  induction msgs generalizing c with
  | nil => exact along
  | cons m msgs ih =>
    obtain ⟨new, wrote⟩ := c.sender.handleOutgoingAppData_wrote m
    have along := along
    exact ih (along.collect wrote)

lemma Along.called (along : c.Along waiting [])
    (wrote : c.sender.Wrote output.1 output.2.blueprints [] new) :
    (c.collect output).Along waiting [] := by
  have along := along
  exact along.collect wrote

lemma Along.convertAll (along : c.Along c.appData []) : c.convertAll.Along [] [] :=
  let ⟨stream, order, framed, buffers, apart, idle⟩ := along.foldl_convert
  ⟨stream, order, framed, buffers, apart, idle⟩

omit [Octet α] [CryptoBox Key α] [SnowTransport T α] in
lemma acquired_frame (apart : (c.heldSlots ++ c.pool.freeIds).Nodup)
    (acquired : c.pool.acquireAndPrepBuffer data = some (id, pool)) :
    c.inFlight.flatMap (·.bytes pool) = c.inRing ∧
      (∀ entry ∈ c.notifying, pool.slots entry.1 = c.pool.slots entry.1) ∧
      (id :: c.heldSlots ++ pool.freeIds).Nodup := by
  obtain ⟨free, -, others⟩ := SendBufferPool.acquire_eq acquired
  rw [free, perm_middle.nodup_iff] at apart
  have unheld : id ∉ c.heldSlots := fun mem =>
    (nodup_cons.mp apart).1 (mem_append_left _ mem)
  refine ⟨flatMap_congr fun payload mem => SendPayload.bytes_congr fun slot held => ?_,
    fun entry mem => others _ ?_, apart⟩
  · have ne : slot ≠ id := by
      rintro rfl
      exact unheld (mem_append_left _ (mem_append_left _ (mem_filterMap.mpr ⟨payload, mem, held⟩)))
    rw [others slot ne]
  · rintro rfl
    exact unheld (mem_append_left _ (mem_append_right _ (mem_map_of_mem mem)))

lemma Along.issue {blueprint} (along : c.Along waiting (blueprint :: pending)) :
    (c.issue blueprint).Along waiting pending := by
  obtain ⟨stream, order, framed, buffers, apart, idle⟩ := along
  rw [flatMap_cons, append_assoc] at stream
  have plain (same : c.issue blueprint =
      { c with inFlight := c.inFlight ++ [SendPayload.sendBuffer blueprint.data] }) :
      (c.issue blueprint).Along waiting pending := by
    rw [same]
    refine ⟨?_, order, framed, buffers, ?_, idle⟩
    · rw [← stream]
      simp [inRing, scheduled, SendPayload.bytes_sendBuffer]
    · simpa [heldSlots, SendPayload.slot] using apart
  have silent (same : c.issue blueprint = c) (none : blueprint.data = []) :
      (c.issue blueprint).Along waiting pending := by
    rw [none, nil_append] at stream
    rw [same]
    exact ⟨stream, order, framed, buffers, apart, idle⟩
  cases blueprint with
  | requestSend data => exact plain rfl
  | requestClose | requestNewRingReadMultishot | requestNewAsyncCancel | requestSetCork =>
    exact silent rfl rfl
  | requestSendZeroCopy data =>
    cases acquired : if c.zerocopyEnabled then c.pool.acquireAndPrepBuffer data else none with
    | none => exact plain (by simp only [UringConnection.issue, acquired, HandlerSqeBlueprint.data])
    | some acquisition =>
      obtain ⟨id, pool⟩ := acquisition
      have taken : c.issue (.requestSendZeroCopy data) =
          { c with pool, inFlight := c.inFlight ++ [.sendZeroCopy id data.length] } := by
        simp [UringConnection.issue, acquired]
      split at acquired
      · obtain ⟨ring, same, apart'⟩ := acquired_frame apart acquired
        have holds := (SendBufferPool.acquire_eq acquired).2.1
        rw [taken]
        refine ⟨?_, order, framed, fun entry mem => ?_, ?_, idle⟩
        · rw [← stream]
          simp only [inRing, scheduled, flatMap_append, flatMap_singleton, ring,
            SendPayload.bytes_sendZeroCopy, holds, append_assoc]
          rfl
        · rw [same entry mem]
          exact buffers entry mem
        · refine (List.Perm.nodup_iff ?_).mpr apart'
          simp only [heldSlots, filterMap_append, append_assoc, cons_append]
          exact perm_middle
      · cases acquired

lemma Along.foldl_issue (along : c.Along waiting pending) :
    (pending.foldl UringConnection.issue c).Along waiting [] := by
  induction pending generalizing c with
  | nil => exact along
  | cons blueprint pending ih => exact ih along.issue

lemma Along.submit (along : c.Along waiting []) (budget room : Nat) :
    (c.submit budget room).Along waiting [] := by
  obtain ⟨stream, order, framed, buffers, apart, idle⟩ := along
  refine Along.foldl_issue ⟨?_, order, framed, buffers, apart, idle⟩
  have batches := submitBatches_flatten budget room c.batches
  rw [← stream, scheduled, scheduled, ← batches]
  simp [inRing]

omit [Octet α] [CryptoBox Key α] [SnowTransport T α] in
lemma issue_eq (c : UringConnection SK Key H T α) (blueprint : HandlerSqeBlueprint α) :
    (c.issue blueprint).appData = c.appData ∧ (c.issue blueprint).sender = c.sender := by
  cases blueprint with
  | requestSendZeroCopy data =>
    unfold issue
    dsimp only
    split <;> exact ⟨rfl, rfl⟩
  | _ => exact ⟨rfl, rfl⟩

omit [Octet α] [CryptoBox Key α] [SnowTransport T α] in
lemma submit_eq (c : UringConnection SK Key H T α) (budget room : Nat) :
    (c.submit budget room).appData = c.appData ∧ (c.submit budget room).sender = c.sender := by
  have fold (pending : List (HandlerSqeBlueprint α)) (c : UringConnection SK Key H T α) :
      (pending.foldl issue c).appData = c.appData ∧ (pending.foldl issue c).sender = c.sender := by
    induction pending generalizing c with
    | nil => exact ⟨rfl, rfl⟩
    | cons blueprint pending ih =>
      obtain ⟨appData, sender⟩ := c.issue_eq blueprint
      rw [foldl_cons, (ih _).1, (ih _).2, appData, sender]
      exact ⟨rfl, rfl⟩
  exact fold _ _

lemma Along.work (along : c.Along c.appData []) (budget room : Nat) :
    (c.work budget room).Along (c.work budget room).appData [] := by
  have none : (c.work budget room).appData = [] := (submit_eq _ _ _).1
  rw [none]
  exact along.convertAll.submit budget room

omit [Octet α] [CryptoBox Key α] [SnowTransport T α] in
lemma inRing_release (c : UringConnection SK Key H T α) (slot : Option Nat) :
    inRing { c with pool := c.pool.releaseSlot slot } = c.inRing := by
  cases slot with
  | none => rfl
  | some id =>
    exact flatMap_congr fun payload _ => SendPayload.bytes_congr fun other _ =>
      c.pool.release_buffer id other

section

variable (along : c.Along waiting [])
include along

lemma Along.release (apart : (id :: c.heldSlots ++ c.pool.freeIds).Nodup) :
    { c with pool := c.pool.releaseBuffer id }.Along waiting [] := by
  obtain ⟨stream, order, framed, buffers, -, idle⟩ := along
  refine ⟨?_, order, framed, fun entry mem => ?_, SendBufferPool.release_nodup apart, idle⟩
  · rw [← stream, ← c.inRing_release (some id)]
    rfl
  · rw [SendBufferPool.release_buffer]
    exact buffers entry mem

lemma Along.otherAcquire (acquired : c.pool.acquireAndPrepBuffer data = some (id, pool)) :
    { c with pool, others := c.others ++ [id] }.Along waiting [] := by
  obtain ⟨stream, order, framed, buffers, apart, idle⟩ := along
  obtain ⟨ring, same, apart'⟩ := acquired_frame apart acquired
  refine ⟨?_, order, framed, fun entry mem => ?_, ?_, idle⟩
  · rw [← stream, ← ring]
    rfl
  · rw [same entry mem]
    exact buffers entry mem
  · refine (List.Perm.nodup_iff ?_).mpr apart'
    rw [heldSlots, ← append_assoc, append_assoc _ [id], cons_append]
    exact perm_middle

lemma Along.taken {payload rest} (first : c.inFlight = payload :: rest) : { c with
      inFlight := rest
      taken := c.taken ++ payload.bytes c.pool }.Along waiting [] ∧
      ∀ id ∈ payload.slot, (id :: (rest.filterMap (·.slot) ++ c.notifying.map (·.1) ++ c.others) ++
        c.pool.freeIds).Nodup := by
  obtain ⟨stream, order, framed, buffers, apart, idle⟩ := along
  rw [heldSlots, first] at apart
  refine ⟨⟨?_, order, framed, buffers, ?_, idle⟩, fun id slot => ?_⟩
  · have ring : c.inRing = payload.bytes c.pool ++ rest.flatMap (·.bytes c.pool) := by
      rw [inRing, first, flatMap_cons]
    rw [← stream, ring]
    simp [inRing, scheduled]
  · cases slot : payload.slot with
    | none => rwa [filterMap_cons_none slot] at apart
    | some id =>
      rw [filterMap_cons_some slot] at apart
      exact (nodup_cons.mp apart).2
  · rwa [filterMap_cons_some slot] at apart

lemma Along.notify {id len : Nat} (apart : (id :: c.heldSlots ++ c.pool.freeIds).Nodup) : { c with
      notifying := c.notifying ++
        [(id, (SendPayload.sendZeroCopy id len).bytes c.pool)] }.Along waiting [] := by
  obtain ⟨stream, order, framed, buffers, -, idle⟩ := along
  refine ⟨stream, order, framed, fun entry mem => ?_, ?_, idle⟩
  · obtain old | new := mem_append.mp mem
    · exact buffers entry old
    · rw [mem_singleton.mp new]
      simp only [SendPayload.bytes_sendZeroCopy, length_take]
      rw [← take_take, take_length]
  · refine (List.Perm.nodup_iff ?_).mpr apart
    simp only [heldSlots, map_append, append_assoc, cons_append]
    rw [← append_assoc, ← append_assoc (filterMap _ _)]
    exact perm_middle

lemma Along.notified {before after} (split : c.notifying = before ++ (id, data) :: after) :
    { c with notifying := before ++ after }.Along waiting [] ∧
      (id :: heldSlots { c with notifying := before ++ after } ++ c.pool.freeIds).Nodup := by
  obtain ⟨stream, order, framed, buffers, apart, idle⟩ := along
  have slots : (id :: heldSlots { c with notifying := before ++ after } ++
      c.pool.freeIds).Nodup := by
    refine (List.Perm.nodup_iff ?_).mp apart
    simp only [heldSlots, split, map_append, map_cons, append_assoc, cons_append]
    rw [← append_assoc, ← append_assoc (filterMap _ _)]
    exact perm_middle
  refine ⟨⟨stream, order, framed, fun entry mem => buffers entry ?_,
    (nodup_cons.mp slots).2, idle⟩, slots⟩
  rw [split]
  exact ((sublist_cons_self _ _).append_left _).subset mem

lemma Along.otherRelease (listed : id ∈ c.others) :
    { c with pool := c.pool.releaseBuffer id, others := c.others.erase id }.Along waiting [] := by
  obtain ⟨stream, order, framed, buffers, apart, idle⟩ := along
  have slots : (id :: heldSlots { c with others := c.others.erase id } ++
      c.pool.freeIds).Nodup := by
    refine (List.Perm.nodup_iff (List.Perm.append_right _ ?_)).mp apart
    exact (List.Perm.append_left _ (perm_cons_erase listed)).trans perm_middle
  have along : { c with others := c.others.erase id }.Along waiting [] :=
    ⟨stream, order, framed, buffers, (nodup_cons.mp slots).2, idle⟩
  exact along.release slots

end

/-! ### Completions -/

def Fatal (r : Int) : Prop := r < 0 ∧ -r ≠ eagain

/-- The next send in the ring ends with a result that is not fatal, and some of its bytes are not
taken. -/
def CutShort (c : UringConnection SK Key H T α) (r : Int) : Prop :=
  ∃ payload rest, c.inFlight = payload :: rest ∧ ¬ Fatal r ∧
    (payload.bytes c.pool).take r.toNat ≠ payload.bytes c.pool

/-- The worker calls the handler for the next completion at once, and not for a notification
later. -/
def Acknowledged (c : UringConnection SK Key H T α) (r : Int) : Prop :=
  ∃ payload rest, c.inFlight = payload :: rest ∧ (payload.slot = none ∨ r < 0)

/-- A completion that reaches the handler now makes it frame the next queued message, and the framer
refuses that. -/
def Refuses (c : UringConnection SK Key H T α) : Prop :=
  c.sender.handler.phase = .dataPhase ∧ ∃ msgs rest e, c.sender.outgoing = msgs :: rest ∧
    (c.sender.handler.framer.writeMsgMultipart msgs).1 = .error e

/-- The kernel cuts no send short, unless the connection is being closed, or is closed by this
completion for another reason. -/
def Sound (c : UringConnection SK Key H T α) : SendAction α → Prop
  | .result r _ => c.CutShort r → c.Closing ∨ (c.Acknowledged r ∧ c.Refuses)
  | _ => True

lemma convert_sender (msgs : List (List (Msg α))) (c : UringConnection SK Key H T α) :
    (msgs.foldl convert c).sender.handler.phase = c.sender.handler.phase := by
  induction msgs generalizing c with
  | nil => rfl
  | cons m msgs ih =>
    rw [foldl_cons, ih, convert, collect_sender]
    unfold handleOutgoingAppData
    split
    · split <;> rfl
    · rfl

variable [CurveSuite SK Key α] [SnowHandshake H T α] [DecidableEq α]
  {c' : UringConnection SK Key H T α} {error : ZmqError} {slot : Option Nat} {r : Int}
  {output : ZmtpUringSender SK Key H T α × HandlerIoOps α} {s : ZmtpUringSender SK Key H T α}

lemma completion_closing (closing : s.isClosingOrClosed = true)
    (called : s.handleInternalSqeCompletion r error = some output) :
    output.1.isClosingOrClosed = true := by
  unfold handleInternalSqeCompletion at called
  split at called
  · cases called
    exact s.handler.transitionToError_closing _
  split at called
  · rename_i data
    rw [isClosingOrClosed, data] at closing
    cases closing
  · obtain ⟨handler, taken, rfl⟩ := map_eq_some_iff.mp called
    exact ZmtpUringHandler.step_closing closing taken

lemma Closing.complete (closing : c.Closing) (completed : c.complete slot r error = some c') :
    c'.Closing := by
  obtain ⟨output, called, rfl⟩ := map_eq_some_iff.mp completed
  rw [Closing, collect_sender]
  exact completion_closing closing called

lemma step_call {a pieces} (taken : c.step (.call a pieces) = some c') :
    ∃ output, c.sender.call a pieces = some output ∧ c.collect output = c' := by
  cases a <;> first | exact map_eq_some_iff.mp taken | cases taken

lemma Closing.step {a} (closing : c.Closing) (taken : c.step a = some c') : c'.Closing := by
  cases a with
  | call a pieces =>
    obtain ⟨output, called, rfl⟩ := step_call taken
    obtain ⟨handler, stepped, called⟩ := bind_eq_some_iff.mp called
    rw [Closing, collect_sender]
    split at called <;> cases called
    exact ZmtpUringHandler.step_closing closing stepped
  | appSend msgs | drain =>
    cases taken
    exact closing
  | prepare wantsRead clock =>
    obtain ⟨-, ⟨⟩⟩ := ite_none_left_eq_some.mp taken
    rw [Closing, collect_sender]
    unfold prepareSqes
    split
    · exact c.sender.handler.transitionToError_closing _
    split
    · exact closing
    split
    · rename_i data
      rw [Closing, isClosingOrClosed, data] at closing
      cases closing
    · exact closing
  | closePass =>
    obtain ⟨-, ⟨⟩⟩ := ite_none_left_eq_some.mp taken
    exact c.sender.closeInitiated_closing
  | work budget room =>
    obtain ⟨-, ⟨⟩⟩ := ite_none_left_eq_some.mp taken
    rw [Closing, work, (submit_eq _ _ _).2, isClosingOrClosed,
      convertAll, convert_sender]
    exact closing
  | result r error =>
    simp only [UringConnection.step] at taken
    split at taken
    · cases taken
    split at taken
    · cases taken
    split at taken
    · split at taken
      · cases taken
        exact closing
      · exact Closing.complete (by exact closing) taken
    · exact Closing.complete (by exact closing) taken
  | notification id =>
    simp only [UringConnection.step] at taken
    split at taken
    · cases taken
    · exact Closing.complete (by exact closing) taken
  | readResult r error => exact closing.complete (ite_none_left_eq_some.mp taken).2
  | otherAcquire data =>
    obtain ⟨acquisition, -, rfl⟩ := map_eq_some_iff.mp taken
    exact closing
  | otherRelease id =>
    obtain ⟨-, ⟨⟩⟩ := ite_none_right_eq_some.mp taken
    exact closing

lemma complete_of_fatal (fatal : Fatal r) (completed : c.complete slot r error = some c') :
    c'.Closing := by
  obtain ⟨output, called, rfl⟩ := map_eq_some_iff.mp completed
  have fatal : r < 0 ∧ -r ≠ eagain := fatal
  rw [handleInternalSqeCompletion, if_pos fatal] at called
  cases called
  rw [Closing, collect_sender]
  exact c.sender.handler.transitionToError_closing _

lemma complete_of_refuses (refuses : c.Refuses) (completed : c.complete slot r error = some c') :
    c'.Closing := by
  by_cases fatal : Fatal r
  · exact complete_of_fatal fatal completed
  obtain ⟨output, called, rfl⟩ := map_eq_some_iff.mp completed
  obtain ⟨data, msgs, rest, e, queued, refused⟩ := refuses
  have fatal : ¬ (r < 0 ∧ -r ≠ eagain) := fatal
  rw [handleInternalSqeCompletion, if_neg fatal, if_pos data] at called
  simp only [queued] at called
  cases called
  rw [Closing, collect_sender]
  unfold sendQueued
  split
  · rename_i wire framer framed
    rw [framed] at refused
    cases refused
  · exact ZmtpUringHandler.transitionToError_closing _ _

lemma Along.complete (along : c.Along c.appData [])
    (apart : ∀ id ∈ slot, (id :: c.heldSlots ++ c.pool.freeIds).Nodup)
    (completed : c.complete slot r error = some c') : c'.Closing ∨ c'.Along c'.appData [] := by
  obtain ⟨output, called, rfl⟩ := map_eq_some_iff.mp completed
  obtain closing | ⟨new, wrote⟩ := handleInternalSqeCompletion_orderly called
  · left
    rw [Closing, collect_sender]
    exact closing
  · right
    rw [collect_appData]
    cases slot with
    | none => exact Along.called along wrote
    | some id => exact Along.called (along.release (apart id rfl)) wrote

lemma Along.result (along : c.Along c.appData [])
    (sound : c.CutShort r → c.Acknowledged r ∧ c.Refuses)
    (taken : c.step (.result r error) = some c') : c'.Closing ∨ c'.Along c'.appData [] := by
  simp only [step] at taken
  split at taken
  · cases taken
  rename_i payload rest first
  split at taken
  · cases taken
  by_cases short : c.CutShort r
  · left
    obtain ⟨⟨payload', rest', first', now⟩, refuses⟩ := sound short
    cases first.symm.trans first'
    split at taken
    · rename_i id slot
      rw [if_neg (Int.not_le.mpr (now.resolve_left (by rw [slot]; exact nofun)))] at taken
      exact complete_of_refuses (by exact refuses) taken
    · exact complete_of_refuses (by exact refuses) taken
  by_cases fatal : Fatal r
  · left
    split at taken
    · rw [if_neg (Int.not_le.mpr fatal.1)] at taken
      exact complete_of_fatal fatal taken
    · exact complete_of_fatal fatal taken
  · have whole : (payload.bytes c.pool).take r.toNat = payload.bytes c.pool := by
      by_contra partly
      exact short ⟨payload, rest, first, fatal, partly⟩
    obtain ⟨along', apart⟩ := along.taken first
    rw [whole] at taken
    split at taken
    · rename_i id slot
      split at taken
      · cases taken
        right
        cases payload with
        | sendBuffer data => cases slot
        | sendZeroCopy id' len =>
          cases slot
          exact along'.notify (apart id rfl)
      · refine Along.complete (by exact along') (fun id' same => ?_) taken
        cases same
        exact apart id slot
    · exact Along.complete (by exact along') (fun _ mem => by cases mem) taken

lemma Along.step {a} (along : c.Along c.appData []) (going : ¬ c.Closing)
    (sound : c.Sound a) (taken : c.step a = some c') : c'.Closing ∨ c'.Along c'.appData [] := by
  have called {output : ZmtpUringSender SK Key H T α × HandlerIoOps α}
      (orderly : c.sender.Orderly output []) :
      (c.collect output).Closing ∨ (c.collect output).Along (c.collect output).appData [] := by
    rw [Closing, collect_sender, collect_appData]
    exact orderly.imp id fun ⟨_, wrote⟩ => along.called wrote
  cases a with
  | call a pieces =>
    obtain ⟨output, answered, rfl⟩ := step_call taken
    exact called (call_orderly answered)
  | appSend msgs =>
    cases taken
    obtain ⟨stream, order, framed, buffers, apart, idle⟩ := along
    refine .inr ⟨stream, ?_, framed, buffers, apart, idle⟩
    rw [← order]
    simp
  | drain =>
    cases taken
    obtain ⟨stream, order, framed, buffers, apart, idle⟩ := along
    refine .inr ⟨stream, ?_, framed, buffers, apart, idle⟩
    rw [← order, append_nil]
  | prepare wantsRead clock =>
    obtain ⟨-, ⟨⟩⟩ := ite_none_left_eq_some.mp taken
    exact called (c.sender.prepareSqes_orderly wantsRead clock)
  | closePass =>
    obtain ⟨-, ⟨⟩⟩ := ite_none_left_eq_some.mp taken
    exact .inl c.sender.closeInitiated_closing
  | work budget room =>
    obtain ⟨-, ⟨⟩⟩ := ite_none_left_eq_some.mp taken
    exact .inr (along.work budget room)
  | result r error =>
    exact along.result (fun short => (sound short).resolve_left going) taken
  | notification id =>
    simp only [UringConnection.step] at taken
    split at taken
    · cases taken
    rename_i listed
    push Not at listed
    obtain ⟨entry, mem, same⟩ := mem_map.mp listed.2
    obtain ⟨⟨id', data⟩, before, after, -, here, split, erased⟩ :=
      exists_of_eraseP (p := (·.1 == id)) mem (beq_iff_eq.mpr same)
    obtain rfl : id' = id := beq_iff_eq.mp here
    rw [erased] at taken
    obtain ⟨along', slots⟩ := along.notified split
    refine Along.complete (by exact along') (fun id mem => ?_) taken
    cases mem
    exact slots
  | readResult r error =>
    exact along.complete (fun _ mem => by cases mem) (ite_none_left_eq_some.mp taken).2
  | otherAcquire data =>
    obtain ⟨⟨id, pool⟩, acquired, rfl⟩ := map_eq_some_iff.mp taken
    exact .inr (along.otherAcquire acquired)
  | otherRelease id =>
    obtain ⟨mem, ⟨⟩⟩ := ite_none_right_eq_some.mp taken
    exact .inr (along.otherRelease mem)

lemma completion_open (going : s.isClosingOrClosed = false) (fatal : ¬ Fatal r)
    (framed : ∀ msgs rest e, s.handler.phase = .dataPhase → s.outgoing = msgs :: rest →
      (s.handler.framer.writeMsgMultipart msgs).1 ≠ .error e)
    (called : s.handleInternalSqeCompletion r error = some output) :
    output.1.isClosingOrClosed = false := by
  have fatal : ¬ (r < 0 ∧ -r ≠ eagain) := fatal
  rw [handleInternalSqeCompletion, if_neg fatal] at called
  split at called
  · rename_i data
    split at called
    · rename_i msgs rest queued
      cases called
      unfold sendQueued
      split
      · exact going
      · rename_i e framer refused
        exact absurd (by rw [refused]) (framed msgs rest e data queued)
    · cases called
      exact going
  · obtain ⟨handler, taken, rfl⟩ := map_eq_some_iff.mp called
    have quiet : s.handler.looping = false := by
      cases looping : s.handler.looping with
      | false => rfl
      | true => simp [ZmtpUringHandler.step, looping] at taken
    simp only [ZmtpUringHandler.step, quiet] at taken
    cases taken
    simp only [isClosingOrClosed] at going ⊢
    cases phase : s.handler.phase <;> rw [phase] at going <;> cases going
    all_goals simp [ZmtpUringHandler.acknowledged, ZmtpUringHandler.setPhase,
      ZmtpUringHandler.signalUpstreamHandshakeComplete, ZmtpHandlerPhase.isClosingOrClosed]

lemma complete_missing (missing : c.stream.length < (c.sender.written.flatMap (·.wire)).length)
    (going : ¬ c.Closing) (fatal : ¬ Fatal r) (framed : ¬ c.Refuses)
    (completed : c.complete slot r error = some c') : ¬ (c'.Closing ∨ c'.Intact) := by
  obtain ⟨output, called, rfl⟩ := map_eq_some_iff.mp completed
  have openAfter := completion_open (Bool.eq_false_iff.mpr going) fatal
      (fun msgs rest e data queued refused => framed ⟨data, msgs, rest, e, queued, refused⟩) called
  obtain closing | ⟨new, wrote⟩ := handleInternalSqeCompletion_orderly called
  · rw [openAfter] at closing
    cases closing
  rintro (closing | intact)
  · rw [Closing, collect_sender, openAfter] at closing
    cases closing
  · have whole := congrArg length intact.stream
    rw [collect_stream, collect_sender, wrote.written, flatMap_append, ← wrote.wire,
      length_append, length_append, stream, inRing_release] at whole
    exact absurd (Nat.add_right_cancel whole) (Nat.ne_of_lt missing)

lemma result_lost (along : c.Along c.appData []) (short : c.CutShort r)
    (going : ¬ (c.Closing ∨ (c.Acknowledged r ∧ c.Refuses)))
    (taken : c.step (.result r error) = some c') : ¬ (c'.Closing ∨ c'.Intact) := by
  obtain ⟨payload, rest, first, fatal, partly⟩ := short
  push Not at going
  obtain ⟨going, framed⟩ := going
  simp only [step, first] at taken
  split at taken
  · cases taken
  have fewer : ((payload.bytes c.pool).take r.toNat).length < (payload.bytes c.pool).length := by
    rw [length_take]
    by_contra all
    exact partly (take_of_length_le (by omega))
  have missing : (stream { c with
      inFlight := rest
      taken := c.taken ++ (payload.bytes c.pool).take r.toNat }).length <
        (c.sender.written.flatMap (·.wire)).length := by
    have whole := congrArg length along.stream
    simp only [inRing, first, flatMap_cons, flatMap_nil, nil_append, length_append] at whole
    simp only [stream, inRing, length_append]
    simp only [scheduled, length_append] at whole ⊢
    omega
  split at taken
  · rename_i id slot
    split at taken
    · cases taken
      rintro (closing | intact)
      · exact going closing
      · have whole := congrArg length intact.stream
        exact absurd whole (Nat.ne_of_lt missing)
    · rename_i negative
      exact complete_missing missing going fatal
        (framed ⟨payload, rest, first, .inr (by omega)⟩) taken
  · rename_i slot
    exact complete_missing missing going fatal (framed ⟨payload, rest, first, .inl slot⟩) taken

/-- As long as no completion comes with fewer bytes than the send has, or with `EAGAIN`, the
connection is being closed or the stream is intact.  After one such completion it is not. -/
theorem send_integrity (config : ZmtpEngineConfig SK α) (isServer : Bool) (entropy : Entropy SK)
    (useSendZerocopy zerocopyEnabled : Bool) (pool : SendBufferPool α) (others : List Nat)
    (apart : (others ++ pool.freeIds).Nodup) :
    let begin : UringConnection SK Key H T α :=
      start config isServer entropy useSendZerocopy zerocopyEnabled pool others
    (∀ c, Reaches step Sound begin c → c.Closing ∨ c.Intact) ∧
      ∀ c a c', Reaches step Sound begin c → c.step a = some c' → ¬ c.Sound a →
        ∃ d, Reaches step (fun _ _ => True) c' d ∧ ¬ (d.Closing ∨ d.Intact) := by
  intro begin
  have kept : ∀ c, Reaches step Sound begin c →
      c.Closing ∨ c.Along c.appData [] := by
    have one : ∀ (c : UringConnection SK Key H T α) (a : SendAction α) c',
        c.Closing ∨ c.Along c.appData [] → c.Sound a → c.step a = some c' →
          c'.Closing ∨ c'.Along c'.appData [] := by
      intro c a c' inv sound taken
      by_cases closing : c.Closing
      · exact .inl (closing.step taken)
      · exact (inv.resolve_left closing).step closing sound taken
    intro c reached
    exact reached.invariant one
      (.inr ⟨rfl, rfl, nofun, nofun, apart, fun _ => rfl⟩)
  refine ⟨fun c reached => (kept c reached).imp_right Along.intact, ?_⟩
  intro c a c' reached taken unsound
  cases a with
  | result r error =>
    obtain ⟨short, going⟩ := not_forall.mp unsound
    have along := (kept c reached).resolve_left fun closing => going (.inl closing)
    exact ⟨c', .refl, result_lost along short going taken⟩
  | _ => exact absurd trivial unsound

end UringConnection

open Noise

namespace UringConnection

def pushConfig : ZmtpEngineConfig NoKey Symbol :=
  { clearConfig "PUSH" none with allowZmtp2 := true }

def twoBuffers : SendBufferPool Symbol := ⟨2, 4096, fun _ => ⟨[], false⟩, [0, 1]⟩

def pushStart : UringConnection NoKey NoKey Handshake Transport Symbol :=
  .start pushConfig false ⟨⟨⟩, 0⟩ true true twoBuffers []

def pushHandshake : List (SendAction Symbol) :=
  [.call .connectionReady [encodeSignature ++ bytes [greetingVersionMajorByte]], .work 64 256,
    .result 11 .timeout,
    .call (.ringRead (bytes [0xFF, 0, 0, 0, 0, 0, 0, 0, 0, 0x7F, 0x01, 0x07, 0, 0])) [],
    .call .round [bytes [0x08]], .call .round [], .work 64 256, .result 1 .timeout,
    .call .round [bytes [0, 0]], .call .round [], .work 64 256, .result 2 .timeout,
    .call .round [], .call .round []]

theorem send_integrity_prelude : (([] : List Nat) ++ twoBuffers.freeIds).Nodup ∧
      ∃ c, Reaches step Sound pushStart c ∧ c.taken.length = 11 ∧
        (c.Closing ∨ c.Intact) := by
  have apart : (([] : List Nat) ++ twoBuffers.freeIds).Nodup := by decide
  have holds := (send_integrity (H := Handshake) (T := Transport) pushConfig false ⟨⟨⟩, 0⟩ true true
    twoBuffers [] apart).1
  obtain ⟨c, d, ran, inFlight, last, taken⟩ : ∃ c d,
      run step pushStart (pushHandshake.take 2) = some c ∧
        c.inFlight = [.sendBuffer (encodeSignature ++ bytes [greetingVersionMajorByte])] ∧
        c.step (.result 11 .timeout) = some d ∧ d.taken.length = 11 :=
    ⟨_, _, rfl, rfl, rfl, rfl⟩
  have begun : Reaches step Sound pushStart c := by
    refine reaches_of_run _ (fun a mem s => ?_) ran
    obtain rfl | rfl : a = .call .connectionReady [encodeSignature ++
        bytes [greetingVersionMajorByte]] ∨ a = .work 64 256 := by
      simpa [pushHandshake] using mem
    all_goals trivial
  have whole : c.Sound (.result 11 .timeout) := by
    rintro ⟨payload, rest, first, -, partly⟩
    rw [inFlight] at first
    cases first
    rw [SendPayload.bytes_sendBuffer] at partly
    exact absurd (take_of_length_le (by decide)) partly
  have reached := begun.tail whole last
  exact ⟨apart, d, reached, taken, holds d reached⟩

def shortSend : List (SendAction Symbol) :=
  [.appSend [⟨some (bytes (utf8 "first")), ⟨false, false⟩, by decide⟩],
    .appSend [⟨some (bytes (utf8 "second")), ⟨false, false⟩, by decide⟩], .drain, .work 64 256,
    .result 3 .timeout, .result 8 .timeout]

/-- The peer is sent the beginning of the first message and the second, and nothing is scheduled. -/
theorem short_send_corrupts_stream :
    ∃ c, Reaches step (fun _ _ => True) pushStart c ∧
      c.sender.handler.phase = .dataPhase ∧ c.inRing ++ c.scheduled = [] ∧
      c.taken.drop 14 = bytes ([0, 5, 102] ++ [0, 6, 115, 101, 99, 111, 110, 100]) ∧
      ¬ (c.Closing ∨ c.Intact) := by
  have ran : (run step pushStart (pushHandshake ++ shortSend)).map
      (fun c => (c.sender.handler.phase, c.inRing ++ c.scheduled, c.taken.drop 14,
        c.stream.length, (c.sender.written.flatMap (·.wire)).length)) =
      some (.dataPhase, [],
        bytes ([0, 5, 102] ++ [0, 6, 115, 101, 99, 111, 110, 100]), 25, 29) := by
    decide +kernel
  obtain ⟨c, ran, found⟩ := map_eq_some_iff.mp ran
  simp only [Prod.mk.injEq] at found
  obtain ⟨phase, idle, taken, sent, framed⟩ := found
  refine ⟨c, reaches_of_run _ (fun _ _ _ => trivial) ran, phase, idle, taken, ?_⟩
  rintro (closing | intact)
  · rw [Closing, isClosingOrClosed, phase] at closing
    cases closing
  · rw [intact.stream, framed] at sent
    cases sent

end UringConnection

end Rzmq
