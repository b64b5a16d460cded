import Rzmq.Uring.Outgoing
import Mathlib.Logic.Function.Basic

/-! The way of the bytes that one connection of the io_uring worker sends: from the application's
channel over the handler's framer and the batches of the worker's map to the sends in the ring.
Batches are submitted in order, a call of the handler asks for what it wrote, and a buffer of the
pool belongs to one send. -/

namespace Rzmq

open List Option Function Octet Curve

section Payload

variable {α : Type}

inductive SendPayload (α : Type) where
  | sendBuffer (data : List α)
  | sendZeroCopy (id len : Nat)

def SendPayload.bytes (pool : SendBufferPool α) : SendPayload α → List α
  | .sendBuffer data => data
  | .sendZeroCopy id len => (pool.slots id).buffer.take len

@[simp] lemma SendPayload.bytes_sendBuffer (pool : SendBufferPool α) (data : List α) :
    (SendPayload.sendBuffer data).bytes pool = data := rfl

@[simp] lemma SendPayload.bytes_sendZeroCopy (pool : SendBufferPool α) (id len : Nat) :
    (SendPayload.sendZeroCopy id len).bytes pool = (pool.slots id).buffer.take len := rfl

def SendPayload.slot : SendPayload α → Option Nat
  | .sendBuffer _ => none
  | .sendZeroCopy id _ => some id

end Payload

/-- `ops` are of the call of the handler under way, `inFlight` the sends without a completion,
`notifying` those by zero-copy that wait for the notification that the buffer is free.  `others` are
the slots of the pool with other connections, `taken` the bytes that the kernel took and `given` the
messages told to be sent. -/
structure UringConnection (SK Key H T α : Type) where
  sender : ZmtpUringSender SK Key H T α
  zerocopyEnabled : Bool
  pool : SendBufferPool α
  ops : List (HandlerSqeBlueprint α)
  channel : List (List (Msg α))
  appData : List (List (Msg α))
  batches : List (List (HandlerSqeBlueprint α))
  inFlight : List (SendPayload α)
  notifying : List (Nat × List α)
  others : List Nat
  taken : List α
  given : List (List (Msg α))

inductive SendAction (α : Type) where
  | call (a : UringAction α) (pieces : List (List α))
  | appSend (msgs : List (Msg α))
  | drain
  | prepare (wantsRead : Bool) (clock : Clock)
  | closePass
  /-- The turn of this descriptor in the map of work. -/
  | work (budget room : Nat)
  /-- The completion of the send that was submitted first. -/
  | result (r : Int) (error : ZmqError)
  /-- A notification for a zero-copy send. -/
  | notification (id : Nat)
  /-- A read that ends without a buffer. -/
  | readResult (r : Int) (error : ZmqError)
  | otherAcquire (data : List α)
  | otherRelease (id : Nat)

namespace UringConnection

variable {SK Key H T α : Type}

def start (config : ZmtpEngineConfig SK α) (isServer : Bool) (entropy : Entropy SK)
    (useSendZerocopy zerocopyEnabled : Bool) (pool : SendBufferPool α) (others : List Nat) :
    UringConnection SK Key H T α where
  sender := ⟨.new config isServer entropy, useSendZerocopy, [], []⟩
  zerocopyEnabled
  pool
  ops := []
  channel := []
  appData := []
  batches := []
  inFlight := []
  notifying := []
  others
  taken := []
  given := []

def collect (c : UringConnection SK Key H T α)
    (output : ZmtpUringSender SK Key H T α × HandlerIoOps α) : UringConnection SK Key H T α :=
  let ops := c.ops ++ output.2.blueprints
  if output.1.handler.looping then { c with sender := output.1, ops }
  else { c with sender := output.1, ops := [], batches := pushBatch c.batches ops }

@[simp] lemma collect_sender (c : UringConnection SK Key H T α)
    (output : ZmtpUringSender SK Key H T α × HandlerIoOps α) :
    (c.collect output).sender = output.1 := by
  unfold collect
  dsimp only
  split <;> rfl

@[simp] lemma collect_appData (c : UringConnection SK Key H T α)
    (output : ZmtpUringSender SK Key H T α × HandlerIoOps α) :
    (c.collect output).appData = c.appData := by
  unfold collect
  dsimp only
  split <;> rfl

/-- One blueprint becomes a submission.  A zero-copy send without a buffer is made a normal one. -/
def issue (c : UringConnection SK Key H T α) :
    HandlerSqeBlueprint α → UringConnection SK Key H T α
  | .requestSend data => { c with inFlight := c.inFlight ++ [.sendBuffer data] }
  | .requestSendZeroCopy data =>
    match if c.zerocopyEnabled then c.pool.acquireAndPrepBuffer data else none with
    | some (id, pool) =>
      { c with pool, inFlight := c.inFlight ++ [.sendZeroCopy id data.length] }
    | none => { c with inFlight := c.inFlight ++ [.sendBuffer data] }
  | _ => c

def submit (c : UringConnection SK Key H T α) (budget room : Nat) :
    UringConnection SK Key H T α :=
  (submitBatches budget room c.batches).1.foldl issue
    { c with batches := (submitBatches budget room c.batches).2 }

variable [Octet α] [CryptoBox Key α] [SnowTransport T α] (c : UringConnection SK Key H T α)

def convert (msgs : List (Msg α)) : UringConnection SK Key H T α :=
  c.collect (c.sender.handleOutgoingAppData msgs)

def convertAll : UringConnection SK Key H T α :=
  { c.appData.foldl convert c with appData := [] }

def work (budget room : Nat) : UringConnection SK Key H T α :=
  c.convertAll.submit budget room

variable [CurveSuite SK Key α] [SnowHandshake H T α] [DecidableEq α]

def complete (c : UringConnection SK Key H T α) (slot : Option Nat) (r : Int) (error : ZmqError) :
    Option (UringConnection SK Key H T α) :=
  (c.sender.handleInternalSqeCompletion r error).map
    { c with pool := c.pool.releaseSlot slot }.collect

def step (c : UringConnection SK Key H T α) :
    SendAction α → Option (UringConnection SK Key H T α)
  | .call a pieces =>
    match a with
    | .connectionReady | .ringRead _ | .round | .fdClosed =>
      (c.sender.call a pieces).map c.collect
    | _ => none
  | .appSend msgs =>
    some { c with channel := c.channel ++ [msgs], given := c.given ++ [msgs] }
  | .drain => some { c with channel := [], appData := c.appData ++ c.channel }
  | .prepare wantsRead clock =>
    if c.sender.handler.looping then none
    else some (c.collect (c.sender.prepareSqes wantsRead clock))
  | .closePass =>
    if c.sender.handler.looping then none
    else some { c with sender := c.sender.closeInitiated }
  | .work budget room =>
    if c.sender.handler.looping ∨ budget = 0 ∨ room = 0 then none else some (c.work budget room)
  | .result r error =>
    match c.inFlight with
    | [] => none
    | payload :: rest =>
      let data := payload.bytes c.pool
      if c.sender.handler.looping ∨ (data.length : Int) < r then none
      else
        let c := { c with inFlight := rest, taken := c.taken ++ data.take r.toNat }
        match payload.slot with
        | some id =>
          if 0 ≤ r then some { c with notifying := c.notifying ++ [(id, data)] }
          else c.complete (some id) r error
        | none => c.complete none r error
  | .notification id =>
    if c.sender.handler.looping ∨ id ∉ c.notifying.map (·.1) then none
    else
      { c with notifying := c.notifying.eraseP (·.1 == id) }.complete (some id) 0 .timeout
  | .readResult r error => if c.sender.handler.looping then none else c.complete none r error
  | .otherAcquire data =>
    (c.pool.acquireAndPrepBuffer data).map fun (id, pool) =>
      { c with pool, others := c.others ++ [id] }
  | .otherRelease id =>
    if id ∈ c.others then
      some { c with pool := c.pool.releaseBuffer id, others := c.others.erase id }
    else none

end UringConnection

/-! ### What the handler writes -/

section Handler

variable {SK Key H T α : Type}

lemma ZmtpUringHandler.transitionToError_closing (h : ZmtpUringHandler SK Key H T α) (f : Fault) :
    (h.transitionToError f).phase.isClosingOrClosed = true := by
  unfold ZmtpUringHandler.transitionToError
  split <;> simp only [*, ZmtpHandlerPhase.isClosingOrClosed]

lemma ZmtpUringHandler.step_closing [Octet α] [CryptoBox Key α] [SnowTransport T α]
    [CurveSuite SK Key α] [SnowHandshake H T α] [DecidableEq α]
    {h h' : ZmtpUringHandler SK Key H T α} {a : UringAction α}
    (closing : h.phase.isClosingOrClosed = true) (taken : h.step a = some h') :
    h'.phase.isClosingOrClosed = true := by
  unfold ZmtpUringHandler.step at taken
  split at taken
  · split at taken
    · rename_i initial
      rw [initial] at closing
      cases closing
    · cases taken
  · split at taken <;> cases taken
    · exact h.transitionToError_closing _
    · exact closing
  · cases taken
    cases phase : h.phase <;> rw [phase] at closing <;> cases closing
    all_goals simp [acknowledged, setPhase, ZmtpHandlerPhase.isClosingOrClosed]
  · cases taken
    exact h.transitionToError_closing _
  · cases taken
    cases phase : h.phase <;> rw [phase] at closing <;> cases closing
    all_goals simp [runRound, round, phase, ZmtpHandlerPhase.isClosingOrClosed]
  · split at taken <;> cases taken
    exact h.transitionToError_closing _
  · cases taken
    rfl
  · cases taken
    rfl
  · cases taken

variable [Octet α] [CryptoBox Key α] [SnowTransport T α]

/-- Messages of the queue, or of those in `more`, in their order, and commands of its own between
them. -/
structure ZmtpUringSender.Wrote (s s' : ZmtpUringSender SK Key H T α)
    (ops : List (HandlerSqeBlueprint α)) (more : List (List (Msg α))) (new : List (Written α)) :
    Prop where
  written : s'.written = s.written ++ new
  wire : ops.flatMap (·.data) = new.flatMap (·.wire)
  order : new.filterMap (·.source) ++ s'.outgoing = s.outgoing ++ more
  framed : ∀ w ∈ new, ∀ msgs, w.source = some msgs →
    ∃ framer : SecureFramer Key T α, (framer.writeMsgMultipart msgs).1 = .ok w.wire

namespace ZmtpUringSender

variable {s : ZmtpUringSender SK Key H T α}

def Orderly (s : ZmtpUringSender SK Key H T α)
    (output : ZmtpUringSender SK Key H T α × HandlerIoOps α) (more : List (List (Msg α))) : Prop :=
  output.1.isClosingOrClosed = true ∨ ∃ new, Wrote s output.1 output.2.blueprints more new

lemma Wrote.nothing (s') {ops}
    (written : s'.written = s.written) (outgoing : s'.outgoing = s.outgoing)
    (silent : ops.flatMap (·.data) = []) : Wrote s s' ops [] [] where
  written := by rw [written, append_nil]
  wire := silent
  order := by rw [outgoing, append_nil]; rfl
  framed := by simp

omit [CryptoBox Key α] [SnowTransport T α] [Octet α] in
@[simp] lemma addSendBlueprints_data (s : ZmtpUringSender SK Key H T α) (wire : List α) :
    (s.addSendBlueprints wire).blueprints.flatMap (·.data) = wire := by
  unfold addSendBlueprints
  split
  · rename_i empty
    rw [isEmpty_iff.mp empty]
    rfl
  · split <;> simp [HandlerSqeBlueprint.data]

omit [CryptoBox Key α] [SnowTransport T α] [Octet α] in
lemma closeInitiated_closing (s : ZmtpUringSender SK Key H T α) :
    s.closeInitiated.isClosingOrClosed = true := by
  unfold closeInitiated
  split
  · assumption
  · rfl

lemma transitionToError_orderly (f : Fault) (more : List (List (Msg α))) :
    Orderly s (s.transitionToError f) more :=
  .inl (s.handler.transitionToError_closing f)

lemma Wrote.message {s' : ZmtpUringSender SK Key H T α} {msgs : List (Msg α)} {wire : List α}
    {more : List (List (Msg α))} {framer : SecureFramer Key T α}
    (framed : framer.writeMsgMultipart msgs = (.ok wire, s'.handler.framer))
    (written : s'.written = s.written ++ [⟨some msgs, wire⟩])
    (order : msgs :: s'.outgoing = s.outgoing ++ more) :
    Wrote s s' (s.addSendBlueprints wire).blueprints more [⟨some msgs, wire⟩] where
  written := written
  wire := by simp
  order := order
  framed w mem msgs' source := by
    rw [mem_singleton.mp mem] at source ⊢
    cases source
    exact ⟨framer, by rw [framed]⟩

lemma sendQueued_orderly {msgs : List (Msg α)} {rest : List (List (Msg α))}
    (queued : s.outgoing = msgs :: rest) : Orderly s (s.sendQueued msgs rest) [] := by
  unfold sendQueued
  split
  · rename_i wire framer framed
    exact .inr ⟨_, .message framed rfl (by rw [queued, append_nil])⟩
  · exact .inl (ZmtpUringHandler.transitionToError_closing _ _)

lemma handleOutgoingAppData_wrote (s : ZmtpUringSender SK Key H T α) (msgs : List (Msg α)) :
    ∃ new, Wrote s (s.handleOutgoingAppData msgs).1
      (s.handleOutgoingAppData msgs).2.blueprints [msgs] new := by
  have queue (s' : ZmtpUringSender SK Key H T α) (written : s'.written = s.written)
      (outgoing : s'.outgoing = s.outgoing ++ [msgs]) : Wrote s s' [] [msgs] [] := by
    refine ⟨by rw [written, append_nil], rfl, outgoing, by simp⟩
  unfold handleOutgoingAppData
  split
  · rename_i direct
    have idle : s.outgoing = [] := isEmpty_iff.mp direct.2
    split
    · rename_i wire framer framed
      exact ⟨_, .message framed rfl (by rw [idle]; rfl)⟩
    · exact ⟨[], queue _ rfl rfl⟩
  · exact ⟨[], queue _ rfl rfl⟩

lemma sendPing_orderly (s : ZmtpUringSender SK Key H T α) : Orderly s s.sendPing [] := by
  unfold sendPing
  dsimp only
  split
  · rename_i wire framer framed
    refine .inr ⟨[⟨none, wire⟩], rfl, ?_, by simp, ?_⟩
    · simp [HandlerSqeBlueprint.data]
    · intro w mem msgs source
      rw [mem_singleton.mp mem] at source
      cases source
  · exact .inl (ZmtpUringHandler.transitionToError_closing _ _)

lemma prepareSqes_orderly (s : ZmtpUringSender SK Key H T α) (wantsRead : Bool) (clock : Clock) :
    Orderly s (s.prepareSqes wantsRead clock) [] := by
  unfold prepareSqes
  split
  · exact transitionToError_orderly _ _
  split
  · exact .inr ⟨[], .nothing s rfl rfl rfl⟩
  split
  · split
    · exact sendQueued_orderly ‹_›
    · split
      · exact transitionToError_orderly _ _
      · split
        · exact s.sendPing_orderly
        · exact .inr ⟨[], .nothing s rfl rfl rfl⟩
  · exact .inr ⟨[], .nothing s rfl rfl rfl⟩

variable [CurveSuite SK Key α] [SnowHandshake H T α] [DecidableEq α]
  {output : ZmtpUringSender SK Key H T α × HandlerIoOps α}

lemma handleInternalSqeCompletion_orderly {r : Int} {error}
    (called : s.handleInternalSqeCompletion r error = some output) : Orderly s output [] := by
  unfold handleInternalSqeCompletion at called
  split at called
  · cases called
    exact transitionToError_orderly _ _
  split at called
  · split at called <;> cases called
    · exact sendQueued_orderly ‹_›
    · exact .inr ⟨[], .nothing s rfl rfl rfl⟩
  · obtain ⟨handler, -, rfl⟩ := map_eq_some_iff.mp called
    exact .inr ⟨[], .nothing _ rfl rfl rfl⟩

lemma call_orderly {a pieces} (called : s.call a pieces = some output) : Orderly s output [] := by
  obtain ⟨handler, -, called⟩ := bind_eq_some_iff.mp called
  split at called
  · cases called
    refine .inr ⟨pieces.map fun wire => ⟨none, wire⟩, rfl, ?_, ?_, ?_⟩
    · have sends : (pieces.map HandlerSqeBlueprint.requestSend).flatMap (·.data) =
          (pieces.map fun wire => (⟨none, wire⟩ : Written α)).flatMap (·.wire) := by
        simp [flatMap_map, HandlerSqeBlueprint.data]
      rw [flatMap_append, sends]
      split <;> simp [HandlerSqeBlueprint.data]
    · simp [filterMap_map]
    · intro w mem msgs source
      obtain ⟨wire, -, rfl⟩ := mem_map.mp mem
      cases source
  · cases called

end ZmtpUringSender

end Handler

/-! ### Buffers of the pool -/

namespace SendBufferPool

variable {α : Type} {pool pool' : SendBufferPool α} {id : Nat} {data : List α}

lemma acquire_eq (acquired : pool.acquireAndPrepBuffer data = some (id, pool')) :
    pool.freeIds = id :: pool'.freeIds ∧ (pool'.slots id).buffer.take data.length = data ∧
      ∀ other ≠ id, pool'.slots other = pool.slots other := by
  unfold acquireAndPrepBuffer at acquired
  split at acquired
  · cases acquired
  split at acquired
  · cases acquired
  split at acquired
  · cases acquired
  · rename_i free
    split at acquired
    · cases acquired
    · cases acquired
      refine ⟨free, ?_, fun other ne => update_of_ne ne _ _⟩
      dsimp only
      rw [update_self]
      exact take_left

@[simp] lemma release_buffer (pool : SendBufferPool α) (id other : Nat) :
    ((pool.releaseBuffer id).slots other).buffer = (pool.slots other).buffer := by
  unfold releaseBuffer
  split
  · rfl
  · by_cases same : other = id
    · simp [same]
    · simp [update_of_ne same]

lemma release_nodup {held} (apart : (id :: held ++ pool.freeIds).Nodup) :
    (held ++ (pool.releaseBuffer id).freeIds).Nodup := by
  obtain ⟨fresh, rest⟩ := nodup_cons.mp apart
  unfold releaseBuffer
  split
  · exact rest
  · have absent : id ∉ pool.freeIds := fun mem => fresh (mem_append_right _ mem)
    dsimp only
    rw [if_neg absent, ← append_assoc]
    exact (perm_append_singleton id _).nodup_iff.mpr apart

end SendBufferPool

lemma SendPayload.bytes_congr {α : Type} {pool pool' : SendBufferPool α} {payload : SendPayload α}
    (same : ∀ id ∈ payload.slot, (pool'.slots id).buffer = (pool.slots id).buffer) :
    payload.bytes pool' = payload.bytes pool := by
  cases payload with
  | sendBuffer data => rfl
  | sendZeroCopy id len => simp only [SendPayload.bytes, same id rfl]

end Rzmq
