import Rzmq.Uring.Handler

/-! What goes out of the io_uring backend: the blueprints of the operations that a handler asks the
worker for, the handler's part in sending the messages of the application, and the pool of buffers
for zero-copy sends. -/

namespace Rzmq

open List Octet Curve

/-- Every send carries no flags and `HANDLER_INTERNAL_SEND_OP_UD`, also one of the application's
messages. -/
inductive HandlerSqeBlueprint (α : Type) where
  | requestSend (data : List α)
  | requestSendZeroCopy (data : List α)
  | requestClose
  | requestNewRingReadMultishot
  | requestNewAsyncCancel (target : Nat)
  | requestSetCork (enable : Bool)

def HandlerSqeBlueprint.data {α : Type} : HandlerSqeBlueprint α → List α
  | .requestSend data | .requestSendZeroCopy data => data
  | _ => []

structure HandlerIoOps (α : Type) where
  blueprints : List (HandlerSqeBlueprint α)
  initiateClose : Bool

def HandlerIoOps.none {α : Type} : HandlerIoOps α := ⟨[], false⟩

def zcSendThreshold : Nat := 1024

def eagain : Int := 11

/-- What the framer wrote, and the messages of the application that it wrote: none for a command of
the handler's own. -/
structure Written (α : Type) where
  source : Option (List (Msg α))
  wire : List α

/-- What `Instant::now` says in `prepare_sqes`. -/
structure Clock where
  handshakeExpired : Bool
  pongExpired : Bool
  pingDue : Bool

/-- The queue of single messages stays empty, since the worker has only messages of several parts
for a handler.  `written` is all that was framed, or sent in the handshake. -/
structure ZmtpUringSender (SK Key H T α : Type) where
  handler : ZmtpUringHandler SK Key H T α
  useSendZerocopy : Bool
  outgoing : List (List (Msg α))
  written : List (Written α)

def ZmtpHandlerPhase.isClosingOrClosed : ZmtpHandlerPhase → Bool
  | .closing | .closed | .error => true
  | _ => false

namespace ZmtpUringSender

variable {SK Key H T α : Type} (s : ZmtpUringSender SK Key H T α)

def isClosingOrClosed : Bool :=
  s.handler.phase.isClosingOrClosed

def addSendBlueprints (wire : List α) : HandlerIoOps α :=
  if wire.isEmpty then .none
  else if s.useSendZerocopy && zcSendThreshold < wire.length then
    ⟨[.requestSendZeroCopy wire], false⟩
  else ⟨[.requestSend wire], false⟩

def transitionToError (f : Fault) : ZmtpUringSender SK Key H T α × HandlerIoOps α :=
  ({ s with handler := s.handler.transitionToError f },
    match s.handler.phase with
    | .error | .closed => .none
    | _ => ⟨[.requestClose], true⟩)

def closeInitiated : ZmtpUringSender SK Key H T α :=
  if s.isClosingOrClosed then s
  else { s with handler := s.handler.setPhase .closing, outgoing := [] }

variable [Octet α] [CryptoBox Key α] [SnowTransport T α] (s : ZmtpUringSender SK Key H T α)

def sendQueued (msgs : List (Msg α)) (rest : List (List (Msg α))) :
    ZmtpUringSender SK Key H T α × HandlerIoOps α :=
  match s.handler.framer.writeMsgMultipart msgs with
  | (.ok wire, framer) =>
    ({ s with
      handler := { s.handler with framer }
      outgoing := rest
      written := s.written ++ [⟨some msgs, wire⟩] }, s.addSendBlueprints wire)
  | (.error e, framer) =>
    { s with handler := { s.handler with framer } }.transitionToError (.error e)

def handleOutgoingAppData (msgs : List (Msg α)) : ZmtpUringSender SK Key H T α × HandlerIoOps α :=
  if s.handler.phase = .dataPhase ∧ s.outgoing.isEmpty then
    match s.handler.framer.writeMsgMultipart msgs with
    | (.ok wire, framer) =>
      ({ s with
        handler := { s.handler with framer }
        written := s.written ++ [⟨some msgs, wire⟩] }, s.addSendBlueprints wire)
    | (.error _, framer) =>
      ({ s with handler := { s.handler with framer }, outgoing := s.outgoing ++ [msgs] }, .none)
  else ({ s with outgoing := s.outgoing ++ [msgs] }, .none)

def sendPing : ZmtpUringSender SK Key H T α × HandlerIoOps α :=
  let ping := ZmtpProtocolHandler.commandMsg (createPing 0 (bytes (utf8 "hb_ping")))
  match s.handler.framer.writeMsgMultipart [ping] with
  | (.ok wire, framer) =>
    ({ s with
      handler := { s.handler with framer }
      written := s.written ++ [⟨none, wire⟩] }, ⟨[.requestSend wire], false⟩)
  | (.error e, framer) =>
    { s with handler := { s.handler with framer } }.transitionToError (.error e)

/-- `prepare_sqes`; `wantsRead` says that there is a multishot reader and that it is not active. -/
def prepareSqes (wantsRead : Bool) (clock : Clock) :
    ZmtpUringSender SK Key H T α × HandlerIoOps α :=
  if clock.handshakeExpired ∧ s.handler.phase ∉ [.dataPhase, .error, .closed] then
    s.transitionToError (.error .timeout)
  else if wantsRead then (s, ⟨[.requestNewRingReadMultishot], false⟩)
  else if s.handler.phase = .dataPhase then
    match s.outgoing with
    | msgs :: rest => s.sendQueued msgs rest
    | [] =>
      if clock.pongExpired then s.transitionToError (.error .timeout)
      else if clock.pingDue ∧ s.handler.negotiatedVersion ≠ some .v2 then s.sendPing
      else (s, .none)
  else (s, .none)

variable [CurveSuite SK Key α] [SnowHandshake H T α] [DecidableEq α]

/-- `error` is what `ZmqError::from` makes of a negative result.  `EAGAIN` passes for a success, and
the number of bytes that were sent is not looked at. -/
def handleInternalSqeCompletion (s : ZmtpUringSender SK Key H T α) (result : Int)
    (error : ZmqError) : Option (ZmtpUringSender SK Key H T α × HandlerIoOps α) :=
  if result < 0 ∧ -result ≠ eagain then some (s.transitionToError (.error error))
  else if s.handler.phase = .dataPhase then
    match s.outgoing with
    | msgs :: rest => some (s.sendQueued msgs rest)
    | [] => some (s, .none)
  else (s.handler.step .completion).map fun handler => ({ s with handler }, .none)

/-- The bytes that the handler sends of its own accord are in `pieces`, one for each blueprint. -/
def call (s : ZmtpUringSender SK Key H T α) (a : UringAction α) (pieces : List (List α)) :
    Option (ZmtpUringSender SK Key H T α × HandlerIoOps α) :=
  (s.handler.step a).bind fun handler =>
    if pieces.flatten = handler.sent.drop s.handler.sent.length then
      let failed := s.handler.phase ∉ [.error, .closed] ∧ handler.phase = .error
      some ({ s with handler, written := s.written ++ pieces.map fun wire => ⟨none, wire⟩ },
        ⟨pieces.map .requestSend ++ if failed then [.requestClose] else [], failed⟩)
    else none

end ZmtpUringSender

/-! ### Batches -/

section Batches

variable {β : Type}

def pushBatch (batches : List (List β)) (blueprints : List β) : List (List β) :=
  if blueprints.isEmpty then batches else batches ++ [blueprints]

lemma pushBatch_flatten (batches) (blueprints : List β) :
    (pushBatch batches blueprints).flatten = batches.flatten ++ blueprints := by
  unfold pushBatch
  split
  · rename_i none
    rw [isEmpty_iff.mp none, append_nil]
  · rw [flatten_append, flatten_singleton]

/-- Batches go to the submission queue until the budget of the iteration or the room is used up; the
rest of one that does not fit goes back to the front. -/
def submitBatches : Nat → Nat → List (List β) → List β × List (List β)
  | _, _, [] => ([], [])
  | 0, _, batches => ([], batches)
  | budget + 1, room, batch :: batches =>
    if room < batch.length ∨ room = 0 then (batch.take room, batch.drop room :: batches)
    else
      let (submitted, rest) := submitBatches budget (room - batch.length) batches
      (batch ++ submitted, rest)

lemma submitBatches_flatten (budget room : Nat) (batches : List (List β)) :
    (submitBatches budget room batches).1 ++ (submitBatches budget room batches).2.flatten =
      batches.flatten := by
  fun_induction submitBatches budget room batches with
  | case1 | case2 => rfl
  | case3 => simp only [flatten_cons, ← append_assoc, take_append_drop]
  | case4 _ _ _ _ _ _ _ both ih =>
    simp only [both] at ih
    simp [← ih]

end Batches

/-! ### The pool of send buffers -/

structure SendBufferSlot (α : Type) where
  buffer : List α
  inKernelUse : Bool

/-- `SendBufferPool`: `count` slots of `capacity` bytes.  A worker without a pool is one with a pool
of no slots. -/
structure SendBufferPool (α : Type) where
  count : Nat
  capacity : Nat
  slots : Nat → SendBufferSlot α
  freeIds : List Nat

namespace SendBufferPool

variable {α : Type} (pool : SendBufferPool α)

def acquireAndPrepBuffer (data : List α) : Option (Nat × SendBufferPool α) :=
  if data.isEmpty then none
  else if pool.count = 0 then none
  else
    match pool.freeIds with
    | [] => none
    | id :: rest =>
      if pool.capacity < data.length then none
      else
        let buffer := data ++ (pool.slots id).buffer.drop data.length
        some (id, { pool with
          slots := Function.update pool.slots id ⟨buffer, true⟩
          freeIds := rest })

def releaseBuffer (id : Nat) : SendBufferPool α :=
  if pool.count ≤ id then pool
  else
    { pool with
      slots := Function.update pool.slots id { pool.slots id with inKernelUse := false }
      freeIds := if id ∈ pool.freeIds then pool.freeIds else pool.freeIds ++ [id] }

def releaseSlot : Option Nat → SendBufferPool α
  | some id => pool.releaseBuffer id
  | none => pool

end SendBufferPool

end Rzmq
