import Rzmq.Uring.Outgoing
import Mathlib.Logic.Function.Basic

/-! The loop of the io_uring worker, for handlers of any kind.  Its tables are keyed by the number
of a descriptor, which the kernel gives out again once it is closed: what the tables hold is marked
with the connection, the generation, that it is of. -/

namespace Rzmq

open Transition Octet Curve

/-- `UringConnectionHandler`, but for its multishot reader, which the worker has here. -/
class UringConnectionHandler (σ : Type) (α M : outParam Type) where
  connectionReady : σ → σ × HandlerIoOps α
  processRingReadData : List α → σ → σ × HandlerIoOps α
  handleInternalSqeCompletion : Int → ZmqError → σ → σ × HandlerIoOps α
  prepareSqes : Bool → Clock → σ → σ × HandlerIoOps α
  handleOutgoingAppData : M → σ → σ × HandlerIoOps α
  closeInitiated : σ → σ × HandlerIoOps α

namespace ZmtpUringSender

variable {SK Key H T α : Type} [Octet α] [CryptoBox Key α] [SnowTransport T α]
  [CurveSuite SK Key α] [SnowHandshake H T α] [DecidableEq α]

def tell (s : ZmtpUringSender SK Key H T α) (a : UringAction α) :
    Option (ZmtpUringSender SK Key H T α × HandlerIoOps α) :=
  (s.handler.step a).bind fun handler =>
    let piece := handler.sent.drop s.handler.sent.length
    s.call a (if piece.isEmpty then [] else [piece])

def settle : Nat → ZmtpUringSender SK Key H T α × HandlerIoOps α →
    ZmtpUringSender SK Key H T α × HandlerIoOps α
  | 0, output => output
  | fuel + 1, (s, ops) =>
    match s.tell .round with
    | none => (s, ops)
    | some (s', more) =>
      settle fuel (s', ⟨ops.blueprints ++ more.blueprints, ops.initiateClose || more.initiateClose⟩)

/-- A call and the rounds after it: each of them takes a byte or leads to another phase. -/
def after (s : ZmtpUringSender SK Key H T α)
    (output : Option (ZmtpUringSender SK Key H T α × HandlerIoOps α)) :
    ZmtpUringSender SK Key H T α × HandlerIoOps α :=
  let output := output.getD (s, .none)
  settle (output.1.handler.networkReadAccumulator.length + 32) output

instance : UringConnectionHandler (ZmtpUringSender SK Key H T α) α (List (Msg α)) where
  connectionReady s := s.after (s.tell .connectionReady)
  processRingReadData bytes s := s.after (s.tell (.ringRead bytes))
  handleInternalSqeCompletion result error s :=
    s.after (s.handleInternalSqeCompletion result error)
  prepareSqes wantsRead clock s := s.prepareSqes wantsRead clock
  handleOutgoingAppData msgs s := s.handleOutgoingAppData msgs
  closeInitiated s := (s.closeInitiated, .none)

end ZmtpUringSender

structure MultishotReader where
  activeOp : Option Nat
  isActive : Bool
  cancelOp : Option Nat

namespace MultishotReader

def new : MultishotReader := ⟨none, false, none⟩

def wantsRead (r : MultishotReader) : Bool := !r.isActive && r.cancelOp.isNone

def matchesCqe (r : MultishotReader) (userData : Nat) : Bool :=
  r.activeOp == some userData || r.cancelOp == some userData

def inactive (r : MultishotReader) : MultishotReader :=
  { r with activeOp := none, isActive := false }

end MultishotReader

inductive InternalOpType where
  | send
  | sendZeroCopy
  | closeFd
  | ringRead
  | ringReadMultishot
  | asyncCancel
  | genericHandlerOp
deriving DecidableEq

/-- With the generation that asked for it; once the kernel has it, `executed` says which connection
had the number then, if one had. -/
structure InternalOp where
  userData : Nat
  opType : InternalOpType
  generation : Nat
  executed : Option (Option Nat)

def InternalOp.astray (op : InternalOp) : Bool :=
  match op.executed with
  | some (some g) => g != op.generation
  | _ => false

/-- A completion; `data` is there if a provided buffer was selected, and `error` is made of a
negative result. -/
structure Cqe (α : Type) where
  result : Int
  data : Option (List α)
  more : Bool
  notification : Bool
  error : ZmqError

structure RegisteredHandler (σ : Type) where
  generation : Nat
  state : σ
  reader : Option MultishotReader

inductive Claim where
  | unclaimed
  | registered
  | refused
deriving DecidableEq

/-- The handler, the receiver of the application's messages, the work, the pass of those to be
closed, the operations, and the open descriptor.  `opened` counts the connections that had the
number; `crossed` says that something of one got to another. -/
structure FdTables (σ α M : Type) where
  handler : Option (RegisteredHandler σ)
  receiver : Option (Nat × List M)
  appData : List (Nat × M)
  batches : List (List (Nat × HandlerSqeBlueprint α))
  closePass : List Nat
  ops : List InternalOp
  file : Option Nat
  claim : Claim
  opened : Nat
  crossed : Bool

namespace FdTables

variable {σ α M : Type}

def empty : FdTables σ α M where
  handler := none
  receiver := none
  appData := []
  batches := []
  closePass := []
  ops := []
  file := none
  claim := .unclaimed
  opened := 0
  crossed := false

variable (t : FdTables σ α M)

def handed (generation : Nat) : FdTables σ α M :=
  { t with crossed := t.crossed || t.handler.any (·.generation != generation) }

/-- Where the worker does not look at the flag, `heeded` is false. -/
def call (generation : Nat) (heeded : Bool) (method : σ → σ × HandlerIoOps α) : FdTables σ α M :=
  match t.handler with
  | none => t
  | some h =>
    let output := method h.state
    { t.handed generation with
      handler := some { h with state := output.1 }
      batches := pushBatch t.batches (output.2.blueprints.map (h.generation, ·))
      closePass :=
        if heeded && output.2.initiateClose then t.closePass ++ [h.generation]
        else t.closePass }

def setReader (r : MultishotReader) : FdTables σ α M :=
  { t with handler := t.handler.map ({ · with reader := some r }) }

def takeOp (userData : Nat) : FdTables σ α M :=
  { t with ops := t.ops.filter (·.userData != userData) }

def openFile : FdTables σ α M :=
  { t with file := some t.opened, claim := .unclaimed, opened := t.opened + 1 }

def abandon : FdTables σ α M := { t with file := none }

def inform (generation : Nat) (mark : MultishotReader → MultishotReader) : FdTables σ α M :=
  { t.handed generation with
    handler := t.handler.map fun h => { h with reader := h.reader.map mark } }

/-- `zerocopy` says whether the pool has a buffer for the blueprint. -/
def issue (userData : Nat) (zerocopy : Bool) (generation : Nat)
    (blueprint : HandlerSqeBlueprint α) :
    FdTables σ α M :=
  let push (opType : InternalOpType) : FdTables σ α M :=
    { t with ops := t.ops ++ [⟨userData, opType, generation, none⟩] }
  match blueprint with
  | .requestSend _ => push .send
  | .requestSendZeroCopy _ => push (if zerocopy then .sendZeroCopy else .send)
  | .requestClose => push .closeFd
  | .requestSetCork _ => push .genericHandlerOp
  | .requestNewRingReadMultishot =>
    (push .ringReadMultishot).inform generation fun _ => ⟨some userData, true, none⟩
  | .requestNewAsyncCancel _ =>
    (push .asyncCancel).inform generation fun r => { r with cancelOp := some userData }

def issueAll (zerocopy : Nat → Bool) :
    Nat → FdTables σ α M → List (Nat × HandlerSqeBlueprint α) → FdTables σ α M
  | _, t, [] => t
  | userData, t, (generation, blueprint) :: rest =>
    issueAll zerocopy (userData + 1)
      (t.issue userData (zerocopy userData) generation blueprint) rest

def submitWork (userData budget room : Nat) (zerocopy : Nat → Bool) : FdTables σ α M :=
  issueAll zerocopy userData { t with batches := (submitBatches budget room t.batches).2 }
    (submitBatches budget room t.batches).1

def hasPendingReadOp : Bool :=
  t.ops.any fun op => op.opType = .ringRead ∨ op.opType = .ringReadMultishot

def executeOps : Option Nat → List InternalOp → List InternalOp × Option Nat
  | file, [] => ([], file)
  | file, op :: rest =>
    match op.executed with
    | some _ => (op :: (executeOps file rest).1, (executeOps file rest).2)
    | none =>
      let later := executeOps (if op.opType = .closeFd then none else file) rest
      ({ op with executed := some file } :: later.1, later.2)

def execute : FdTables σ α M :=
  let after := executeOps t.file t.ops
  { t with
    ops := after.1
    file := after.2
    crossed := t.crossed || after.1.any InternalOp.astray }

def closed (op : InternalOp) : FdTables σ α M :=
  if op.executed.join.isSome then
    { (t.takeOp op.userData).handed op.generation with receiver := none, handler := none }
  else t.takeOp op.userData

def drain : FdTables σ α M :=
  match t.receiver with
  | none => t
  | some (generation, queue) =>
    { t with
      receiver := some (generation, [])
      appData := t.appData ++ queue.map (generation, ·) }

variable [UringConnectionHandler σ α M]

open UringConnectionHandler

variable (t : FdTables σ α M)

/-- `RegisterExternalFd`; `state` is the handler that the factory makes, if it makes one. -/
def register (generation : Nat) (state : Option σ) (multishot : Bool) : FdTables σ α M :=
  match t.handler, state with
  | none, some state =>
    let output := connectionReady state
    { t with
      receiver := some (generation, [])
      handler := some ⟨generation, output.1, if multishot then some .new else none⟩
      batches := pushBatch t.batches (output.2.blueprints.map (generation, ·))
      closePass :=
        if output.2.initiateClose then t.closePass ++ [generation] else t.closePass
      claim := .registered }
  | _, _ => { t with receiver := none, claim := .refused }

def prepare (clock : Clock) : FdTables σ α M :=
  match t.handler with
  | none => t
  | some h =>
    let output := prepareSqes (h.reader.any (·.wantsRead)) clock h.state
    { t with
      handler := some { h with state := output.1 }
      batches := pushBatch t.batches (output.2.blueprints.map (h.generation, ·))
      closePass :=
        if output.2.initiateClose && t.closePass.isEmpty then [h.generation] else t.closePass }

def initiateClose : FdTables σ α M :=
  t.closePass.foldl (fun t generation => t.call generation false closeInitiated)
    { t with closePass := [] }

def gather (clock : Clock) : FdTables σ α M :=
  (t.drain.prepare clock).initiateClose

def convert : FdTables σ α M :=
  if t.handler.isSome then
    t.appData.foldl (fun t entry => t.call entry.1 false (handleOutgoingAppData entry.2))
      { t with appData := [] }
  else t

/-- `MultishotReader::process_cqe`, for a reader `r` of the handler of generation `g`. -/
def processCqe (g : Nat) (r : MultishotReader) (op : InternalOp) (cqe : Cqe α) : FdTables σ α M :=
  if r.activeOp = some op.userData then
    match if 0 ≤ cqe.result then cqe.data else none with
    | none =>
      let t := ((t.handed op.generation).setReader r.inactive).takeOp op.userData
      { t with closePass := t.closePass ++ [g] }
    | some bytes =>
      let t := t.call op.generation true (processRingReadData bytes)
      if cqe.more && !bytes.isEmpty then t else (t.setReader r.inactive).takeOp op.userData
  else ((t.handed op.generation).setReader .new).takeOp op.userData

/-- A buffer that the kernel names is there to be borrowed. -/
def complete (op : InternalOp) (cqe : Cqe α) : FdTables σ α M :=
  let internal := handleInternalSqeCompletion cqe.result cqe.error
  match op.opType with
  | .closeFd => t.closed op
  | .send | .genericHandlerOp => (t.takeOp op.userData).call op.generation true internal
  | .sendZeroCopy =>
    if !cqe.notification && 0 ≤ cqe.result then t
    else (t.takeOp op.userData).call op.generation true internal
  | .ringRead =>
    match cqe.data with
    | some bytes =>
      (t.takeOp op.userData).call op.generation true
        (if 0 ≤ cqe.result then processRingReadData bytes else internal)
    | none => (t.takeOp op.userData).call op.generation true internal
  | .ringReadMultishot | .asyncCancel =>
    match t.handler with
    | some ⟨g, _, some r⟩ =>
      if r.matchesCqe op.userData then t.processCqe g r op cqe
      else if op.opType = .ringReadMultishot ∧ 0 ≤ cqe.result ∧ cqe.more then t
      else t.takeOp op.userData
    | _ =>
      if op.opType = .ringReadMultishot ∧ 0 ≤ cqe.result ∧ cqe.more then t
      else t.takeOp op.userData

end FdTables

/-- Where the loop is: before the work is gathered, before the submission, or before the end of the
completions. -/
inductive WorkerPhase where
  | gathering
  | submitting
  | reaping
deriving DecidableEq

structure UringWorker (σ α M : Type) where
  phase : WorkerPhase
  nextId : Nat
  tables : Nat → FdTables σ α M

inductive WorkerAction (σ α M : Type) where
  /-- The kernel gives the number to a new connection. -/
  | openFile (fd : Nat)
  | abandon (fd : Nat)
  | appSend (fd : Nat) (m : M)
  | register (fd : Nat) (state : Option σ) (multishot : Bool)
  /-- `ShutdownConnectionHandler`, from a `UringFdConnection` of the generation. -/
  | shutdown (fd generation : Nat)
  | gather (clock : Nat → Clock)
  | work (fd budget room : Nat) (zerocopy : Nat → Bool)
  | ensureRead (fd : Nat)
  /-- `submit`, which may be refused for now. -/
  | submit (ok : Bool)
  | complete (fd userData : Nat) (cqe : Cqe α)
  | reaped

namespace UringWorker

variable {σ α M : Type}

def start (nextId : Nat) : UringWorker σ α M := ⟨.gathering, nextId, fun _ => .empty⟩

def update (w : UringWorker σ α M) (fd : Nat) (t : FdTables σ α M) : UringWorker σ α M :=
  { w with tables := Function.update w.tables fd t }

variable [UringConnectionHandler σ α M]

def step (w : UringWorker σ α M) : WorkerAction σ α M → Option (UringWorker σ α M)
  | .openFile fd =>
    if (w.tables fd).file = none then some (w.update fd (w.tables fd).openFile) else none
  | .abandon fd =>
    if (w.tables fd).file.isSome ∧ (w.tables fd).claim ≠ .registered then
      some (w.update fd (w.tables fd).abandon)
    else none
  | .appSend fd m =>
    match (w.tables fd).receiver with
    | some (generation, queue) =>
      some (w.update fd { w.tables fd with receiver := some (generation, queue ++ [m]) })
    | none => none
  | .register fd state multishot =>
    match w.phase, (w.tables fd).claim, (w.tables fd).file with
    | .gathering, .unclaimed, some generation =>
      some (w.update fd ((w.tables fd).register generation state multishot))
    | _, _, _ => none
  | .shutdown fd generation =>
    if w.phase = .gathering ∧ generation < (w.tables fd).opened then
      let closePass := (w.tables fd).closePass ++ [generation]
      some (w.update fd { w.tables fd with closePass })
    else none
  | .gather clock =>
    if w.phase = .gathering then
      some { w with
        phase := .submitting
        tables := fun fd => (w.tables fd).gather (clock fd) }
    else none
  | .work fd budget room zerocopy =>
    if w.phase = .submitting ∧ 0 < budget ∧ 0 < room then
      let t := (w.tables fd).convert
      let submitted := (submitBatches budget room t.batches).1.length
      some { w.update fd (t.submitWork w.nextId budget room zerocopy) with
        nextId := w.nextId + submitted }
    else none
  | .ensureRead fd =>
    match w.phase, (w.tables fd).handler with
    | .submitting, some h =>
      if (w.tables fd).hasPendingReadOp then none
      else
        let ops := (w.tables fd).ops ++ [⟨w.nextId, .ringRead, h.generation, none⟩]
        some { w.update fd { w.tables fd with ops } with nextId := w.nextId + 1 }
    | _, _ => none
  | .submit ok =>
    if w.phase = .submitting then
      some { w with
        phase := .reaping
        tables := fun fd => if ok then (w.tables fd).execute else w.tables fd }
    else none
  | .complete fd userData cqe =>
    match w.phase, (w.tables fd).ops.find? (·.userData == userData) with
    | .reaping, some op =>
      if op.executed.isSome then some (w.update fd ((w.tables fd).complete op cqe)) else none
    | _, _ => none
  | .reaped => if w.phase = .reaping then some { w with phase := .gathering } else none

end UringWorker

end Rzmq
