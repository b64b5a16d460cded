import Rzmq.Lib.Transition
import Rzmq.Socket.Outgoing
import Rzmq.Socket.Router

/-! The DEALER socket's sending side and everything that runs beside it, as a transition system: any
number of calls, the outgoing processor that drains the queue of pending messages, the connections,
and the core.  A step is what one task does between two points where another task can run.  A task
that waits for a notification may be woken at any time. -/

namespace Rzmq

open Function Transition

variable {α : Type}

/-! The envelope -/

def dealerAutoEncode (frames : List (Msg α)) : List (Msg α) := delimiterBefore frames :: frames

def prepareFullMultipartSendSequence (framing : FramingLatch) (frames : List (Msg α)) :
    List (Msg α) :=
  match framing with
  | .manual => linked frames
  | .auto =>
    if frames.isEmpty then [Msg.new.setMore true, Msg.new]
    else linked (dealerAutoEncode frames)

/-- A first frame that is not empty counts as the identity that a ROUTER puts there, and the empty
frame at the front or after it is taken off. -/
def processIncomingZmtpMessageForDealer (framing : FramingLatch) (frames : List (Msg α)) :
    List (Msg α) :=
  match framing, frames with
  | _, [] => []
  | .manual, frames => frames
  | .auto, first :: rest =>
    if first.size ≠ 0 then
      match rest with
      | [] => []
      | second :: rest => if second.size ≠ 0 then second :: rest else rest
    else rest

namespace Dealer

/-- A message whose call has returned `Ok`, and its number among these.  The source does not keep
the number. -/
structure Logical (α : Type) where
  number : Nat
  frames : List (Msg α)
deriving DecidableEq

inductive SendTransaction (α : Type) where
  | idle
  | buffering (parts : List (Msg α))

/-- The message of a call of `send_logical_message`, with what the call has read of the options and
the attempts it has made. -/
structure Direct (α : Type) where
  wire : List (Msg α)
  sndtimeo : Timeout
  sndhwm : Nat
  attempts : Nat
  maxAttempts : Nat

inductive Call (α : Type) where
  | idle
  | locking (m : Msg α)
  | multiLocking (frames : List (Msg α)) (sndtimeo : Timeout)
  | multiWaiting (frames : List (Msg α)) (sndtimeo : Timeout)
  | starting (wire : List (Msg α))
  | attempting (d : Direct α)
  | picking (d : Direct α)
  | located (d : Direct α) (uri : String)
  | acquiring (d : Direct α) (uri : String) (connection pipe : Nat)
  | delivering (d : Direct α) (uri : String) (connection pipe : Nat)
  | queueing (d : Direct α)
  | measuring (d : Direct α)
  | pushing (d : Direct α)
  | full (d : Direct α)

structure Cycle (α : Type) where
  message : Logical α
  sndtimeo : Timeout
  attempts : Nat
  maxAttempts : Nat

inductive Processor (α : Type) where
  | waiting
  | woken
  | counting (message : Logical α)
  | checking (c : Cycle α)
  | picking (c : Cycle α)
  | located (c : Cycle α) (uri : String)
  | acquiring (c : Cycle α) (uri : String) (connection pipe : Nat)
  | delivering (c : Cycle α) (uri : String) (connection pipe : Nat)
  /-- The socket is closing: the message goes back here, and once more after the loop. -/
  | closing (message : Logical α)
  | requeueing (message : Logical α)
  | stopped

end Dealer

/-- `endpoints` and `pipeUri` are the maps of the core; `okayed` lists the messages whose calls
returned `Ok`, `accepted` those that a connection took, latest last, and `failed` the errors. -/
structure Dealer (α : Type) where
  running : Bool
  sndtimeo : Timeout
  sndhwm : Nat
  endpoints : String → Option EndpointInfo
  pipeUri : Nat → Option String
  loadBalancer : LoadBalancer
  pipeReadToEndpointUri : Nat → Option String
  pendingOutgoingQueue : List (Dealer.Logical α)
  processorStopSignal : Bool
  currentSendTransaction : Dealer.SendTransaction α
  pipeSendCoordinator : WritePipeCoordinator
  framing : FramingLatch
  calls : Nat → Dealer.Call α
  processor : Dealer.Processor α
  okayed : List (Dealer.Logical α)
  accepted : List (Nat × Dealer.Logical α)
  failed : List ZmqError

namespace Dealer

def new (sndtimeo : Timeout) (sndhwm : Nat) : Dealer α where
  running := true
  sndtimeo
  sndhwm
  endpoints _ := none
  pipeUri _ := none
  loadBalancer := .new
  pipeReadToEndpointUri _ := none
  pendingOutgoingQueue := []
  processorStopSignal := false
  currentSendTransaction := .idle
  pipeSendCoordinator := .new
  framing := .auto
  calls _ := .idle
  processor := .waiting
  okayed := []
  accepted := []
  failed := []

variable (s : Dealer α)

def setCall (t : Nat) (c : Call α) : Dealer α :=
  { s with calls := update s.calls t c }

def setProcessor (processor : Processor α) : Dealer α := { s with processor }

def fail (t : Nat) (e : ZmqError) : Dealer α :=
  { s.setCall t .idle with failed := s.failed ++ [e] }

def promise (frames : List (Msg α)) : Logical α := ⟨s.okayed.length, frames⟩

def removeConnection (uri : String) : Dealer α :=
  { s with loadBalancer := s.loadBalancer.removeConnection uri }

def removePipe (pipe : Nat) : Dealer α :=
  { s with pipeSendCoordinator := s.pipeSendCoordinator.removePipe pipe }

def release (pipe : Nat) : Dealer α :=
  { s with pipeSendCoordinator := s.pipeSendCoordinator.release pipe }

def connectionOf (uri : String) : Option (Nat × Nat) :=
  (s.endpoints uri).bind fun info =>
    info.pipeIds.map fun ids => (info.connectionIface, ids.2)

def permit (pipe : Nat) (timeout : Timeout) : Option (Except ZmqError WritePipeCoordinator) :=
  if s.pipeSendCoordinator.pipeStates pipe = some false ∧ timeout ≠ .zero then none
  else some (s.pipeSendCoordinator.acquireSendPermit pipe timeout (.ok ()))

def busy : ZmqError → Bool
  | .resourceLimitReached | .timeout => true
  | _ => false

def gone : ZmqError → Bool
  | .connectionClosed | .hostUnreachable _ => true
  | _ => false

/-! `send` and `send_multipart` -/

def maxDealerSendBufferParts : Nat := 10240

def sendBegin (t : Nat) (m : Msg α) : Option (Dealer α) :=
  match s.calls t with
  | .idle =>
    if !s.running then some (s.fail t (.invalidState "Socket is closing"))
    else some (s.setCall t (.locking m))
  | _ => none

def sendMultipartBegin (t : Nat) (frames : List (Msg α)) : Option (Dealer α) :=
  match s.calls t with
  | .idle =>
    if !s.running then some (s.fail t (.invalidState "Socket is closing"))
    else some (s.setCall t (.multiLocking frames s.sndtimeo))
  | _ => none

def lockTransaction (t : Nat) (m : Msg α) : Dealer α :=
  match m.isMore, s.currentSendTransaction with
  | true, .idle => { s.setCall t .idle with currentSendTransaction := .buffering [m] }
  | true, .buffering parts =>
    if parts.length ≥ maxDealerSendBufferParts then
      { s.fail t .resourceLimitReached with currentSendTransaction := .idle }
    else { s.setCall t .idle with currentSendTransaction := .buffering (parts ++ [m]) }
  | false, .idle => s.setCall t (.starting (prepareFullMultipartSendSequence s.framing [m]))
  | false, .buffering parts =>
    { s.setCall t (.starting (prepareFullMultipartSendSequence s.framing (parts ++ [m]))) with
      currentSendTransaction := .idle }

def lockMultipart (t : Nat) (frames : List (Msg α)) (sndtimeo : Timeout) : Dealer α :=
  match s.currentSendTransaction, sndtimeo with
  | .idle, _ => s.setCall t (.starting (prepareFullMultipartSendSequence s.framing frames))
  | .buffering _, .zero => s.fail t .resourceLimitReached
  | .buffering _, _ => s.setCall t (.multiWaiting frames sndtimeo)

def transactionDone (t : Nat) : Option (Dealer α) :=
  match s.calls t with
  | .multiWaiting frames sndtimeo => some (s.setCall t (.multiLocking frames sndtimeo))
  | _ => none

def transactionExpire (t : Nat) : Option (Dealer α) :=
  match s.calls t with
  | .multiWaiting _ .finite => some (s.fail t .timeout)
  | _ => none

def transactionClosing (t : Nat) : Option (Dealer α) :=
  match s.calls t with
  | .multiWaiting _ _ =>
    if s.running then none
    else some (s.fail t (.invalidState "Socket is closing while waiting for prior send tx"))
  | _ => none

/-! `send_logical_message` -/

def start (t : Nat) (wire : List (Msg α)) : Dealer α :=
  if !s.running then s.fail t (.invalidState "Socket is closing or terminated")
  else s.setCall t (.attempting
    ⟨wire, s.sndtimeo, max s.sndhwm 1, 0, max s.loadBalancer.connectionCount 1⟩)

def attempt (t : Nat) (d : Direct α) : Dealer α :=
  if d.attempts ≥ d.maxAttempts then s.setCall t (.queueing d)
  else if !s.running then s.fail t (.invalidState "Socket closing mid-send_logical_message")
  else s.setCall t (.picking { d with attempts := d.attempts + 1 })

def pick (t : Nat) (d : Direct α) : Dealer α :=
  match s.loadBalancer.getNextConnectionUri with
  | none => s.setCall t (.queueing d)
  | some (uri, loadBalancer) =>
    let s := { s with loadBalancer }
    if (s.endpoints uri).isSome then s.setCall t (.located d uri)
    else (s.removeConnection uri).setCall t (.attempting d)

def locate (t : Nat) (d : Direct α) (uri : String) : Dealer α :=
  match s.connectionOf uri with
  | some (connection, pipe) => s.setCall t (.acquiring d uri connection pipe)
  | none => (s.removeConnection uri).setCall t (.attempting d)

def permitDenied (t : Nat) (d : Direct α) (uri : String) (e : ZmqError) : Dealer α :=
  match e with
  | .resourceLimitReached | .timeout => s.setCall t (.queueing d)
  | .hostUnreachable _ => (s.removeConnection uri).setCall t (.attempting d)
  | e => s.fail t e

def acquire (t : Nat) (d : Direct α) (uri : String) (connection pipe : Nat) : Option (Dealer α) :=
  (s.permit pipe d.sndtimeo).map fun
    | .ok permits =>
      { s with pipeSendCoordinator := permits }.setCall t (.delivering d uri connection pipe)
    | .error e => s.permitDenied t d uri e

def permitExpire (t : Nat) : Option (Dealer α) :=
  match s.calls t with
  | .acquiring d uri _ pipe =>
    if s.pipeSendCoordinator.pipeStates pipe = some false ∧ d.sndtimeo = .finite then
      some (s.permitDenied t d uri .timeout)
    else none
  | _ => none

def accept (t : Nat) : Option (Dealer α) :=
  match s.calls t with
  | .delivering d _ connection pipe =>
    some { (s.release pipe).setCall t .idle with
      okayed := s.okayed ++ [s.promise d.wire]
      accepted := s.accepted ++ [(connection, s.promise d.wire)] }
  | _ => none

def refuse (t : Nat) (e : ZmqError) : Option (Dealer α) :=
  match s.calls t with
  | .delivering d uri _ pipe =>
    if busy e then some ((s.release pipe).setCall t (.attempting d))
    else if gone e then
      some (((s.removeConnection uri).removePipe pipe).setCall t (.attempting d))
    else some ((s.release pipe).fail t e)
  | _ => none

/-! `queue_message_or_error` -/

def queueCheck (t : Nat) (d : Direct α) : Dealer α :=
  if !s.running then s.fail t (.invalidState "Socket is closing while trying to queue")
  else s.setCall t (.measuring d)

def measure (t : Nat) (d : Direct α) : Dealer α :=
  if s.pendingOutgoingQueue.length < d.sndhwm then s.setCall t (.pushing d)
  else
    match d.sndtimeo with
    | .zero => s.fail t .resourceLimitReached
    | _ => s.setCall t (.full d)

def push (t : Nat) (d : Direct α) : Dealer α :=
  { s.setCall t .idle with
    okayed := s.okayed ++ [s.promise d.wire]
    pendingOutgoingQueue := s.pendingOutgoingQueue ++ [s.promise d.wire] }

def queueWake (t : Nat) : Option (Dealer α) :=
  match s.calls t with
  | .full d => some (s.setCall t (.queueing d))
  | _ => none

def queueExpire (t : Nat) : Option (Dealer α) :=
  match s.calls t with
  | .full d => if d.sndtimeo = .finite then some (s.fail t .timeout) else none
  | _ => none

def advance (t : Nat) : Option (Dealer α) :=
  match s.calls t with
  | .locking m => some (s.lockTransaction t m)
  | .multiLocking frames sndtimeo => some (s.lockMultipart t frames sndtimeo)
  | .starting wire => some (s.start t wire)
  | .attempting d => some (s.attempt t d)
  | .picking d => some (s.pick t d)
  | .located d uri => some (s.locate t d uri)
  | .acquiring d uri connection pipe => s.acquire t d uri connection pipe
  | .queueing d => some (s.queueCheck t d)
  | .measuring d => some (s.measure t d)
  | .pushing d => some (s.push t d)
  | _ => none

/-! `DealerSocketOutgoingProcessor::run` -/

def processorWake : Option (Dealer α) :=
  match s.processor with
  | .waiting =>
    if s.processorStopSignal then some (s.setProcessor .stopped) else some (s.setProcessor .woken)
  | _ => none

def processorPop : Dealer α :=
  match s.pendingOutgoingQueue with
  | message :: rest =>
    if s.loadBalancer.hasConnections then
      { s.setProcessor (.counting message) with pendingOutgoingQueue := rest }
    else s.setProcessor .waiting
  | [] => s.setProcessor .waiting

def processorCheck (c : Cycle α) : Dealer α :=
  if c.attempts < c.maxAttempts then
    if !s.running then s.setProcessor (.closing c.message)
    else s.setProcessor (.picking { c with attempts := c.attempts + 1 })
  else s.setProcessor (.requeueing c.message)

def processorPick (c : Cycle α) : Dealer α :=
  match s.loadBalancer.getNextConnectionUri with
  | some (uri, loadBalancer) => { s.setProcessor (.located c uri) with loadBalancer }
  | none => s.setProcessor (.requeueing c.message)

def processorLocate (c : Cycle α) (uri : String) : Dealer α :=
  match s.connectionOf uri with
  | some (connection, pipe) => s.setProcessor (.acquiring c uri connection pipe)
  | none => (s.removeConnection uri).setProcessor (.checking c)

def processorDenied (c : Cycle α) (uri : String) (e : ZmqError) : Dealer α :=
  match e with
  | .hostUnreachable _ => (s.removeConnection uri).setProcessor (.checking c)
  | _ => s.setProcessor (.checking c)

def processorAcquire (c : Cycle α) (uri : String) (connection pipe : Nat) : Option (Dealer α) :=
  (s.permit pipe c.sndtimeo).map fun
    | .ok permits =>
      { s with pipeSendCoordinator := permits }.setProcessor (.delivering c uri connection pipe)
    | .error e => s.processorDenied c uri e

def processorPermitExpire : Option (Dealer α) :=
  match s.processor with
  | .acquiring c uri _ pipe =>
    if s.pipeSendCoordinator.pipeStates pipe = some false ∧ c.sndtimeo = .finite then
      some (s.processorDenied c uri .timeout)
    else none
  | _ => none

def processorAccept : Option (Dealer α) :=
  match s.processor with
  | .delivering c _ connection pipe =>
    some { (s.release pipe).setProcessor .waiting with
      accepted := s.accepted ++ [(connection, c.message)] }
  | _ => none

def processorRefuse (e : ZmqError) : Option (Dealer α) :=
  match s.processor with
  | .delivering c uri _ pipe =>
    if busy e then some ((s.release pipe).setProcessor (.checking c))
    else if gone e then
      some (((s.removeConnection uri).removePipe pipe).setProcessor (.checking c))
    else some ((s.release pipe).setProcessor (.checking { c with attempts := c.maxAttempts }))
  | _ => none

def pushFront (message : Logical α) : Dealer α :=
  { s with pendingOutgoingQueue := message :: s.pendingOutgoingQueue }

def processorAdvance : Option (Dealer α) :=
  match s.processor with
  | .woken => some s.processorPop
  | .counting message =>
    some (s.setProcessor (.checking ⟨message, s.sndtimeo, 0, max s.loadBalancer.connectionCount 1⟩))
  | .checking c => some (s.processorCheck c)
  | .picking c => some (s.processorPick c)
  | .located c uri => some (s.processorLocate c uri)
  | .acquiring c uri connection pipe => s.processorAcquire c uri connection pipe
  | .closing message => some ((s.pushFront message).setProcessor (.requeueing message))
  | .requeueing message => some ((s.pushFront message).setProcessor .waiting)
  | _ => none

/-! `pipe_attached` and `pipe_detached` -/

def attach (p : Nat) : Dealer α :=
  match s.pipeUri p with
  | some uri =>
    { s with
      pipeReadToEndpointUri := update s.pipeReadToEndpointUri p (some uri)
      loadBalancer := s.loadBalancer.addConnection uri
      pipeSendCoordinator := s.pipeSendCoordinator.addPipe p }
  | none => s

def detach (p : Nat) : Dealer α :=
  let unmapped := { s with pipeReadToEndpointUri := update s.pipeReadToEndpointUri p none }
  match s.pipeReadToEndpointUri p with
  | some uri => (unmapped.removeConnection uri).removePipe p
  | none => unmapped.removePipe p

inductive Action (α : Type) where
  | sendBegin (t : Nat) (m : Msg α)
  | sendMultipartBegin (t : Nat) (frames : List (Msg α))
  | advance (t : Nat)
  | transactionDone (t : Nat)
  | transactionExpire (t : Nat)
  | transactionClosing (t : Nat)
  | permitExpire (t : Nat)
  | accept (t : Nat)
  | refuse (t : Nat) (e : ZmqError)
  | queueWake (t : Nat)
  | queueExpire (t : Nat)
  | processorWake
  | processorAdvance
  | processorPermitExpire
  | processorAccept
  | processorRefuse (e : ZmqError)
  | attach (p : Nat)
  | detach (p : Nat)
  | setEndpoint (uri : String) (info : Option EndpointInfo)
  | setPipeUri (p : Nat) (uri : Option String)
  | setOptions (sndtimeo : Timeout) (sndhwm : Nat)
  | setManual
  | shutdown
  | stop

def step : Action α → Option (Dealer α)
  | .sendBegin t m => s.sendBegin t m
  | .sendMultipartBegin t frames => s.sendMultipartBegin t frames
  | .advance t => s.advance t
  | .transactionDone t => s.transactionDone t
  | .transactionExpire t => s.transactionExpire t
  | .transactionClosing t => s.transactionClosing t
  | .permitExpire t => s.permitExpire t
  | .accept t => s.accept t
  | .refuse t e => s.refuse t e
  | .queueWake t => s.queueWake t
  | .queueExpire t => s.queueExpire t
  | .processorWake => s.processorWake
  | .processorAdvance => s.processorAdvance
  | .processorPermitExpire => s.processorPermitExpire
  | .processorAccept => s.processorAccept
  | .processorRefuse e => s.processorRefuse e
  | .attach p => some (s.attach p)
  | .detach p => some (s.detach p)
  | .setEndpoint uri info => some { s with endpoints := update s.endpoints uri info }
  | .setPipeUri p uri => some { s with pipeUri := update s.pipeUri p uri }
  | .setOptions sndtimeo sndhwm => some { s with sndtimeo, sndhwm }
  | .setManual => some { s with framing := .manual }
  | .shutdown => some { s with running := false }
  | .stop => some { s with processorStopSignal := true }

end Dealer

end Rzmq
