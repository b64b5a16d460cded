import Rzmq.Lib.Transition
import Rzmq.Socket.Outgoing

/-! The REQ socket and everything that runs beside it, as a transition system: any number of calls,
each of which may be cancelled at an await, the sessions, the core, and peers that answer each
request once and in order.  A step is what one task does between two points where another task can
run. -/

namespace Rzmq

open Function

inductive ReqState where
  | readyToSend
  | expectingReply (targetEndpointUri : String)
deriving DecidableEq

/-- How far a `notified()` future has been woken: not yet, by `notify_one`, by `notify_waiters`. -/
inductive Wake where
  | pending
  | one
  | all
deriving DecidableEq

inductive ReqCall (α : Type) where
  | idle
  | sendChecked (m : Msg α) (sndtimeo : Timeout)
  | sendPicked (m : Msg α) (uri : String)
  | sendTo (m : Msg α) (uri : String) (pipe : Nat)
  /-- The connection has taken the request, the state is not yet written. -/
  | sendAccepted (m : Msg α) (uri : String)
  | sendReset (m : Msg α)
  /-- In `select!`: the `notified()` future and the future of the orchestrator. -/
  | recvSelect (wake : Wake) (rcvtimeo : Timeout) (fut : RecvMessage α)
  /-- In the body of the `notified()` arm, before and after its `is_running` check. -/
  | recvNotified
  | recvPoll (fut : RecvMessage α)
  | recvDone (result : Except ZmqError (Msg α))
  | recvReturning (result : Except ZmqError (Msg α)) (shouldNotify : Bool)
  | multiRecv (rcvtimeo : Timeout) (fut : RecvLogicalMessage)
  | multiPopped (result : Except ZmqError (List (Msg α)))

inductive ReqHandler (α : Type) where
  | idle
  | located (frame : Msg α) (sourceUri : String)
  | expected (frame : Msg α)
  | queueing (parts : List (Msg α))
  | queued
  | refused

inductive Detach where
  | idle
  | notifying (shouldNotify : Bool)
  | clearing
  | resetting

inductive Returned (α : Type) where
  | sent (m : Msg α)
  | received (frames : List (Msg α))
  | failed (e : ZmqError)

/-- `endpoints` and `pipeUri` are the maps of the core; `wire p` holds the frames that the peer
behind `p` was asked for and its session has yet to hand over; `returned` lists what calls have
returned, latest first. -/
structure Req (α : Type) where
  running : Bool
  sndtimeo : Timeout
  rcvtimeo : Timeout
  endpoints : String → Option Nat
  pipeUri : Nat → Option String
  state : ReqState
  loadBalancer : LoadBalancer
  pipeReadToEndpointUri : Nat → Option String
  orchestrator : IncomingMessageOrchestrator (List (Msg α)) α
  permit : Bool
  waiters : List Nat
  calls : Nat → ReqCall α
  handlers : Nat → ReqHandler α
  detaches : Nat → Detach
  wire : Nat → List (Msg α)
  returned : List (Returned α)

structure Replier (α : Type) where
  reply : Msg α → List (Msg α)
  framed : ∀ m, Framed (reply m)

namespace Req

variable {α : Type}

def new (sndtimeo rcvtimeo : Timeout) : Req α where
  running := true
  sndtimeo
  rcvtimeo
  endpoints _ := none
  pipeUri _ := none
  state := .readyToSend
  loadBalancer := .new
  pipeReadToEndpointUri _ := none
  orchestrator := .new 1
  permit := false
  waiters := []
  calls _ := .idle
  handlers _ := .idle
  detaches _ := .idle
  wire _ := []
  returned := []

def delimiter : Msg α := Msg.new.setMore true

variable (s : Req α) (t : Nat)

def setCall (c : ReqCall α) : Req α := { s with calls := update s.calls t c }

def setHandler (p : Nat) (h : ReqHandler α) : Req α :=
  { s with handlers := update s.handlers p h }

def finish (r : Returned α) : Req α :=
  { s.setCall t .idle with returned := r :: s.returned }

/-! The notifier -/

def wakeCall (wake : Wake) : ReqCall α → ReqCall α
  | .recvSelect _ rcvtimeo fut => .recvSelect wake rcvtimeo fut
  | c => c

def notifyOne : Req α :=
  match s.waiters with
  | [] => { s with permit := true }
  | t :: rest => { s.setCall t (wakeCall .one (s.calls t)) with waiters := rest }

def notifyWaiters : Req α :=
  { s with
    calls := fun t => if t ∈ s.waiters then wakeCall .all (s.calls t) else s.calls t
    waiters := [] }

/-- The `notified()` future of task `t` is dropped; a `notify_one` that it has not seen passes to
the next. -/
def dropNotified (wake : Wake) : Req α :=
  let s := { s with waiters := s.waiters.erase t }
  if wake = .one then s.notifyOne else s

/-! `send` -/

def addConnection (uri : String) : Req α :=
  { s with loadBalancer := s.loadBalancer.addConnection uri }

def removeConnection (uri : String) : Req α :=
  { s with loadBalancer := s.loadBalancer.removeConnection uri }

def sendBegin (m : Msg α) : Option (Req α) :=
  match s.calls t with
  | .idle =>
    if !s.running then some (s.finish t (.failed (.invalidState "Socket is closing")))
    else if s.state ≠ .readyToSend then
      some (s.finish t (.failed (.invalidState "REQ socket must call send() before sending again")))
    else some (s.setCall t (.sendChecked (m.setMore false) s.sndtimeo))
  | _ => none

def sendPick : Option (Req α) :=
  match s.calls t with
  | .sendChecked m sndtimeo =>
    match s.loadBalancer.getNextConnectionUri with
    | some (uri, loadBalancer) =>
      let s := { s with loadBalancer }
      if (s.endpoints uri).isSome then some (s.setCall t (.sendPicked m uri))
      else some (s.removeConnection uri)
    | none =>
      if !s.running then
        some (s.finish t (.failed (.invalidState "Socket terminated while waiting for peer")))
      else
        match sndtimeo with
        | .zero => some (s.finish t (.failed .resourceLimitReached))
        | _ => none
  | _ => none

def sendExpire : Option (Req α) :=
  match s.calls t with
  | .sendChecked _ .finite =>
    if s.loadBalancer.hasConnections then none else some (s.finish t (.failed .timeout))
  | _ => none

def sendResolve : Option (Req α) :=
  match s.calls t with
  | .sendPicked m uri =>
    match s.endpoints uri with
    | some pipe => some (s.setCall t (.sendTo m uri pipe))
    | none =>
      some ((s.removeConnection uri).finish t
        (.failed (.hostUnreachable ("REQ: Peer at " ++ uri ++ " disappeared before send"))))
  | _ => none

def sendAccept (f : Replier α) (s : Req α) (t : Nat) : Option (Req α) :=
  match s.calls t with
  | .sendTo m uri pipe =>
    some { s.setCall t (.sendAccepted m uri) with
      wire := update s.wire pipe (s.wire pipe ++ delimiter :: f.reply m) }
  | _ => none

def sendRefuse (e : ZmqError) : Option (Req α) :=
  match s.calls t with
  | .sendTo _ uri _ =>
    if e = .connectionClosed then
      some ((s.removeConnection uri).finish t
        (.failed (.hostUnreachable ("REQ: Connection to " ++ uri ++ " closed during send"))))
    else some (s.finish t (.failed e))
  | _ => none

def sendExpect : Option (Req α) :=
  match s.calls t with
  | .sendAccepted m uri => some { s.setCall t (.sendReset m) with state := .expectingReply uri }
  | _ => none

def sendFinish : Option (Req α) :=
  match s.calls t with
  | .sendReset m =>
    some { s.finish t (.sent m) with orchestrator := s.orchestrator.resetRecvMessageBuffer }
  | _ => none

/-! `recv` and `recv_multipart` -/

def receiveBegin (notSent : String) (next : Req α) : Option (Req α) :=
  match s.calls t with
  | .idle =>
    if !s.running then some (s.finish t (.failed (.invalidState "Socket is closing")))
    else if s.state = .readyToSend then some (s.finish t (.failed (.invalidState notSent)))
    else some next
  | _ => none

def recvBegin : Option (Req α) :=
  s.receiveBegin t "REQ socket must call send() before receiving"
    { s.setCall t (.recvSelect .pending s.rcvtimeo .locking) with waiters := s.waiters ++ [t] }

/-- The `notified()` arm wins: the future of the orchestrator is dropped with what it holds. -/
def recvWake : Option (Req α) :=
  match s.calls t with
  | .recvSelect .pending _ _ =>
    if s.permit then
      some { s.setCall t .recvNotified with permit := false, waiters := s.waiters.erase t }
    else none
  | .recvSelect _ _ _ => some (s.setCall t .recvNotified)
  | _ => none

def interrupted : ZmqError :=
  if s.state = .readyToSend then .connectionClosed
  else .internal "Receive operation interrupted by notification without immediate data."

def pollResult : Except ZmqError (Msg α) → Except ZmqError (Msg α)
  | .ok m => .ok m
  | .error .resourceLimitReached => .error s.interrupted
  | .error .timeout => .error s.interrupted
  | .error e => .error e

def recvAdvance : Option (Req α) :=
  match s.calls t with
  | .recvSelect wake rcvtimeo fut =>
    match fut.poll id rcvtimeo s.orchestrator with
    | none => none
    | some (.inl fut', o) =>
      some { s.setCall t (.recvSelect wake rcvtimeo fut') with orchestrator := o }
    | some (.inr result, o) =>
      some (({ s with orchestrator := o }.dropNotified t wake).setCall t (.recvDone result))
  | .recvNotified =>
    if s.running then some (s.setCall t (.recvPoll .locking))
    else some (s.setCall t (.recvDone (.error .connectionClosed)))
  | .recvPoll fut =>
    match fut.poll id .zero s.orchestrator with
    | none => none
    | some (.inl fut', o) => some { s.setCall t (.recvPoll fut') with orchestrator := o }
    | some (.inr result, o) =>
      some { s.setCall t (.recvDone (s.pollResult result)) with orchestrator := o }
  | _ => none

def recvExpire : Option (Req α) :=
  match s.calls t with
  | .recvSelect wake .finite .popping =>
    some ((s.dropNotified t wake).setCall t (.recvDone (.error .timeout)))
  | _ => none

/-- Whether the final update of `recv` looks at the state: not after a frame with MORE. -/
def concludes : Except ZmqError (Msg α) → Bool
  | .ok m => !m.isMore
  | .error _ => true

def recvUpdate : Option (Req α) :=
  match s.calls t with
  | .recvDone result =>
    if concludes result && s.state ≠ .readyToSend then
      some { s.setCall t (.recvReturning result true) with state := .readyToSend }
    else some (s.setCall t (.recvReturning result false))
  | _ => none

def outcome : Except ZmqError (List (Msg α)) → Returned α
  | .ok frames => .received frames
  | .error e => .failed e

def recvReturn : Option (Req α) :=
  match s.calls t with
  | .recvReturning result shouldNotify =>
    let s := if shouldNotify then s.notifyWaiters else s
    some (s.finish t (outcome (result.map fun m => [m])))
  | _ => none

def multiBegin : Option (Req α) :=
  s.receiveBegin t "REQ socket must call send() before receiving reply"
    (s.setCall t (.multiRecv s.rcvtimeo .locking))

def multiAdvance : Option (Req α) :=
  match s.calls t with
  | .multiRecv rcvtimeo fut =>
    match fut.poll rcvtimeo s.orchestrator with
    | none => none
    | some (.inl fut', o) => some { s.setCall t (.multiRecv rcvtimeo fut') with orchestrator := o }
    | some (.inr result, o) => some { s.setCall t (.multiPopped result) with orchestrator := o }
  | _ => none

def multiExpire : Option (Req α) :=
  match s.calls t with
  | .multiRecv .finite .popping => some (s.setCall t (.multiPopped (.error .timeout)))
  | _ => none

/-- The state is set under its lock by the closure, or after an error if a reply is expected. -/
def multiReturn : Option (Req α) :=
  match s.calls t with
  | .multiPopped (.ok frames) =>
    some ({ s with state := .readyToSend }.notifyWaiters.finish t (.received frames))
  | .multiPopped (.error e) =>
    if s.state = .readyToSend then some (s.finish t (.failed e))
    else some ({ s with state := .readyToSend }.notifyWaiters.finish t (.failed e))
  | _ => none

def cancel : Option (Req α) :=
  match s.calls t with
  | .sendChecked _ _ | .sendTo _ _ _ | .sendAccepted _ _ | .sendReset _ | .recvNotified
  | .recvPoll _ | .multiRecv _ _ => some (s.setCall t .idle)
  | .recvSelect wake _ _ => some ((s.dropNotified t wake).setCall t .idle)
  | _ => none

/-! `handle_pipe_event` -/

def processIncomingZmtpMessageForReq : List (Msg α) → List (Msg α)
  | [] => []
  | first :: rest => if first.size = 0 then rest else first :: rest

def deliver (p : Nat) : Option (Req α) :=
  match s.handlers p, s.wire p with
  | .idle, frame :: rest =>
    let s := { s with wire := update s.wire p rest }
    match s.pipeReadToEndpointUri p with
    | none => some s
    | some uri => some (s.setHandler p (.located frame uri))
  | _, _ => none

def checkExpected (p : Nat) : Option (Req α) :=
  match s.handlers p with
  | .located frame uri =>
    if s.state = .expectingReply uri then some (s.setHandler p (.expected frame))
    else some (s.setHandler p .idle)
  | _ => none

def accumulate (p : Nat) : Option (Req α) :=
  match s.handlers p with
  | .expected frame =>
    match s.orchestrator.accumulatePipeFrame p frame with
    | (none, o) => some { s.setHandler p .idle with orchestrator := o }
    | (some frames, o) =>
      some { s.setHandler p (.queueing (processIncomingZmtpMessageForReq frames)) with
        orchestrator := o }
  | _ => none

def queueReply (p : Nat) : Option (Req α) :=
  match s.handlers p with
  | .queueing parts =>
    match s.orchestrator.queueItem parts with
    | none => none
    | some (.ok o) => some { s.setHandler p .queued with orchestrator := o }
    | some (.error _) => some (s.setHandler p .refused)
  | _ => none

/-- The push times out: the item is dropped and `queue_item` returns `Ok` all the same. -/
def queueExpire (p : Nat) : Option (Req α) :=
  match s.handlers p with
  | .queueing _ => some (s.setHandler p .queued)
  | _ => none

def notifyQueued (p : Nat) : Option (Req α) :=
  match s.handlers p with
  | .queued => some (s.setHandler p .idle).notifyOne
  | .refused => some ({ s with state := .readyToSend }.setHandler p .idle).notifyWaiters
  | _ => none

/-! `pipe_attached` and `pipe_detached` -/

def attach (p : Nat) : Option (Req α) :=
  match s.pipeUri p with
  | some uri =>
    some ({ s with
      pipeReadToEndpointUri := update s.pipeReadToEndpointUri p (some uri) }.addConnection uri)
  | none => some s

def detachBegin (p : Nat) : Option (Req α) :=
  match s.detaches p with
  | .idle =>
    let unmapped := { s with
      pipeReadToEndpointUri := update s.pipeReadToEndpointUri p none }
    let next (s : Req α) (shouldNotify : Bool) : Req α :=
      { s with detaches := update s.detaches p (.notifying shouldNotify) }
    match s.pipeReadToEndpointUri p with
    | none => some (next unmapped false)
    | some uri =>
      let removed := unmapped.removeConnection uri
      if s.state = .expectingReply uri then
        some (next { removed with state := .readyToSend } true)
      else some (next removed false)
  | _ => none

def detachAdvance (p : Nat) : Option (Req α) :=
  match s.detaches p with
  | .notifying shouldNotify =>
    let s := { s with detaches := update s.detaches p .clearing }
    some (if shouldNotify then s.notifyOne else s)
  | .clearing =>
    some { s with
      detaches := update s.detaches p .resetting
      orchestrator := s.orchestrator.removePartial p }
  | .resetting =>
    some { s with
      detaches := update s.detaches p .idle
      orchestrator := s.orchestrator.resetRecvMessageBuffer }
  | .idle => none

end Req

inductive ReqAction (α : Type) where
  | sendBegin (t : Nat) (m : Msg α)
  | sendPick (t : Nat)
  | sendExpire (t : Nat)
  | sendResolve (t : Nat)
  | sendAccept (t : Nat)
  | sendRefuse (t : Nat) (e : ZmqError)
  | sendExpect (t : Nat)
  | sendFinish (t : Nat)
  | recvBegin (t : Nat)
  | recvWake (t : Nat)
  | recvAdvance (t : Nat)
  | recvExpire (t : Nat)
  | recvUpdate (t : Nat)
  | recvReturn (t : Nat)
  | multiBegin (t : Nat)
  | multiAdvance (t : Nat)
  | multiExpire (t : Nat)
  | multiReturn (t : Nat)
  | cancel (t : Nat)
  | deliver (p : Nat)
  | checkExpected (p : Nat)
  | accumulate (p : Nat)
  | queueReply (p : Nat)
  | queueExpire (p : Nat)
  | notifyQueued (p : Nat)
  | attach (p : Nat)
  | detachBegin (p : Nat)
  | detachAdvance (p : Nat)
  /-- The connection of pipe `p` is lost with the frames it carries. -/
  | lose (p : Nat)
  | setEndpoint (uri : String) (pipe : Option Nat)
  | setPipeUri (p : Nat) (uri : Option String)
  | setTimeouts (sndtimeo rcvtimeo : Timeout)
  /-- `Command::Stop`. -/
  | stop

namespace Req

variable {α : Type}

def step (f : Replier α) (s : Req α) : ReqAction α → Option (Req α)
  | .sendBegin t m => s.sendBegin t m
  | .sendPick t => s.sendPick t
  | .sendExpire t => s.sendExpire t
  | .sendResolve t => s.sendResolve t
  | .sendAccept t => sendAccept f s t
  | .sendRefuse t e => s.sendRefuse t e
  | .sendExpect t => s.sendExpect t
  | .sendFinish t => s.sendFinish t
  | .recvBegin t => s.recvBegin t
  | .recvWake t => s.recvWake t
  | .recvAdvance t => s.recvAdvance t
  | .recvExpire t => s.recvExpire t
  | .recvUpdate t => s.recvUpdate t
  | .recvReturn t => s.recvReturn t
  | .multiBegin t => s.multiBegin t
  | .multiAdvance t => s.multiAdvance t
  | .multiExpire t => s.multiExpire t
  | .multiReturn t => s.multiReturn t
  | .cancel t => s.cancel t
  | .deliver p => s.deliver p
  | .checkExpected p => s.checkExpected p
  | .accumulate p => s.accumulate p
  | .queueReply p => s.queueReply p
  | .queueExpire p => s.queueExpire p
  | .notifyQueued p => s.notifyQueued p
  | .attach p => s.attach p
  | .detachBegin p => s.detachBegin p
  | .detachAdvance p => s.detachAdvance p
  | .lose p => some { s with wire := update s.wire p [] }
  | .setEndpoint uri pipe => some { s with endpoints := update s.endpoints uri pipe }
  | .setPipeUri p uri => some { s with pipeUri := update s.pipeUri p uri }
  | .setTimeouts sndtimeo rcvtimeo => some { s with sndtimeo, rcvtimeo }
  | .stop => some { s with running := false }.notifyWaiters

/-! A peer that echoes, and what an undisturbed exchange with it looks like -/

def echo : Replier α := ⟨fun m => [m.setMore false], fun _ => rfl⟩

def connecting (p : Nat) (uri : String) : List (ReqAction α) :=
  [.setEndpoint uri (some p), .setPipeUri p (some uri), .attach p]

def sending (t : Nat) (m : Msg α) : List (ReqAction α) :=
  [.sendBegin t m, .sendPick t, .sendResolve t, .sendAccept t, .sendExpect t, .sendFinish t]

def delivering (p : Nat) : List (ReqAction α) :=
  [.deliver p, .checkExpected p, .accumulate p, .deliver p, .checkExpected p, .accumulate p,
    .queueReply p, .notifyQueued p]

def receiving (t : Nat) : List (ReqAction α) :=
  [.recvBegin t, .recvWake t, .recvAdvance t, .recvAdvance t, .recvAdvance t, .recvAdvance t,
    .recvUpdate t, .recvReturn t]

def firstRequest : Msg UInt8 := .fromBytes [1] .empty (by decide)

end Req

/-! What a step of a REQ socket can do, one case for each way in which it can go.  The invariants
are proved from these cases and do not look into the steps again. -/

namespace Req

variable {α : Type}

variable (f : Replier α) (s : Req α)

inductive StepCase : ReqAction α → Req α → Prop where
  | sendRejected (e : ZmqError) (call : s.calls t = .idle) :
      StepCase (.sendBegin t m) (s.finish t (.failed e))
  | recvRejected (e : ZmqError) (call : s.calls t = .idle) :
      StepCase (.recvBegin t) (s.finish t (.failed e))
  | multiRejected (e : ZmqError) (call : s.calls t = .idle) :
      StepCase (.multiBegin t) (s.finish t (.failed e))
  | check (call : s.calls t = .idle) (running : s.running = true)
      (ready : s.state = .readyToSend) :
      StepCase (.sendBegin t m) (s.setCall t (.sendChecked (m.setMore false) s.sndtimeo))
  | pick {sndtimeo : _} (call : s.calls t = .sendChecked m sndtimeo)
      (balanced : s.loadBalancer.getNextConnectionUri = some (uri, next))
      (attached : (s.endpoints uri).isSome) :
      StepCase (.sendPick t) ({ s with loadBalancer := next }.setCall t (.sendPicked m uri))
  | skip {sndtimeo : _} (call : s.calls t = .sendChecked m sndtimeo)
      (balanced : s.loadBalancer.getNextConnectionUri = some (uri, next))
      (gone : s.endpoints uri = none) :
      StepCase (.sendPick t) ({ s with loadBalancer := next }.removeConnection uri)
  | pickFailed {sndtimeo : _} (e : ZmqError) (call : s.calls t = .sendChecked m sndtimeo)
      (none : s.loadBalancer.getNextConnectionUri = none) :
      StepCase (.sendPick t) (s.finish t (.failed e))
  | sendTimeout (call : s.calls t = .sendChecked m .finite)
      (none : ¬ s.loadBalancer.hasConnections) :
      StepCase (.sendExpire t) (s.finish t (.failed .timeout))
  | resolve (call : s.calls t = .sendPicked m uri)
      (found : s.endpoints uri = some pipe) :
      StepCase (.sendResolve t) (s.setCall t (.sendTo m uri pipe))
  | resolveFailed (e : ZmqError) (call : s.calls t = .sendPicked m uri)
      (gone : s.endpoints uri = none) :
      StepCase (.sendResolve t) ((s.removeConnection uri).finish t (.failed e))
  | accept (call : s.calls t = .sendTo m uri pipe) :
      StepCase (.sendAccept t) { s.setCall t (.sendAccepted m uri) with
        wire := update s.wire pipe (s.wire pipe ++ delimiter :: f.reply m) }
  | refuseClosed (e : ZmqError) (call : s.calls t = .sendTo m uri pipe) :
      StepCase (.sendRefuse t .connectionClosed) ((s.removeConnection uri).finish t (.failed e))
  | refuse (e : ZmqError) (call : s.calls t = .sendTo m uri pipe)
      (other : e ≠ .connectionClosed) : StepCase (.sendRefuse t e) (s.finish t (.failed e))
  | expect (call : s.calls t = .sendAccepted m uri) :
      StepCase (.sendExpect t) { s.setCall t (.sendReset m) with state := .expectingReply uri }
  | sent (call : s.calls t = .sendReset m) :
      StepCase (.sendFinish t)
        { s.finish t (.sent m) with orchestrator := s.orchestrator.resetRecvMessageBuffer }
  | select (call : s.calls t = .idle) (running : s.running = true)
      (expecting : s.state ≠ .readyToSend) :
      StepCase (.recvBegin t)
        { s.setCall t (.recvSelect .pending s.rcvtimeo .locking) with waiters := s.waiters ++ [t] }
  | wakeByPermit {rcvtimeo : _} (call : s.calls t = .recvSelect .pending rcvtimeo fut)
      (permit : s.permit = true) :
      StepCase (.recvWake t)
        { s.setCall t .recvNotified with permit := false, waiters := s.waiters.erase t }
  | wake {rcvtimeo : _} (call : s.calls t = .recvSelect wake rcvtimeo fut)
      (woken : wake ≠ .pending) : StepCase (.recvWake t) (s.setCall t .recvNotified)
  | selectOn {rcvtimeo : _} (call : s.calls t = .recvSelect wake rcvtimeo fut)
      (polled : fut.poll id rcvtimeo s.orchestrator = some (.inl fut', o)) :
      StepCase (.recvAdvance t)
        { s.setCall t (.recvSelect wake rcvtimeo fut') with orchestrator := o }
  | selected {rcvtimeo : _} (call : s.calls t = .recvSelect wake rcvtimeo fut)
      (polled : fut.poll id rcvtimeo s.orchestrator = some (.inr result, o)) :
      StepCase (.recvAdvance t)
        (({ s with orchestrator := o }.dropNotified t wake).setCall t (.recvDone result))
  | recheck (call : s.calls t = .recvNotified) (running : s.running = true) :
      StepCase (.recvAdvance t) (s.setCall t (.recvPoll .locking))
  | recheckClosed (call : s.calls t = .recvNotified) (stopped : s.running = false) :
      StepCase (.recvAdvance t) (s.setCall t (.recvDone (.error .connectionClosed)))
  | pollOn (call : s.calls t = .recvPoll fut)
      (polled : fut.poll id .zero s.orchestrator = some (.inl fut', o)) :
      StepCase (.recvAdvance t) { s.setCall t (.recvPoll fut') with orchestrator := o }
  | polled (call : s.calls t = .recvPoll fut)
      (polled : fut.poll id .zero s.orchestrator = some (.inr result, o)) :
      StepCase (.recvAdvance t)
        { s.setCall t (.recvDone (s.pollResult result)) with orchestrator := o }
  | recvTimeout (call : s.calls t = .recvSelect wake .finite .popping) :
      StepCase (.recvExpire t) ((s.dropNotified t wake).setCall t (.recvDone (.error .timeout)))
  | giveBack (call : s.calls t = .recvDone result) (last : concludes result = true)
      (expecting : s.state ≠ .readyToSend) :
      StepCase (.recvUpdate t)
        { s.setCall t (.recvReturning result true) with state := .readyToSend }
  | keepState (call : s.calls t = .recvDone result)
      (keeps : concludes result = true → s.state = .readyToSend) :
      StepCase (.recvUpdate t) (s.setCall t (.recvReturning result false))
  | recvTells (call : s.calls t = .recvReturning result true) :
      StepCase (.recvReturn t)
        (s.notifyWaiters.finish t (outcome (result.map fun m => [m])))
  | recvReturns (call : s.calls t = .recvReturning result false) :
      StepCase (.recvReturn t) (s.finish t (outcome (result.map fun m => [m])))
  | multiStart (call : s.calls t = .idle) (running : s.running = true)
      (expecting : s.state ≠ .readyToSend) :
      StepCase (.multiBegin t) (s.setCall t (.multiRecv s.rcvtimeo .locking))
  | multiOn {rcvtimeo : _} (call : s.calls t = .multiRecv rcvtimeo fut)
      (polled : fut.poll rcvtimeo s.orchestrator = some (.inl fut', o)) :
      StepCase (.multiAdvance t)
        { s.setCall t (.multiRecv rcvtimeo fut') with orchestrator := o }
  | multiPolled {rcvtimeo : _} (call : s.calls t = .multiRecv rcvtimeo fut)
      (polled : fut.poll rcvtimeo s.orchestrator = some (.inr result, o)) :
      StepCase (.multiAdvance t) { s.setCall t (.multiPopped result) with orchestrator := o }
  | multiTimeout (call : s.calls t = .multiRecv .finite .popping) :
      StepCase (.multiExpire t) (s.setCall t (.multiPopped (.error .timeout)))
  | multiReturns (call : s.calls t = .multiPopped (.ok frames)) :
      StepCase (.multiReturn t)
        ({ s with state := .readyToSend }.notifyWaiters.finish t (.received frames))
  | multiFails (call : s.calls t = .multiPopped (.error e))
      (ready : s.state = .readyToSend) : StepCase (.multiReturn t) (s.finish t (.failed e))
  | multiFailsTelling (call : s.calls t = .multiPopped (.error e))
      (expecting : s.state ≠ .readyToSend) :
      StepCase (.multiReturn t)
        ({ s with state := .readyToSend }.notifyWaiters.finish t (.failed e))
  | drop (call : s.calls t ≠ .idle) : StepCase (.cancel t) (s.setCall t .idle)
  | dropSelect {rcvtimeo : _} (call : s.calls t = .recvSelect wake rcvtimeo fut) :
      StepCase (.cancel t) ((s.dropNotified t wake).setCall t .idle)
  | discard (handler : s.handlers p = .idle) (next : s.wire p = frame :: rest)
      (unknown : s.pipeReadToEndpointUri p = none) :
      StepCase (.deliver p) { s with wire := update s.wire p rest }
  | locate (handler : s.handlers p = .idle) (next : s.wire p = frame :: rest)
      (known : s.pipeReadToEndpointUri p = some uri) :
      StepCase (.deliver p)
        ({ s with wire := update s.wire p rest }.setHandler p (.located frame uri))
  | expected (handler : s.handlers p = .located frame uri)
      (expecting : s.state = .expectingReply uri) :
      StepCase (.checkExpected p) (s.setHandler p (.expected frame))
  | unexpected (handler : s.handlers p = .located frame uri)
      (other : s.state ≠ .expectingReply uri) :
      StepCase (.checkExpected p) (s.setHandler p .idle)
  | collect (handler : s.handlers p = .expected frame) (more : frame.isMore = true) :
      StepCase (.accumulate p) { s.setHandler p .idle with orchestrator := { s.orchestrator with
        partialPipeMessages := update s.orchestrator.partialPipeMessages p
          (s.orchestrator.partialPipeMessages p ++ [frame]) } }
  | assemble (handler : s.handlers p = .expected frame)
      (last : frame.isMore = false) :
      StepCase (.accumulate p) { s.setHandler p (.queueing (processIncomingZmtpMessageForReq
        (s.orchestrator.partialPipeMessages p ++ [frame]))) with
          orchestrator := { s.orchestrator with
            partialPipeMessages := update s.orchestrator.partialPipeMessages p [] } }
  | push (handler : s.handlers p = .queueing parts)
      (pushed : s.orchestrator.queueItem parts = some (.ok o)) :
      StepCase (.queueReply p) { s.setHandler p .queued with orchestrator := o }
  | pushRefused (handler : s.handlers p = .queueing parts)
      (refused : s.orchestrator.queueItem parts = some (.error e)) :
      StepCase (.queueReply p) (s.setHandler p .refused)
  | pushDropped (handler : s.handlers p = .queueing parts) :
      StepCase (.queueExpire p) (s.setHandler p .queued)
  | notify (handler : s.handlers p = .queued) :
      StepCase (.notifyQueued p) (s.setHandler p .idle).notifyOne
  | notifyRefused (handler : s.handlers p = .refused) :
      StepCase (.notifyQueued p)
        ({ s with state := .readyToSend }.setHandler p .idle).notifyWaiters
  | attach (loadBalancer : LoadBalancer) (known : s.pipeUri p = some uri) :
      StepCase (.attach p) { s with
        pipeReadToEndpointUri := update s.pipeReadToEndpointUri p (some uri)
        loadBalancer }
  | attachUnknown (unknown : s.pipeUri p = none) : StepCase (.attach p) s
  | detachUnknown (detach : s.detaches p = .idle)
      (unknown : s.pipeReadToEndpointUri p = none) :
      StepCase (.detachBegin p) { s with
        pipeReadToEndpointUri := update s.pipeReadToEndpointUri p none
        detaches := update s.detaches p (.notifying false) }
  | detachTarget (detach : s.detaches p = .idle)
      (known : s.pipeReadToEndpointUri p = some uri) (expecting : s.state = .expectingReply uri) :
      StepCase (.detachBegin p) { s with
        pipeReadToEndpointUri := update s.pipeReadToEndpointUri p none
        loadBalancer := s.loadBalancer.removeConnection uri
        state := .readyToSend
        detaches := update s.detaches p (.notifying true) }
  | detachOther (detach : s.detaches p = .idle)
      (known : s.pipeReadToEndpointUri p = some uri) (other : s.state ≠ .expectingReply uri) :
      StepCase (.detachBegin p) { s with
        pipeReadToEndpointUri := update s.pipeReadToEndpointUri p none
        loadBalancer := s.loadBalancer.removeConnection uri
        detaches := update s.detaches p (.notifying false) }
  | detachTells (detach : s.detaches p = .notifying true) :
      StepCase (.detachAdvance p) { s with detaches := update s.detaches p .clearing }.notifyOne
  | detachSilent (detach : s.detaches p = .notifying false) :
      StepCase (.detachAdvance p) { s with detaches := update s.detaches p .clearing }
  | clear (detach : s.detaches p = .clearing) :
      StepCase (.detachAdvance p) { s with
        detaches := update s.detaches p .resetting
        orchestrator := s.orchestrator.removePartial p }
  | reset (detach : s.detaches p = .resetting) :
      StepCase (.detachAdvance p) { s with
        detaches := update s.detaches p .idle
        orchestrator := s.orchestrator.resetRecvMessageBuffer }
  | lose : StepCase (.lose p) { s with wire := update s.wire p [] }
  | setEndpoint :
      StepCase (.setEndpoint uri pipe) { s with endpoints := update s.endpoints uri pipe }
  | setPipeUri :
      StepCase (.setPipeUri p uri) { s with pipeUri := update s.pipeUri p uri }
  | setTimeouts {sndtimeo rcvtimeo : _} :
      StepCase (.setTimeouts sndtimeo rcvtimeo) { s with sndtimeo, rcvtimeo }
  | stop : StepCase .stop { s with running := false }.notifyWaiters

variable {f : Replier α} {s s' : Req α} {t p : Nat}

lemma receiveBegin_cases {notSent next} (taken : s.receiveBegin t notSent next = some s') :
    s.calls t = .idle ∧ ((∃ e, s' = s.finish t (.failed e)) ∨
      s.running = true ∧ s.state ≠ .readyToSend ∧ s' = next) := by
  unfold receiveBegin at taken
  split at taken
  case h_2 => cases taken
  case h_1 call =>
  refine ⟨call, ?_⟩
  split at taken
  case isTrue => exact .inl ⟨_, (Option.some.inj taken).symm⟩
  case isFalse running =>
  split at taken
  case isTrue => exact .inl ⟨_, (Option.some.inj taken).symm⟩
  case isFalse expecting =>
    cases taken
    exact .inr ⟨by simpa using running, expecting, rfl⟩

lemma sendBegin_cases {m} (taken : s.sendBegin t m = some s') :
    StepCase f s (.sendBegin t m) s' := by
  unfold sendBegin at taken
  split at taken
  case h_2 => cases taken
  case h_1 call =>
  split at taken
  case isTrue =>
    cases taken
    exact .sendRejected _ call
  case isFalse running =>
  split at taken <;> cases taken
  case isTrue => exact .sendRejected _ call
  case isFalse ready => exact .check call (by simpa using running) (not_not.mp ready)

lemma sendPick_cases (taken : s.sendPick t = some s') : StepCase f s (.sendPick t) s' := by
  unfold sendPick at taken
  split at taken
  case h_2 => cases taken
  case h_1 m sndtimeo call =>
  split at taken
  case h_1 uri next balanced =>
    dsimp only at taken
    split at taken <;> cases taken
    case isTrue attached => exact .pick call balanced attached
    case isFalse gone => exact .skip call balanced (by simpa using gone)
  case h_2 none =>
    (repeat' split at taken) <;> cases taken
    · exact .pickFailed _ call none
    · exact .pickFailed _ call none

lemma recvAdvance_cases (taken : s.recvAdvance t = some s') :
    StepCase f s (.recvAdvance t) s' := by
  unfold recvAdvance at taken
  split at taken
  case h_1 wake rcvtimeo fut call =>
    split at taken <;> cases taken
    case h_2 fut' o polled => exact .selectOn call polled
    case h_3 result o polled => exact .selected call polled
  case h_2 call =>
    split at taken <;> cases taken
    case isTrue running => exact .recheck call running
    case isFalse stopped => exact .recheckClosed call (by simpa using stopped)
  case h_3 fut call =>
    split at taken <;> cases taken
    case h_2 fut' o polled => exact .pollOn call polled
    case h_3 result o polled => exact .polled call polled
  case h_4 => cases taken

lemma multiReturn_cases (taken : s.multiReturn t = some s') :
    StepCase f s (.multiReturn t) s' := by
  unfold multiReturn at taken
  split at taken
  case h_1 frames call =>
    cases taken
    exact .multiReturns call
  case h_2 e call =>
    split at taken <;> cases taken
    case isTrue ready => exact .multiFails call ready
    case isFalse expecting => exact .multiFailsTelling call expecting
  case h_3 => cases taken

lemma accumulate_cases (taken : s.accumulate p = some s') : StepCase f s (.accumulate p) s' := by
  simp only [accumulate, IncomingMessageOrchestrator.accumulatePipeFrame] at taken
  split at taken
  case h_2 => cases taken
  case h_1 frame handler =>
  cases more : frame.isMore with
  | true =>
    rw [more] at taken
    cases taken
    exact .collect handler more
  | false =>
    rw [more] at taken
    cases taken
    exact .assemble handler more

lemma detachBegin_cases (taken : s.detachBegin p = some s') :
    StepCase f s (.detachBegin p) s' := by
  unfold detachBegin at taken
  split at taken
  case h_2 => cases taken
  case h_1 detach =>
  dsimp only at taken
  split at taken
  case h_1 unknown =>
    cases taken
    exact .detachUnknown detach unknown
  case h_2 uri known =>
    split at taken <;> cases taken
    case isTrue expecting => exact .detachTarget detach known expecting
    case isFalse other => exact .detachOther detach known other

lemma detachAdvance_cases (taken : s.detachAdvance p = some s') :
    StepCase f s (.detachAdvance p) s' := by
  unfold detachAdvance at taken
  split at taken
  case h_1 shouldNotify detach =>
    cases shouldNotify <;> cases taken
    case false => exact .detachSilent detach
    case true => exact .detachTells detach
  case h_2 detach =>
    cases taken
    exact .clear detach
  case h_3 detach =>
    cases taken
    exact .reset detach
  case h_4 => cases taken

lemma step_cases {a} (taken : step f s a = some s') : StepCase f s a s' := by
  cases a with
  | sendBegin t m => exact sendBegin_cases taken
  | sendPick t => exact sendPick_cases taken
  | recvAdvance t => exact recvAdvance_cases taken
  | multiReturn t => exact multiReturn_cases taken
  | accumulate p => exact accumulate_cases taken
  | detachBegin p => exact detachBegin_cases taken
  | detachAdvance p => exact detachAdvance_cases taken
  | sendExpire t =>
    simp only [step, sendExpire] at taken
    split at taken
    case h_2 => cases taken
    case h_1 call =>
      obtain ⟨none, ⟨⟩⟩ := Option.ite_none_left_eq_some.mp taken
      exact .sendTimeout call none
  | sendResolve t =>
    simp only [step, sendResolve] at taken
    split at taken
    case h_2 => cases taken
    case h_1 m uri call =>
    split at taken <;> cases taken
    case h_1 pipe found => exact .resolve call found
    case h_2 gone => exact .resolveFailed _ call gone
  | sendAccept t =>
    simp only [step, sendAccept] at taken
    split at taken <;> cases taken
    case h_1 m uri pipe call => exact .accept call
  | sendRefuse t e =>
    simp only [step, sendRefuse] at taken
    split at taken
    case h_2 => cases taken
    case h_1 m uri pipe call =>
    split at taken <;> cases taken
    case isTrue closed =>
      subst closed
      exact .refuseClosed _ call
    case isFalse other => exact .refuse e call other
  | sendExpect t =>
    simp only [step, sendExpect] at taken
    split at taken <;> cases taken
    case h_1 m uri call => exact .expect call
  | sendFinish t =>
    simp only [step, sendFinish] at taken
    split at taken <;> cases taken
    case h_1 m call => exact .sent call
  | recvBegin t =>
    obtain ⟨call, ⟨e, rfl⟩ | ⟨running, expecting, rfl⟩⟩ := receiveBegin_cases taken
    · exact .recvRejected e call
    · exact .select call running expecting
  | recvWake t =>
    simp only [step, recvWake] at taken
    split at taken
    case h_1 rcvtimeo fut call =>
      split at taken <;> cases taken
      case isTrue permit => exact .wakeByPermit call permit
    case h_2 wake rcvtimeo fut woken call =>
      cases taken
      exact .wake call woken
    case h_3 => cases taken
  | recvExpire t =>
    simp only [step, recvExpire] at taken
    split at taken <;> cases taken
    case h_1 wake call => exact .recvTimeout call
  | recvUpdate t =>
    simp only [step, recvUpdate] at taken
    split at taken
    case h_2 => cases taken
    case h_1 result call =>
    split at taken <;> cases taken
    case isTrue gives =>
      obtain ⟨last, expecting⟩ : concludes result = true ∧ s.state ≠ .readyToSend := by
        simpa using gives
      exact .giveBack call last expecting
    case isFalse keeps => exact .keepState call (by simpa using keeps)
  | recvReturn t =>
    simp only [step, recvReturn] at taken
    split at taken
    case h_2 => cases taken
    case h_1 result shouldNotify call =>
    cases shouldNotify <;> cases taken
    case false => exact .recvReturns call
    case true => exact .recvTells call
  | multiBegin t =>
    obtain ⟨call, ⟨e, rfl⟩ | ⟨running, expecting, rfl⟩⟩ := receiveBegin_cases taken
    · exact .multiRejected e call
    · exact .multiStart call running expecting
  | multiAdvance t =>
    simp only [step, multiAdvance] at taken
    split at taken
    case h_2 => cases taken
    case h_1 rcvtimeo fut call =>
    split at taken <;> cases taken
    case h_2 fut' o polled => exact .multiOn call polled
    case h_3 result o polled => exact .multiPolled call polled
  | multiExpire t =>
    simp only [step, multiExpire] at taken
    split at taken <;> cases taken
    case h_1 call => exact .multiTimeout call
  | cancel t =>
    simp only [step, cancel] at taken
    split at taken
    case h_8 wake rcvtimeo fut call =>
      cases taken
      exact .dropSelect call
    case h_9 => cases taken
    all_goals
      rename_i call
      cases taken
      exact .drop (by simp [call])
  | deliver p =>
    simp only [step, deliver] at taken
    split at taken
    case h_2 => cases taken
    case h_1 frame rest handler next =>
    split at taken <;> cases taken
    case h_1 unknown => exact .discard handler next unknown
    case h_2 uri known => exact .locate handler next known
  | checkExpected p =>
    simp only [step, checkExpected] at taken
    split at taken
    case h_2 => cases taken
    case h_1 frame uri handler =>
    split at taken <;> cases taken
    case isTrue expecting => exact .expected handler expecting
    case isFalse other => exact .unexpected handler other
  | queueReply p =>
    simp only [step, queueReply] at taken
    split at taken
    case h_2 => cases taken
    case h_1 parts handler =>
    split at taken <;> cases taken
    case h_2 o pushed => exact .push handler pushed
    case h_3 e refused => exact .pushRefused handler refused
  | queueExpire p =>
    simp only [step, queueExpire] at taken
    split at taken <;> cases taken
    case h_1 parts handler => exact .pushDropped handler
  | notifyQueued p =>
    simp only [step, notifyQueued] at taken
    split at taken <;> cases taken
    case h_1 handler => exact .notify handler
    case h_2 handler => exact .notifyRefused handler
  | attach p =>
    simp only [step, attach, addConnection] at taken
    split at taken
    case h_1 uri known =>
      cases taken
      exact .attach _ known
    case h_2 unknown =>
      cases taken
      exact .attachUnknown unknown
  | lose p =>
    cases taken
    exact .lose
  | setEndpoint uri pipe =>
    cases taken
    exact .setEndpoint
  | setPipeUri p uri =>
    cases taken
    exact .setPipeUri
  | setTimeouts sndtimeo rcvtimeo =>
    cases taken
    exact .setTimeouts
  | stop =>
    cases taken
    exact .stop

end Req

end Rzmq
