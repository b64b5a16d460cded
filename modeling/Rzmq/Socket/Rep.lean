import Rzmq.Lib.Transition
import Rzmq.Socket.Orchestrator

/-! The REP socket and everything that runs beside it, as a transition system: any number of calls,
each of which may be cancelled at an await, the sessions, and the core.  A step is what one task
does between two points where another task can run.  Requests are numbered, and an account, which
the socket never reads, says where each of them is. -/

namespace Rzmq

open Function

variable {α : Type}

namespace Rep

/-- Where a reply has to go.  The source has no `number`, and no function decides anything by it. -/
structure PeerInfo (α : Type) where
  number : Nat
  sourcePipeReadId : Nat
  targetEndpointUri : String
  routingPrefix : List (Msg α)

def splitFrames (routingPrefix payload : List (Msg α)) (delimiterFound : Bool) :
    List (Msg α) → List (Msg α) × List (Msg α) × Bool
  | [] => (routingPrefix, payload, delimiterFound)
  | frame :: rest =>
    if delimiterFound then splitFrames routingPrefix (payload ++ [frame]) true rest
    else splitFrames (routingPrefix ++ [frame]) payload (frame.size == 0) rest

def splitRequest (frames : List (Msg α)) : List (Msg α) × List (Msg α) :=
  match splitFrames [] [] false frames with
  | (routingPrefix, payload, true) => (routingPrefix, payload)
  | (routingPrefix, _, false) => ([], routingPrefix)

structure Request (α : Type) where
  pipe : Nat
  uri : String
  frames : List (Msg α)

def Request.info (r : Request α) (n : Nat) : PeerInfo α :=
  ⟨n, r.pipe, r.uri, (splitRequest r.frames).1⟩

def Request.payload (r : Request α) : List (Msg α) := (splitRequest r.frames).2

inductive Call (α : Type) where
  | idle
  | recv (rcvtimeo : Timeout) (fut : RecvMessage α)
  | recvMultipart (rcvtimeo : Timeout) (fut : RecvLogicalMessage)
  /-- A request has been popped, and the closure is about to write the state. -/
  | noting (rcvtimeo : Timeout) (whole : Bool) (info : PeerInfo α) (payload : List (Msg α))
  /-- `send` clears the frame buffer before it calls `send_multipart`, which does so again. -/
  | clearing (m : Msg α)
  | checking (frames : List (Msg α))
  | resetting (frames : List (Msg α))
  | taking (frames : List (Msg α))
  /-- The peer has been taken out of the state, its connection is still to be looked up. -/
  | addressing (info : PeerInfo α) (frames : List (Msg α))
  | replying (info : PeerInfo α) (connection : Nat) (wire : List (Msg α))

inductive Handler (α : Type) where
  | idle
  | complete (frames : List (Msg α))
  | queueing (info : PeerInfo α) (payload : List (Msg α))

inductive Detach where
  | idle
  | clearing
  | resetting

/-- Where a request is.  A `noted` one has been popped, and no send has taken it up. -/
inductive Place where
  | unborn
  | pushing (pipe : Nat)
  | queued
  | lost
  | popped (t : Nat)
  | noted
  | answering (t : Nat)
  | answered
  | spent
deriving DecidableEq

structure Reply (α : Type) where
  number : Nat
  uri : String
  connection : Nat
  wire : List (Msg α)
deriving DecidableEq

inductive Returned (α : Type) where
  | received (frames : List (Msg α))
  | replied
  | failed (e : ZmqError)
deriving DecidableEq

end Rep

inductive RepState (α : Type) where
  | readyToReceive
  | receivedRequest (info : Rep.PeerInfo α)

def RepState.isReady : RepState α → Bool
  | .readyToReceive => true
  | .receivedRequest _ => false

/-- `endpoints` and `pipeUri` are the maps of the core; `gone n` says that the pipe of request `n`
has been detached since, `returned` lists what calls have returned. -/
structure Rep (α : Type) where
  running : Bool
  rcvtimeo : Timeout
  endpoints : String → Option Nat
  pipeUri : Nat → Option String
  state : RepState α
  orchestrator : IncomingMessageOrchestrator (Rep.PeerInfo α × List (Msg α)) α
  calls : Nat → Rep.Call α
  handlers : Nat → Rep.Handler α
  detaches : Nat → Rep.Detach
  returned : List (Rep.Returned α)
  requests : List (Rep.Request α)
  place : Nat → Rep.Place
  gone : Nat → Bool
  replies : List (Rep.Reply α)

namespace Rep

def new (rcvhwm : Nat) (rcvtimeo : Timeout) : Rep α where
  running := true
  rcvtimeo
  endpoints _ := none
  pipeUri _ := none
  state := .readyToReceive
  orchestrator := .new rcvhwm
  calls _ := .idle
  handlers _ := .idle
  detaches _ := .idle
  returned := []
  requests := []
  place _ := .unborn
  gone _ := false
  replies := []

variable (s : Rep α)

def setCall (t : Nat) (c : Call α) : Rep α := { s with calls := update s.calls t c }

def setHandler (p : Nat) (h : Handler α) : Rep α :=
  { s with handlers := update s.handlers p h }

def finish (t : Nat) (r : Returned α) : Rep α :=
  { s.setCall t .idle with returned := s.returned ++ [r] }

def relocate (n : Nat) (place : Place) : Rep α :=
  { s with place := update s.place n place }

def clearBuffer : Rep α :=
  { s with orchestrator := s.orchestrator.resetRecvMessageBuffer }

/-! `recv` and `recv_multipart` -/

def receiveBegin (t : Nat) (next : Call α) : Option (Rep α) :=
  match s.calls t with
  | .idle =>
    if !s.running then some (s.finish t (.failed (.invalidState "Socket is closing")))
    else if !s.state.isReady then
      some (s.finish t
        (.failed (.invalidState "REP socket must call send() before receiving again")))
    else some (s.setCall t next)
  | _ => none

def recvBegin (t : Nat) : Option (Rep α) :=
  s.receiveBegin t (.recv s.rcvtimeo .locking)

def multiBegin (t : Nat) : Option (Rep α) :=
  s.receiveBegin t (.recvMultipart s.rcvtimeo .locking)

def pop (t : Nat) (rcvtimeo : Timeout) (whole : Bool) : Option (Rep α) :=
  match s.orchestrator.recvItemFromMainQueue rcvtimeo with
  | none => none
  | some (.ok (info, payload), o) =>
    some { (s.setCall t (.noting rcvtimeo whole info payload)).relocate info.number (.popped t) with
      orchestrator := o }
  | some (.error e, o) => some { s.finish t (.failed e) with orchestrator := o }

def note (t : Nat) (rcvtimeo : Timeout) (whole : Bool) (info : PeerInfo α)
    (payload : List (Msg α)) :
    Rep α :=
  let s := { s.relocate info.number .noted with state := .receivedRequest info }
  if whole then s.finish t (.received payload)
  else s.setCall t (.recv rcvtimeo (.storing payload))

def expire (t : Nat) : Option (Rep α) :=
  match s.calls t, s.orchestrator.recvItemFromMainQueue .finite with
  | .recv .finite .popping, none | .recvMultipart .finite .popping, none =>
    some (s.finish t (.failed .timeout))
  | _, _ => none

/-! `send` and `send_multipart` -/

def sendBegin (t : Nat) (m : Msg α) : Option (Rep α) :=
  match s.calls t with
  | .idle =>
    if !s.running then some (s.finish t (.failed (.invalidState "Socket is closing")))
    else some (s.setCall t (.clearing (m.setMore false)))
  | _ => none

def sendMultipartBegin (t : Nat) (frames : List (Msg α)) : Option (Rep α) :=
  match s.calls t with
  | .idle => some (s.setCall t (.checking frames))
  | _ => none

def peerToReplyTo : Except ZmqError (PeerInfo α) :=
  match s.state with
  | .receivedRequest info => .ok info
  | .readyToReceive =>
    .error (.invalidState "REP socket must recv() a request before sending a reply")

def take (t : Nat) (frames : List (Msg α)) : Rep α :=
  match s.peerToReplyTo with
  | .error e => s.finish t (.failed e)
  | .ok info =>
    { (s.setCall t (.addressing info frames)).relocate info.number (.answering t) with
      state := .readyToReceive }

def address (t : Nat) (info : PeerInfo α) (frames : List (Msg α)) : Rep α :=
  match s.endpoints info.targetEndpointUri with
  | none =>
    let e := ZmqError.hostUnreachable "Peer disconnected before reply could be sent"
    (s.finish t (.failed e)).relocate info.number .spent
  | some connection =>
    s.setCall t (.replying info connection (linked (info.routingPrefix ++ frames)))

def advance (t : Nat) : Option (Rep α) :=
  match s.calls t with
  | .idle => none
  | .recv rcvtimeo .popping => s.pop t rcvtimeo false
  | .recv rcvtimeo fut =>
    match fut.poll Prod.snd rcvtimeo s.orchestrator with
    | none => none
    | some (.inl fut', o) => some { s.setCall t (.recv rcvtimeo fut') with orchestrator := o }
    | some (.inr (.ok m), o) => some { s.finish t (.received [m]) with orchestrator := o }
    | some (.inr (.error e), o) => some { s.finish t (.failed e) with orchestrator := o }
  | .recvMultipart rcvtimeo .locking =>
    some (s.setCall t (.recvMultipart rcvtimeo .popping)).clearBuffer
  | .recvMultipart rcvtimeo .popping => s.pop t rcvtimeo true
  | .noting rcvtimeo whole info payload => some (s.note t rcvtimeo whole info payload)
  | .clearing m => some (s.setCall t (.checking [m])).clearBuffer
  | .checking frames =>
    if !s.running then some (s.finish t (.failed (.invalidState "Socket is closing")))
    else some (s.setCall t (.resetting (if frames.isEmpty then [.new] else frames)))
  | .resetting frames => some (s.setCall t (.taking frames)).clearBuffer
  | .taking frames => some (s.take t frames)
  | .addressing info frames => some (s.address t info frames)
  | .replying _ _ _ => none

def accept (t : Nat) : Option (Rep α) :=
  match s.calls t with
  | .replying info connection wire =>
    some { (s.finish t .replied).relocate info.number .answered with
      replies := s.replies ++ [⟨info.number, info.targetEndpointUri, connection, wire⟩] }
  | _ => none

def refuse (t : Nat) (e : ZmqError) : Option (Rep α) :=
  match s.calls t with
  | .replying info _ _ => some ((s.finish t (.failed e)).relocate info.number .spent)
  | _ => none

def cancel (t : Nat) : Option (Rep α) :=
  match s.calls t with
  | .recv _ _ | .recvMultipart _ _ | .clearing _ | .resetting _ => some (s.setCall t .idle)
  | .replying info _ _ => some ((s.setCall t .idle).relocate info.number .spent)
  | _ => none

/-! `handle_pipe_event` and `pipe_detached` -/

def arrive (p : Nat) (frame : Msg α) : Option (Rep α) :=
  match s.handlers p with
  | .idle =>
    match s.orchestrator.accumulatePipeFrame p frame with
    | (none, o) => some { s with orchestrator := o }
    | (some frames, o) => some { s.setHandler p (.complete frames) with orchestrator := o }
  | _ => none

def locate (p : Nat) : Option (Rep α) :=
  match s.handlers p with
  | .complete frames =>
    match s.pipeUri p with
    | none => some (s.setHandler p .idle)
    | some uri =>
      let n := s.requests.length
      let request : Request α := ⟨p, uri, frames⟩
      let s := s.setHandler p (.queueing (request.info n) request.payload)
      some { s.relocate n (.pushing p) with requests := s.requests ++ [request] }
  | _ => none

def push (p : Nat) : Option (Rep α) :=
  match s.handlers p with
  | .queueing info payload =>
    match s.orchestrator.queueItem (info, payload) with
    | none => none
    | some (.ok o) =>
      some { (s.setHandler p .idle).relocate info.number .queued with orchestrator := o }
    | some (.error _) => some ((s.setHandler p .idle).relocate info.number .lost)
  | _ => none

def pushExpire (p : Nat) : Option (Rep α) :=
  match s.handlers p with
  | .queueing info payload =>
    match s.orchestrator.queueItem (info, payload) with
    | none => some ((s.setHandler p .idle).relocate info.number .lost)
    | some _ => none
  | _ => none

def resetState (p : Nat) : RepState α → RepState α
  | .receivedRequest info =>
    if info.sourcePipeReadId = p then .readyToReceive else .receivedRequest info
  | .readyToReceive => .readyToReceive

def detachBegin (p : Nat) : Option (Rep α) :=
  match s.detaches p with
  | .idle =>
    some { s with
      state := resetState p s.state
      detaches := update s.detaches p .clearing
      gone := fun n => s.gone n || s.requests[n]?.any fun r => r.pipe == p }
  | _ => none

def detachAdvance (p : Nat) : Option (Rep α) :=
  match s.detaches p with
  | .clearing =>
    some { s with
      detaches := update s.detaches p .resetting
      orchestrator := s.orchestrator.removePartial p }
  | .resetting => some { s with detaches := update s.detaches p .idle }.clearBuffer
  | .idle => none

inductive Action (α : Type) where
  | recvBegin (t : Nat)
  | multiBegin (t : Nat)
  | sendBegin (t : Nat) (m : Msg α)
  | sendMultipartBegin (t : Nat) (frames : List (Msg α))
  | advance (t : Nat)
  | expire (t : Nat)
  | accept (t : Nat)
  | refuse (t : Nat) (e : ZmqError)
  | cancel (t : Nat)
  | arrive (p : Nat) (frame : Msg α)
  | locate (p : Nat)
  | push (p : Nat)
  | pushExpire (p : Nat)
  | detachBegin (p : Nat)
  | detachAdvance (p : Nat)
  | setEndpoint (uri : String) (connection : Option Nat)
  | setPipeUri (p : Nat) (uri : Option String)
  | setRcvtimeo (rcvtimeo : Timeout)
  | shutdown
  /-- `Command::Stop`. -/
  | stop

def step : Action α → Option (Rep α)
  | .recvBegin t => s.recvBegin t
  | .multiBegin t => s.multiBegin t
  | .sendBegin t m => s.sendBegin t m
  | .sendMultipartBegin t frames => s.sendMultipartBegin t frames
  | .advance t => s.advance t
  | .expire t => s.expire t
  | .accept t => s.accept t
  | .refuse t e => s.refuse t e
  | .cancel t => s.cancel t
  | .arrive p frame => s.arrive p frame
  | .locate p => s.locate p
  | .push p => s.push p
  | .pushExpire p => s.pushExpire p
  | .detachBegin p => s.detachBegin p
  | .detachAdvance p => s.detachAdvance p
  | .setEndpoint uri connection => some { s with endpoints := update s.endpoints uri connection }
  | .setPipeUri p uri => some { s with pipeUri := update s.pipeUri p uri }
  | .setRcvtimeo rcvtimeo => some { s with rcvtimeo }
  | .shutdown => some { s with running := false }
  | .stop => some { s with orchestrator := s.orchestrator.close }

/-! The envelope -/

lemma splitFrames_found (routingPrefix payload frames : List (Msg α)) :
    splitFrames routingPrefix payload true frames = (routingPrefix, payload ++ frames, true) := by
  induction frames generalizing payload with
  | nil => simp [splitFrames]
  | cons frame rest ih => simp [splitFrames, ih]

lemma splitFrames_append (routingPrefix frames : List (Msg α)) :
    (splitFrames routingPrefix [] false frames).1 ++
      (splitFrames routingPrefix [] false frames).2.1 = routingPrefix ++ frames := by
  induction frames generalizing routingPrefix with
  | nil => simp [splitFrames]
  | cons frame rest ih =>
    simp only [splitFrames, Bool.false_eq_true, if_false]
    by_cases empty : frame.size = 0
    · simp [empty, splitFrames_found]
    · have ordinary : (frame.size == 0) = false := by simpa using empty
      rw [ordinary, ih]
      simp

lemma splitFrames_unfound (routingPrefix frames : List (Msg α))
    (unfound : (splitFrames routingPrefix [] false frames).2.2 = false) :
    (splitFrames routingPrefix [] false frames).2.1 = [] := by
  induction frames generalizing routingPrefix with
  | nil => rfl
  | cons frame rest ih =>
    simp only [splitFrames, Bool.false_eq_true, if_false] at unfound ⊢
    by_cases empty : frame.size = 0
    · simp [empty, splitFrames_found] at unfound
    · have ordinary : (frame.size == 0) = false := by simpa using empty
      rw [ordinary] at unfound ⊢
      exact ih _ unfound

lemma splitRequest_append (frames : List (Msg α)) :
    (splitRequest frames).1 ++ (splitRequest frames).2 = frames := by
  have all := splitFrames_append [] frames
  have none := splitFrames_unfound [] frames
  rw [List.nil_append] at all
  unfold splitRequest
  split
  · rename_i routingPrefix payload parts
    rw [parts] at all
    exact all
  · rename_i routingPrefix payload parts
    rw [parts] at all none
    rw [none rfl, List.append_nil] at all
    exact all

def asking (p : Nat) (uri : String) (frames : List (Msg UInt8)) : List (Action UInt8) :=
  [.setEndpoint uri (some p), .setPipeUri p (some uri)] ++ frames.map (.arrive p) ++
    [.locate p, .push p]

end Rep

/-! What a step of a REP socket can do, one case for each way in which it can go. -/

namespace Rep

inductive StepCase (s : Rep α) : Action α → Rep α → Prop where
  | recvRejected (e : ZmqError) (call : s.calls t = .idle) :
      StepCase s (.recvBegin t) (s.finish t (.failed e))
  | multiRejected (e : ZmqError) (call : s.calls t = .idle) :
      StepCase s (.multiBegin t) (s.finish t (.failed e))
  | sendRejected (e : ZmqError) (call : s.calls t = .idle) :
      StepCase s (.sendBegin t m) (s.finish t (.failed e))
  | recvStart (call : s.calls t = .idle) (ready : s.state = .readyToReceive) :
      StepCase s (.recvBegin t) (s.setCall t (.recv s.rcvtimeo .locking))
  | multiStart (call : s.calls t = .idle) (ready : s.state = .readyToReceive) :
      StepCase s (.multiBegin t) (s.setCall t (.recvMultipart s.rcvtimeo .locking))
  | sendStart (call : s.calls t = .idle) :
      StepCase s (.sendBegin t m) (s.setCall t (.clearing (m.setMore false)))
  | sendMultipartStart (call : s.calls t = .idle) :
      StepCase s (.sendMultipartBegin t frames) (s.setCall t (.checking frames))
  | lock {rcvtimeo : _} (call : s.calls t = .recv rcvtimeo .locking)
      (empty : s.orchestrator.currentRecvFramesBuffer = []) :
      StepCase s (.advance t) (s.setCall t (.recv rcvtimeo .popping))
  | frame {rcvtimeo : _} (call : s.calls t = .recv rcvtimeo fut)
      (polled : fut.poll Prod.snd rcvtimeo s.orchestrator = some (.inr (.ok m), o))
      (queue : o.mainIncomingQueue = s.orchestrator.mainIncomingQueue) :
      StepCase s (.advance t) { s.finish t (.received [m]) with orchestrator := o }
  | multiLock {rcvtimeo : _} (call : s.calls t = .recvMultipart rcvtimeo .locking) :
      StepCase s (.advance t) (s.setCall t (.recvMultipart rcvtimeo .popping)).clearBuffer
  | pop {rcvtimeo : _} {whole : Bool}
      (call : s.calls t = if whole then .recvMultipart rcvtimeo .popping
        else .recv rcvtimeo .popping)
      (items : s.orchestrator.mainIncomingQueue.items = (info, payload) :: rest) :
      StepCase s (.advance t)
        { (s.setCall t (.noting rcvtimeo whole info payload)).relocate info.number (.popped t) with
          orchestrator := s.orchestrator.setItems rest }
  | popFailed {rcvtimeo : _} {whole : Bool} (e : ZmqError)
      (call : s.calls t = if whole then .recvMultipart rcvtimeo .popping
        else .recv rcvtimeo .popping) :
      StepCase s (.advance t) (s.finish t (.failed e))
  | note {rcvtimeo : _}
      (call : s.calls t = .noting rcvtimeo whole info payload) :
      StepCase s (.advance t) (s.note t rcvtimeo whole info payload)
  | recvTimeout (call : s.calls t = .recv .finite .popping) :
      StepCase s (.expire t) (s.finish t (.failed .timeout))
  | multiTimeout (call : s.calls t = .recvMultipart .finite .popping) :
      StepCase s (.expire t) (s.finish t (.failed .timeout))
  | clear (call : s.calls t = .clearing m) :
      StepCase s (.advance t) (s.setCall t (.checking [m])).clearBuffer
  | closing (e : ZmqError) (call : s.calls t = .checking frames) :
      StepCase s (.advance t) (s.finish t (.failed e))
  | check (call : s.calls t = .checking frames) :
      StepCase s (.advance t)
        (s.setCall t (.resetting (if frames.isEmpty then [.new] else frames)))
  | reset (call : s.calls t = .resetting frames) :
      StepCase s (.advance t) (s.setCall t (.taking frames)).clearBuffer
  | takeNone (e : ZmqError) (call : s.calls t = .taking frames)
      (ready : s.state = .readyToReceive) : StepCase s (.advance t) (s.finish t (.failed e))
  | take (call : s.calls t = .taking frames)
      (received : s.state = .receivedRequest info) :
      StepCase s (.advance t)
        { (s.setCall t (.addressing info frames)).relocate info.number (.answering t) with
          state := .readyToReceive }
  | unreachable (e : ZmqError) (call : s.calls t = .addressing info frames) :
      StepCase s (.advance t) ((s.finish t (.failed e)).relocate info.number .spent)
  | address (call : s.calls t = .addressing info frames)
      (there : s.endpoints info.targetEndpointUri = some connection) :
      StepCase s (.advance t)
        (s.setCall t (.replying info connection (linked (info.routingPrefix ++ frames))))
  | accept (call : s.calls t = .replying info connection wire) :
      StepCase s (.accept t) { (s.finish t .replied).relocate info.number .answered with
        replies := s.replies ++ [⟨info.number, info.targetEndpointUri, connection, wire⟩] }
  | refuse (call : s.calls t = .replying info connection wire) :
      StepCase s (.refuse t e) ((s.finish t (.failed e)).relocate info.number .spent)
  | drop : StepCase s (.cancel t) (s.setCall t .idle)
  | dropReply (call : s.calls t = .replying info connection wire) :
      StepCase s (.cancel t) ((s.setCall t .idle).relocate info.number .spent)
  | collect (handler : s.handlers p = .idle) (more : frame.isMore = true) :
      StepCase s (.arrive p frame) { s with orchestrator := { s.orchestrator with
        partialPipeMessages := update s.orchestrator.partialPipeMessages p
          (s.orchestrator.partialPipeMessages p ++ [frame]) } }
  | assemble (handler : s.handlers p = .idle) (last : frame.isMore = false) :
      StepCase s (.arrive p frame)
        { s.setHandler p (.complete (s.orchestrator.partialPipeMessages p ++ [frame])) with
          orchestrator := { s.orchestrator with
            partialPipeMessages := update s.orchestrator.partialPipeMessages p [] } }
  | locateFailed (handler : s.handlers p = .complete frames) :
      StepCase s (.locate p) (s.setHandler p .idle)
  | locate (handler : s.handlers p = .complete frames)
      (known : s.pipeUri p = some uri) :
      StepCase s (.locate p) { (s.setHandler p (.queueing
          (Request.info ⟨p, uri, frames⟩ s.requests.length)
          (Request.payload ⟨p, uri, frames⟩))).relocate s.requests.length (.pushing p) with
        requests := s.requests ++ [⟨p, uri, frames⟩] }
  | push (handler : s.handlers p = .queueing info payload)
      (pushed : s.orchestrator.queueItem (info, payload) = some (.ok o)) :
      StepCase s (.push p)
        { (s.setHandler p .idle).relocate info.number .queued with orchestrator := o }
  | pushRefused (handler : s.handlers p = .queueing info payload) :
      StepCase s (.push p) ((s.setHandler p .idle).relocate info.number .lost)
  | pushDropped (handler : s.handlers p = .queueing info payload) :
      StepCase s (.pushExpire p) ((s.setHandler p .idle).relocate info.number .lost)
  | detach (detach : s.detaches p = .idle) :
      StepCase s (.detachBegin p) { s with
        state := resetState p s.state
        detaches := update s.detaches p .clearing
        gone := fun n => s.gone n || s.requests[n]?.any fun r => r.pipe == p }
  | clearPipe (detach : s.detaches p = .clearing) :
      StepCase s (.detachAdvance p) { s with
        detaches := update s.detaches p .resetting
        orchestrator := s.orchestrator.removePartial p }
  | resetBuffer (detach : s.detaches p = .resetting) :
      StepCase s (.detachAdvance p) { s with detaches := update s.detaches p .idle }.clearBuffer
  | setEndpoint :
      StepCase s (.setEndpoint uri connection)
        { s with endpoints := update s.endpoints uri connection }
  | setPipeUri : StepCase s (.setPipeUri p uri)
      { s with pipeUri := update s.pipeUri p uri }
  | setRcvtimeo {rcvtimeo : _} : StepCase s (.setRcvtimeo rcvtimeo) { s with rcvtimeo }
  | shutdown : StepCase s .shutdown { s with running := false }
  | stop : StepCase s .stop { s with orchestrator := s.orchestrator.close }

variable {s s' : Rep α} {t p : Nat}

lemma receiveBegin_cases {next} (taken : s.receiveBegin t next = some s') :
    s.calls t = .idle ∧ ((∃ e, s' = s.finish t (.failed e)) ∨
      s.state = .readyToReceive ∧ s' = s.setCall t next) := by
  unfold receiveBegin at taken
  split at taken
  case h_2 => cases taken
  case h_1 call =>
  refine ⟨call, ?_⟩
  split at taken
  case isTrue => exact .inl ⟨_, (Option.some.inj taken).symm⟩
  case isFalse =>
  split at taken
  case isTrue => exact .inl ⟨_, (Option.some.inj taken).symm⟩
  case isFalse ready =>
    refine .inr ⟨?_, (Option.some.inj taken).symm⟩
    cases state : s.state with
    | readyToReceive => rfl
    | receivedRequest info => simp [state, RepState.isReady] at ready

lemma pop_cases {rcvtimeo} (whole : Bool)
    (call : s.calls t = if whole then .recvMultipart rcvtimeo .popping else .recv rcvtimeo .popping)
    (taken : s.pop t rcvtimeo whole = some s') : StepCase s (.advance t) s' := by
  unfold pop at taken
  split at taken
  case h_1 => cases taken
  case h_2 info payload o ready =>
    cases taken
    obtain ⟨item, rest, items, ⟨⟩, rfl⟩ | ⟨e, ⟨⟩, -⟩ :=
      IncomingMessageOrchestrator.recvItemFromMainQueue_ready ready
    exact .pop call items
  case h_3 e o ready =>
    cases taken
    obtain ⟨item, rest, items, ⟨⟩, -⟩ | ⟨e, -, rfl, -⟩ :=
      IncomingMessageOrchestrator.recvItemFromMainQueue_ready ready
    exact .popFailed _ call

lemma advance_cases (taken : s.advance t = some s') : StepCase s (.advance t) s' := by
  cases call : s.calls t with
  | idle | replying info connection wire => simp [advance, call] at taken
  | recv rcvtimeo fut =>
    cases fut with
    | popping =>
      simp only [advance, call] at taken
      exact pop_cases false call taken
    | locking =>
      simp only [advance, call] at taken
      cases buffer : s.orchestrator.currentRecvFramesBuffer with
      | nil =>
        simp only [RecvMessage.poll, buffer] at taken
        cases taken
        exact .lock call buffer
      | cons frame rest =>
        have polled : RecvMessage.poll Prod.snd rcvtimeo s.orchestrator .locking =
            some (.inr (.ok (frame.setMore !rest.isEmpty)),
              { s.orchestrator with currentRecvFramesBuffer := rest }) := by
          simp [RecvMessage.poll, buffer]
        rw [polled] at taken
        cases taken
        exact .frame call polled rfl
    | storing frames =>
      simp only [advance, call] at taken
      cases frames <;> cases taken <;> exact .frame call rfl rfl
  | recvMultipart rcvtimeo fut =>
    cases fut with
    | locking =>
      simp only [advance, call] at taken
      cases taken
      exact .multiLock call
    | popping =>
      simp only [advance, call] at taken
      exact pop_cases true call taken
  | noting rcvtimeo whole info payload =>
    simp only [advance, call] at taken
    cases taken
    exact .note call
  | clearing m =>
    simp only [advance, call] at taken
    cases taken
    exact .clear call
  | checking frames =>
    simp only [advance, call] at taken
    split at taken <;> cases taken
    · exact .closing _ call
    · exact .check call
  | resetting frames =>
    simp only [advance, call] at taken
    cases taken
    exact .reset call
  | taking frames =>
    simp only [advance, call, take, peerToReplyTo] at taken
    cases state : s.state with
    | readyToReceive =>
      rw [state] at taken
      cases taken
      exact .takeNone _ call state
    | receivedRequest info =>
      rw [state] at taken
      cases taken
      exact .take call state
  | addressing info frames =>
    simp only [advance, call, address] at taken
    split at taken <;> cases taken
    case h_1 => exact .unreachable _ call
    case h_2 connection there => exact .address call there

lemma step_cases {action} (taken : s.step action = some s') :
    StepCase s action s' := by
  cases action with
  | recvBegin t =>
    obtain ⟨call, ⟨e, rfl⟩ | ⟨ready, rfl⟩⟩ := receiveBegin_cases taken
    · exact .recvRejected e call
    · exact .recvStart call ready
  | multiBegin t =>
    obtain ⟨call, ⟨e, rfl⟩ | ⟨ready, rfl⟩⟩ := receiveBegin_cases taken
    · exact .multiRejected e call
    · exact .multiStart call ready
  | sendBegin t m =>
    simp only [step, sendBegin] at taken
    split at taken
    case h_2 => cases taken
    case h_1 call =>
    split at taken <;> cases taken
    · exact .sendRejected _ call
    · exact .sendStart call
  | sendMultipartBegin t frames =>
    simp only [step, sendMultipartBegin] at taken
    split at taken <;> cases taken
    case h_1 call => exact .sendMultipartStart call
  | advance t => exact advance_cases taken
  | expire t =>
    simp only [step, expire] at taken
    split at taken <;> cases taken
    case h_1 call _ => exact .recvTimeout call
    case h_2 call _ => exact .multiTimeout call
  | accept t =>
    simp only [step, accept] at taken
    split at taken <;> cases taken
    case h_1 info connection wire call => exact .accept call
  | refuse t e =>
    simp only [step, refuse] at taken
    split at taken <;> cases taken
    case h_1 info connection wire call => exact .refuse call
  | cancel t =>
    simp only [step, cancel] at taken
    split at taken <;> cases taken
    case h_5 info connection wire call => exact .dropReply call
    all_goals exact .drop
  | arrive p frame =>
    simp only [step, arrive, IncomingMessageOrchestrator.accumulatePipeFrame] at taken
    split at taken
    case h_2 => cases taken
    case h_1 handler =>
    cases more : frame.isMore <;> rw [more] at taken <;> cases taken
    · exact .assemble handler more
    · exact .collect handler more
  | locate p =>
    simp only [step, locate] at taken
    split at taken
    case h_2 => cases taken
    case h_1 frames handler =>
    split at taken <;> cases taken
    case h_1 => exact .locateFailed handler
    case h_2 uri known => exact .locate handler known
  | push p =>
    simp only [step, push] at taken
    split at taken
    case h_2 => cases taken
    case h_1 info payload handler =>
    split at taken <;> cases taken
    case h_2 o pushed => exact .push handler pushed
    case h_3 => exact .pushRefused handler
  | pushExpire p =>
    simp only [step, pushExpire] at taken
    split at taken
    case h_2 => cases taken
    case h_1 info payload handler =>
    split at taken <;> cases taken
    exact .pushDropped handler
  | detachBegin p =>
    simp only [step, detachBegin] at taken
    split at taken <;> cases taken
    case h_1 detach => exact .detach detach
  | detachAdvance p =>
    simp only [step, detachAdvance] at taken
    split at taken <;> cases taken
    case h_1 detach => exact .clearPipe detach
    case h_2 detach => exact .resetBuffer detach
  | setEndpoint uri connection =>
    cases taken
    exact .setEndpoint
  | setPipeUri p uri =>
    cases taken
    exact .setPipeUri
  | setRcvtimeo rcvtimeo =>
    cases taken
    exact .setRcvtimeo
  | shutdown =>
    cases taken
    exact .shutdown
  | stop =>
    cases taken
    exact .stop

end Rep

end Rzmq
