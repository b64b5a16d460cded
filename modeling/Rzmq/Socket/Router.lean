import Rzmq.Socket.Orchestrator
import Mathlib.Data.List.AList

/-! The ROUTER socket: its routing table, the permits of its pipes, and the functions of the socket
over the part of the core's state that they read.  A call of the source that waits for a connection
or a permit takes what the wait ends in as an argument. -/

namespace Rzmq

open Function Octet

variable {α : Type}

/-! The envelope.  The functions that a latch picks from are the branches of `encode`. -/

/-- Delimiters are put in automatically until the application asks for manual framing. -/
inductive FramingLatch where
  | auto
  | manual
deriving DecidableEq

/-- The frame that `from_bytes` makes of an identity.  The length of its slice is a `usize`. -/
def Msg.ofBlob (blob : List α) (flags : MsgFlags) : Msg α :=
  if small : blob.length < 2 ^ 64 then .fromBytes blob flags small else .new

@[simp] lemma Msg.ofBlob_body {blob : List α} (small : blob.length < 2 ^ 64)
    (flags : MsgFlags) : (Msg.ofBlob blob flags).body = blob := by
  rw [Msg.ofBlob, dif_pos small]
  rfl

def clearLast : List (Msg α) → List (Msg α)
  | [] => []
  | [last] => [last.setMore false]
  | first :: next :: rest => first :: clearLast (next :: rest)

lemma Framed.clearLast_eq {frames : List (Msg α)} (framed : Framed frames) :
    clearLast frames = frames := by
  induction frames with
  | nil => rfl
  | cons first rest ih =>
    cases rest with
    | nil =>
      show [first.setMore false] = [first]
      rw [Msg.setMore_self framed]
    | cons next rest =>
      show first :: clearLast (next :: rest) = first :: next :: rest
      rw [ih framed.2]

def delimiterBefore (payload : List (Msg α)) : Msg α := Msg.new.setMore !payload.isEmpty

def routerAutoEncode : List (Msg α) → List (Msg α)
  | [] => []
  | identity :: payload => identity.setMore true :: delimiterBefore payload :: payload

def FramingLatch.encode : FramingLatch → List (Msg α) → List (Msg α)
  | .auto, frames => routerAutoEncode frames
  | .manual, frames => frames

inductive RouterSendStrategy where
  | reqPeer
  | dealerPeer
  | routerPeer
  | default

namespace RouterSendStrategy

def ofSocketType : Option String → RouterSendStrategy
  | some "REQ" => .reqPeer
  | some "DEALER" => .dealerPeer
  | some "ROUTER" => .routerPeer
  | _ => .default

/-- Identity and payload under the framing mode; the identity has MORE if a payload follows. -/
def enveloped (identity : Msg α) (payload : List (Msg α)) (framing : FramingLatch) :
    List (Msg α) :=
  framing.encode ((if payload.isEmpty then identity else identity.setMore true) :: payload)

def prepareWireFrames (identity : Msg α) (payload : List (Msg α)) (framing : FramingLatch) :
    RouterSendStrategy → List (Msg α)
  | .reqPeer => delimiterBefore payload :: payload
  | .dealerPeer =>
    match framing with
    | .manual => payload
    | .auto => enveloped identity payload .auto
  | .routerPeer => payload
  | .default => enveloped identity payload framing

end RouterSendStrategy

/-! The permits of the pipes -/

/-- For each pipe, whether the one permit of its semaphore is free.  A pipe that is removed is
marked as closing and closed in the same step. -/
structure WritePipeCoordinator where
  pipeStates : Nat → Option Bool

namespace WritePipeCoordinator

def new : WritePipeCoordinator := ⟨fun _ => none⟩

def addPipe (c : WritePipeCoordinator) (pipe : Nat) : WritePipeCoordinator :=
  ⟨update c.pipeStates pipe (some ((c.pipeStates pipe).getD true))⟩

def removePipe (c : WritePipeCoordinator) (pipe : Nat) : WritePipeCoordinator :=
  ⟨update c.pipeStates pipe none⟩

/-- The permit of a pipe.  `waited` is what the wait for a permit in use ends in: the permit, the
end of the timeout, or the end of the pipe. -/
def acquireSendPermit (c : WritePipeCoordinator) (pipe : Nat) (timeout : Timeout)
    (waited : Except ZmqError Unit) : Except ZmqError WritePipeCoordinator :=
  match c.pipeStates pipe with
  | none => .error (.hostUnreachable "Target pipe for send not available or recently detached")
  | some true => .ok ⟨update c.pipeStates pipe (some false)⟩
  | some false =>
    match timeout with
    | .zero => .error .resourceLimitReached
    | _ => waited.map fun _ => c

def release (c : WritePipeCoordinator) (pipe : Nat) : WritePipeCoordinator :=
  ⟨update c.pipeStates pipe ((c.pipeStates pipe).map fun _ => true)⟩

end WritePipeCoordinator

/-! The routing table -/

structure RouterMap.PeerInfo where
  uri : String
  strategy : RouterSendStrategy

/-- The two maps of the table: where an identity is sent to, and the identity of each pipe. -/
structure RouterMap (α : Type) where
  identityToPeerInfo : List α → Option RouterMap.PeerInfo
  readPipeToIdentity : AList fun _ : Nat => List α

namespace RouterMap

variable [DecidableEq α] (m : RouterMap α)

def addPeer (identity : List α) (pipe : Nat) (uri : String) : RouterMap α :=
  let forward := update m.identityToPeerInfo identity (some ⟨uri, .default⟩)
  { identityToPeerInfo :=
      match m.readPipeToIdentity.lookup pipe with
      | some old => if old ≠ identity then update forward old none else forward
      | none => forward
    readPipeToIdentity := m.readPipeToIdentity.insert pipe identity }

def removePeerByReadPipe (pipe : Nat) : RouterMap α where
  identityToPeerInfo :=
    match m.readPipeToIdentity.lookup pipe with
    | some identity => update m.identityToPeerInfo identity none
    | none => m.identityToPeerInfo
  readPipeToIdentity := m.readPipeToIdentity.erase pipe

/-- The identity and one pipe that has it are taken out.  The source takes the first such pipe in
the order of its hash map. -/
def removePeerByIdentity (identity : List α) : RouterMap α :=
  match m.identityToPeerInfo identity with
  | none => m
  | some _ =>
    { identityToPeerInfo := update m.identityToPeerInfo identity none
      readPipeToIdentity :=
        match m.readPipeToIdentity.entries.find? fun entry => entry.2 = identity with
        | some entry => m.readPipeToIdentity.erase entry.1
        | none => m.readPipeToIdentity }

def updatePeerIdentity (pipe : Nat) (identity : List α) (uri : String)
    (peerSocketType : Option String) : RouterMap α :=
  let forward :=
    match m.readPipeToIdentity.lookup pipe with
    | some old =>
      if old ≠ identity then update m.identityToPeerInfo old none else m.identityToPeerInfo
    | none => m.identityToPeerInfo
  { identityToPeerInfo := update forward identity (some ⟨uri, .ofSocketType peerSocketType⟩)
    readPipeToIdentity := m.readPipeToIdentity.insert pipe identity }

end RouterMap

/-! The socket -/

structure EndpointInfo where
  connectionIface : Nat
  pipeIds : Option (Nat × Nat)
  handleId : Nat
  peerSocketType : Option String

structure CoreState where
  running : Bool
  sndtimeo : Timeout
  routerMandatory : Bool
  endpoints : String → Option EndpointInfo
  pipeReadIdToEndpointUri : Nat → Option String

/-- A message whose identity frame has been sent, and the pipe whose permit it holds. -/
structure ActiveFragmentedSend where
  targetEndpointUri : String
  permit : Nat

/-- The socket.  `given` lists the frames that connections have been handed, latest last. -/
structure RouterSocket (α : Type) where
  core : CoreState
  routerMapForSend : RouterMap α
  incomingOrchestrator : IncomingMessageOrchestrator (List α × List (Msg α)) α
  pipeToIdentitySharedMap : Nat → Option (List α)
  currentSendTarget : Option ActiveFragmentedSend
  pipeSendCoordinator : WritePipeCoordinator
  framing : FramingLatch
  given : List (Nat × Msg α)

/-- What the waits of one `send` end in: the one for a permit in use, and the sends of the frame and
of the delimiter after it. -/
structure SendAnswers where
  permit : Except ZmqError Unit
  frame : Except ZmqError Unit
  delimiter : Except ZmqError Unit

def blobDebug (blob : List α) : String := "Blob \x7b len: " ++ toString blob.length ++ " \x7d"

namespace RouterSocket

def new (core : CoreState) (rcvhwm : Nat) : RouterSocket α where
  core
  routerMapForSend := ⟨fun _ => none, ∅⟩
  incomingOrchestrator := .new rcvhwm
  pipeToIdentitySharedMap _ := none
  currentSendTarget := none
  pipeSendCoordinator := .new
  framing := .auto
  given := []

variable (s : RouterSocket α)

def unlessMandatory (e : ZmqError) : Except ZmqError Unit :=
  if s.core.routerMandatory then .error e else .ok ()

def closedAs (reason : String) : ZmqError → ZmqError
  | .connectionClosed => .hostUnreachable reason
  | e => e

def give (connection : Nat) (m : Msg α) : RouterSocket α :=
  { s with given := s.given ++ [(connection, m)] }

def clearTarget : RouterSocket α :=
  match s.currentSendTarget with
  | none => s
  | some active => { s with
      currentSendTarget := none
      pipeSendCoordinator := s.pipeSendCoordinator.release active.permit }

def connectionOf (uri : String) : Option (Nat × Nat) :=
  (s.core.endpoints uri).bind fun info =>
    info.pipeIds.map fun ids => (info.connectionIface, ids.2)

def sendPayload (active : ActiveFragmentedSend) (m : Msg α) (answer : Except ZmqError Unit) :
    Except ZmqError Unit × RouterSocket α :=
  match s.core.endpoints active.targetEndpointUri with
  | none =>
    (s.unlessMandatory (.hostUnreachable "Peer for fragmented send disappeared"), s.clearTarget)
  | some info =>
    let s := s.give info.connectionIface m
    match answer with
    | .ok () => (.ok (), if m.isMore then s else s.clearTarget)
    | .error e =>
      (s.unlessMandatory (closedAs "Peer disconnected during payload send" e), s.clearTarget)

def sendEnvelope (uri : String) (connection pipe : Nat) (m : Msg α) (answers : SendAnswers) :
    Except ZmqError Unit × RouterSocket α :=
  let s := s.give connection m
  let released := { s with pipeSendCoordinator := s.pipeSendCoordinator.release pipe }
  match answers.frame with
  | .error e =>
    (s.unlessMandatory (closedAs "Peer disconnected during identity send" e), released)
  | .ok () =>
    match s.framing with
    | .manual => (.ok (), { s with currentSendTarget := some ⟨uri, pipe⟩ })
    | .auto =>
      match answers.delimiter with
      | .error e =>
        (s.unlessMandatory (closedAs "Peer disconnected during delimiter send" e),
          released.give connection (Msg.new.setMore true))
      | .ok () =>
        (.ok (), { s.give connection (Msg.new.setMore true) with
          currentSendTarget := some ⟨uri, pipe⟩ })

lemma clearTarget_eq (s : RouterSocket α) : ∃ pipeSendCoordinator,
      s.clearTarget = { s with currentSendTarget := none, pipeSendCoordinator } := by
  unfold clearTarget
  split
  · rename_i none
    exact ⟨s.pipeSendCoordinator, by rw [← none]⟩
  · exact ⟨_, rfl⟩

variable [DecidableEq α] (s : RouterSocket α)

def sendIdentity (m : Msg α) (answers : SendAnswers) : Except ZmqError Unit × RouterSocket α :=
  if m.isMore = false then
    (.error (.invalidMessage
      "ROUTER send: First frame (identity) must have MORE flag set by application"), s)
  else if m.body = [] then
    (.error (.invalidMessage "ROUTER send: Identity frame cannot be empty"), s)
  else
    match s.routerMapForSend.identityToPeerInfo m.body with
    | none =>
      (s.unlessMandatory (.hostUnreachable
        ("Peer " ++ blobDebug m.body ++ " not found (ROUTER_MANDATORY)")), s)
    | some info =>
      match s.connectionOf info.uri with
      | none =>
        (s.unlessMandatory (.hostUnreachable "Peer connection for identity disappeared"),
          { s with routerMapForSend := s.routerMapForSend.removePeerByIdentity m.body })
      | some (connection, pipe) =>
        match s.pipeSendCoordinator.acquireSendPermit pipe s.core.sndtimeo answers.permit with
        | .error e => (.error e, s)
        | .ok permits =>
          { s with pipeSendCoordinator := permits }.sendEnvelope info.uri connection pipe m answers

def send (m : Msg α) (answers : SendAnswers) : Except ZmqError Unit × RouterSocket α :=
  if s.core.running = false then (.error (.invalidState "Socket is closing"), s)
  else
    match s.currentSendTarget with
    | some active => s.sendPayload active m answers.frame
    | none => s.sendIdentity m answers

def sendMultipart (frames : List (Msg α)) (answers : SendAnswers) :
    Except ZmqError Unit × RouterSocket α :=
  if s.core.running = false then (.error (.invalidState "Socket is closing"), s)
  else
    match frames with
    | [] =>
      (.error (.invalidMessage "ROUTER send_multipart requires at least an identity frame."), s)
    | identity :: payload =>
      if identity.body = [] then
        (.error (.invalidMessage "ROUTER send_multipart: Identity frame cannot be empty"), s)
      else
        match s.routerMapForSend.identityToPeerInfo identity.body with
        | none =>
          (s.unlessMandatory (.hostUnreachable ("Peer with identity " ++
            blobDebug identity.body ++ " not found (ROUTER_MANDATORY)")), s)
        | some info =>
          match s.connectionOf info.uri with
          | none =>
            (s.unlessMandatory
              (.hostUnreachable "Peer connection for identity disappeared before send"),
              { s with
                routerMapForSend := s.routerMapForSend.removePeerByIdentity identity.body })
          | some (connection, pipe) =>
            match s.pipeSendCoordinator.acquireSendPermit pipe s.core.sndtimeo answers.permit with
            | .error e =>
              (.error (if s.core.routerMandatory then e
                else .internal "Send dropped due to permit error (non-mandatory)"), s)
            | .ok permits =>
              let wire := clearLast (info.strategy.prepareWireFrames identity payload s.framing)
              let sent := { s with
                pipeSendCoordinator := permits.release pipe
                given := s.given ++ wire.map fun m => (connection, m) }
              match answers.frame with
              | .ok () => (.ok (), sent)
              | .error e =>
                (s.unlessMandatory (closedAs "Peer disconnected during multipart send" e), sent)

/-! Attaching, identifying and detaching a pipe -/

def pipeIdToPlaceholderIdentity [Octet α] (pipe : Nat) : List α :=
  bytes (utf8 ("pipe:" ++ toString pipe))

def identityOr [Octet α] (pipe : Nat) : Option (List α) → List α
  | some (first :: rest) => first :: rest
  | _ => pipeIdToPlaceholderIdentity pipe

def pipeAttached [Octet α] (s : RouterSocket α) (pipe : Nat) (peerIdentity : Option (List α)) :
    RouterSocket α :=
  match s.core.pipeReadIdToEndpointUri pipe with
  | none => s
  | some uri =>
    match s.core.endpoints uri with
    | none => s
    | some _ =>
      let identity := identityOr pipe peerIdentity
      { s with
        routerMapForSend := s.routerMapForSend.addPeer identity pipe uri
        pipeToIdentitySharedMap := update s.pipeToIdentitySharedMap pipe (some identity)
        pipeSendCoordinator := s.pipeSendCoordinator.addPipe pipe }

def updatePeerIdentity [Octet α] (s : RouterSocket α) (pipe : Nat)
    (newIdentity : Option (List α)) : RouterSocket α :=
  match s.core.pipeReadIdToEndpointUri pipe with
  | none => s
  | some uri =>
    let identity := identityOr pipe newIdentity
    { s with
      routerMapForSend := s.routerMapForSend.updatePeerIdentity pipe identity uri
        ((s.core.endpoints uri).bind EndpointInfo.peerSocketType)
      pipeToIdentitySharedMap := update s.pipeToIdentitySharedMap pipe (some identity) }

/-- The message in progress ends only if the core still knows the endpoint of the pipe. -/
def pipeDetached (pipe : Nat) : RouterSocket α :=
  let uri := s.core.pipeReadIdToEndpointUri pipe
  let removed := { s with
    routerMapForSend := s.routerMapForSend.removePeerByReadPipe pipe
    pipeToIdentitySharedMap := update s.pipeToIdentitySharedMap pipe none
    pipeSendCoordinator := s.pipeSendCoordinator.removePipe pipe }
  let cleared :=
    if (uri.bind s.core.endpoints).isSome ∧
        s.currentSendTarget.map ActiveFragmentedSend.targetEndpointUri = uri then
      removed.clearTarget
    else removed
  { cleared with incomingOrchestrator := s.incomingOrchestrator.clearPipeState pipe }

/-! Receiving -/

def stripDelimiter : List (Msg α) → List (Msg α)
  | [] => []
  | first :: rest => if first.size = 0 then rest else first :: rest

/-- A peer that announced ROUTER sends no delimiter; the source treats all others alike, but for a
warning. -/
def payloadFrom (framing : FramingLatch) (peerSocketType : Option String)
    (message : List (Msg α)) : List (Msg α) :=
  match framing with
  | .manual => message
  | .auto => if peerSocketType = some "ROUTER" then message else stripDelimiter message

def processIncomingZmtpMessage [Octet α] (s : RouterSocket α) (pipe : Nat)
    (message : List (Msg α)) : List α × List (Msg α) :=
  let identity := (s.pipeToIdentitySharedMap pipe).getD (pipeIdToPlaceholderIdentity pipe)
  let peerSocketType := ((s.core.pipeReadIdToEndpointUri pipe).bind s.core.endpoints).bind
    EndpointInfo.peerSocketType
  (identity, payloadFrom s.framing peerSocketType message)

def transformQitemToAppFrames (item : List α × List (Msg α)) : List (Msg α) :=
  clearLast (Msg.ofBlob item.1 ⟨!item.2.isEmpty, false⟩ :: item.2)

/-! What the calls for one pipe leave alone -/

/-- A call for one pipe: the core, the labels of the other pipes and the queue stay, and no message
starts. -/
structure PipeCall (pipe : Nat) (s s' : RouterSocket α) : Prop where
  core : s'.core = s.core
  labels : ∀ p, p ≠ pipe → s'.pipeToIdentitySharedMap p = s.pipeToIdentitySharedMap p
  queue : s'.incomingOrchestrator.mainIncomingQueue = s.incomingOrchestrator.mainIncomingQueue
  target : s'.currentSendTarget = none ∨ s'.currentSendTarget = s.currentSendTarget

omit [DecidableEq α] in
lemma PipeCall.refl (pipe : Nat) (s : RouterSocket α) : PipeCall pipe s s :=
  ⟨rfl, fun _ _ => rfl, rfl, .inr rfl⟩

lemma pipeAttached_call [Octet α] (s : RouterSocket α) (pipe : Nat)
    (identity : Option (List α)) : PipeCall pipe s (s.pipeAttached pipe identity) := by
  unfold pipeAttached
  split
  · exact .refl pipe s
  · split
    · exact .refl pipe s
    · exact ⟨rfl, fun p away => update_of_ne away _ _, rfl, .inr rfl⟩

lemma updatePeerIdentity_call [Octet α] (s : RouterSocket α) (pipe : Nat)
    (identity : Option (List α)) : PipeCall pipe s (s.updatePeerIdentity pipe identity) := by
  unfold updatePeerIdentity
  split
  · exact .refl pipe s
  · exact ⟨rfl, fun p away => update_of_ne away _ _, rfl, .inr rfl⟩

lemma pipeDetached_eq (s : RouterSocket α) (pipe : Nat) :
    ∃ currentSendTarget pipeSendCoordinator, s.pipeDetached pipe = { s with
        routerMapForSend := s.routerMapForSend.removePeerByReadPipe pipe
        pipeToIdentitySharedMap := update s.pipeToIdentitySharedMap pipe none
        incomingOrchestrator := s.incomingOrchestrator.clearPipeState pipe
        currentSendTarget, pipeSendCoordinator } ∧
      (currentSendTarget = none ∨ currentSendTarget = s.currentSendTarget) := by
  simp only [pipeDetached]
  split
  · obtain ⟨permits, cleared⟩ := clearTarget_eq { s with
      routerMapForSend := s.routerMapForSend.removePeerByReadPipe pipe
      pipeToIdentitySharedMap := update s.pipeToIdentitySharedMap pipe none
      pipeSendCoordinator := s.pipeSendCoordinator.removePipe pipe }
    rw [cleared]
    exact ⟨none, permits, rfl, .inl rfl⟩
  · exact ⟨_, _, rfl, .inr rfl⟩

lemma pipeDetached_call (s : RouterSocket α) (pipe : Nat) :
    PipeCall pipe s (s.pipeDetached pipe) := by
  obtain ⟨target, permits, detached, ends⟩ := s.pipeDetached_eq pipe
  rw [detached]
  exact ⟨rfl, fun p away => update_of_ne away _ _, rfl, ends⟩

end RouterSocket

def CoreState.twoPeers (peerSocketType : Option String) : CoreState where
  running := true
  sndtimeo := .infinite
  routerMandatory := false
  endpoints
    | "a" => some ⟨1, some (11, 1), 1, peerSocketType⟩
    | "b" => some ⟨2, some (12, 2), 2, peerSocketType⟩
    | _ => none
  pipeReadIdToEndpointUri
    | 1 => some "a"
    | 2 => some "b"
    | _ => none

def RouterSocket.twoPeers (peerSocketType : Option String) : RouterSocket UInt8 :=
  ((((RouterSocket.new (.twoPeers peerSocketType) 10).pipeAttached 1 none).pipeAttached 2
    none).updatePeerIdentity 1 (some [65])).updatePeerIdentity 2 (some [66])

end Rzmq
