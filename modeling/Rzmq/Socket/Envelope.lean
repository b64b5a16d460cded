import Rzmq.Socket.Multipart
import Rzmq.Socket.Req

/-! The envelopes of the request-reply sockets, from the frames that one application sends to those
that another one receives: DEALER, ROUTER, REQ and REP put frames before a payload, and the receiver
takes them off again by looking for an empty frame. -/

namespace Rzmq

open List Option

variable {α β : Type}

/-! The way of a message -/

/-- A frame comes through with its body and its flags.  A frame without data may come out as one
with empty data. -/
def Faithful (carry : Msg α → Msg α) : Prop :=
  ∀ m, (carry m).body = m.body ∧ (carry m).flags = m.flags

lemma faithful_received : Faithful (Msg.received : Msg α → Msg α) := fun _ => ⟨rfl, rfl⟩

variable {carry : Msg α → Msg α}

lemma Faithful.isMore (faithful : Faithful carry) (m : Msg α) : (carry m).isMore = m.isMore := by
  rw [Msg.isMore, (faithful m).2, Msg.isMore]

lemma Faithful.size (faithful : Faithful carry) (m : Msg α) : (carry m).size = m.size := by
  rw [Msg.size, (faithful m).1, Msg.size]

lemma Faithful.framed (faithful : Faithful carry) {frames}
    (framed : Framed frames) : Framed (frames.map carry) := by
  induction frames with
  | nil => exact framed
  | cons first rest ih =>
    cases rest with
    | nil => exact (faithful.isMore first).trans framed
    | cons next rest => exact ⟨(faithful.isMore first).trans framed.1, ih framed.2⟩

/-- A call of `recv_message` that no other task interferes with, for as many steps as it may take.
-/
def recvSteps (toFrames : β → List (Msg α)) (rcvtimeo : Timeout) :
    Nat → RecvMessage α → IncomingMessageOrchestrator β α →
      Option (Except ZmqError (Msg α) × IncomingMessageOrchestrator β α)
  | 0, _, _ => none
  | n + 1, fut, o =>
    match fut.poll toFrames rcvtimeo o with
    | none => none
    | some (.inl fut, o) => recvSteps toFrames rcvtimeo n fut o
    | some (.inr result, o) => some (result, o)

def recvFrames (toFrames : β → List (Msg α)) (rcvtimeo : Timeout) :
    Nat → IncomingMessageOrchestrator β α → Option (List (Msg α))
  | 0, _ => some []
  | n + 1, o =>
    match recvSteps toFrames rcvtimeo 3 .locking o with
    | some (.ok m, o) => (recvFrames toFrames rcvtimeo n o).map (m :: ·)
    | _ => none

variable {toFrames : β → List (Msg α)}

lemma recvFrames_buffer (rcvtimeo : Timeout) {frames}
    (o) (buffer : o.currentRecvFramesBuffer = frames)
    (framed : Framed frames ∨ frames = []) :
    recvFrames toFrames rcvtimeo frames.length o = some frames := by
  induction frames generalizing o with
  | nil => rfl
  | cons first rest ih =>
    have here : Framed (first :: rest) := framed.resolve_right (cons_ne_nil _ _)
    have kept : first.setMore (!rest.isEmpty) = first := by
      apply Msg.setMore_self
      cases rest with
      | nil => exact here
      | cons next rest => exact here.1
    have later : Framed rest ∨ rest = [] := by
      cases rest with
      | nil => exact .inr rfl
      | cons next rest => exact .inl here.2
    have polled : recvSteps toFrames rcvtimeo 3 .locking o =
        some (.ok first, { o with currentRecvFramesBuffer := rest }) := by
      simp [recvSteps, RecvMessage.poll, buffer, kept]
    simp only [length_cons, recvFrames, polled]
    rw [ih _ rfl later]
    rfl

/-- Both ways to receive an item give these frames: `recv_multipart`, and `recv` as often as there
are frames. -/
structure Receives (toFrames : β → List (Msg α)) (item : β) (frames : List (Msg α)) : Prop where
  whole : toFrames item = frames
  framewise : ∀ (o : IncomingMessageOrchestrator β α) (rcvtimeo : Timeout) (later : List β),
    o.currentRecvFramesBuffer = [] → o.mainIncomingQueue.items = item :: later →
      recvFrames toFrames rcvtimeo frames.length o = some frames

lemma receives_of_framed {item : β} {frames} (whole : toFrames item = frames)
    (framed : Framed frames) : Receives toFrames item frames := by
  refine ⟨whole, fun o rcvtimeo later empty items => ?_⟩
  cases frames with
  | nil => exact framed.elim
  | cons first rest =>
    have rest_framed : Framed rest ∨ rest = [] := by
      cases rest with
      | nil => exact .inr rfl
      | cons next rest => exact .inl framed.2
    have polled : recvSteps toFrames rcvtimeo 3 .locking o = some (.ok first,
        { o.setItems later with currentRecvFramesBuffer := rest }) := by
      simp [recvSteps, RecvMessage.poll, empty,
        IncomingMessageOrchestrator.recvItemFromMainQueue_cons items, whole]
    simp only [length_cons, recvFrames, polled]
    rw [@recvFrames_buffer _ _ toFrames rcvtimeo rest _ rfl rest_framed]
    rfl

/-- `decode` makes the item that is queued of the frames of one message, and `toFrames` what the
application gets. -/
structure Delivers (carry : Msg α → Msg α) (wire : List (Msg α)) (decode : List (Msg α) → β)
    (toFrames : β → List (Msg α)) (frames : List (Msg α)) : Prop where
  assembled : OneMessage (wire.map carry)
  received : Receives toFrames (decode (wire.map carry)) frames

lemma delivers_of_framed (faithful : Faithful carry) {wire frames decode} (framed : Framed wire)
    (decodes : toFrames (decode (wire.map carry)) = frames) (result : Framed frames) :
    Delivers carry wire decode toFrames frames :=
  ⟨(faithful.framed framed).oneMessage, receives_of_framed decodes result⟩

/-! Putting the envelope on, and taking it off -/

lemma Framed.cons {m : Msg α} {frames} (framed : Framed frames)
    (more : m.isMore = true) : Framed (m :: frames) := by
  cases frames with
  | nil => exact framed.elim
  | cons first rest => exact ⟨more, framed⟩

lemma Framed.isEmpty_eq {frames : List (Msg α)} (framed : Framed frames) :
    frames.isEmpty = false := by
  cases frames with
  | nil => exact framed.elim
  | cons first rest => rfl

lemma Framed.delimiterBefore_eq {frames : List (Msg α)} (framed : Framed frames) :
    delimiterBefore frames = Req.delimiter := by
  rw [delimiterBefore, framed.isEmpty_eq]
  rfl

lemma delimiter_isMore : (Req.delimiter : Msg α).isMore = true := rfl

lemma Faithful.delimiter_size (faithful : Faithful carry) : (carry Req.delimiter).size = 0 := by
  rw [faithful.size]
  rfl

lemma dealer_wire {payload : List (Msg α)} (framed : Framed payload) :
    prepareFullMultipartSendSequence .auto payload = Req.delimiter :: payload := by
  have whole := framed.cons delimiter_isMore
  simp only [prepareFullMultipartSendSequence, framed.isEmpty_eq, Bool.false_eq_true, if_false,
    dealerAutoEncode, framed.delimiterBefore_eq]
  exact whole.linked_eq

def Req.requestWire (m : Msg α) : List (Msg α) := [delimiter, m.setMore false]

def RouterSendStrategy.autoWire (identity : Msg α) (payload : List (Msg α)) :
    RouterSendStrategy → List (Msg α)
  | .reqPeer => Req.delimiter :: payload
  | .routerPeer => payload
  | .dealerPeer | .default => identity.setMore true :: Req.delimiter :: payload

/-- A message to a peer that is known, connected and not being sent to is handed over. -/
lemma RouterSocket.handed_auto {s : RouterSocket α} {identity : Msg α} {payload : List (Msg α)}
    {answers : SendAnswers} {connection pipe : Nat} {uri : String} {strategy : RouterSendStrategy}
    {permits : WritePipeCoordinator} (running : s.core.running = true) (filled : identity.body ≠ [])
    (known : s.routerMapForSend.identityToPeerInfo identity.body = some ⟨uri, strategy⟩)
    (connected : s.connectionOf uri = some (connection, pipe))
    (permitted : s.pipeSendCoordinator.acquireSendPermit pipe s.core.sndtimeo answers.permit =
      .ok permits) (auto : s.framing = .auto) (framed : Framed payload) :
    s.handed (identity :: payload) answers =
      some (connection, strategy.autoWire identity payload) := by
  have delimited := framed.cons delimiter_isMore
  have enveloped : Framed (identity.setMore true :: Req.delimiter :: payload) :=
    delimited.cons rfl
  have envelope : RouterSendStrategy.enveloped identity payload .auto =
      identity.setMore true :: Req.delimiter :: payload := by
    simp [RouterSendStrategy.enveloped, FramingLatch.encode, routerAutoEncode,
      framed.isEmpty_eq, framed.delimiterBefore_eq, Msg.setMore]
  have wire : clearLast (strategy.prepareWireFrames identity payload .auto) =
      strategy.autoWire identity payload := by
    cases strategy with
    | reqPeer =>
      simp only [RouterSendStrategy.prepareWireFrames, framed.delimiterBefore_eq]
      exact delimited.clearLast_eq
    | routerPeer => exact framed.clearLast_eq
    | dealerPeer | default =>
      simp only [RouterSendStrategy.prepareWireFrames, envelope]
      exact enveloped.clearLast_eq
  simp [handed, running, filled, known, connected, permitted, auto, wire]

lemma dealer_decode_delimited {m} (empty : m.size = 0) (payload : List (Msg α)) :
    processIncomingZmtpMessageForDealer .auto (m :: payload) = payload := by
  simp [processIncomingZmtpMessageForDealer, empty]

lemma dealer_decode_enveloped {identity m} (filled : identity.size ≠ 0)
    (empty : m.size = 0) (payload : List (Msg α)) :
    processIncomingZmtpMessageForDealer .auto (identity :: m :: payload) = payload := by
  simp [processIncomingZmtpMessageForDealer, filled, empty]

lemma req_decode_delimited {m} (empty : m.size = 0) (payload : List (Msg α)) :
    Req.processIncomingZmtpMessageForReq (m :: payload) = payload := by
  simp [Req.processIncomingZmtpMessageForReq, empty]

lemma rep_decode_delimited {m} (empty : m.size = 0) (payload : List (Msg α)) :
    Rep.splitRequest (m :: payload) = ([m], payload) := by
  simp [Rep.splitRequest, Rep.splitFrames, empty, Rep.splitFrames_found]

namespace RouterSocket

variable [Octet α]

def recordedType (s : RouterSocket α) (pipe : Nat) : Option String :=
  ((s.core.pipeReadIdToEndpointUri pipe).bind s.core.endpoints).bind EndpointInfo.peerSocketType

def identityFrame (s : RouterSocket α) (pipe : Nat) : Msg α :=
  .ofBlob ((s.pipeToIdentitySharedMap pipe).getD (pipeIdToPlaceholderIdentity pipe)) ⟨true, false⟩

def Nameable (s : RouterSocket α) (pipe : Nat) : Prop :=
  ((s.pipeToIdentitySharedMap pipe).getD (pipeIdToPlaceholderIdentity pipe)).length < 2 ^ 64

lemma Nameable.isMore {s : RouterSocket α} {pipe : Nat} (labelled : s.Nameable pipe) :
    (s.identityFrame pipe).isMore = true := by
  rw [identityFrame, Msg.ofBlob, dif_pos (by exact labelled)]
  rfl

lemma router_decode {s : RouterSocket α} {pipe : Nat} {message payload : List (Msg α)}
    (auto : s.framing = .auto) (framed : Framed payload)
    (left : (if s.recordedType pipe = some "ROUTER" then message else stripDelimiter message) =
      payload) :
    transformQitemToAppFrames (s.processIncomingZmtpMessage pipe message) =
      s.identityFrame pipe :: payload := by
  have same : s.processIncomingZmtpMessage pipe message =
      ((s.pipeToIdentitySharedMap pipe).getD (pipeIdToPlaceholderIdentity pipe), payload) := by
    simp only [processIncomingZmtpMessage, payloadFrom, auto, ← left]
    rfl
  rw [same, transformQitemToAppFrames]
  simp only [framed.isEmpty_eq, Bool.not_false]
  show clearLast (s.identityFrame pipe :: payload) = s.identityFrame pipe :: payload
  cases payload with
  | nil => exact framed.elim
  | cons first rest => rw [clearLast, framed.clearLast_eq]

lemma router_delivers (faithful : Faithful carry) {s : RouterSocket α} {pipe : Nat}
    {wire payload : List (Msg α)} (auto : s.framing = .auto) (labelled : s.Nameable pipe)
    (sent : Framed wire) (framed : Framed payload)
    (left : (if s.recordedType pipe = some "ROUTER" then wire.map carry
      else stripDelimiter (wire.map carry)) = payload.map carry) :
    Delivers carry wire (s.processIncomingZmtpMessage pipe) transformQitemToAppFrames
      (s.identityFrame pipe :: payload.map carry) := by
  have carried := faithful.framed framed
  exact delivers_of_framed faithful sent (router_decode auto carried left)
    (carried.cons labelled.isMore)

end RouterSocket

end Rzmq
