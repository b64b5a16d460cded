import Rzmq.Lib.Transition
import Rzmq.Socket.Router

/-! The two ways to send on a ROUTER.  First, which frames a peer gets from `send` once per frame
and from one `send_multipart`.  Then `send` frame by frame through failures and detaches, against an
account of which frame starts a message and where its identity frame went. -/

namespace Rzmq

open List Option Function Transition RouterSocket
open RouterSendStrategy (enveloped ofSocketType prepareWireFrames)

variable {α : Type}

def SendAnswers.fine : SendAnswers := ⟨.ok (), .ok (), .ok ()⟩

namespace RouterSocket

section Specs

variable (s : RouterSocket α) (active : ActiveFragmentedSend) (m : Msg α)

@[simp] lemma clearTarget_core : s.clearTarget.core = s.core := by
  obtain ⟨permits, cleared⟩ := s.clearTarget_eq
  rw [cleared]

@[simp] lemma clearTarget_given : s.clearTarget.given = s.given := by
  obtain ⟨permits, cleared⟩ := s.clearTarget_eq
  rw [cleared]

@[simp] lemma clearTarget_target : s.clearTarget.currentSendTarget = none := by
  obtain ⟨permits, cleared⟩ := s.clearTarget_eq
  rw [cleared]

lemma sendPayload_given (answer) :
    (s.sendPayload active m answer).2.given = s.given ++
      ((s.core.endpoints active.targetEndpointUri).map fun info =>
        (info.connectionIface, m)).toList := by
  unfold sendPayload
  cases s.core.endpoints active.targetEndpointUri with
  | none => simp
  | some info =>
    cases answer with
    | error e => simp [give]
    | ok _ => by_cases more : m.isMore <;> simp [give, more]

lemma sendPayload_core (answer) :
    (s.sendPayload active m answer).2.core = s.core := by
  unfold sendPayload
  cases s.core.endpoints active.targetEndpointUri with
  | none => simp
  | some info =>
    cases answer with
    | error e => simp [give]
    | ok _ => by_cases more : m.isMore <;> simp [give, more]

lemma sendPayload_target (answer)
    (progress : s.currentSendTarget = some active) :
    (s.sendPayload active m answer).2.currentSendTarget = none ∨
      m.isMore = true ∧ (s.sendPayload active m answer).2.currentSendTarget = some active := by
  unfold sendPayload
  cases s.core.endpoints active.targetEndpointUri with
  | none => simp
  | some info =>
    cases answer with
    | error e => simp
    | ok _ => by_cases more : m.isMore <;> simp [give, more, progress]

lemma sendEnvelope_spec (uri : String) (connection pipe : Nat) (answers : SendAnswers)
    (idle : s.currentSendTarget = none) :
    (s.sendEnvelope uri connection pipe m answers).2.core = s.core ∧
    (∃ rest, (s.sendEnvelope uri connection pipe m answers).2.given =
      s.given ++ (connection, m) :: rest) ∧
    ((s.sendEnvelope uri connection pipe m answers).2.currentSendTarget = none ∨
      (s.sendEnvelope uri connection pipe m answers).2.currentSendTarget = some ⟨uri, pipe⟩) := by
  unfold sendEnvelope
  cases answers.frame with
  | error e => exact ⟨rfl, ⟨[], rfl⟩, .inl idle⟩
  | ok _ =>
    cases framing : s.framing with
    | manual => simp [give, framing]
    | auto =>
      cases answers.delimiter with
      | error e => simp [give, framing, idle]
      | ok _ => simp [give, framing]

end Specs

variable [DecidableEq α] {s : RouterSocket α} {m : Msg α}

def sendEach (s : RouterSocket α) : List (Msg α) → RouterSocket α
  | [] => s
  | m :: rest => (s.send m .fine).2.sendEach rest

structure Ready (s : RouterSocket α) (identity : List α) (info : RouterMap.PeerInfo)
    (connection pipe : Nat) : Prop where
  running : s.core.running = true
  idle : s.currentSendTarget = none
  known : s.routerMapForSend.identityToPeerInfo identity = some info
  connected : s.connectionOf info.uri = some (connection, pipe)
  free : s.pipeSendCoordinator.pipeStates pipe = some true

variable {payload : List (Msg α)} {identity : Msg α} {connection pipe : Nat}
  {info : RouterMap.PeerInfo}

omit [DecidableEq α] in
lemma connectionOf_some {uri} (connected : s.connectionOf uri = some (connection, pipe)) :
    ∃ info, s.core.endpoints uri = some info ∧ info.connectionIface = connection := by
  obtain ⟨info, found, ids⟩ := bind_eq_some_iff.mp connected
  obtain ⟨_, -, same⟩ := map_eq_some_iff.mp ids
  exact ⟨info, found, congrArg Prod.fst same⟩

lemma sendEach_payload {frames} (framed : Framed frames)
    (active : ActiveFragmentedSend) (info : EndpointInfo) (running : s.core.running = true)
    (progress : s.currentSendTarget = some active)
    (found : s.core.endpoints active.targetEndpointUri = some info) :
    (s.sendEach frames).given = s.given ++ frames.map fun m => (info.connectionIface, m) := by
  induction frames generalizing s with
  | nil => exact framed.elim
  | cons first rest ih =>
    have step : (s.send first .fine).2 = if first.isMore then s.give info.connectionIface first
        else (s.give info.connectionIface first).clearTarget := by
      simp [send, running, progress, sendPayload, found, SendAnswers.fine]
    cases rest with
    | nil =>
      have last : first.isMore = false := framed
      simp [sendEach, step, last, give]
    | cons next rest =>
      have more : first.isMore = true := framed.1
      rw [sendEach, step, if_pos more]
      refine (ih (s := s.give info.connectionIface first) framed.2 running progress found).trans ?_
      simp [give]

def envelope : FramingLatch → Msg α → List (Msg α)
  | .auto, identity => [identity, Msg.new.setMore true]
  | .manual, identity => [identity]

omit [DecidableEq α] in
lemma sendEnvelope_fine (s : RouterSocket α) (uri : String) (connection pipe : Nat)
    (identity : Msg α) :
    (s.sendEnvelope uri connection pipe identity .fine).2 = { s with
      given := s.given ++ (envelope s.framing identity).map fun m => (connection, m)
      currentSendTarget := some ⟨uri, pipe⟩ } := by
  cases framing : s.framing <;> simp [sendEnvelope, SendAnswers.fine, give, framing, envelope]

lemma sendEach_given (ready : s.Ready identity.body info connection pipe)
    (more : identity.isMore = true) (filled : identity.body ≠ []) (framed : Framed payload) :
    (s.sendEach (identity :: payload)).given =
      s.given ++ (envelope s.framing identity ++ payload).map fun m => (connection, m) := by
  obtain ⟨endpoint, found, rfl⟩ := connectionOf_some ready.connected
  have step : s.send identity .fine =
      (({ s with pipeSendCoordinator :=
        ⟨update s.pipeSendCoordinator.pipeStates pipe (some false)⟩ } :
        RouterSocket α).sendEnvelope info.uri endpoint.connectionIface pipe identity .fine) := by
    simp [send, ready.running, ready.idle, sendIdentity, more, filled, ready.known,
      ready.connected, WritePipeCoordinator.acquireSendPermit, ready.free]
  rw [sendEach, step, sendEnvelope_fine]
  refine (sendEach_payload framed ⟨info.uri, pipe⟩ endpoint ?_ ?_ ?_).trans ?_
  · exact ready.running
  · rfl
  · exact found
  · simp

lemma sendMultipart_given (ready : s.Ready identity.body info connection pipe)
    (filled : identity.body ≠ []) :
    (s.sendMultipart (identity :: payload) .fine).2.given = s.given ++
      (clearLast (info.strategy.prepareWireFrames identity payload s.framing)).map
        fun m => (connection, m) := by
  simp [sendMultipart, ready.running, filled, ready.known, ready.connected,
    WritePipeCoordinator.acquireSendPermit, ready.free, SendAnswers.fine]

omit [DecidableEq α] in
lemma enveloped_eq (more : identity.isMore = true) (framed : Framed payload)
    (framing : FramingLatch) : clearLast (enveloped identity payload framing) =
      envelope framing identity ++ payload := by
  cases payload with
  | nil => exact framed.elim
  | cons first rest =>
    have kept := Msg.setMore_self more
    cases framing <;>
      simp [enveloped, FramingLatch.encode, routerAutoEncode, kept, envelope,
        delimiterBefore, clearLast, framed.clearLast_eq]

omit [DecidableEq α] in
lemma prepareWireFrames_eq_iff (more : identity.isMore = true) (filled : identity.body ≠ [])
    (framed : Framed payload) (framing : FramingLatch) (strategy : RouterSendStrategy) :
    envelope framing identity ++ payload =
        clearLast (strategy.prepareWireFrames identity payload framing) ↔
      strategy = .default ∨ strategy = .dealerPeer ∧ framing = .auto := by
  have longer : envelope framing identity ++ payload ≠ payload := by
    intro same
    have := congrArg length same
    cases framing <;> simp only [envelope, length_append, length_cons] at this <;> omega
  cases strategy with
  | default =>
    simp [prepareWireFrames, enveloped_eq more framed]
  | dealerPeer =>
    cases framing with
    | auto => simp [prepareWireFrames, enveloped_eq more framed]
    | manual => simp [prepareWireFrames, framed.clearLast_eq, longer]
  | routerPeer => simp [prepareWireFrames, framed.clearLast_eq, longer]
  | reqPeer =>
    simp only [prepareWireFrames, reduceCtorEq, false_and, or_false, iff_false]
    cases payload with
    | nil => exact framed.elim
    | cons first rest =>
      intro same
      have heads := congrArg head? same
      have empty : identity.body = [] := by
        cases framing <;> simp [envelope, clearLast, delimiterBefore] at heads <;>
          rw [heads] <;> rfl
      exact filled empty

/-- `send` per frame and `send_multipart` hand a peer the same frames exactly if it has announced
none of REQ, DEALER and ROUTER, or DEALER while delimiters are automatic. -/
theorem send_agrees_iff {uri : String} {peerSocketType : Option String} {connection pipe : Nat}
    {identity : Msg α} {payload : List (Msg α)}
    (ready : s.Ready identity.body ⟨uri, .ofSocketType peerSocketType⟩ connection pipe)
    (more : identity.isMore = true) (filled : identity.body ≠ []) (framed : Framed payload) :
    (s.sendEach (identity :: payload)).given =
        (s.sendMultipart (identity :: payload) .fine).2.given ↔
      (peerSocketType ≠ some "REQ" ∧ peerSocketType ≠ some "DEALER" ∧
        peerSocketType ≠ some "ROUTER") ∨
      (peerSocketType = some "DEALER" ∧ s.framing = .auto) := by
  have strategies : ∀ type, (ofSocketType type = .default ↔
      type ≠ some "REQ" ∧ type ≠ some "DEALER" ∧ type ≠ some "ROUTER") ∧
      (ofSocketType type = .dealerPeer ↔ type = some "DEALER") := by
    intro type
    unfold ofSocketType
    split <;> simp_all
  rw [sendEach_given ready more filled framed, sendMultipart_given ready filled,
    append_cancel_left_eq, (map_injective_iff.mpr fun _ _ same =>
      (Prod.mk.inj same).2).eq_iff, prepareWireFrames_eq_iff more filled framed,
    (strategies peerSocketType).1, (strategies peerSocketType).2]

theorem send_agrees_iff_unannounced :
    ((twoPeers none).sendEach [octet 65 true, octet 1 false]).given =
      ((twoPeers none).sendMultipart [octet 65 true, octet 1 false] .fine).2.given :=
  (send_agrees_iff ⟨rfl, rfl, rfl, rfl, rfl⟩ rfl (by decide)
    (show Framed [octet 1 false] from rfl)).mpr (.inl (by decide))

/-- A REQ peer gets its identity before the delimiter from `send`, and not from
`send_multipart`. -/
theorem send_disagrees_req :
    ((twoPeers (some "REQ")).sendEach [octet 65 true, octet 1 false]).given =
        [(1, octet 65 true), (1, Msg.new.setMore true), (1, octet 1 false)] ∧
      ((twoPeers (some "REQ")).sendMultipart [octet 65 true, octet 1 false] .fine).2.given =
        [(1, Msg.new.setMore true), (1, octet 1 false)] :=
  ⟨by decide +kernel, by decide +kernel⟩

end RouterSocket

/-- As the identity that starts a message, as payload of the message in progress, or not at all. -/
inductive Treatment where
  | refused
  | identity
  | payload
deriving DecidableEq

def RouterSocket.treatment (s : RouterSocket α) (m : Msg α) : Treatment :=
  if s.core.running = false then .refused
  else
    match s.currentSendTarget with
    | some _ => .payload
    | none => if m.isMore = true ∧ m.body.isEmpty = false then .identity else .refused

namespace RouterSocket

variable [DecidableEq α] {s : RouterSocket α} {m : Msg α} {answers : SendAnswers}

lemma send_refused (refused : s.treatment m = .refused) : (s.send m answers).2 = s := by
  unfold treatment at refused
  unfold send
  by_cases running : s.core.running = false
  · simp [running]
  · rw [if_neg running] at refused ⊢
    cases target : s.currentSendTarget with
    | some active => simp [target] at refused
    | none =>
      simp only [target, ite_eq_right_iff, reduceCtorEq, imp_false, not_and] at refused
      by_cases more : m.isMore = false
      · simp [sendIdentity, more]
      · have empty : m.body = [] := by simpa using refused (by simpa using more)
        simp [sendIdentity, more, empty]

lemma send_payload {active} (m : Msg α) (answers : SendAnswers) (running : s.core.running = true)
    (target : s.currentSendTarget = some active) :
    s.send m answers = s.sendPayload active m answers.frame := by
  simp [send, running, target]

/-- After an identity frame a message is in progress only at the endpoint of the connection that
the frame was handed to. -/
lemma send_identity (m : Msg α) (answers : SendAnswers) (running : s.core.running = true)
    (idle : s.currentSendTarget = none) :
    (s.send m answers).2.core = s.core ∧
    ((s.send m answers).2.currentSendTarget = none ∨
      ∃ active info rest, (s.send m answers).2.currentSendTarget = some active ∧
        s.core.endpoints active.targetEndpointUri = some info ∧
        (s.send m answers).2.given = s.given ++ (info.connectionIface, m) :: rest) := by
  by_cases taken : m.isMore = true ∧ m.body ≠ []
  · obtain ⟨more, filled⟩ := taken
    have here : s.send m answers = s.sendIdentity m answers := by simp [send, running, idle]
    rw [here]
    cases known : s.routerMapForSend.identityToPeerInfo m.body with
    | none => simp [sendIdentity, more, filled, known, idle]
    | some info =>
      cases connected : s.connectionOf info.uri with
      | none => simp [sendIdentity, more, filled, known, connected, idle]
      | some pair =>
        obtain ⟨connection, pipe⟩ := pair
        obtain ⟨endpoint, found, rfl⟩ := connectionOf_some connected
        cases permit : s.pipeSendCoordinator.acquireSendPermit pipe s.core.sndtimeo answers.permit
          with
        | error e => simp [sendIdentity, more, filled, known, connected, permit, idle]
        | ok permits =>
          have sent : s.sendIdentity m answers = ({ s with pipeSendCoordinator := permits } :
              RouterSocket α).sendEnvelope info.uri endpoint.connectionIface pipe m answers := by
            simp [sendIdentity, more, filled, known, connected, permit]
          obtain ⟨core, ⟨rest, given⟩, target⟩ := sendEnvelope_spec
            ({ s with pipeSendCoordinator := permits } : RouterSocket α) m info.uri
            endpoint.connectionIface pipe answers idle
          rw [sent]
          refine ⟨core, target.imp_right fun progress => ?_⟩
          exact ⟨⟨info.uri, pipe⟩, endpoint, rest, progress, found, given⟩
  · have refused : s.treatment m = .refused := by
      simp only [treatment, running, idle]
      simpa using taken
    rw [send_refused refused]
    exact ⟨rfl, .inl idle⟩

end RouterSocket

/-- `role` is the frame's place: `none` for the first of a message, and for a later one the
connection that the first was handed to, if any. -/
structure Handling (α : Type) where
  frame : Msg α
  role : Option (Option Nat)
  taken : Treatment
  given : List (Nat × Msg α)

/-- A first frame is not taken as payload, a later one not as an identity, and goes where the first
went. -/
def Handling.Right (h : Handling α) : Prop :=
  match h.role with
  | none => h.taken ≠ .payload
  | some route => h.taken ≠ .identity ∧ ∀ g ∈ h.given, g.2 = h.frame ∧ route = some g.1

/-- One task that sends frame by frame: where it stands in its message, and what became of each
frame. -/
structure FrameSender (α : Type) where
  router : RouterSocket α
  message : Option (Option Nat)
  log : List (Handling α)

inductive FrameSender.Action (α : Type) where
  | send (m : Msg α) (answers : SendAnswers)
  | core (core : CoreState)
  | attached (pipe : Nat) (identity : Option (List α))
  | identified (pipe : Nat) (identity : Option (List α))
  | detached (pipe : Nat)
  | setManual

namespace FrameSender

variable [DecidableEq α]

def start (router : RouterSocket α) : FrameSender α := ⟨router, none, []⟩

def handle (w : FrameSender α) (m : Msg α) (answers : SendAnswers) : Handling α where
  frame := m
  role := w.message
  taken := w.router.treatment m
  given := (w.router.send m answers).2.given.drop w.router.given.length

lemma send_core (s : RouterSocket α) (m : Msg α) (answers : SendAnswers) :
    (s.send m answers).2.core = s.core := by
  by_cases running : s.core.running = true
  · cases target : s.currentSendTarget with
    | some active =>
      rw [send_payload m answers running target]
      exact s.sendPayload_core active m answers.frame
    | none => exact (send_identity m answers running target).1
  · simp [send, running]

variable [Octet α]

def step (w : FrameSender α) : Action α → Option (FrameSender α)
  | .send m answers => some {
      router := (w.router.send m answers).2
      message :=
        if m.isMore then
          some (w.message.getD ((w.handle m answers).given.head?.map Prod.fst))
        else none
      log := w.log ++ [w.handle m answers] }
  | .core core =>
    if core.running = true ∧ w.router.core.running = false then none
    else some { w with router := { w.router with core } }
  | .attached pipe identity => some { w with router := w.router.pipeAttached pipe identity }
  | .identified pipe identity =>
    some { w with router := w.router.updatePeerIdentity pipe identity }
  | .detached pipe => some { w with router := w.router.pipeDetached pipe }
  | .setManual => some { w with router := { w.router with framing := .manual } }

/-- A later frame that finds no message in progress is the last or empty, and the endpoint of a
message in progress keeps its connection. -/
def Steady (w : FrameSender α) : Action α → Prop
  | .send m _ =>
    w.router.core.running = true → w.message.isSome → w.router.currentSendTarget = none →
      m.isMore = false ∨ m.body = []
  | .core core =>
    ∀ active info, w.router.currentSendTarget = some active →
      core.endpoints active.targetEndpointUri = some info →
      ∃ before, w.router.core.endpoints active.targetEndpointUri = some before ∧
        before.connectionIface = info.connectionIface
  | _ => True

/-- What the messages of the sender and of the socket have in common while the socket runs. -/
structure Aligned (w : FrameSender α) : Prop where
  between : w.message = none → w.router.currentSendTarget = none
  within : ∀ route active info, w.message = some route →
    w.router.currentSendTarget = some active →
    w.router.core.endpoints active.targetEndpointUri = some info →
    route = some info.connectionIface

variable {w w' : FrameSender α} {m : Msg α} {answers : SendAnswers}

omit [Octet α] in
lemma handle_right_iff (aligned : w.router.core.running = true → w.Aligned) :
    (w.handle m answers).Right ↔ w.Steady (.send m answers) := by
  by_cases running : w.router.core.running = true
  · cases message : w.message with
    | none =>
      have idle := (aligned running).between message
      have taken : w.router.treatment m ≠ .payload := by
        simp only [treatment, running, idle]
        split
        · simp
        · split <;> simp
      simp [Handling.Right, handle, Steady, message, taken]
    | some route =>
      cases target : w.router.currentSendTarget with
      | some active =>
        have payload : w.router.treatment m = .payload := by
          simp [treatment, running, target]
        simp only [Handling.Right, handle, message, payload, Steady, target,
          send_payload m answers running target, sendPayload_given,
          drop_left]
        constructor
        · simp
        · intro _
          refine ⟨by simp, ?_⟩
          intro g mem
          obtain ⟨info, found, rfl⟩ := map_eq_some_iff.mp (mem_toList.mp mem)
          exact ⟨rfl, (aligned running).within route active info message target found⟩
      | none =>
        by_cases taken : m.isMore = true ∧ m.body ≠ []
        · have identity : w.router.treatment m = .identity := by
            simp only [treatment, running, target]
            simpa using taken
          simp [Handling.Right, handle, message, identity, Steady, running, target, taken]
        · have refused : w.router.treatment m = .refused := by
            simp only [treatment, running, target]
            simpa using taken
          have last : m.isMore = false ∨ m.body = [] := by
            by_contra both
            push Not at both
            exact taken ⟨by simpa using both.1, both.2⟩
          simp [Handling.Right, handle, message, refused, Steady, send_refused refused, last]
  · have refused : w.router.treatment m = .refused := by
      simp [treatment, running]
    simp only [Handling.Right, handle, refused, send_refused refused, drop_length, Steady, running]
    cases w.message <;> simp

lemma aligned_send (running : w.router.core.running = true) (aligned : w.Aligned)
    (steady : w.Steady (.send m answers)) (taken : w.step (.send m answers) = some w') :
    w'.Aligned := by
  cases taken
  cases target : w.router.currentSendTarget with
  | some active =>
    have sent := send_payload m answers running target
    have after := w.router.sendPayload_target active m answers.frame target
    have core := w.router.sendPayload_core active m answers.frame
    rw [← sent] at after core
    cases message : w.message with
    | none =>
      rw [aligned.between message] at target
      cases target
    | some route =>
      constructor
      · intro between
        rcases after with ended | ⟨more, -⟩
        · exact ended
        · simp [more] at between
      · intro route' active' info within progress found
        simp only [getD_some] at within progress found
        rcases after with ended | ⟨more, stays⟩
        · rw [ended] at progress
          cases progress
        · rw [stays, some.injEq] at progress
          subst progress
          rw [core] at found
          simp only [more, if_true, some.injEq] at within
          subst within
          exact aligned.within route active info message target found
  | none =>
    obtain ⟨core, ended | ⟨active, info, rest, progress, found, given⟩⟩ :=
      send_identity m answers running target
    · constructor
      · intro _
        exact ended
      · intro route active info _ progress
        rw [ended] at progress
        cases progress
    · have more : m.isMore = true := by
        by_contra last
        have refused : w.router.treatment m = .refused := by
          simp [treatment, target, last]
        rw [send_refused refused, target] at progress
        cases progress
      have first : w.message = none := by
        cases message : w.message with
        | none => rfl
        | some route =>
          exfalso
          rcases steady running (by simp [message]) target with last | empty
          · rw [more] at last
            cases last
          · have refused : w.router.treatment m = .refused := by
              simp [treatment, target, empty]
            rw [send_refused refused, target] at progress
            cases progress
      constructor
      · intro between
        simp [more] at between
      · intro route active' info' within progress' found'
        simp only [handle, more, if_true, first, getD_none, some.injEq, given,
          drop_left, head?_cons, map_some] at within
        rw [progress, some.injEq] at progress'
        subst progress'
        rw [core, found, some.injEq] at found'
        subst found'
        exact within.symm

structure Kept (w : FrameSender α) : Prop where
  aligned : w.router.core.running = true → w.Aligned
  right : ∀ h ∈ w.log, h.Right

omit [DecidableEq α] [Octet α] in
lemma Aligned.beside (aligned : w.Aligned) (message : w'.message = w.message)
    (core : w'.router.core = w.router.core)
    (target : w'.router.currentSendTarget = none ∨
      w'.router.currentSendTarget = w.router.currentSendTarget) : w'.Aligned where
  between none := by
    rw [message] at none
    rcases target with ended | stays
    · exact ended
    · rw [stays]
      exact aligned.between none
  within route active info within progress found := by
    rw [message] at within
    rw [core] at found
    rcases target with ended | stays
    · rw [ended] at progress
      cases progress
    · rw [stays] at progress
      exact aligned.within route active info within progress found

omit [DecidableEq α] [Octet α] in
lemma Kept.pipeCall (kept : w.Kept) {router} {pipe : Nat}
    (call : RouterSocket.PipeCall pipe w.router router) : Kept { w with router } := by
  refine ⟨fun running => ?_, kept.right⟩
  have before : w.router.core.running = true := by rwa [← call.core]
  exact (kept.aligned before).beside rfl call.core call.target

lemma kept_step (w : FrameSender α) (a : Action α) (w' : FrameSender α) (kept : w.Kept)
    (steady : w.Steady a) (taken : w.step a = some w') : w'.Kept := by
  cases a with
  | send m answers =>
    refine ⟨?_, ?_⟩
    · intro running
      have before : w.router.core.running = true := by
        cases taken
        rwa [send_core] at running
      exact aligned_send before (kept.aligned before) steady taken
    · cases taken
      intro h mem
      rcases mem_append.mp mem with old | new
      · exact kept.right h old
      · rw [mem_singleton.mp new]
        exact (handle_right_iff kept.aligned).mpr steady
  | core core =>
    simp only [step] at taken
    split at taken
    · cases taken
    · rename_i stays
      cases taken
      refine ⟨?_, kept.right⟩
      intro running
      have before : w.router.core.running = true := by
        by_contra stopped
        exact stays ⟨running, by simpa using stopped⟩
      have aligned := kept.aligned before
      refine ⟨aligned.between, ?_⟩
      intro route active info within progress found
      obtain ⟨old, there, same⟩ := steady active info progress found
      rw [← same]
      exact aligned.within route active old within progress there
  | attached pipe identity =>
    cases taken
    exact kept.pipeCall (w.router.pipeAttached_call pipe identity)
  | identified pipe identity =>
    cases taken
    exact kept.pipeCall (w.router.updatePeerIdentity_call pipe identity)
  | detached pipe =>
    cases taken
    exact kept.pipeCall (w.router.pipeDetached_call pipe)
  | setManual =>
    cases taken
    exact ⟨fun running => (kept.aligned running).beside rfl rfl (.inr rfl), kept.right⟩

/-- In every run of steady steps, every frame is treated as its place asks; and a next frame is
exactly if sending it is steady. -/
theorem frames_stay_grouped {router : RouterSocket α} (idle : router.currentSendTarget = none)
    {w : FrameSender α} (reached : Reaches step Steady (start router) w) :
    (∀ h ∈ w.log, h.Right) ∧
      ∀ m answers, (w.handle m answers).Right ↔ w.Steady (.send m answers) := by
  have kept : w.Kept := by
    refine reached.invariant kept_step ⟨fun _ => ⟨fun _ => idle, ?_⟩, ?_⟩
    · intro route active info within
      cases within
    · intro h mem
      cases mem
  exact ⟨kept.right, fun m answers => handle_right_iff kept.aligned⟩

theorem frames_stay_grouped_sent : ∃ w : FrameSender UInt8,
      run step (start (.twoPeers none)) [.send (octet 65 true) .fine,
        .send (octet 66 true) .fine, .send (octet 1 false) .fine] =
        some w ∧ w.log.length = 3 ∧ ∀ h ∈ w.log, h.Right := by
  have first : Reaches step Steady (start (.twoPeers none) : FrameSender UInt8) _ :=
    Reaches.refl.tail (a := .send (octet 65 true) .fine)
      (by rintro - within; cases within) rfl
  have second := first.tail (a := Action.send (octet 66 true) .fine)
    (by rintro - - idle; cases idle) rfl
  have third := second.tail (a := Action.send (octet 1 false) .fine)
    (fun _ _ _ => .inl rfl) rfl
  exact ⟨_, rfl, rfl, (frames_stay_grouped rfl third).1⟩

/-- The first frame names an unknown peer and is dropped; the next is taken as an identity, and the
last goes to the peer of that identity. -/
theorem payload_taken_as_identity : ∃ w : FrameSender UInt8,
      run step (start (.twoPeers none)) [.send (octet 67 true) .fine,
        .send (octet 66 true) .fine, .send (octet 1 false) .fine] =
        some w ∧
      w.log.map (fun h => (h.role, h.taken, h.given)) =
        [(none, .identity, []),
          (some none, .identity, [(2, octet 66 true), (2, Msg.new.setMore true)]),
          (some none, .payload, [(2, octet 1 false)])] ∧
      ¬ ∀ h ∈ w.log, h.Right := by
  refine ⟨_, rfl, by decide +kernel, ?_⟩
  intro right
  have wrong := right _ (mem_cons_of_mem _ mem_cons_self)
  exact wrong.1 (by decide +kernel)

end FrameSender

end Rzmq
