import Rzmq.Lib.Transition
import Rzmq.Socket.Router

/-! The identity of a peer and its messages on their two ways into a ROUTER: a session publishes
what its handshake announced on the event bus, where the core picks it up, and hands its frames to
the socket itself.  The sessions, the core and the receivers take their steps in any order. -/

namespace Rzmq

open List Option Function Octet Transition RouterSocket IncomingMessageOrchestrator

variable {α : Type}

structure Announced (α : Type) where
  identity : Option (List α)
  socketType : Option String

/-- Where a session stands: no connection, its pipes initialized, or past the publication of what
its handshake announced. -/
inductive SessionPhase where
  | fresh
  | waitingForPipes
  | operational
deriving DecidableEq

structure PeerIdentityEstablished (α : Type) where
  pipe : Nat
  peer : Announced α

inductive CoreTask (α : Type) where
  | idle
  | connecting (pipe : Nat) (uri : String) (info : EndpointInfo)
  | registering (pipe : Nat) (uri : String)
  | attaching (pipe : Nat)
  | identifying (event : PeerIdentityEstablished α)
  | updating (pipe : Nat) (identity : Option (List α))
  | detaching (pipe : Nat)

structure Labelled (α : Type) where
  pipe : Nat
  framing : FramingLatch
  message : List (Msg α)
  item : List α × List (Msg α)

def Labelled.Right [DecidableEq α] [Octet α] (announced : Nat → Announced α) (l : Labelled α) :
    Prop :=
  l.item = (identityOr l.pipe (announced l.pipe).identity,
    payloadFrom l.framing (announced l.pipe).socketType l.message)

/-- `identified` says for which pipes the core has processed the identity event and not begun to end
the connection; `log` has the messages in the order in which the socket took them. -/
structure RouterSessions (α : Type) where
  router : RouterSocket α
  sessions : Nat → SessionPhase
  bus : List (PeerIdentityEstablished α)
  task : CoreTask α
  queueing : Nat → Option (List α × List (Msg α))
  identified : Nat → Bool
  log : List (Labelled α)
  returned : List (List (Msg α))

inductive RouterSessions.Action (α : Type) where
  | connect (pipe : Nat) (uri : String) (info : EndpointInfo)
  | publish (pipe : Nat)
  | take
  | work
  | remove (pipe : Nat)
  | frame (pipe : Nat) (m : Msg α)
  | push (pipe : Nat)
  | expire (pipe : Nat)
  | recv
  | setManual

namespace RouterSessions

def start (core : CoreState) (rcvhwm : Nat) : RouterSessions α where
  router := .new { core with endpoints := fun _ => none, pipeReadIdToEndpointUri := fun _ => none }
    rcvhwm
  sessions _ := .fresh
  bus := []
  task := .idle
  queueing _ := none
  identified _ := false
  log := []
  returned := []

def setEndpoint (s : RouterSessions α) (uri : String) (info : Option EndpointInfo) :
    RouterSessions α :=
  { s with router := { s.router with
      core := { s.router.core with endpoints := update s.router.core.endpoints uri info } } }

def setUri (s : RouterSessions α) (pipe : Nat) (uri : Option String) : RouterSessions α :=
  { s with router := { s.router with core := { s.router.core with
      pipeReadIdToEndpointUri := update s.router.core.pipeReadIdToEndpointUri pipe uri } } }

def endpointOf (s : RouterSessions α) (pipe : Nat) : Option EndpointInfo :=
  (s.router.core.pipeReadIdToEndpointUri pipe).bind s.router.core.endpoints

lemma clearLast_head_body (m : Msg α) (rest) :
    (clearLast (m :: rest)).head?.map Msg.body = some m.body := by
  cases rest <;> rfl

variable [DecidableEq α] [Octet α]

def work (s : RouterSessions α) : Option (RouterSessions α) :=
  match s.task with
  | .idle => none
  | .connecting pipe uri info =>
    some { s.setEndpoint uri (some { info with peerSocketType := none }) with
      task := .registering pipe uri }
  | .registering pipe uri => some { s.setUri pipe (some uri) with task := .attaching pipe }
  | .attaching pipe =>
    some { s with router := s.router.pipeAttached pipe none, task := .idle }
  | .identifying ⟨pipe, peer⟩ =>
    let typed :=
      match s.router.core.pipeReadIdToEndpointUri pipe with
      | none => s
      | some uri =>
        match s.router.core.endpoints uri with
        | none => s
        | some info => s.setEndpoint uri (some { info with peerSocketType := peer.socketType })
    some { typed with task := .updating pipe peer.identity }
  | .updating pipe identity => some { s with
      router := s.router.updatePeerIdentity pipe identity
      identified := update s.identified pipe (s.endpointOf pipe).isSome
      task := .idle }
  | .detaching pipe => some { s with router := s.router.pipeDetached pipe, task := .idle }

def deliver (s : RouterSessions α) (pipe : Nat) (m : Msg α) : RouterSessions α :=
  match s.router.incomingOrchestrator.accumulatePipeFrame pipe m with
  | (none, orchestrator) =>
    { s with router := { s.router with incomingOrchestrator := orchestrator } }
  | (some message, orchestrator) =>
    let item := s.router.processIncomingZmtpMessage pipe message
    { s with
      router := { s.router with incomingOrchestrator := orchestrator }
      queueing := update s.queueing pipe (some item)
      log := s.log ++ [⟨pipe, s.router.framing, message, item⟩] }

def step (announced : Nat → Announced α) (s : RouterSessions α) :
    Action α → Option (RouterSessions α)
  | .connect pipe uri info =>
    match s.task with
    | .idle =>
      if s.sessions pipe = .fresh then
        some { s with
          sessions := update s.sessions pipe .waitingForPipes
          task := .connecting pipe uri info }
      else none
    | _ => none
  | .publish pipe =>
    if s.sessions pipe = .waitingForPipes then
      some { s with
        sessions := update s.sessions pipe .operational
        bus := s.bus ++ [⟨pipe, announced pipe⟩] }
    else none
  | .take =>
    match s.task, s.bus with
    | .idle, event :: rest => some { s with bus := rest, task := .identifying event }
    | _, _ => none
  | .work => s.work
  | .remove pipe =>
    match s.task, s.router.core.pipeReadIdToEndpointUri pipe with
    | .idle, some uri =>
      some { (s.setEndpoint uri none).setUri pipe none with
        identified := update s.identified pipe false
        task := .detaching pipe }
    | _, _ => none
  | .frame pipe m =>
    if s.sessions pipe = .operational ∧ s.queueing pipe = none then some (s.deliver pipe m)
    else none
  | .push pipe =>
    match s.queueing pipe with
    | none => none
    | some item =>
      match s.router.incomingOrchestrator.queueItem item with
      | none => none
      | some (.error _) => some { s with queueing := update s.queueing pipe none }
      | some (.ok orchestrator) => some { s with
          router := { s.router with incomingOrchestrator := orchestrator }
          queueing := update s.queueing pipe none }
  | .expire pipe =>
    match s.queueing pipe with
    | none => none
    | some _ => some { s with queueing := update s.queueing pipe none }
  | .recv =>
    match s.router.incomingOrchestrator.recvItemFromMainQueue .infinite with
    | some (.ok item, orchestrator) => some { s with
        router := { s.router with incomingOrchestrator := orchestrator }
        returned := s.returned ++ [transformQitemToAppFrames item] }
    | _ => none
  | .setManual => some { s with router := { s.router with framing := .manual } }

/-- The last frame of a message is handled only between the identity event of its session and the
end of the connection; and a new connection has an endpoint of its own. -/
def Settled (s : RouterSessions α) : Action α → Prop
  | .frame pipe m => m.isMore = false → s.identified pipe = true
  | .connect _ uri _ => s.router.core.endpoints uri = none
  | _ => True

variable {announced : Nat → Announced α} {s s' : RouterSessions α}

def TaskSound (announced : Nat → Announced α) (s : RouterSessions α) : Prop :=
  match s.task with
  | .idle => True
  | .connecting pipe uri _ =>
    s.identified pipe = false ∧ ∀ q, s.router.core.pipeReadIdToEndpointUri q ≠ some uri
  | .registering pipe uri =>
    s.identified pipe = false ∧ (s.router.core.endpoints uri).isSome ∧
      ∀ q, s.router.core.pipeReadIdToEndpointUri q ≠ some uri
  | .attaching pipe => s.identified pipe = false
  | .identifying event => event.peer = announced event.pipe ∧ s.sessions event.pipe ≠ .fresh
  | .updating pipe identity =>
    identity = (announced pipe).identity ∧ s.sessions pipe ≠ .fresh ∧
      ∀ info, s.endpointOf pipe = some info → info.peerSocketType = (announced pipe).socketType
  | .detaching pipe => s.identified pipe = false

structure Known (announced : Nat → Announced α) (s : RouterSessions α) (pipe : Nat) : Prop where
  label : s.router.pipeToIdentitySharedMap pipe =
    some (RouterSocket.identityOr pipe (announced pipe).identity)
  socketType : ∃ info, s.endpointOf pipe = some info ∧
    info.peerSocketType = (announced pipe).socketType
  begun : s.sessions pipe ≠ .fresh

structure Kept (announced : Nat → Announced α) (s : RouterSessions α) : Prop where
  apart : ∀ p q uri, s.router.core.pipeReadIdToEndpointUri p = some uri →
    s.router.core.pipeReadIdToEndpointUri q = some uri → p = q
  there : ∀ p uri, s.router.core.pipeReadIdToEndpointUri p = some uri →
    (s.router.core.endpoints uri).isSome
  events : ∀ event ∈ s.bus, event.peer = announced event.pipe ∧ s.sessions event.pipe ≠ .fresh
  task : s.TaskSound announced
  known : ∀ p, s.identified p = true → s.Known announced p
  right : ∀ l ∈ s.log, l.Right announced

omit [DecidableEq α] in
lemma kept_start (core : CoreState) (rcvhwm : Nat) [DecidableEq α] :
    (start core rcvhwm : RouterSessions α).Kept announced where
  apart p q uri here := by cases here
  there p uri here := by cases here
  events event mem := by cases mem
  task := trivial
  known p yes := by cases yes
  right l mem := by cases mem

lemma Known.right {pipe : Nat} (known : s.Known announced pipe) (message) :
    (⟨pipe, s.router.framing, message, s.router.processIncomingZmtpMessage pipe message⟩ :
      Labelled α).Right announced := by
  obtain ⟨info, found, type⟩ := known.socketType
  have looked : ((s.router.core.pipeReadIdToEndpointUri pipe).bind s.router.core.endpoints).bind
      EndpointInfo.peerSocketType = (announced pipe).socketType := by
    show (s.endpointOf pipe).bind EndpointInfo.peerSocketType = _
    rw [found, bind_some, type]
  simp [Labelled.Right, processIncomingZmtpMessage, known.label, looked]

section Maps

variable {pipe p : Nat} {uri : String} {info : Option EndpointInfo}

omit [DecidableEq α] [Octet α] in
lemma endpointOf_setEndpoint (away : s.router.core.pipeReadIdToEndpointUri p ≠ some uri) :
    (s.setEndpoint uri info).endpointOf p = s.endpointOf p := by
  unfold endpointOf setEndpoint
  cases found : s.router.core.pipeReadIdToEndpointUri p with
  | none => rfl
  | some other =>
    have differs : other ≠ uri := by
      rintro rfl
      exact away found
    simp [differs]

omit [DecidableEq α] [Octet α] in
lemma endpointOf_setUri {target} (away : p ≠ pipe) :
    (s.setUri pipe target).endpointOf p = s.endpointOf p := by
  simp [endpointOf, setUri, away]

end Maps

variable {pipe : Nat} {m : Msg α}

omit [DecidableEq α] in
lemma Known.same (known : s.Known announced pipe)
    (endpoint : s'.endpointOf pipe = s.endpointOf pipe)
    (label : s'.router.pipeToIdentitySharedMap pipe = s.router.pipeToIdentitySharedMap pipe)
    (sessions : s'.sessions = s.sessions) : s'.Known announced pipe where
  label := by rw [label]; exact known.label
  socketType := by rw [endpoint]; exact known.socketType
  begun := by rw [sessions]; exact known.begun

omit [DecidableEq α] [Octet α] in
lemma ne_of_identified {p q : Nat} (yes : s.identified p = true) (no : s.identified q = false) :
    p ≠ q := by
  rintro rfl
  rw [yes] at no
  cases no

section

variable (kept : s.Kept announced)
include kept

lemma kept_connecting {uri info} (task : s.task = .connecting pipe uri info)
    (taken : s.work = some s') : s'.Kept announced := by
  have sound := kept.task
  simp only [TaskSound, task] at sound
  obtain ⟨unidentified, own⟩ := sound
  simp only [work, task, Option.some.injEq] at taken
  subst taken
  refine ⟨kept.apart, ?_, kept.events, ?_, ?_, kept.right⟩
  · intro p u found
    by_cases same : u = uri
    · simp [setEndpoint, same]
    · simpa [setEndpoint, same] using kept.there p u found
  · exact ⟨unidentified, by simp [setEndpoint], own⟩
  · intro p yes
    exact (kept.known p yes).same (endpointOf_setEndpoint (own p)) rfl rfl

lemma kept_registering {uri} (task : s.task = .registering pipe uri) (taken : s.work = some s') :
    s'.Kept announced := by
  have sound := kept.task
  simp only [TaskSound, task] at sound
  obtain ⟨unidentified, there, own⟩ := sound
  simp only [work, task, Option.some.injEq] at taken
  subst taken
  have uris : ∀ p u, (s.setUri pipe (some uri)).router.core.pipeReadIdToEndpointUri p = some u →
      p = pipe ∧ u = uri ∨ p ≠ pipe ∧ s.router.core.pipeReadIdToEndpointUri p = some u := by
    intro p u found
    by_cases same : p = pipe
    · simp only [setUri, same, update_self, Option.some.injEq] at found
      exact .inl ⟨same, found.symm⟩
    · simp only [setUri, update_of_ne same] at found
      exact .inr ⟨same, found⟩
  refine ⟨?_, ?_, kept.events, unidentified, ?_, kept.right⟩
  · intro p q u hp hq
    rcases uris p u hp with ⟨first, rfl⟩ | ⟨-, before⟩
    · rcases uris q u hq with ⟨second, -⟩ | ⟨-, found⟩
      · rw [first, second]
      · exact absurd found (own q)
    · rcases uris q u hq with ⟨-, rfl⟩ | ⟨-, found⟩
      · exact absurd before (own p)
      · exact kept.apart p q u before found
  · intro p u found
    rcases uris p u found with ⟨-, rfl⟩ | ⟨-, found⟩
    · exact there
    · exact kept.there p u found
  · intro p yes
    exact (kept.known p yes).same (endpointOf_setUri (ne_of_identified yes unidentified)) rfl rfl

lemma Kept.socket {router} (unidentified : s.identified pipe = false)
    (call : RouterSocket.PipeCall pipe s.router router) :
    ({ s with router, task := .idle } : RouterSessions α).Kept announced := by
  refine ⟨?_, ?_, kept.events, trivial, ?_, kept.right⟩
  · simp only [call.core]
    exact kept.apart
  · simp only [call.core]
    exact kept.there
  · intro p yes
    refine (kept.known p yes).same ?_ (call.labels p (ne_of_identified yes unidentified)) rfl
    simp [endpointOf, call.core]

lemma kept_identifying {event} (task : s.task = .identifying event) (taken : s.work = some s') :
    s'.Kept announced := by
  obtain ⟨pipe, peer⟩ := event
  have sound := kept.task
  simp only [TaskSound, task] at sound
  obtain ⟨rfl, begun⟩ := sound
  simp only [work, task, Option.some.injEq] at taken
  cases uri : s.router.core.pipeReadIdToEndpointUri pipe with
  | none =>
    simp only [uri] at taken
    subst taken
    refine ⟨kept.apart, kept.there, kept.events, ⟨rfl, begun, ?_⟩, ?_, kept.right⟩
    · intro info found
      simp [endpointOf, uri] at found
    · intro p yes
      exact (kept.known p yes).same rfl rfl rfl
  | some u =>
    obtain ⟨info, there⟩ := isSome_iff_exists.mp (kept.there pipe u uri)
    simp only [uri, there] at taken
    subst taken
    have own : ∀ p, p ≠ pipe → s.router.core.pipeReadIdToEndpointUri p ≠ some u := by
      intro p away found
      exact away (kept.apart p pipe u found uri)
    have mine : (s.setEndpoint u (some { info with
        peerSocketType := (announced pipe).socketType })).endpointOf pipe =
        some { info with peerSocketType := (announced pipe).socketType } := by
      simp [endpointOf, setEndpoint, uri]
    refine ⟨kept.apart, ?_, kept.events, ⟨rfl, begun, ?_⟩, ?_, kept.right⟩
    · intro p v found
      by_cases same : v = u
      · simp [setEndpoint, same]
      · simpa [setEndpoint, same] using kept.there p v found
    · intro info' found
      have same := mine.symm.trans found
      rw [Option.some.injEq] at same
      rw [← same]
    · intro p yes
      by_cases away : p = pipe
      · subst away
        exact ⟨(kept.known p yes).label, ⟨_, mine, rfl⟩, begun⟩
      · exact (kept.known p yes).same (endpointOf_setEndpoint (own p away)) rfl rfl

lemma kept_updating {identity} (task : s.task = .updating pipe identity)
    (taken : s.work = some s') : s'.Kept announced := by
  have sound := kept.task
  simp only [TaskSound, task] at sound
  obtain ⟨rfl, begun, typed⟩ := sound
  simp only [work, task, Option.some.injEq] at taken
  subst taken
  obtain ⟨core, labels, -, -⟩ := s.router.updatePeerIdentity_call pipe (announced pipe).identity
  refine ⟨?_, ?_, kept.events, trivial, ?_, kept.right⟩
  · simp only [core]
    exact kept.apart
  · simp only [core]
    exact kept.there
  · intro p yes
    by_cases away : p = pipe
    · subst away
      simp only [update_self] at yes
      obtain ⟨info, found⟩ := isSome_iff_exists.mp yes
      obtain ⟨u, uri, -⟩ := bind_eq_some_iff.mp found
      refine ⟨?_, ⟨info, ?_, typed info found⟩, begun⟩
      · simp [updatePeerIdentity, uri]
      · simpa only [endpointOf, core] using found
    · simp only [update_of_ne away] at yes
      refine (kept.known p yes).same ?_ (labels p away) rfl
      simp [endpointOf, core]

lemma kept_work (taken : s.work = some s') : s'.Kept announced := by
  cases task : s.task with
  | idle => simp [work, task] at taken
  | connecting pipe uri info => exact kept_connecting kept task taken
  | registering pipe uri => exact kept_registering kept task taken
  | attaching pipe =>
    have unidentified := kept.task
    simp only [TaskSound, task] at unidentified
    simp only [work, task, Option.some.injEq] at taken
    subst taken
    exact kept.socket unidentified (s.router.pipeAttached_call pipe none)
  | identifying event => exact kept_identifying kept task taken
  | updating pipe identity => exact kept_updating kept task taken
  | detaching pipe =>
    have unidentified := kept.task
    simp only [TaskSound, task] at unidentified
    simp only [work, task, Option.some.injEq] at taken
    subst taken
    exact kept.socket unidentified (s.router.pipeDetached_call pipe)

lemma kept_remove (taken : s.step announced (.remove pipe) = some s') : s'.Kept announced := by
  simp only [step] at taken
  split at taken
  case h_2 => cases taken
  case h_1 uri _ found =>
  cases taken
  have own : ∀ p, p ≠ pipe → s.router.core.pipeReadIdToEndpointUri p ≠ some uri := by
    intro p away there
    exact away (kept.apart p pipe uri there found)
  have uris : ∀ p u, update s.router.core.pipeReadIdToEndpointUri pipe none p = some u →
      p ≠ pipe ∧ s.router.core.pipeReadIdToEndpointUri p = some u := by
    intro p u there
    by_cases same : p = pipe
    · simp [same] at there
    · rw [update_of_ne same] at there
      exact ⟨same, there⟩
  refine ⟨?_, ?_, kept.events, ?_, ?_, kept.right⟩
  · intro p q u hp hq
    exact kept.apart p q u (uris p u hp).2 (uris q u hq).2
  · intro p u there
    obtain ⟨away, before⟩ := uris p u there
    have differs : u ≠ uri := by
      rintro rfl
      exact own p away before
    simpa [setEndpoint, setUri, differs] using kept.there p u before
  · show update s.identified pipe false pipe = false
    exact update_self _ _ _
  · intro p yes
    have away : p ≠ pipe := by
      rintro rfl
      simp at yes
    simp only [update_of_ne away] at yes
    refine (kept.known p yes).same ?_ rfl rfl
    exact (endpointOf_setUri (s := s.setEndpoint uri none) away).trans
      (endpointOf_setEndpoint (own p away))

end

omit [DecidableEq α] in
lemma deliver_more (s : RouterSessions α) (pipe : Nat) (more : m.isMore = true) :
    ∃ orchestrator, s.deliver pipe m =
        { s with router := { s.router with incomingOrchestrator := orchestrator } } ∧
      orchestrator.mainIncomingQueue = s.router.incomingOrchestrator.mainIncomingQueue := by
  simp only [deliver, accumulatePipeFrame, more, if_true]
  exact ⟨_, rfl, rfl⟩

omit [DecidableEq α] in
lemma deliver_last (s : RouterSessions α) (pipe : Nat) (last : m.isMore = false) :
    ∃ orchestrator message, s.deliver pipe m = { s with
        router := { s.router with incomingOrchestrator := orchestrator }
        queueing := update s.queueing pipe (some (s.router.processIncomingZmtpMessage pipe message))
        log := s.log ++ [⟨pipe, s.router.framing, message,
          s.router.processIncomingZmtpMessage pipe message⟩] } ∧
      orchestrator.mainIncomingQueue = s.router.incomingOrchestrator.mainIncomingQueue := by
  simp only [deliver, accumulatePipeFrame, last, Bool.false_eq_true, if_false]
  exact ⟨_, _, rfl, rfl⟩

lemma kept_deliver (kept : s.Kept announced)
    (settled : m.isMore = false → s.identified pipe = true) :
    (s.deliver pipe m).Kept announced := by
  cases more : m.isMore with
  | true =>
    obtain ⟨orchestrator, delivered, -⟩ := deliver_more s pipe more
    rw [delivered]
    exact ⟨kept.apart, kept.there, kept.events, kept.task,
      fun p yes => (kept.known p yes).same rfl rfl rfl, kept.right⟩
  | false =>
    obtain ⟨orchestrator, message, delivered, -⟩ := deliver_last s pipe more
    rw [delivered]
    refine ⟨kept.apart, kept.there, kept.events, kept.task,
      fun p yes => (kept.known p yes).same rfl rfl rfl, ?_⟩
    intro l mem
    rcases mem_append.mp mem with old | new
    · exact kept.right l old
    · rw [mem_singleton.mp new]
      exact (kept.known pipe (settled more)).right _

lemma Kept.aside (kept : s.Kept announced) (core : s'.router.core = s.router.core)
    (labels : s'.router.pipeToIdentitySharedMap = s.router.pipeToIdentitySharedMap)
    (sessions : s'.sessions = s.sessions) (bus : s'.bus = s.bus) (task : s'.task = s.task)
    (identified : s'.identified = s.identified) (log : s'.log = s.log) : s'.Kept announced := by
  have endpoints : ∀ p, s'.endpointOf p = s.endpointOf p := by
    intro p
    simp [endpointOf, core]
  refine ⟨?_, ?_, ?_, ?_, ?_, ?_⟩
  · rw [core]
    exact kept.apart
  · rw [core]
    exact kept.there
  · rw [bus, sessions]
    exact kept.events
  · have sound := kept.task
    unfold TaskSound at sound ⊢
    simp only [task, core, identified, sessions, endpoints]
    exact sound
  · intro p yes
    rw [identified] at yes
    exact (kept.known p yes).same (endpoints p) (by rw [labels]) sessions
  · rw [log]
    exact kept.right

lemma Kept.session (kept : s.Kept announced) (pipe : Nat) (phase : SessionPhase)
    (begun : phase ≠ .fresh) :
    ({ s with sessions := update s.sessions pipe phase } : RouterSessions α).Kept announced := by
  have stays : ∀ p, s.sessions p ≠ .fresh → update s.sessions pipe phase p ≠ .fresh := by
    intro p before
    by_cases same : p = pipe
    · simpa [same] using begun
    · rwa [update_of_ne same]
  refine ⟨kept.apart, kept.there, ?_, ?_, ?_, kept.right⟩
  · intro event mem
    exact ⟨(kept.events event mem).1, stays _ (kept.events event mem).2⟩
  · have sound := kept.task
    unfold TaskSound at sound ⊢
    cases task : s.task with
    | identifying event =>
      simp only [task] at sound ⊢
      exact ⟨sound.1, stays _ sound.2⟩
    | updating p identity =>
      simp only [task] at sound ⊢
      exact ⟨sound.1, stays _ sound.2.1, sound.2.2⟩
    | _ =>
      rw [task] at sound
      exact sound
  · intro p yes
    obtain ⟨label, type, before⟩ := kept.known p yes
    exact ⟨label, type, stays p before⟩

lemma kept_step (s : RouterSessions α) (a : Action α) (s' : RouterSessions α)
    (kept : s.Kept announced) (settled : s.Settled a) (taken : s.step announced a = some s') :
    s'.Kept announced := by
  cases a with
  | connect pipe uri info =>
    simp only [step] at taken
    split at taken
    case h_2 => cases taken
    case h_1 task =>
    split at taken
    case isFalse => cases taken
    case isTrue fresh =>
    cases taken
    have unidentified : s.identified pipe = false := by
      by_contra yes
      exact (kept.known pipe (by simpa using yes)).begun fresh
    have own : ∀ q, s.router.core.pipeReadIdToEndpointUri q ≠ some uri := by
      intro q found
      have there := kept.there q uri found
      rw [show s.router.core.endpoints uri = none from settled] at there
      cases there
    have moved := kept.session pipe .waitingForPipes (by decide)
    exact ⟨moved.apart, moved.there, moved.events, ⟨unidentified, own⟩,
      fun p yes => (moved.known p yes).same rfl rfl rfl, moved.right⟩
  | publish pipe =>
    simp only [step] at taken
    split at taken
    case isFalse => cases taken
    case isTrue waiting =>
    cases taken
    have moved := kept.session pipe .operational (by decide)
    refine ⟨moved.apart, moved.there, ?_, moved.task,
      fun p yes => (moved.known p yes).same rfl rfl rfl, moved.right⟩
    intro event mem
    rcases mem_append.mp mem with old | new
    · exact moved.events event old
    · rw [mem_singleton.mp new]
      simp
  | take =>
    simp only [step] at taken
    split at taken
    case h_2 => cases taken
    case h_1 event rest idle bus =>
    cases taken
    have events := kept.events
    rw [bus] at events
    exact ⟨kept.apart, kept.there, fun e mem => events e (mem_cons_of_mem _ mem),
      events event mem_cons_self, fun p yes => (kept.known p yes).same rfl rfl rfl,
      kept.right⟩
  | work => exact kept_work kept taken
  | remove pipe => exact kept_remove kept taken
  | frame pipe m =>
    simp only [step] at taken
    split at taken
    case isFalse => cases taken
    case isTrue =>
    cases taken
    exact kept_deliver kept settled
  | push pipe =>
    simp only [step] at taken
    split at taken
    case h_1 => cases taken
    case h_2 =>
    split at taken
    case h_1 => cases taken
    all_goals
      cases taken
      exact kept.aside rfl rfl rfl rfl rfl rfl rfl
  | expire pipe =>
    simp only [step] at taken
    split at taken
    case h_1 => cases taken
    case h_2 =>
    cases taken
    exact kept.aside rfl rfl rfl rfl rfl rfl rfl
  | recv =>
    simp only [step] at taken
    split at taken
    case h_2 => cases taken
    case h_1 =>
    cases taken
    exact kept.aside rfl rfl rfl rfl rfl rfl rfl
  | setManual =>
    cases taken
    exact kept.aside rfl rfl rfl rfl rfl rfl rfl

/-- What is queued, about to be queued or returned was made of a message in the log. -/
structure Sourced (s : RouterSessions α) : Prop where
  queueing : ∀ p item, s.queueing p = some item → ∃ l ∈ s.log, l.item = item
  queued : ∀ item ∈ s.router.incomingOrchestrator.mainIncomingQueue.items,
    ∃ l ∈ s.log, l.item = item
  returned : ∀ frames ∈ s.returned, ∃ l ∈ s.log,
    frames = transformQitemToAppFrames l.item

omit [Octet α] [DecidableEq α] in
lemma Sourced.aside (sourced : s.Sourced) (queueing : s'.queueing = s.queueing)
    (queue : s'.router.incomingOrchestrator.mainIncomingQueue =
      s.router.incomingOrchestrator.mainIncomingQueue) (log : s'.log = s.log)
    (returned : s'.returned = s.returned) : s'.Sourced := by
  refine ⟨?_, ?_, ?_⟩
  · rw [queueing, log]
    exact sourced.queueing
  · rw [queue, log]
    exact sourced.queued
  · rw [returned, log]
    exact sourced.returned

omit [Octet α] [DecidableEq α] in
lemma Sourced.unqueue (sourced : s.Sourced) (pipe : Nat) :
    ∀ p item, update s.queueing pipe none p = some item → ∃ l ∈ s.log, l.item = item := by
  intro p item waits
  by_cases same : p = pipe
  · simp [same] at waits
  · rw [update_of_ne same] at waits
    exact sourced.queueing p item waits

lemma sourced_work (sourced : s.Sourced) (taken : s.work = some s') : s'.Sourced := by
  unfold work at taken
  split at taken
  case h_1 => cases taken
  case h_4 =>
    cases taken
    exact sourced.aside rfl (s.router.pipeAttached_call _ _).queue rfl rfl
  case h_5 =>
    cases taken
    split
    · exact sourced.aside rfl rfl rfl rfl
    · split <;> exact sourced.aside rfl rfl rfl rfl
  case h_6 =>
    cases taken
    exact sourced.aside rfl (s.router.updatePeerIdentity_call _ _).queue rfl rfl
  case h_7 =>
    cases taken
    exact sourced.aside rfl (s.router.pipeDetached_call _).queue rfl rfl
  all_goals
    cases taken
    exact sourced.aside rfl rfl rfl rfl

omit [DecidableEq α] in
lemma sourced_deliver (sourced : s.Sourced) : (s.deliver pipe m).Sourced := by
  cases more : m.isMore with
  | true =>
    obtain ⟨orchestrator, delivered, queue⟩ := deliver_more s pipe more
    rw [delivered]
    exact sourced.aside rfl queue rfl rfl
  | false =>
    obtain ⟨orchestrator, message, delivered, queue⟩ :=
      deliver_last s pipe more
    rw [delivered]
    have later : ∀ {P : Labelled α → Prop} (entry : Labelled α), (∃ l ∈ s.log, P l) →
        ∃ l ∈ s.log ++ [entry], P l := by
      rintro P entry ⟨l, mem, holds⟩
      exact ⟨l, mem_append_left _ mem, holds⟩
    refine ⟨?_, ?_, fun frames mem => later _ (sourced.returned frames mem)⟩
    · intro p item waits
      by_cases same : p = pipe
      · simp only [same, update_self, some.injEq] at waits
        exact ⟨_, mem_append_right _ mem_cons_self, waits⟩
      · simp only [update_of_ne same] at waits
        exact later _ (sourced.queueing p item waits)
    · intro item mem
      simp only [queue] at mem
      exact later _ (sourced.queued item mem)

lemma sourced_step (s : RouterSessions α) (a : Action α) (s' : RouterSessions α)
    (sourced : s.Sourced) (taken : s.step announced a = some s') : s'.Sourced := by
  cases a with
  | connect pipe uri info =>
    simp only [step] at taken
    split at taken
    case h_2 => cases taken
    case h_1 =>
    split at taken <;> cases taken
    exact sourced.aside rfl rfl rfl rfl
  | publish pipe | take | remove pipe =>
    simp only [step] at taken
    split at taken <;> cases taken
    exact sourced.aside rfl rfl rfl rfl
  | work => exact sourced_work sourced taken
  | frame pipe m =>
    simp only [step] at taken
    split at taken <;> cases taken
    exact sourced_deliver sourced
  | push pipe =>
    simp only [step] at taken
    split at taken
    case h_1 => cases taken
    case h_2 item waits =>
    split at taken
    case h_1 => cases taken
    case h_2 =>
      cases taken
      exact ⟨sourced.unqueue pipe, sourced.queued, sourced.returned⟩
    case h_3 orchestrator pushed =>
      cases taken
      refine ⟨sourced.unqueue pipe, ?_, sourced.returned⟩
      intro other mem
      rw [queueItem_ok pushed] at mem
      rcases mem_append.mp mem with old | new
      · exact sourced.queued other old
      · rw [mem_singleton.mp new]
        exact sourced.queueing pipe item waits
  | expire pipe =>
    simp only [step] at taken
    split at taken <;> cases taken
    exact ⟨sourced.unqueue pipe, sourced.queued, sourced.returned⟩
  | recv =>
    simp only [step] at taken
    split at taken
    case h_2 => cases taken
    case h_1 item orchestrator polled =>
    cases taken
    obtain ⟨first, rest, items, ⟨⟩, rfl⟩ | ⟨e, ⟨⟩, -⟩ := recvItemFromMainQueue_ready polled
    have queued := sourced.queued
    rw [items] at queued
    refine ⟨sourced.queueing, fun other mem => queued other (mem_cons_of_mem _ mem), ?_⟩
    intro frames mem
    rcases mem_append.mp mem with old | new
    · exact sourced.returned frames old
    · obtain ⟨l, found, made⟩ := queued item mem_cons_self
      exact ⟨l, found, by rw [mem_singleton.mp new, made]⟩
  | setManual =>
    cases taken
    exact sourced.aside rfl rfl rfl rfl

/-- In every run in which messages are handled only while the identity of their session is
processed, every message is given the identity and the envelope treatment that its session
announced, and the application receives nothing else. -/
theorem messages_labelled {core : CoreState} {rcvhwm : Nat}
    (reached : Reaches (step announced) Settled (start core rcvhwm) s) :
    (∀ l ∈ s.log, l.Right announced) ∧
    (∀ frames ∈ s.returned, ∃ l ∈ s.log,
      frames = transformQitemToAppFrames l.item ∧
      ∀ identity, (announced l.pipe).identity = some identity → identity ≠ [] →
        identity.length < 2 ^ 64 → frames.head?.map Msg.body = some identity) := by
  have kept : s.Kept announced := reached.invariant kept_step (kept_start core rcvhwm)
  have sourced : s.Sourced := by
    refine reached.invariant (fun s a s' holds _ taken => sourced_step s a s' holds taken)
      ⟨?_, ?_, ?_⟩
    · intro p item waits
      cases waits
    · intro item mem
      cases mem
    · intro frames mem
      cases mem
  refine ⟨kept.right, ?_⟩
  intro frames mem
  obtain ⟨l, found, rfl⟩ := sourced.returned frames mem
  refine ⟨l, found, rfl, ?_⟩
  intro identity said filled small
  obtain ⟨first, rest, rfl⟩ := exists_cons_of_ne_nil filled
  have right : l.item = _ := kept.right l found
  rw [right, said]
  simp [transformQitemToAppFrames, identityOr, clearLast_head_body, Msg.ofBlob_body small]

def dealer65 (_ : Nat) : Announced UInt8 := ⟨some [65], some "DEALER"⟩

def connected : List (Action UInt8) :=
  [.connect 1 "a" ⟨1, some (11, 1), 1, none⟩, .work, .work, .work, .publish 1]

def greeting : Msg UInt8 := .fromBytes [7] .empty (by decide)

theorem messages_labelled_in_order : ∃ s : RouterSessions UInt8,
      run (step dealer65) (start (.twoPeers none) 10)
        (connected ++ [.take, .work, .work, .frame 1 greeting, .push 1, .recv]) = some s ∧
      s.returned.length = 1 ∧ ∀ frames ∈ s.returned, frames.head?.map Msg.body = some [65] := by
  refine exists_of_permitted ?_ rfl fun reached : Reaches _ Settled _ _ =>
    ⟨rfl, fun frames mem => ?_⟩
  · refine ⟨rfl, _, rfl, ?_⟩
    iterate 7 refine ⟨trivial, _, rfl, ?_⟩
    exact ⟨fun _ => rfl, _, rfl, trivial, _, rfl, trivial, _, rfl, trivial⟩
  · obtain ⟨l, -, -, named⟩ := (messages_labelled reached).2 frames mem
    exact named [65] rfl (by decide) (by decide)

/-- The message is handled before the core processes the identity, and arrives under the
placeholder. -/
theorem message_under_placeholder : ∃ s : RouterSessions UInt8,
      run (step dealer65) (start (.twoPeers none) 10)
        (connected ++ [.frame 1 greeting, .push 1, .recv, .take, .work, .work]) = some s ∧
      s.returned.map (fun frames => frames.map Msg.data) = [[some (utf8 "pipe:1"), some [7]]] ∧
      ¬ ∀ l ∈ s.log, l.Right dealer65 := by
  refine ⟨_, rfl, by decide +kernel, ?_⟩
  intro right
  have wrong := congrArg Prod.fst (right _ mem_cons_self)
  revert wrong
  decide +kernel

end RouterSessions

end Rzmq
