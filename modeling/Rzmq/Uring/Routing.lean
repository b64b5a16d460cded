import Rzmq.Uring.Handler
import Mathlib.Logic.Function.Basic

/-! How the events of the io_uring worker get to the sockets, for one number of a descriptor.  The
commands carry nothing but the number; here they also carry the connection that they were produced
for.  What concerns other numbers takes no part, except that one of their connections can take the
place of an endpoint with the same URI. -/

namespace Rzmq

open Transition

structure FdConnection (κ υ : Type) where
  generation : Nat
  core : κ
  uri : υ
deriving DecidableEq

def UpstreamEvent.isError {α : Type} : UpstreamEvent α → Bool
  | .error _ => true
  | _ => false

inductive CoreStatus where
  | running
  | stopping
  | finished
deriving DecidableEq

/-- The mailbox of a `SocketCore`, `uring_fd_to_endpoint_uri`, the endpoints with the number for a
handle, the `UringFdError` that it is in the middle of, and whether the number is among the
`pending_connections_to_close`. -/
structure CoreFd (κ υ α : Type) where
  status : CoreStatus
  mailbox : List (FdConnection κ υ × UpstreamEvent α)
  endpointUri : Option υ
  endpoints : List (FdConnection κ υ)
  closing : Option (υ × FdConnection κ υ)
  pendingClose : Bool

namespace CoreFd

variable {κ υ α : Type}

def new : CoreFd κ υ α where
  status := .running
  mailbox := []
  endpointUri := none
  endpoints := []
  closing := none
  pendingClose := false

def idle (t : CoreFd κ υ α) : Bool := t.status = .running ∧ t.closing.isNone

variable [DecidableEq υ]

def lookup (t : CoreFd κ υ α) : Option (FdConnection κ υ) :=
  t.endpointUri.bind fun uri => t.endpoints.find? (·.uri = uri)

def insert (t : CoreFd κ υ α) (c : FdConnection κ υ) : CoreFd κ υ α :=
  { t with
    endpoints := t.endpoints.filter (·.uri ≠ c.uri) ++ [c]
    endpointUri := some c.uri }

/-- The endpoint that `cleanup_stopped_child_resources` removes: the one with the URI, or else
whichever it finds first. -/
def stale (t : CoreFd κ υ α) (uri : Option υ) (pick : Nat) : Option (FdConnection κ υ) :=
  (uri.bind fun uri => t.endpoints.find? (·.uri = uri)).or t.endpoints[pick]?

end CoreFd

/-- The worker's handler, the connections that are to be announced to their cores by
`NewConnectionEstablished`, the upstream channel, the command that the processor is about to send,
the entry of `URING_FD_TO_SOCKET_CORE_MAILBOX_MAP`, the `ShutdownConnectionHandler` requests and
the cores.  `emitted` are the events of the handlers, and `told` what the socket logic was told, for
which endpoint; `crossed` says that something of an earlier connection got at a later one. -/
structure FdRouting (κ υ α : Type) where
  live : Option (FdConnection κ υ)
  failed : Bool
  opened : Nat
  pending : List (FdConnection κ υ)
  channel : List (FdConnection κ υ × UpstreamEvent α)
  held : Option (κ × FdConnection κ υ × UpstreamEvent α)
  mailboxMap : Option κ
  requests : List (FdConnection κ υ)
  cores : κ → CoreFd κ υ α
  emitted : List (FdConnection κ υ × UpstreamEvent α)
  told : List (FdConnection κ υ × FdConnection κ υ × UpstreamEvent α)
  crossed : Bool

inductive RoutingAction (κ υ α : Type) where
  /-- The worker has a handler for a new connection, and its task is told so. -/
  | register (core : κ) (uri : υ)
  | emit (event : UpstreamEvent α)
  /-- `CloseFd` is done; the core may be told. -/
  | close (told : Bool)
  /-- The worker takes a `ShutdownConnectionHandler` that is for the connection. -/
  | shutdown (c : FdConnection κ υ)
  /-- The upstream processor takes an event and looks the number up. -/
  | lookup
  | forward
  | install (c : FdConnection κ υ)
  /-- A core that is shutting down closes the new connection. -/
  | orphan (c : FdConnection κ υ)
  | serve (core : κ) (pick : Nat)
  | finish (core : κ) (pick : Nat)
  | disconnect (core : κ) (uri : υ)
  | stop (core : κ)
  | clean (core : κ)
  /-- A connection with another number gets the URI. -/
  | displace (core : κ) (uri : υ)

namespace FdRouting

variable {κ υ α : Type}

def start : FdRouting κ υ α where
  live := none
  failed := false
  opened := 0
  pending := []
  channel := []
  held := none
  mailboxMap := none
  requests := []
  cores _ := .new
  emitted := []
  told := []
  crossed := false

variable [DecidableEq κ] [DecidableEq υ] (s : FdRouting κ υ α)

def setCore (core : κ) (t : CoreFd κ υ α) : FdRouting κ υ α :=
  { s with cores := Function.update s.cores core t }

def touch (c c' : FdConnection κ υ) : FdRouting κ υ α :=
  { s with crossed := s.crossed || c.generation < c'.generation }

def post (core : κ) (command : FdConnection κ υ × UpstreamEvent α) : FdRouting κ υ α :=
  s.setCore core { s.cores core with mailbox := (s.cores core).mailbox ++ [command] }

/-- `CloseFd` is successful: the core that the number leads to is told, and the number is
unregistered. -/
def closeFd (c : FdConnection κ υ) (told : Bool) : FdRouting κ υ α :=
  match s.mailboxMap with
  | some core =>
    let s' :=
      if told ∧ (s.cores core).status ≠ .finished then
        s.post core (c, .error (.error .connectionClosed))
      else s
    { s' with live := none, mailboxMap := none }
  | none => { s with live := none }

def cleanup (core : κ) (c : FdConnection κ υ) (uri : Option υ) (pick : Nat) : FdRouting κ υ α :=
  match (s.cores core).stale uri pick with
  | none => s
  | some endpoint =>
    let endpoints := (s.cores core).endpoints.filter (· ≠ endpoint)
    { (s.setCore core { s.cores core with endpoints, endpointUri := none }).touch c endpoint with
      mailboxMap := none }

def process (core : κ) (c : FdConnection κ υ) (event : UpstreamEvent α) : FdRouting κ υ α :=
  match event with
  | .error _ =>
    match (s.cores core).endpointUri with
    | none => s
    | some uri =>
      let s' := s.setCore core { s.cores core with closing := some (uri, c) }
      match (s.cores core).lookup with
      | some endpoint =>
        { s'.touch c endpoint with requests := s.requests ++ [endpoint] }
      | none => s'
  | event =>
    match (s.cores core).lookup with
    | some endpoint => { s.touch c endpoint with told := s.told ++ [(endpoint, c, event)] }
    | none => s

def processStopping (core : κ) (c : FdConnection κ υ) (event : UpstreamEvent α) (pick : Nat) :
    FdRouting κ υ α :=
  if event.isError then
    let s := s.cleanup core c (s.cores core).endpointUri pick
    s.setCore core { s.cores core with pendingClose := false }
  else s

def step : RoutingAction κ υ α → Option (FdRouting κ υ α)
  | .register core uri =>
    if s.live = none then
      let c : FdConnection κ υ := ⟨s.opened, core, uri⟩
      some { s with
        live := some c
        failed := false
        opened := s.opened + 1
        pending := s.pending ++ [c] }
    else none
  | .emit event =>
    match s.live with
    | some c =>
      if s.failed then none
      else some { s with
        failed := event.isError
        channel := s.channel ++ [(c, event)]
        emitted := s.emitted ++ [(c, event)] }
    | none => none
  | .close told => s.live.map fun c => s.closeFd c told
  | .shutdown c =>
    if c ∈ s.requests then
      let s' := { s with requests := s.requests.erase c }
      match s.live with
      | some c' => some (s'.touch c c')
      | none => some s'
    else none
  | .lookup =>
    match s.held, s.channel with
    | none, command :: rest =>
      some { s with channel := rest, held := s.mailboxMap.map (·, command) }
    | _, _ => none
  | .forward =>
    match s.held with
    | some (core, command) =>
      let s' := { s with held := none }
      if (s.cores core).status = .finished then some { s' with mailboxMap := none }
      else some (s'.post core command)
    | none => none
  | .install c =>
    if c ∈ s.pending ∧ (s.cores c.core).idle then
      let s' := s.setCore c.core ((s.cores c.core).insert c)
      some { s' with pending := s.pending.erase c, mailboxMap := some c.core }
    else none
  | .orphan c =>
    if c ∈ s.pending ∧ (s.cores c.core).status = .stopping then
      some { s with pending := s.pending.erase c, requests := s.requests ++ [c] }
    else none
  | .serve core pick =>
    match (s.cores core).mailbox, (s.cores core).closing with
    | (c, event) :: rest, none =>
      let s' := s.setCore core { s.cores core with mailbox := rest }
      match (s.cores core).status with
      | .running => some (s'.process core c event)
      | .stopping => some (s'.processStopping core c event pick)
      | .finished => none
    | _, _ => none
  | .finish core pick =>
    match (s.cores core).closing with
    | some (uri, c) =>
      some ((s.setCore core { s.cores core with closing := none }).cleanup core c (some uri) pick)
    | none => none
  | .disconnect core uri =>
    if (s.cores core).idle then
      ((s.cores core).endpoints.find? (·.uri = uri)).map fun endpoint =>
        { s with requests := s.requests ++ [endpoint] }
    else none
  | .stop core =>
    if (s.cores core).idle then
      let pendingClose := !(s.cores core).endpoints.isEmpty
      let s' := s.setCore core { s.cores core with status := .stopping, pendingClose }
      some { s' with requests := s.requests ++ (s.cores core).endpoints }
    else none
  | .clean core =>
    if (s.cores core).status = .stopping ∧ (s.cores core).pendingClose = false then
      let s' := s.setCore core { CoreFd.new with status := .finished }
      some { s' with
        mailboxMap := if (s.cores core).endpointUri.isSome then none else s.mailboxMap
        requests := s.requests ++ (s.cores core).endpoints }
    else none
  | .displace core uri =>
    if (s.cores core).idle then
      let endpoints := (s.cores core).endpoints.filter (·.uri ≠ uri)
      some (s.setCore core { s.cores core with endpoints })
    else none

end FdRouting

end Rzmq
