import Rzmq.Lib.Transition
import Rzmq.Session.Handshake

/-! A tokio session up to its Operational phase, as a transition system: the network arm of
`run_loop` in `sessionx/actor.rs` with the peer, the transport and the other arms of its `select!`
around it. -/

namespace Rzmq

open Octet Curve

/-- The phases of `ConnectionPhaseX` that the loop goes through; what shutting down does then is not
modelled. -/
inductive ConnectionPhase where
  | handshakeInProgress
  | waitingForPipes
  | operational
  | shuttingDownStream
deriving DecidableEq

/-- `await` is where the future of the network arm stands; `reported` is what
`PeerIdentityEstablished` says of the peer. -/
structure Session (SK Key H T α : Type) where
  handler : ZmtpProtocolHandler SK Key H T α
  await : Option (Await α)
  currentPhase : ConnectionPhase
  pendingPeerIdentity : Option (List α)
  attached : Bool
  reported : Option (Option (List α) × Option String)
  written : List α
  received : List α

inductive SessionAction (α : Type) where
  | poll
  | read (bytes : List α)
  | write (count : Nat)
  | flush
  | again
  /-- The awaited operation fails: the end of the stream, an error, a timeout. -/
  | fail (e : ZmqError)
  /-- Another arm of `select!` wins, and leaves the session as it is. -/
  | cancel
  | initializePipes
  | stop

namespace Session

variable {SK Key H T α : Type}

def new (config : ZmtpEngineConfig SK α) (isServer : Bool) (entropy : Entropy SK) :
    Session SK Key H T α where
  handler := .new config isServer entropy
  await := none
  currentPhase := .handshakeInProgress
  pendingPeerIdentity := none
  attached := false
  reported := none
  written := []
  received := []

variable (s : Session SK Key H T α)

def shutDown : Session SK Key H T α :=
  { s with
    handler := s.handler.clearHandshakeState
    await := none
    currentPhase := .shuttingDownStream }

def checkOperational : Session SK Key H T α :=
  if s.currentPhase = .waitingForPipes ∧ s.handler.subPhase = .done ∧ s.attached then
    { s with
      currentPhase := .operational
      reported := some (s.pendingPeerIdentity, s.handler.peerSocketType)
      pendingPeerIdentity := none }
  else s

def checkComplete : Session SK Key H T α :=
  if s.handler.subPhase = .done then
    checkOperational { s with currentPhase := .waitingForPipes }
  else s

def handleProgress (progress : HandshakeProgress α) : Session SK Key H T α :=
  match progress with
  | .inProgress | .handshakeComplete => s.checkComplete
  | .identityReady identity => checkComplete { s with pendingPeerIdentity := some identity }

def settle : ZmtpProtocolHandler SK Key H T α × Poll α → Session SK Key H T α
  | (handler, .pending await) => { s with handler, await := some await }
  | (handler, .ready (.ok progress)) => handleProgress { s with handler, await := none } progress
  | (handler, .ready (.error _)) => shutDown { s with handler }

variable [Octet α] [CryptoBox Key α] [CurveSuite SK Key α] [SnowHandshake H T α] [DecidableEq α]

def step (s : Session SK Key H T α) (a : SessionAction α) : Option (Session SK Key H T α) :=
  match a, s.await with
  | .poll, none =>
    if s.currentPhase = .handshakeInProgress then some (s.settle s.handler.advanceHandshake)
    else none
  | .read bytes, some (.read what) =>
    if bytes.isEmpty then none
    else
      let handler := { s.handler with networkReadBuffer := s.handler.networkReadBuffer ++ bytes }
      some (settle { s with received := s.received ++ bytes } (handler.resumeRead what))
  | .write count, some (.write left what) =>
    if 0 < count ∧ count ≤ left.length then
      let s := { s with written := s.written ++ left.take count }
      if count < left.length then some { s with await := some (.write (left.drop count) what) }
      else if what.flushes then some { s with await := some (.flush what) }
      else some (s.settle (s.handler.resumeWrite what))
    else none
  | .flush, some (.flush what) => some (s.settle (s.handler.resumeWrite what))
  | .again, some .again => some (s.settle s.handler.securityRound)
  | .fail e, some (.read _) | .fail e, some (.write _ _) | .fail e, some (.flush _) =>
    some (s.settle (s.handler, .fail e))
  | .cancel, _ => some { s with await := none }
  | .initializePipes, _ =>
    if s.attached ∨ s.currentPhase = .shuttingDownStream then none
    else
      let s := { s with attached := true, await := none }
      some (if s.currentPhase = .handshakeInProgress then s.checkComplete else s.checkOperational)
  | .stop, _ => some s.shutDown
  | _, _ => none

def wrote (s : Session SK Key H T α) (what : HandshakeWrite) : Session SK Key H T α :=
  if what.flushes then { s with await := some (.flush what) }
  else s.settle (s.handler.resumeWrite what)

/-- What a step does, action by action. -/
def StepCase (s s' : Session SK Key H T α) : SessionAction α → Prop
  | .poll => s.await = none ∧ s.currentPhase = .handshakeInProgress ∧
      s' = s.settle s.handler.advanceHandshake
  | .read bytes => ∃ what, s.await = some (.read what) ∧ bytes ≠ [] ∧
      s' = settle { s with received := s.received ++ bytes }
        (ZmtpProtocolHandler.resumeRead { s.handler with
          networkReadBuffer := s.handler.networkReadBuffer ++ bytes } what)
  | .write count => ∃ left what, s.await = some (.write left what) ∧ 0 < count ∧
      ((count < left.length ∧ s' = { s with
          written := s.written ++ left.take count
          await := some (.write (left.drop count) what) }) ∨
        (count = left.length ∧ s' = wrote { s with written := s.written ++ left } what))
  | .flush => ∃ what, s.await = some (.flush what) ∧ s' = s.settle (s.handler.resumeWrite what)
  | .again => s.await = some .again ∧ s' = s.settle s.handler.securityRound
  | .fail _ => s.await ≠ none ∧ s' = s.shutDown
  | .cancel => s' = { s with await := none }
  | .initializePipes => ¬ (s.attached ∨ s.currentPhase = .shuttingDownStream) ∧
      s' = if s.currentPhase = .handshakeInProgress then
          checkComplete { s with attached := true, await := none }
        else checkOperational { s with attached := true, await := none }
  | .stop => s' = s.shutDown

variable {s s' : Session SK Key H T α}

lemma step_cases {a} (taken : s.step a = some s') : StepCase s s' a := by
  unfold step at taken
  split at taken
  case h_3 count left what await =>
    obtain ⟨⟨some, fits⟩, taken⟩ := Option.ite_none_right_eq_some.mp taken
    refine ⟨left, what, await, some, ?_⟩
    split at taken
    · rename_i short
      exact .inl ⟨short, (Option.some.inj taken).symm⟩
    · rename_i all
      have whole : count = left.length := by omega
      subst whole
      refine .inr ⟨rfl, ?_⟩
      rw [List.take_length] at taken
      unfold wrote
      split at taken <;> simp_all
  all_goals simp_all [StepCase, settle, Poll.fail]
  all_goals exact taken.symm

end Session

end Rzmq
