import Rzmq.Security.Cipher

/-! The NOISE_XX mechanism of `security/noise_xx.rs`.  The handshake state of `snow` is the
parameter `SnowHandshake`: what it writes, reads and derives is not modelled. -/

namespace Rzmq

open Octet

inductive SnowError where
  | pattern (problem : String)
  | init (stage : String)
  | prereqLocalPrivateKey
  | prereqRemotePublicKey
  | missingKeyMaterial
  | handshakeNotFinished
  | handshakeAlreadyFinished
  | stateProblem (problem : String)
  | input
  | dh
  | decrypt

namespace SnowError

def toZmqError : SnowError → ZmqError
  | .pattern problem => .securityError ("Noise pattern configuration error: " ++ problem)
  | .init stage => .securityError ("Noise initialization error at stage: " ++ stage)
  | .prereqLocalPrivateKey =>
    .securityError "Noise prerequisite error: Local private key missing or invalid."
  | .prereqRemotePublicKey =>
    .securityError ("Noise prerequisite error: Remote public key missing or invalid for " ++
      "current operation.")
  | .missingKeyMaterial =>
    .securityError "Noise state error: Missing required key material for operation."
  | .handshakeNotFinished =>
    .invalidState ("Noise state error: Handshake is not yet finished for requested " ++
      "operation.")
  | .handshakeAlreadyFinished =>
    .invalidState "Noise state error: Handshake is already finished."
  | .stateProblem problem => .securityError ("Noise state machine error: " ++ problem)
  | .input =>
    .securityError "Noise input error: Invalid message format or size for current state."
  | .dh => .securityError "Noise Diffie-Hellman operation failed."
  | .decrypt =>
    .securityError "Noise decrypt/authentication failed (e.g., bad MAC or ciphertext)."

def debug : SnowError → String
  | .pattern problem => "Pattern(" ++ problem ++ ")"
  | .init stage => "Init(" ++ stage ++ ")"
  | .prereqLocalPrivateKey => "Prereq(LocalPrivateKey)"
  | .prereqRemotePublicKey => "Prereq(RemotePublicKey)"
  | .missingKeyMaterial => "State(MissingKeyMaterial)"
  | .handshakeNotFinished => "State(HandshakeNotFinished)"
  | .handshakeAlreadyFinished => "State(HandshakeAlreadyFinished)"
  | .stateProblem problem => "State(" ++ problem ++ ")"
  | .input => "Input"
  | .dh => "Dh"
  | .decrypt => "Decrypt"

end SnowError

/-- The calls on `snow::Builder` and `snow::HandshakeState`, with transport states `T`.  The seed
stands for the randomness that a state draws. -/
class SnowHandshake (H : Type) (T α : outParam Type) where
  buildInitiator : List UInt8 → List α → Nat → Except SnowError H
  buildResponder : List UInt8 → Nat → Except SnowError H
  isHandshakeFinished : H → Bool
  isMyTurn : H → Bool
  writeMessage : H → Except SnowError (List α) × H
  readMessage : H → List α → Except SnowError Unit × H
  getRemoteStatic : H → Option (List α)
  intoTransportMode : H → Except SnowError T

structure NoiseXxMechanism (H T α : Type) where
  isServerRole : Bool
  state : Option H
  transportState : Option T
  configuredRemoteStaticPk : Option (List α)
  verifiedPeerStaticPk : Option (List α)
  currentStatus : MechanismStatus
  errorReason : Option String
  pendingOutgoingHandshakeMsg : Option (List α)

namespace NoiseXxMechanism

variable {H T α : Type}

def throwSnow {β : Type} (e : SnowError) : MechanismM (NoiseXxMechanism H T α) β :=
  throw (.error e.toZmqError)

def setReason (reason : String) : MechanismM (NoiseXxMechanism H T α) Unit :=
  modify fun m => { m with currentStatus := .error, errorReason := some reason }

def setError (reason : String) : MechanismM (NoiseXxMechanism H T α) Unit :=
  modify fun m => { m with
    currentStatus := .error
    errorReason := some reason
    state := none
    transportState := none
    pendingOutgoingHandshakeMsg := none }

variable [SnowHandshake H T α] [DecidableEq α]

def initializeNoiseXx (isServer : Bool) (localSk : Option (List UInt8))
    (remotePk : Option (List α)) (seed : Nat) : Except ZmqError (NoiseXxMechanism H T α) := do
  let some sk := localSk
    | throw (.securityError "NOISE_XX: Local static secret key not configured.")
  let built ←
    if isServer then pure (SnowHandshake.buildResponder sk seed)
    else match remotePk with
      | some pk => pure (SnowHandshake.buildInitiator sk pk seed)
      | none => throw (.securityError
          "NOISE_XX Client: Server's static public key is required for configuration.")
  match built with
  | .error e => throw e.toZmqError
  | .ok state => return {
      isServerRole := isServer
      state := some state
      transportState := none
      configuredRemoteStaticPk := remotePk
      verifiedPeerStaticPk := none
      currentStatus := .initializing
      errorReason := none
      pendingOutgoingHandshakeMsg := none }

/-- The key check of `transition_to_final_state`.  The source makes it twice in a row. -/
def verifyServerKey (pk : List α) : MechanismM (NoiseXxMechanism H T α) Unit := do
  let m ← get
  if m.isServerRole then return
  else
    match m.configuredRemoteStaticPk with
    | some expected =>
      if pk ≠ expected then
        setReason "NOISE_XX: Server public key mismatch. Connection rejected."
        throwSnow .decrypt
    | none =>
      setReason ("NOISE_XX Client: Configuration error - missing expected remote server " ++
        "public key for verification.")
      throwSnow .prereqRemotePublicKey

def transitionToFinalState : MechanismM (NoiseXxMechanism H T α) Unit := do
  match (← get).state with
  | none => throwSnow .handshakeAlreadyFinished
  | some h =>
    if !SnowHandshake.isHandshakeFinished h then throwSnow .handshakeNotFinished
    match SnowHandshake.getRemoteStatic h with
    | none =>
      setReason ("NOISE_XX handshake purportedly finished but no remote static key material " ++
        "was obtained.")
      throwSnow .missingKeyMaterial
    | some pk =>
      modify fun m => { m with verifiedPeerStaticPk := some pk }
      verifyServerKey pk
      modify fun m => { m with state := none }
      match SnowHandshake.intoTransportMode h with
      | .ok transport =>
        modify fun m => { m with transportState := some transport, currentStatus := .ready }
      | .error e =>
        setReason ("NOISE_XX: Failed to transition to transport mode after handshake: " ++ e.debug)
        throwSnow e

def produceNew : MechanismM (NoiseXxMechanism H T α) (Option (List α)) := do
  match (← get).state with
  | none => throw (.error (.invalidState
      "Noise HandshakeState missing when trying to produce new token."))
  | some h =>
    if SnowHandshake.isMyTurn h then
      let (written, h') := SnowHandshake.writeMessage h
      modify fun m => { m with state := some h' }
      match written with
      | .error e => throwSnow e
      | .ok msg =>
        if SnowHandshake.isHandshakeFinished h' && (← get).isServerRole then
          transitionToFinalState
        return some msg
    else return none

def produceToken : MechanismM (NoiseXxMechanism H T α) (Option (List α)) := do
  let m ← get
  match m.pendingOutgoingHandshakeMsg with
  | some msg =>
    modify fun m => { m with pendingOutgoingHandshakeMsg := none }
    if !m.isServerRole && m.state.any SnowHandshake.isHandshakeFinished then
      transitionToFinalState
    return some msg
  | none =>
    match m.currentStatus with
    | .ready | .error => return none
    | .initializing =>
      modify fun m => { m with currentStatus := .handshaking }
      if m.isServerRole then return none else produceNew
    | .handshaking | .authenticating => produceNew

def readToken (token : List α) : MechanismM (NoiseXxMechanism H T α) ProcessTokenAction := do
  match (← get).state with
  | none => throw (.error (.invalidState "Noise HandshakeState missing before process_token"))
  | some h =>
    let (read, h') := SnowHandshake.readMessage h token
    modify fun m => { m with state := some h' }
    match read with
    | .error e => throwSnow e
    | .ok () =>
      if SnowHandshake.isHandshakeFinished h' then
        transitionToFinalState
        return .handshakeComplete
      else if SnowHandshake.isMyTurn h' then
        let (written, h'') := SnowHandshake.writeMessage h'
        modify fun m => { m with state := some h'' }
        match written with
        | .error e => throwSnow e
        | .ok msg =>
          modify fun m => { m with pendingOutgoingHandshakeMsg := some msg }
          return .produceAndSend
      else
        modify fun m => { m with pendingOutgoingHandshakeMsg := none }
        return .continueWaiting

def processToken (token : List α) :
    MechanismM (NoiseXxMechanism H T α) ProcessTokenAction := do
  match (← get).currentStatus with
  | .error | .ready => throw (.error (.invalidState
      "NOISE_XX: Processing token in Error/Ready state"))
  | .initializing =>
    modify fun m => { m with currentStatus := .handshaking }
    readToken token
  | .handshaking | .authenticating => readToken token

def intoDataCipher (m : NoiseXxMechanism H T α) :
    Except ZmqError (NoiseDataCipher T × Option (List α)) :=
  if m.currentStatus ≠ .ready then
    .error (.invalidState "Noise handshake not complete, cannot create framer.")
  else
    match m.transportState with
    | none => .error (.internal "NoiseXxMechanism is Ready but TransportState is missing.")
    | some transport => .ok (⟨transport⟩, m.verifiedPeerStaticPk)

end NoiseXxMechanism

end Rzmq
