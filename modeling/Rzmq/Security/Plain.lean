import Rzmq.Security.Cipher

/-! The PLAIN mechanism of `security/plain.rs`.  Credentials are bytes: tokens are read as bytes
before they are compared. -/

namespace Rzmq

open Octet

inductive PlainState where
  | initializing
  | clientSendHello
  | clientExpectWelcome
  | serverExpectHello
  | serverSendWelcome
  | ready
  | error
deriving DecidableEq

structure PlainMechanism where
  isServer : Bool
  state : PlainState
  username : Option (List UInt8)
  password : Option (List UInt8)
  expectedUsername : Option (List UInt8)
  expectedPassword : Option (List UInt8)
  errorReason : Option String

/-- `String::from_utf8_lossy`, which only texts of errors use; bytes that are not UTF-8 are replaced
as a whole. -/
def utf8Lossy (bs : List UInt8) : String := (String.fromUTF8? ⟨bs.toArray⟩).getD "�"

def PlainState.debug : PlainState → String
  | .initializing => "Initializing"
  | .clientSendHello => "ClientSendHello"
  | .clientExpectWelcome => "ClientExpectWelcome"
  | .serverExpectHello => "ServerExpectHello"
  | .serverSendWelcome => "ServerSendWelcome"
  | .ready => "Ready"
  | .error => "Error"

namespace PlainMechanism

def new (isServer : Bool) : PlainMechanism where
  isServer
  state := if isServer then .serverExpectHello else .clientSendHello
  username := none
  password := none
  expectedUsername := none
  expectedPassword := none
  errorReason := none

def setClientCredentials (username password : Option (List UInt8)) (m : PlainMechanism) :
    PlainMechanism :=
  if m.isServer then m else { m with username, password }

def setServerExpectedCredentials (username password : Option (List UInt8)) (m : PlainMechanism) :
    PlainMechanism :=
  if m.isServer then { m with expectedUsername := username, expectedPassword := password } else m

def initializePlain (isServer : Bool) (username password : Option String) : PlainMechanism :=
  let user := username.map utf8
  let pass := password.map utf8
  if isServer then { new isServer with expectedUsername := user, expectedPassword := pass }
  else { new isServer with username := user, password := pass }

def parseHelloBody (body : List UInt8) : Except ZmqError (List UInt8 × List UInt8) :=
  match body with
  | userLen :: rest =>
    if body.length < 2 then .error (.securityError "PLAIN HELLO body too short")
    else if rest.length < userLen.toNat + 1 then
      .error (.securityError "Invalid PLAIN HELLO username length")
    else
      match rest.drop userLen.toNat with
      | passLen :: left =>
        if left.length < passLen.toNat then
          .error (.securityError "Invalid PLAIN HELLO password length")
        else .ok (rest.take userLen.toNat, left.take passLen.toNat)
      | [] => .error (.securityError "Invalid PLAIN HELLO username length")
  | [] => .error (.securityError "PLAIN HELLO body too short")

def createHelloBody (username password : List UInt8) : List UInt8 :=
  let userLen := min username.length 255
  let passLen := min password.length 255
  UInt8.ofNat userLen :: username.take userLen ++ UInt8.ofNat passLen :: password.take passLen

def setErrorInternal (reason : String) : MechanismM PlainMechanism Unit :=
  modify fun m => { m with errorReason := some reason, state := .error }

def refuse {β : Type} (reason : String) (e : ZmqError) : MechanismM PlainMechanism β := do
  setErrorInternal reason
  throw (.error e)

def checkCredentials (username password : List UInt8) :
    MechanismM PlainMechanism ProcessTokenAction := do
  let m ← get
  if m.expectedUsername = some username ∧ m.expectedPassword = some password then
    set { m with username := some username, password := some password, state := .serverSendWelcome }
    return .produceAndSend
  else
    refuse "Invalid username or password" (.authenticationFailure "Invalid username or password")

def processHello (commandName body : List UInt8) :
    MechanismM PlainMechanism ProcessTokenAction := do
  if commandName ≠ utf8 "HELLO" then
    refuse s!"Expected HELLO, got {utf8Lossy commandName}" (.securityError "Unexpected command")
  else
    match parseHelloBody body with
    | .error e => refuse ("Failed to parse HELLO: " ++ e.display) e
    | .ok (username, password) => checkCredentials username password

def processWelcome (commandName body : List UInt8) :
    MechanismM PlainMechanism ProcessTokenAction := do
  if commandName = utf8 "WELCOME" then
    modify fun m => { m with state := .ready }
    return .handshakeComplete
  else if commandName = utf8 "ERROR" then
    let reason := utf8Lossy body
    refuse s!"Received ERROR from server: {reason}" (.authenticationFailure reason)
  else
    refuse s!"Expected WELCOME or ERROR, got {utf8Lossy commandName}"
      (.securityError "Unexpected command from server")

def processCommand (hello : MechanismM PlainMechanism ProcessTokenAction)
    (commandName body : List UInt8) : MechanismM PlainMechanism ProcessTokenAction := do
  let m ← get
  match m.isServer, m.state with
  | true, .serverExpectHello => hello
  | false, .clientExpectWelcome => processWelcome commandName body
  | true, state =>
    refuse (s!"Unexpected command received by server in state {state.debug}: " ++
      utf8Lossy commandName) (.securityError "Unexpected command in server state")
  | false, state =>
    refuse (s!"Unexpected command received by client in state {state.debug}: " ++
      utf8Lossy commandName) (.securityError "Unexpected command in client state")

def processToken (token : List UInt8) : MechanismM PlainMechanism ProcessTokenAction := do
  match token with
  | [] => refuse "Received empty security token" (.securityError "Empty token")
  | commandLen :: rest =>
    if rest.length < commandLen.toNat then
      refuse "Invalid command frame received" (.securityError "Malformed command frame")
    else
      let commandName := rest.take commandLen.toNat
      let body := rest.drop commandLen.toNat
      processCommand (processHello commandName body) commandName body

def commandFrame (name : String) : List UInt8 := UInt8.ofNat (utf8 name).length :: utf8 name

def produceToken : MechanismM PlainMechanism (Option (List UInt8)) := do
  let m ← get
  match m.state with
  | .clientSendHello =>
    let body := createHelloBody (m.username.getD []) (m.password.getD [])
    set { m with state := .clientExpectWelcome }
    return some (commandFrame "HELLO" ++ body)
  | .serverSendWelcome =>
    set { m with state := .ready }
    return some (commandFrame "WELCOME")
  | _ => return none

def setError (reason : String) : MechanismM PlainMechanism Unit := setErrorInternal reason

def status (m : PlainMechanism) : MechanismStatus :=
  match m.state with
  | .ready => .ready
  | .error => .error
  | _ => .handshaking

end PlainMechanism

end Rzmq
