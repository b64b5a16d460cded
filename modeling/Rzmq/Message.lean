import Rzmq.Lib.Octets

/-! Message frames and the errors of the wire code.  A frame is generic in its octets, so the codec,
the framers and the CURVE handshake serve bytes on a socket and the symbols of the attacker model.
The metadata map is left out: no modelled function reads it. -/

namespace Rzmq

inductive ZmqError where
  | protocolViolation (reason : String)
  | invalidMessage (reason : String)
  | securityError (reason : String)
  | authenticationFailure (reason : String)
  | encryptionError (reason : String)
  | invalidState (reason : String)
  | internal (reason : String)
  | invalidCurveKey
  | hostUnreachable (reason : String)
  | connectionClosed
  | resourceLimitReached
  | timeout
deriving DecidableEq

def ZmqError.display : ZmqError → String
  | .protocolViolation reason => "ZMTP protocol violation: " ++ reason
  | .invalidMessage reason => "Invalid message format for operation: " ++ reason
  | .securityError reason => "Security error: " ++ reason
  | .authenticationFailure reason => "Authentication failed: " ++ reason
  | .encryptionError reason => "Encryption/Decryption error: " ++ reason
  | .invalidState reason => "Operation is invalid for the current socket state: " ++ reason
  | .internal reason => "Internal library error: " ++ reason
  | .invalidCurveKey => "Invalid Curve25519 key provided"
  | .hostUnreachable reason => "Host is unreachable: " ++ reason
  | .connectionClosed => "Connection closed by peer or transport"
  | .resourceLimitReached => "Resource limit reached (e.g., HWM)"
  | .timeout => "Operation timed out"

inductive Fault where
  | error (e : ZmqError)
  | panicked (reason : String)
deriving DecidableEq

structure MsgFlags where
  more : Bool
  command : Bool
deriving DecidableEq

def MsgFlags.empty : MsgFlags := ⟨false, false⟩

structure Msg (α : Type) where
  data : Option (List α)
  flags : MsgFlags
  size_lt : (data.getD []).length < 2 ^ 64
deriving DecidableEq

namespace Msg

variable {α : Type} (m : Msg α)

def body : List α := m.data.getD []

def size : Nat := m.body.length

def isMore : Bool := m.flags.more

def isCommand : Bool := m.flags.command

lemma none_size : ((none : Option (List α)).getD []).length < 2 ^ 64 := by
  simp

lemma octet_size (o : α) : [o].length < 2 ^ 64 := by
  simp

def new : Msg α := ⟨none, .empty, none_size⟩

def fromBytes (data : List α) (flags : MsgFlags) (h : data.length < 2 ^ 64) : Msg α :=
  ⟨some data, flags, h⟩

/-- The frame that a reader of the wire sees: a frame without data has an empty body there. -/
def received : Msg α := fromBytes m.body m.flags m.size_lt

lemma body_lt (m : Msg α) : m.body.length < 2 ^ 64 := m.size_lt

@[simp] lemma received_body (m : Msg α) : m.received.body = m.body := rfl

@[simp] lemma received_flags (m : Msg α) : m.received.flags = m.flags := rfl

@[simp] lemma received_isMore (m : Msg α) : m.received.isMore = m.isMore := rfl

@[simp] lemma received_isCommand (m : Msg α) : m.received.isCommand = m.isCommand := rfl

end Msg

/-- A frame of one byte. -/
def octet (n : UInt8) (more : Bool) : Msg UInt8 := .fromBytes [n] ⟨more, false⟩ (Msg.octet_size n)

end Rzmq
