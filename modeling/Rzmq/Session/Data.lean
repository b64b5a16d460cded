import Rzmq.Security.Framer
import Rzmq.Wire.Command

/-! The data phase of a session with a NULL framer.  The loop of `read_data_frame_impl` waits in one
place only, for bytes, and what it has read stays in the session when another arm of `select!` drops
it there. -/

namespace Rzmq

variable {α : Type}

def maxBufferSize : Nat := 16 * 1024 * 1024

/-- `queueing` waits inside the `handle_pipe_event` of the socket; `failed` is what
`set_fatal_error` leaves. -/
inductive SessionStage (α : Type) where
  | polling
  | reading
  | handling (msg : Msg α)
  | queueing (message : List (Msg α))
  | failed (e : ZmqError)

structure DataSession (α : Type) where
  framer : NullFramer
  networkReadBuffer : List α
  isV2 : Bool
  stage : SessionStage α
  written : List (List α)

namespace DataSession

/-- A session that has just become operational, with nothing left over from the handshake. -/
def new (maxMsgSize : Int) (isV2 : Bool) : DataSession α :=
  ⟨.new maxMsgSize, [], isV2, .polling, []⟩

def setStage (s : DataSession α) (stage : SessionStage α) : DataSession α := { s with stage }

variable [Octet α]

/-- The body of the loop of `read_data_frame_impl`, up to the point where it waits for bytes. -/
def readDataFrame (s : DataSession α) : DataSession α :=
  if maxBufferSize < s.networkReadBuffer.length then s.setStage (.failed .resourceLimitReached)
  else
    match s.framer.tryReadMsg s.networkReadBuffer with
    | (.ok (some msg), framer, rest) =>
      { s with framer, networkReadBuffer := rest, stage := .handling msg }
    | (.ok none, framer, rest) => { s with framer, networkReadBuffer := rest, stage := .reading }
    | (.error e, framer, rest) => { s with framer, networkReadBuffer := rest, stage := .failed e }

def processHeartbeatCommand (msg : Msg α) : Except ZmqError (Option (List α)) :=
  match ZmtpCommand.parse msg with
  | some (.ping context) => .ok (some (createPong context))
  | some (.pong _) => .ok none
  | some .error => .error (.protocolViolation "Received ZMTP ERROR from peer")
  | some _ => .ok none
  | none => .error (.protocolViolation "Unparseable command received in data phase")

def handleCommand (s : DataSession α) (msg : Msg α) : DataSession α :=
  if s.isV2 then
    s.setStage (.failed (.protocolViolation "received COMMAND-flagged frame on a ZMTP/2.0 session"))
  else
    match processHeartbeatCommand msg with
    | .ok (some pong) => { s with written := s.written ++ [pong], stage := .polling }
    | .ok none => s.setStage .polling
    | .error e => s.setStage (.failed e)

end DataSession

def writeDataMsgs [Octet α] (framer : NullFramer) (msgs : List (Msg α)) :
    Except ZmqError (List α) :=
  if msgs.isEmpty then .ok [] else framer.writeMsgMultipart msgs

lemma writeDataMsgs_ok [Octet α] (framer : NullFramer) (batch : List (Msg α)) :
    writeDataMsgs framer batch = .ok (ZmtpCodec.encodeAll batch) := by
  cases batch with
  | nil | cons m rest => rfl

end Rzmq
