import Rzmq.Security.Negotiate

/-! Noise as symbols, a model of `SnowHandshake` and `SnowTransport` that can be run.  Messages name
the secrets behind them, and an octet of a transport message is made only by sealing.  CURVE is not
used here: its boxes never open. -/

namespace Rzmq.Noise

open Octet

inductive Symbol where
  | byte (b : UInt8)
  | ephemeral (seed : Nat)
  /-- The static key of a party, encrypted to the two ephemeral secrets of the handshake. -/
  | encrypted (initiator responder : Nat) (sk : List UInt8)
  | publicKey (sk : List UInt8)
  | tag (initiator responder counter length position : Nat)
  | sealed (initiator responder counter position : Nat) (octet : Symbol)
deriving DecidableEq

instance : Octet Symbol where
  ofByte := .byte
  toByte
    | .byte b => b
    | _ => 0
  toByte_ofByte _ := rfl

structure Handshake where
  initiator : Bool
  sk : List UInt8
  seed : Nat
  peerSeed : Option Nat
  remote : Option (List Symbol)
  next : Nat

/-- A channel between two parties.  The initiator counts its messages with even numbers and the
responder with odd ones. -/
structure Transport where
  initiator : Nat
  responder : Nat
  sent : Nat
  opened : Nat

namespace Transport

def tags (t : Transport) (counter length : Nat) : List Symbol :=
  (List.range 16).map (.tag t.initiator t.responder counter length)

def seals (t : Transport) (counter : Nat) (p : List Symbol) : List Symbol :=
  p.mapIdx fun position octet => .sealed t.initiator t.responder counter position octet

def content : Symbol → Symbol
  | .sealed _ _ _ _ octet => octet
  | octet => octet

instance : SnowTransport Transport Symbol where
  writeMessage t p :=
    (.ok (t.tags t.sent p.length ++ t.seals t.sent p), { t with sent := t.sent + 2 })
  readMessage t c :=
    let p := (c.drop 16).map content
    if c = t.tags t.opened p.length ++ t.seals t.opened p then
      (.ok p, { t with opened := t.opened + 2 })
    else (.error (.securityError "decrypt"), t)
  write_length {t t' p c} h := by
    simp only [Prod.mk.injEq, Except.ok.injEq] at h
    rw [← h.1]
    simp [tags, seals, Nat.add_comm]
  read_length {t t' c p} h := by
    dsimp only at h
    split at h
    · simp only [Prod.mk.injEq, Except.ok.injEq] at h
      rw [← h.1]
      simp
    · simp at h

end Transport

namespace Handshake

def channel (h : Handshake) : Option (Nat × Nat) :=
  h.peerSeed.map fun peer => if h.initiator then (h.seed, peer) else (peer, h.seed)

def writeMessage (h : Handshake) : Except SnowError (List Symbol) × Handshake :=
  match h.next, h.initiator, h.channel with
  | 0, true, _ => (.ok [.ephemeral h.seed], { h with next := 1 })
  | 1, false, some (i, r) =>
    (.ok [.ephemeral h.seed, .encrypted i r h.sk], { h with next := 2 })
  | 2, true, some (i, r) => (.ok [.encrypted i r h.sk], { h with next := 3 })
  | _, _, _ => (.error (.stateProblem "NotTurnToWrite"), h)

def readMessage (h : Handshake) (msg : List Symbol) : Except SnowError Unit × Handshake :=
  match h.next, h.initiator, msg with
  | 0, false, [.ephemeral i] => (.ok (), { h with peerSeed := some i, next := 1 })
  | 1, true, [.ephemeral r, .encrypted i r' sk] =>
    if i = h.seed ∧ r' = r then
      (.ok (), { h with peerSeed := some r, remote := some [.publicKey sk], next := 2 })
    else (.error .decrypt, h)
  | 2, false, [.encrypted i r sk] =>
    if h.channel = some (i, r) then
      (.ok (), { h with remote := some [.publicKey sk], next := 3 })
    else (.error .decrypt, h)
  | _, _, _ => (.error .input, h)

instance : SnowHandshake Handshake Transport Symbol where
  buildInitiator sk _ seed := .ok ⟨true, sk, seed, none, none, 0⟩
  buildResponder sk seed := .ok ⟨false, sk, seed, none, none, 0⟩
  isHandshakeFinished h := h.next == 3
  isMyTurn h := h.next < 3 && (h.next % 2 == 0) == h.initiator
  writeMessage
  readMessage
  getRemoteStatic := remote
  intoTransportMode h :=
    match h.channel with
    | some (i, r) => .ok ⟨i, r, if h.initiator then 0 else 1, if h.initiator then 1 else 0⟩
    | none => .error .handshakeNotFinished

end Handshake

structure NoKey where

instance : CryptoBox NoKey Symbol where
  detached _ _ p := (List.replicate 16 (.byte 0), p)
  openDetached _ _ _ _ := .error "authentication error"
  mac_length _ _ _ := List.length_replicate
  detached_length _ _ _ := rfl
  open_length h := by cases h

instance : Curve.CurveSuite NoKey NoKey Symbol where
  publicKey _ := ⟨List.replicate 32 (.byte 0), List.length_replicate⟩
  beforenm _ _ := ⟨⟩
  kxClient _ _ _ := .error "no key exchange"
  kxServer _ _ _ := .error "no key exchange"

def clearConfig (socketTypeName : String) (routingId : Option (List Symbol)) :
    ZmtpEngineConfig NoKey Symbol where
  routingId
  socketTypeName
  securityEnabled := false
  useNoiseXx := false
  noiseXxLocalSk := none
  noiseXxRemotePk := none
  useCurve := false
  curveLocalSecretKey := none
  curveRemotePublicKey := none
  usePlain := false
  plainUsername := none
  plainPassword := none
  maxMsgSize := -1
  allowZmtp2 := false

end Rzmq.Noise
