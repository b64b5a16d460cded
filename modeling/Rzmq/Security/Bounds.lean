import Rzmq.Security.Curve.Session
import Rzmq.Security.PlainRun

/-! The functions that read a token, with the indices of the source: an index out of range is a
panic, and so is a failed conversion that is unwrapped.  They compute what the functions on lists
do; of CURVE are left the conversions of names and the sizes of sealed values. -/

namespace Rzmq

open List Octet Slice Frame

def orPanic {β : Type} (reason : String) : Option β → Except Fault β
  | some b => .ok b
  | none => .error (.panicked reason)

def lift {σ β : Type} (x : Except Fault β) : EStateM Fault σ β :=
  match x with
  | .ok b => pure b
  | .error e => throw e

def Fault.IsPanic : Fault → Prop
  | .panicked _ => True
  | .error _ => False

abbrev Panics {σ β : Type} (x : EStateM Fault σ β) (s : σ) : Prop := Fails Fault.IsPanic x s

lemma after_get {σ β : Type} {f : σ → EStateM Fault σ β} {s : σ} :
    after (get >>= f) s = after (f s) s := rfl

lemma panics_get {σ β : Type} {f : σ → EStateM Fault σ β} {s : σ} :
    Panics (get >>= f) s ↔ Panics (f s) s := Iff.rfl

lemma panics_bind {σ β γ : Type} {x : EStateM Fault σ β} {f : β → EStateM Fault σ γ} {s : σ} :
    Panics (x >>= f) s ↔ Panics x s ∨ ∃ b t, x s = .ok b t ∧ Panics (f b) t := fails_bind

/-! ### PLAIN -/

namespace PlainMechanism

def getU8 : List UInt8 → Except Fault (UInt8 × List UInt8)
  | b :: rest => .ok (b, rest)
  | [] => .error (.panicked "advance out of bounds")

def copyToSlice (n : Nat) (cursor : List UInt8) : Except Fault (List UInt8 × List UInt8) :=
  if n ≤ cursor.length then .ok (cursor.take n, cursor.drop n)
  else .error (.panicked "advance out of bounds")

def parseHelloBodyAt (body : List UInt8) : Except Fault (List UInt8 × List UInt8) :=
  if body.length < 2 then .error (.error (.securityError "PLAIN HELLO body too short"))
  else do
    let (userLen, cursor) ← getU8 body
    if cursor.length < userLen.toNat + 1 then
      .error (.error (.securityError "Invalid PLAIN HELLO username length"))
    else
      let (username, cursor) ← copyToSlice userLen.toNat cursor
      let (passLen, cursor) ← getU8 cursor
      if cursor.length < passLen.toNat then
        .error (.error (.securityError "Invalid PLAIN HELLO password length"))
      else
        let (password, _) ← copyToSlice passLen.toNat cursor
        return (username, password)

lemma parseHelloBodyAt_eq (body) :
    parseHelloBodyAt body = (parseHelloBody body).mapError .error := by
  unfold parseHelloBodyAt parseHelloBody
  cases body with
  | nil => rfl
  | cons userLen rest =>
    dsimp only
    split
    · rfl
    · simp only [getU8, bind, Except.bind]
      split
      · rfl
      · rename_i long
        rw [copyToSlice, if_pos (by omega)]
        dsimp only
        cases split : rest.drop userLen.toNat with
        | nil =>
          have lengths := congrArg length split
          rw [length_drop, length_nil] at lengths
          omega
        | cons passLen left =>
          dsimp only
          split
          · rfl
          · rw [copyToSlice, if_pos (by omega)]
            rfl

def processHelloAt (commandName body : List UInt8) :
    MechanismM PlainMechanism ProcessTokenAction := do
  if commandName ≠ utf8 "HELLO" then
    refuse s!"Expected HELLO, got {utf8Lossy commandName}" (.securityError "Unexpected command")
  else
    match parseHelloBodyAt body with
    | .error (.panicked reason) => throw (.panicked reason)
    | .error (.error e) => refuse ("Failed to parse HELLO: " ++ e.display) e
    | .ok (username, password) => checkCredentials username password

def processTokenAt (token : List UInt8) : MechanismM PlainMechanism ProcessTokenAction := do
  if token.isEmpty then
    refuse "Received empty security token" (.securityError "Empty token")
  else
    let first ← lift (orPanic "index out of bounds" token[0]?)
    let commandLen := first.toNat
    if token.length < 1 + commandLen then
      refuse "Invalid command frame received" (.securityError "Malformed command frame")
    else
      let commandName ← lift (orPanic "range out of bounds" (range? token 1 (1 + commandLen)))
      let body ← lift (orPanic "range out of bounds" (from? token (1 + commandLen)))
      processCommand (processHelloAt commandName body) commandName body

lemma processHelloAt_eq (commandName body) :
    processHelloAt commandName body = processHello commandName body := by
  unfold processHelloAt processHello
  rw [parseHelloBodyAt_eq]
  split
  · rfl
  · cases parseHelloBody body <;> rfl

lemma processTokenAt_eq (token) : processTokenAt token = processToken token := by
  unfold processTokenAt processToken
  cases token with
  | nil => rfl
  | cons commandLen rest =>
    have short : (commandLen :: rest).length < 1 + commandLen.toNat ↔
        rest.length < commandLen.toNat := by
      rw [length_cons]
      omega
    simp only [isEmpty_cons, Bool.false_eq_true, if_false, getElem?_cons_zero, orPanic,
      lift, pure_bind, short]
    split
    · rfl
    · rename_i long
      have fits : 1 + commandLen.toNat ≤ (commandLen :: rest).length := by
        rw [length_cons]
        omega
      have body :
          (commandLen :: rest).drop (1 + commandLen.toNat) = rest.drop commandLen.toNat := by
        rw [Nat.add_comm]
        rfl
      rw [range?_eq fits, from?_eq fits, body]
      simp only [pure_bind, drop_one, tail_cons, processHelloAt_eq]

lemma refuse_not_panics {β : Type} (reason : String) (e : ZmqError) (m) :
    ¬ Panics (refuse reason e : MechanismM PlainMechanism β) m := by
  rintro ⟨_, _, ⟨⟩, panicked⟩
  exact panicked

lemma processHello_not_panics (commandName body m) :
    ¬ Panics (processHello commandName body) m := by
  unfold processHello
  split
  · exact refuse_not_panics _ _ m
  · split
    · exact refuse_not_panics _ _ m
    · rintro ⟨e, t, failed, panicked⟩
      rw [checkCredentials, bind_of_ok (x := get) rfl] at failed
      split at failed
      · cases failed
      · exact refuse_not_panics _ _ m ⟨e, t, failed, panicked⟩

lemma processWelcome_not_panics (commandName body m) :
    ¬ Panics (processWelcome commandName body) m := by
  unfold processWelcome
  split
  · rintro ⟨_, _, ⟨⟩, _⟩
  · split
    · exact refuse_not_panics _ _ m
    · exact refuse_not_panics _ _ m

lemma processToken_not_panics (token m) :
    ¬ Panics (processToken token) m := by
  cases token with
  | nil => exact refuse_not_panics _ _ m
  | cons commandLen rest =>
    by_cases short : rest.length < commandLen.toNat
    · rw [processToken, if_pos short]
      exact refuse_not_panics _ _ m
    · rw [processToken, if_neg short]
      rintro ⟨e, t, failed, panicked⟩
      rw [processCommand, bind_of_ok (x := get) rfl] at failed
      cases role : m.isServer <;> cases state : m.state <;> simp only [role, state] at failed
      case true.serverExpectHello => exact processHello_not_panics _ _ m ⟨e, t, failed, panicked⟩
      case false.clientExpectWelcome =>
        exact processWelcome_not_panics _ _ m ⟨e, t, failed, panicked⟩
      all_goals exact refuse_not_panics _ _ m ⟨e, t, failed, panicked⟩

end PlainMechanism

/-! ### The metadata of CURVE -/

namespace Curve

variable {α : Type} [Octet α]

def decodeMetadataAt (data : List α) (current : Nat) : Except Fault (Metadata α) :=
  if current < data.length then
    (orPanic "index out of bounds" data[current]?).bind fun o =>
    if toByte o = 0 then .ok []
    else
      let keyLen := (toByte o).toNat
      if data.length < current + 1 + keyLen then .error invalidMetadata
      else
        (orPanic "range out of bounds"
          (range? data (current + 1) (current + 1 + keyLen))).bind fun key =>
        if !validUtf8 (reading key) then .error (.panicked "metadata name is not UTF-8")
        else if data.length < current + 1 + keyLen + 4 then .error invalidMetadata
        else
          (orPanic "range out of bounds"
            (range? data (current + 1 + keyLen) (current + 1 + keyLen + 4))).bind fun len =>
          if len.length ≠ 4 then .error (.panicked "length is not four bytes")
          else
            let valueLen := beNat len
            if data.length < current + 1 + keyLen + 4 + valueLen then .error invalidMetadata
            else
              (orPanic "range out of bounds" (range? data (current + 1 + keyLen + 4)
                (current + 1 + keyLen + 4 + valueLen))).bind fun value =>
              (decodeMetadataAt data (current + 1 + keyLen + 4 + valueLen)).map fun more =>
              (reading key, value) :: more
  else .ok []
termination_by data.length - current

lemma decodeMetadataAt_eq (data : List α) (current : Nat) :
    decodeMetadataAt data current = decodeMetadata (data.drop current) := by
  induction left : data.length - current using Nat.strongRecOn generalizing current with
  | _ left ih =>
    rw [decodeMetadataAt]
    by_cases inside : current < data.length
    · rw [if_pos inside, drop_eq_getElem_cons inside, decodeMetadata,
        getElem?_eq_getElem inside]
      dsimp only [orPanic, Except.bind]
      generalize keyLength : (toByte data[current]).toNat = keyLen
      have rest : (data.drop (current + 1)).length = data.length - (current + 1) := length_drop
      have afterKey : (data.drop (current + 1)).drop keyLen = data.drop (current + 1 + keyLen) :=
        drop_drop
      have afterLen : (data.drop (current + 1 + keyLen)).drop 4 =
          data.drop (current + 1 + keyLen + 4) := drop_drop
      have key : (data.drop (current + 1 + keyLen)).length =
          data.length - (current + 1 + keyLen) := length_drop
      have len : (data.drop (current + 1 + keyLen + 4)).length =
          data.length - (current + 1 + keyLen + 4) := length_drop
      by_cases padding : toByte data[current] = 0
      · rw [if_pos padding, if_pos padding]
      rw [if_neg padding, if_neg padding]
      by_cases short : (data.drop (current + 1)).length < keyLen
      · rw [if_pos short, if_pos (by omega)]
      rw [if_neg short, if_neg (by omega), range?_eq (by omega), afterKey, afterLen]
      dsimp only
      split
      · rfl
      by_cases short : (data.drop (current + 1 + keyLen)).length < 4
      · rw [if_pos short, if_pos (by omega)]
      rw [if_neg short, if_neg (by omega), range?_eq (by omega)]
      dsimp only
      have four : ((data.drop (current + 1 + keyLen)).take 4).length = 4 := by
        rw [length_take]
        omega
      rw [if_neg (not_not.mpr four)]
      generalize beNat ((data.drop (current + 1 + keyLen)).take 4) = valueLen
      have afterValue : (data.drop (current + 1 + keyLen + 4)).drop valueLen =
          data.drop (current + 1 + keyLen + 4 + valueLen) := drop_drop
      by_cases short : (data.drop (current + 1 + keyLen + 4)).length < valueLen
      · rw [if_pos short, if_pos (by omega)]
      rw [if_neg short, if_neg (by omega), range?_eq (by omega), afterValue]
      dsimp only
      rw [ih _ (by omega) (current + 1 + keyLen + 4 + valueLen) rfl]
      cases decodeMetadata (data.drop (current + 1 + keyLen + 4 + valueLen)) <;> rfl
    · rw [if_neg inside, drop_eq_nil_of_le (by omega), decodeMetadata]

/-! ### The tokens of CURVE -/

namespace CurveHandshake

variable {SK Key : Type}

def lookupAt (data : List α) (name : List UInt8) (missing : String) : Step SK Key α (List α) :=
  match decodeMetadataAt data 0 with
  | .error e => throw e
  | .ok metadata =>
    match metadata.get name with
    | some value => pure value
    | none => fail (.protocolViolation missing)

def readCommandAt (name entry : List UInt8) (expected missing : String) (token : List α) :
    Step SK Key α (List α) :=
  if reading (token.take name.length) ≠ name then fail (.protocolViolation expected)
  else do
    let data ← lift (orPanic "range out of bounds" (from? token name.length))
    lookupAt data entry missing

lemma lookupAt_eq (data : List α) (name) (missing : String) :
    (lookupAt data name missing : Step SK Key α (List α)) = lookup data name missing := by
  unfold lookupAt
  rw [decodeMetadataAt_eq, drop_zero]
  rfl

lemma readCommandAt_eq (name entry) (expected missing : String) (token : List α) :
    (readCommandAt name entry expected missing token : Step SK Key α (List α)) =
      readCommand name entry expected missing token := by
  unfold readCommandAt readCommand
  split
  · rfl
  · rename_i same
    have fits : name.length ≤ token.length := by
      have lengths := congrArg length (not_not.mp same)
      rw [reading_length, length_take] at lengths
      omega
    rw [from?_eq fits]
    simp only [orPanic, lift, pure_bind]
    exact lookupAt_eq _ _ _

variable [CryptoBox Key α] [CurveSuite SK Key α]

def processClientHelloAt (token : List α) : Step SK Key α Unit := do
  let slice ← readCommandAt helloPrefix publicKeyClientName "Expected HELLO command"
    "HELLO missing Public-Key-Client" token
  let pk ← publicKeyOf slice
  modify ({ · with remoteEphemeralPublicKey := some pk })

def processServerWelcomeAt (token : List α) : Step SK Key α Unit := do
  let cookie ← readCommandAt welcomePrefix cookieName "Expected WELCOME command"
    "WELCOME missing Cookie" token
  let h ← get
  let serverStatic ← unwrap h.remoteStaticPublicKey
  let k : Key := CurveSuite.beforenm serverStatic h.localEphemeralKeypair
  let split ← splitMac cookie
  let serverEph ← openCookie k split.1 split.2
  let pk ← publicKeyOf serverEph
  modify ({ · with remoteEphemeralPublicKey := some pk })
  modify ({ · with precomputedKey := some (CurveSuite.beforenm pk h.localStaticKeypair) })

def processClientInitiateAt (token : List α) : Step SK Key α Unit := do
  let sealed ← readCommandAt initiatePrefix ciphertextName "Expected INITIATE command"
    "INITIATE missing Ciphertext" token
  let h ← get
  let clientEph ← unwrap h.remoteEphemeralPublicKey
  let k : Key := CurveSuite.beforenm clientEph h.localStaticKeypair
  let split ← splitMac sealed
  modify ({ · with recvNonce := h.recvNonce + 1 })
  let metadata ← openBox k (commandNonce h.recvNonce) split.1 split.2
  let slice ← lookupAt metadata publicKeyClientName "INITIATE missing Public-Key-Client"
  let pk ← publicKeyOf slice
  modify ({ · with remoteStaticPublicKey := some pk })
  modify ({ · with precomputedKey := some (CurveSuite.beforenm pk h.localEphemeralKeypair) })

lemma processAt_eq (token : List α) :
    (processClientHelloAt token : Step SK Key α Unit) = processClientHello token ∧
      (processServerWelcomeAt token : Step SK Key α Unit) = processServerWelcome token ∧
      (processClientInitiateAt token : Step SK Key α Unit) = processClientInitiate token := by
  simp only [processClientHelloAt, processServerWelcomeAt, processClientInitiateAt,
    readCommandAt_eq, lookupAt_eq]
  exact ⟨rfl, rfl, rfl⟩

end CurveHandshake

namespace CurveMechanism

variable {SK Key : Type} [CryptoBox Key α] [CurveSuite SK Key α]

def processTokenAt (token : List α) : MechanismM (CurveMechanism SK Key α) ProcessTokenAction := do
  match (← get).handshake.phase with
  | .serverStart =>
    onHandshake (CurveHandshake.processClientHelloAt token)
    setPhase .serverReadyToProduceWelcome
    return .produceAndSend
  | .clientSentHello =>
    onHandshake (CurveHandshake.processServerWelcomeAt token)
    setPhase .clientReadyToProduceInitiate
    return .produceAndSend
  | .serverAwaitingInitiate =>
    onHandshake (CurveHandshake.processClientInitiateAt token)
    setPhase .complete
    setReady
    return .handshakeComplete
  | _ => throw (.error (.invalidState "Received handshake token at an unexpected time."))

lemma processTokenAt_eq (token : List α) :
    (processTokenAt token : MechanismM (CurveMechanism SK Key α) _) = processToken token := by
  obtain ⟨hello, welcome, initiate⟩ := @CurveHandshake.processAt_eq α _ SK Key _ _ token
  unfold processTokenAt
  rw [hello, welcome, initiate]
  rfl

end CurveMechanism

end Curve

end Rzmq
