import Rzmq.Lib.Slice
import Rzmq.Message

/-! The commands of `protocol/zmtp/command.rs`: their bodies, and how a command frame is parsed. -/

namespace Rzmq

open List Option Octet Slice

variable {α : Type}

abbrev Metadata (α : Type) : Type := List (List UInt8 × List α)

def Metadata.get (metadata : Metadata α) (name : List UInt8) : Option (List α) :=
  metadata.foldl (fun found entry => if entry.1 = name then some entry.2 else found) none

def validUtf8 (bs : List UInt8) : Bool := ByteArray.validateUTF8 ⟨bs.toArray⟩

lemma Metadata.mem_of_get {metadata : Metadata α} {name : List UInt8} {value : List α}
    (found : metadata.get name = some value) : (name, value) ∈ metadata := by
  unfold Metadata.get at found
  induction metadata using reverseRecOn with
  | nil => cases found
  | append_singleton metadata entry ih =>
    rw [foldl_append, foldl_cons, foldl_nil] at found
    split at found
    · rename_i same
      cases found
      rw [← same]
      exact mem_append_right _ (mem_singleton.mpr rfl)
    · exact mem_append_left _ (ih found)

lemma Metadata.get_single (name) (value : List α) :
    Metadata.get [(name, value)] name = some value := by
  simp [Metadata.get]

inductive ZmtpCommand (α : Type) where
  | ping (context : List α)
  | pong (context : List α)
  | ready (properties : Metadata α)
  | error
  | unknown (body : List α)

variable [Octet α]

def encodeEntry (name : List UInt8) (value : List α) : List α :=
  low name.length :: bytes name ++ be 4 value.length ++ value

def commandName (name : String) : List UInt8 := UInt8.ofNat (utf8 name).length :: utf8 name

def startsWith (body : List α) (name : String) : Bool :=
  reading (body.take (commandName name).length) == commandName name

/-- Up to the text of its errors, which `parse` drops.  Unlike the metadata of CURVE it has no
padding. -/
def parseProperties (body : List α) : Option (Metadata α) :=
  match body with
  | [] => some []
  | o :: rest =>
    let nameLen := (toByte o).toNat
    if rest.length < nameLen then none
    else
      let name := reading (rest.take nameLen)
      let afterName := rest.drop nameLen
      if !validUtf8 name then none
      else if afterName.length < 4 then none
      else
        let valueLen := beNat (afterName.take 4)
        let afterLen := afterName.drop 4
        if afterLen.length < valueLen then none
        else (parseProperties (afterLen.drop valueLen)).map ((name, afterLen.take valueLen) :: ·)
termination_by body.length
decreasing_by
  simp only [length_cons, length_drop]
  omega

lemma parseProperties_encodeEntry {name value}
    (short : name.length ≤ 255) (text : validUtf8 name = true) (small : value.length < 2 ^ 32)
    (rest : List α) :
    parseProperties (encodeEntry name value ++ rest) =
      (parseProperties rest).map ((name, value) :: ·) := by
  have nameLen : (UInt8.ofNat name.length).toNat = name.length := by
    rw [UInt8.toNat_ofNat']
    exact Nat.mod_eq_of_lt (by omega)
  have valueLen : beNat (be 4 value.length : List α) = value.length :=
    beNat_be_of_lt (by omega)
  simp only [encodeEntry, cons_append, append_assoc]
  rw [parseProperties]
  simp [nameLen, take_left' (bytes_length name), drop_left' (bytes_length name), valueLen, text,
    take_left' (be_length 4 _), drop_left' (be_length 4 _)]

lemma parseProperties_length {body : List α} {properties : Metadata α}
    (parsed : parseProperties body = some properties) :
    ∀ entry ∈ properties, 5 + entry.1.length + entry.2.length ≤ body.length := by
  fun_induction parseProperties body generalizing properties with
  | case1 =>
    cases parsed
    nofun
  | case2 | case3 | case4 | case5 => cases parsed
  | case6 o rest nameLen named name afterName _ sized valueLen afterLen full =>
    rename_i ih
    obtain ⟨later, parsedLater, rfl⟩ := map_eq_some_iff.mp parsed
    have afterLength : afterName.length = rest.length - nameLen := length_drop
    have leftLength : afterLen.length = afterName.length - 4 := length_drop
    intro entry mem
    rcases mem_cons.mp mem with rfl | mem
    · have nameLength : name.length = nameLen := by
        simp [name, reading_length]
        omega
      simp [nameLength]
      omega
    · have := ih parsedLater entry mem
      simp only [length_drop, length_cons] at this ⊢
      omega

def ZmtpCommand.parse (msg : Msg α) : Option (ZmtpCommand α) :=
  if !msg.isCommand || msg.isMore then none
  else
    match msg.data with
    | none => none
    | some body =>
      if startsWith body "PING" && 7 ≤ body.length then some (.ping (body.drop 7))
      else if startsWith body "PONG" && 5 ≤ body.length then some (.pong (body.drop 5))
      else if startsWith body "READY" && 6 ≤ body.length then
        (parseProperties (body.drop 6)).map .ready
      else if startsWith body "ERROR" then some .error
      else some (.unknown body)

lemma ZmtpCommand.parse_ready {msg : Msg α} {properties}
    (parsed : ZmtpCommand.parse msg = some (.ready properties)) :
    6 ≤ msg.body.length ∧ startsWith msg.body "READY" = true ∧
      parseProperties (msg.body.drop 6) = some properties := by
  unfold ZmtpCommand.parse at parsed
  split at parsed
  · cases parsed
  · split at parsed
    · cases parsed
    · rename_i body data
      have same : msg.body = body := by rw [Msg.body, data, getD_some]
      split at parsed
      · cases parsed
      · split at parsed
        · cases parsed
        · split at parsed
          · rename_i ready
            obtain ⟨found, there, ⟨⟩⟩ := map_eq_some_iff.mp parsed
            rw [same]
            obtain ⟨starts, long⟩ := Bool.and_eq_true_iff.mp ready
            exact ⟨of_decide_eq_true long, starts, there⟩
          · split at parsed <;> cases parsed

def commandFlags : MsgFlags := ⟨false, true⟩

def createPing (ttl : UInt16) (context : List α) : List α :=
  bytes (commandName "PING") ++ be 2 ttl.toNat ++ context

def createPong (context : List α) : List α := bytes (commandName "PONG") ++ context

/-- The body of `ZmtpReady::create_msg`; entries with a name that is too long are left out. -/
def readyBody (properties : Metadata α) : List α :=
  bytes (commandName "READY") ++
    (properties.filter fun entry => entry.1.length ≤ 255).flatMap fun entry =>
      encodeEntry entry.1 entry.2

def Metadata.WellFormed (properties : Metadata α) : Prop :=
  ∀ entry ∈ properties, entry.1.length ≤ 255 ∧ validUtf8 entry.1 = true ∧ entry.2.length < 2 ^ 32

lemma parseProperties_flatMap {properties : Metadata α} (formed : properties.WellFormed) :
    parseProperties (properties.flatMap fun entry => encodeEntry entry.1 entry.2) =
      some properties := by
  induction properties with
  | nil => simp [parseProperties]
  | cons entry rest ih =>
    obtain ⟨short, text, small⟩ := formed entry mem_cons_self
    rw [flatMap_cons, parseProperties_encodeEntry short text small,
      ih fun later mem => formed later (mem_cons_of_mem _ mem)]
    rfl

lemma startsWith_append {head name}
    (long : (commandName name).length ≤ head.length) (rest : List α) :
    startsWith (bytes head ++ rest) name =
      (head.take (commandName name).length == commandName name) := by
  have known : (commandName name).length ≤ (bytes head : List α).length := by
    rwa [bytes_length]
  rw [startsWith, take_append_of_le_length known, bytes, ← map_take]
  exact congrArg (· == commandName name) (reading_bytes _)

lemma readyBody_eq {properties : Metadata α} (formed : properties.WellFormed) :
    readyBody properties = bytes (commandName "READY") ++
      properties.flatMap fun entry => encodeEntry entry.1 entry.2 := by
  rw [readyBody, filter_eq_self.mpr fun entry mem => decide_eq_true (formed entry mem).1]

lemma parse_readyBody {properties : Metadata α} (formed : properties.WellFormed) {msg : Msg α}
    (flags : msg.flags = commandFlags) (data : msg.data = some (readyBody properties)) :
    ZmtpCommand.parse msg = some (.ready properties) := by
  have whole := readyBody_eq formed
  have name : (commandName "READY").length = 6 := by decide
  have notPing : startsWith (readyBody properties) "PING" = false := by
    rw [whole, startsWith_append (by decide)]
    decide
  have notPong : startsWith (readyBody properties) "PONG" = false := by
    rw [whole, startsWith_append (by decide)]
    decide
  have ready : startsWith (readyBody properties) "READY" = true := by
    rw [whole, startsWith_append (by decide)]
    decide
  have body : (readyBody properties).drop 6 =
      properties.flatMap fun entry => encodeEntry entry.1 entry.2 := by
    rw [whole, drop_left' (by rw [bytes_length, name])]
  have long : 6 ≤ (readyBody properties).length := by
    rw [whole, length_append, bytes_length, name]
    omega
  simp only [ZmtpCommand.parse, Msg.isCommand, Msg.isMore, flags, commandFlags, data, notPing,
    notPong, ready, body, long, parseProperties_flatMap formed]
  rfl

/-! The reads of the source are checked: one past the end is a panic, here `none`. -/

def parsePropertiesAt (body : List α) : Option (Option (Metadata α)) :=
  match body with
  | [] => some (some [])
  | o :: rest =>
    let nameLen := (toByte o).toNat
    if rest.length < nameLen then some none
    else
      (range? rest 0 nameLen).bind fun name =>
      let afterName := rest.drop nameLen
      if !validUtf8 (reading name) then some none
      else if afterName.length < 4 then some none
      else
        (range? afterName 0 4).bind fun len =>
        let afterLen := afterName.drop 4
        if afterLen.length < beNat len then some none
        else
          (range? afterLen 0 (beNat len)).bind fun value =>
          (parsePropertiesAt (afterLen.drop (beNat len))).map fun more =>
          more.map ((reading name, value) :: ·)
termination_by body.length
decreasing_by
  simp only [length_cons, length_drop]
  omega

lemma parsePropertiesAt_eq (body : List α) :
    parsePropertiesAt body = some (parseProperties body) := by
  fun_induction parseProperties body <;> rw [parsePropertiesAt] <;>
    simp +zetaDelta only at * <;>
    simp_all only [range?_zero, if_true, if_false, bind_some, map_some, not_false_eq_true,
      Bool.false_eq_true]

def ZmtpCommand.parseAt (msg : Msg α) : Option (Option (ZmtpCommand α)) :=
  if !msg.isCommand || msg.isMore then some none
  else
    match msg.data with
    | none => some none
    | some body =>
      if startsWith body "PING" && 7 ≤ body.length then
        (from? body 7).map fun context => some (.ping context)
      else if startsWith body "PONG" && 5 ≤ body.length then
        (from? body 5).map fun context => some (.pong context)
      else if startsWith body "READY" && 6 ≤ body.length then
        (from? body 6).bind fun rest => (parsePropertiesAt rest).map (·.map .ready)
      else if startsWith body "ERROR" then some (some .error)
      else some (some (.unknown body))

lemma ZmtpCommand.parseAt_eq (msg : Msg α) : parseAt msg = some (parse msg) := by
  unfold parseAt parse
  repeat' split
  all_goals simp_all [from?, parsePropertiesAt_eq]

lemma ZmtpCommand.parse_ping {msg : Msg α} (flags : msg.flags = commandFlags) {ttl context}
    (data : msg.data = some (createPing ttl context)) : parse msg = some (.ping context) := by
  have name : (bytes (commandName "PING") : List α).length = 5 := rfl
  have ping : startsWith (createPing ttl context) "PING" = true := by
    rw [createPing, append_assoc, startsWith_append (by decide)]
    decide
  have body : (createPing ttl context).drop 7 = context :=
    drop_left' (by rw [length_append, name, be_length])
  have long : 7 ≤ (createPing ttl context).length := by
    rw [createPing, length_append, length_append, name, be_length]
    omega
  simp [ZmtpCommand.parse, Msg.isCommand, Msg.isMore, flags, commandFlags, data, ping, body, long]

lemma ZmtpCommand.parse_pong {msg : Msg α} (flags : msg.flags = commandFlags) {context}
    (data : msg.data = some (createPong context)) : parse msg = some (.pong context) := by
  have notPing : startsWith (createPong context) "PING" = false := by
    rw [createPong, startsWith_append (by decide)]
    decide
  have pong : startsWith (createPong context) "PONG" = true := by
    rw [createPong, startsWith_append (by decide)]
    decide
  have body : (createPong context).drop 5 = context := drop_left' rfl
  have long : 5 ≤ (createPong context).length := by
    rw [createPong, length_append]
    exact Nat.le_add_right _ _
  simp [ZmtpCommand.parse, Msg.isCommand, Msg.isMore, flags, commandFlags, data, notPing, pong,
    body, long]

lemma encode_parseProperties {body : List UInt8} {properties}
    (parsed : parseProperties body = some properties) : properties.WellFormed ∧
      (properties.flatMap fun entry => encodeEntry entry.1 entry.2) = body := by
  fun_induction parseProperties body generalizing properties with
  | case1 =>
    cases parsed
    exact ⟨nofun, rfl⟩
  | case2 | case3 | case4 | case5 => cases parsed
  | case6 o rest nameLen named name afterName valid sized valueLen afterLen full =>
    rename_i ih
    obtain ⟨later, parsedLater, rfl⟩ := map_eq_some_iff.mp parsed
    obtain ⟨formed, same⟩ := ih parsedLater
    have plain : name = rest.take nameLen := map_id _
    have nameLength : name.length = nameLen := by
      rw [plain, length_take_of_le (Nat.not_lt.mp named)]
    have byte : nameLen < 256 := o.toNat_lt
    have sizeLength := length_take_of_le (Nat.not_lt.mp sized)
    have valueLength := length_take_of_le (Nat.not_lt.mp full)
    have small : valueLen < 256 ^ 4 := by
      rw [← sizeLength]
      exact beNat_lt _
    constructor
    · intro entry mem
      rcases mem_cons.mp mem with rfl | mem
      · exact ⟨show name.length ≤ 255 by omega, by simpa using valid, valueLength.symm ▸ small⟩
      · exact formed entry mem
    · have first : (low name.length : UInt8) = o := by
        rw [nameLength]
        exact UInt8.ofNat_toNat
      have size : (be 4 valueLen : List UInt8) = afterName.take 4 := by
        have back := be_beNat (afterName.take 4)
        rwa [sizeLength] at back
      have text : (bytes name : List UInt8) = rest.take nameLen := (map_id name).trans plain
      rw [flatMap_cons, same, encodeEntry, first, text, valueLength, size]
      simp [afterLen, afterName]

/-- Every READY, PING and PONG is parsed to what it was made of, no frame makes the parser read past
its end, and a READY is parsed only if it is one that could have been made. -/
theorem commands_round_trip (msg : Msg UInt8) : (msg.flags = commandFlags →
      (∀ properties, properties.WellFormed → msg.data = some (readyBody properties) →
        ZmtpCommand.parse msg = some (.ready properties)) ∧
      (∀ ttl context, msg.data = some (createPing ttl context) →
        ZmtpCommand.parse msg = some (.ping context)) ∧
      ∀ context, msg.data = some (createPong context) →
        ZmtpCommand.parse msg = some (.pong context)) ∧
    ZmtpCommand.parseAt msg = some (ZmtpCommand.parse msg) ∧
    ∀ properties, ZmtpCommand.parse msg = some (.ready properties) →
      properties.WellFormed ∧ msg.body = readyBody properties := by
  refine ⟨fun flags => ⟨fun properties formed data => parse_readyBody formed flags data,
    fun ttl context data => ZmtpCommand.parse_ping flags data,
    fun context data => ZmtpCommand.parse_pong flags data⟩, ZmtpCommand.parseAt_eq msg,
    fun properties parsed => ?_⟩
  obtain ⟨-, starts, parsed⟩ := ZmtpCommand.parse_ready parsed
  obtain ⟨formed, same⟩ := encode_parseProperties parsed
  have name := (map_id _).symm.trans (beq_iff_eq.mp starts)
  rw [readyBody_eq formed, same, ← name]
  exact ⟨formed, (congrArg (· ++ msg.body.drop 6) (map_id _)).trans (take_append_drop ..) |>.symm⟩

theorem commands_round_trip_ping :
    ZmtpCommand.parse (.fromBytes (createPing 5 [7] : List UInt8) commandFlags (by decide)) =
      some (.ping [7]) :=
  ((commands_round_trip _).1 rfl).2.1 5 [7] rfl

end Rzmq
