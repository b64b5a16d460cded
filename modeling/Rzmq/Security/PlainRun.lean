import Rzmq.Lib.Frame
import Rzmq.Lib.Transition
import Rzmq.Security.Plain

/-! Runs of PLAIN.  A server is ready only behind a HELLO with the credentials that it expects, and
both ends are ready exactly when the server expects the first 255 bytes of the client's credentials.
-/

namespace Rzmq.PlainMechanism

open Octet Frame Transition
open List (cons_append length_take length_take_le)

/-- The token is a HELLO of these credentials.  What follows the password is not looked at. -/
def IsHello (token username password : List UInt8) : Prop :=
  username.length ≤ 255 ∧ password.length ≤ 255 ∧ ∃ trailing,
    token = commandFrame "HELLO" ++ (UInt8.ofNat username.length :: username ++
      UInt8.ofNat password.length :: password ++ trailing)

lemma toNat_ofNat_length {bs : List UInt8} (short : bs.length ≤ 255) :
    (UInt8.ofNat bs.length).toNat = bs.length := by
  rw [UInt8.toNat_ofNat', Nat.mod_eq_of_lt (by omega)]

lemma parseHelloBody_body {username password : List UInt8} (short : username.length ≤ 255)
    (short' : password.length ≤ 255) (trailing) :
    parseHelloBody (UInt8.ofNat username.length :: username ++
      UInt8.ofNat password.length :: password ++ trailing) = .ok (username, password) := by
  simp only [parseHelloBody, cons_append, List.append_assoc, toNat_ofNat_length short,
    List.drop_left, List.take_left, toNat_ofNat_length short', List.length_cons,
    List.length_append]
  rw [if_neg (by omega), if_neg (by omega), if_neg (by omega)]

lemma parseHelloBody_ok {body username password}
    (parsed : parseHelloBody body = .ok (username, password)) :
    username.length ≤ 255 ∧ password.length ≤ 255 ∧ ∃ trailing,
      body = UInt8.ofNat username.length :: username ++
        UInt8.ofNat password.length :: password ++ trailing := by
  unfold parseHelloBody at parsed
  split at parsed
  · next userLen rest =>
    split at parsed
    · cases parsed
    · split at parsed
      · cases parsed
      · split at parsed
        · next enough passLen left split =>
          split at parsed
          · cases parsed
          · next enough' =>
            cases parsed
            have userBound := userLen.toNat_lt
            have passBound := passLen.toNat_lt
            have userLength : (rest.take userLen.toNat).length = userLen.toNat := by
              rw [length_take]; omega
            have passLength : (left.take passLen.toNat).length = passLen.toNat := by
              rw [length_take]; omega
            refine ⟨by omega, by omega, left.drop passLen.toNat, ?_⟩
            rw [userLength, passLength, UInt8.ofNat_toNat, UInt8.ofNat_toNat, cons_append,
              cons_append, List.append_assoc, cons_append, List.take_append_drop, ← split,
              List.take_append_drop]
        · cases parsed
  · cases parsed

inductive Call where
  | processToken (token : List UInt8)
  | produceToken
  | setError (reason : String)

def call (m : PlainMechanism) : Call → PlainMechanism
  | .processToken token => after (processToken token) m
  | .produceToken => after produceToken m
  | .setError reason => after (setError reason) m

def calls (m : PlainMechanism) (made : List Call) : PlainMechanism := made.foldl call m

@[simp] lemma calls_append (m made more) :
    calls m (made ++ more) = calls (calls m made) more := by
  simp [calls]

@[simp] lemma calls_singleton (m) (c : Call) : calls m [c] = call m c := rfl

def failed (m : PlainMechanism) (reason : String) : PlainMechanism :=
  { m with errorReason := some reason, state := .error }

def admitted (m : PlainMechanism) (username password : List UInt8) : PlainMechanism :=
  { m with username := some username, password := some password, state := .serverSendWelcome }

lemma checkCredentials_eq (username password m) : checkCredentials username password m =
    if m.expectedUsername = some username ∧ m.expectedPassword = some password then
      .ok .produceAndSend (m.admitted username password)
    else .error (.error (.authenticationFailure "Invalid username or password"))
      (m.failed "Invalid username or password") := by
  rw [checkCredentials, bind_of_ok (x := get) rfl]
  split <;> rfl

lemma processHello_eq (commandName body m) :
    (∃ username password, commandName = utf8 "HELLO" ∧
      parseHelloBody body = .ok (username, password) ∧ m.expectedUsername = some username ∧
      m.expectedPassword = some password ∧
      processHello commandName body m = .ok .produceAndSend (m.admitted username password)) ∨
    ∃ e reason, processHello commandName body m = .error e (m.failed reason) := by
  unfold processHello
  by_cases name : commandName = utf8 "HELLO"
  · rw [if_neg (not_not.mpr name)]
    cases parsed : parseHelloBody body with
    | error e => exact .inr ⟨_, _, rfl⟩
    | ok credentials =>
      obtain ⟨username, password⟩ := credentials
      dsimp only
      rw [checkCredentials_eq]
      split
      · rename_i valid
        exact .inl ⟨username, password, name, rfl, valid.1, valid.2, rfl⟩
      · exact .inr ⟨_, _, rfl⟩
  · rw [if_pos name]
    exact .inr ⟨_, _, rfl⟩

variable {m : PlainMechanism} {username password : Option (List UInt8)}

lemma processToken_server (server : m.isServer = true) (token) :
    (∃ username password, m.state = .serverExpectHello ∧ IsHello token username password ∧
      m.expectedUsername = some username ∧ m.expectedPassword = some password ∧
      processToken token m = .ok .produceAndSend (m.admitted username password)) ∨
    ∃ e reason, processToken token m = .error e (m.failed reason) := by
  cases token with
  | nil => exact .inr ⟨_, _, rfl⟩
  | cons commandLen rest =>
    by_cases short : rest.length < commandLen.toNat
    · rw [processToken, if_pos short]
      exact .inr ⟨_, _, rfl⟩
    · rw [processToken, if_neg short, processCommand, bind_of_ok (x := get) rfl]
      simp only [server]
      by_cases expects : m.state = .serverExpectHello
      · simp only [expects]
        obtain ⟨username, password, name, parsed, user, pass, done⟩ | failed :=
          processHello_eq (rest.take commandLen.toNat) (rest.drop commandLen.toNat) m
        · refine .inl ⟨username, password, trivial, ?_, user, pass, done⟩
          obtain ⟨bound, bound', trailing, body⟩ := parseHelloBody_ok parsed
          refine ⟨bound, bound', trailing, ?_⟩
          have length : commandLen.toNat = (utf8 "HELLO").length := by
            rw [← name, length_take]
            omega
          rw [← body, commandFrame, ← name, cons_append, List.take_append_drop, name,
            ← length, UInt8.ofNat_toNat]
        · exact .inr failed
      · refine .inr ?_
        cases state : m.state <;> first | exact absurd state expects | exact ⟨_, _, rfl⟩

lemma processToken_client (client : m.isServer = false) (token) :
    (m.state = .clientExpectWelcome ∧
      processToken token m = .ok .handshakeComplete { m with state := .ready }) ∨
    ∃ e reason, processToken token m = .error e (m.failed reason) := by
  cases token with
  | nil => exact .inr ⟨_, _, rfl⟩
  | cons commandLen rest =>
    by_cases short : rest.length < commandLen.toNat
    · rw [processToken, if_pos short]
      exact .inr ⟨_, _, rfl⟩
    · rw [processToken, if_neg short, processCommand, bind_of_ok (x := get) rfl]
      simp only [client]
      by_cases expects : m.state = .clientExpectWelcome
      · simp only [expects]
        unfold processWelcome
        split
        · exact .inl ⟨trivial, by rw [← client]; rfl⟩
        · split <;> exact .inr ⟨_, _, rfl⟩
      · refine .inr ?_
        cases state : m.state <;> first | exact absurd state expects | exact ⟨_, _, rfl⟩

lemma processHello_parsed {body username password}
    (parsed : parseHelloBody body = .ok (username, password)) (m) :
    after (processHello (utf8 "HELLO") body) m =
      if m.expectedUsername = some username ∧ m.expectedPassword = some password then
        m.admitted username password
      else m.failed "Invalid username or password" := by
  unfold processHello
  rw [if_neg (not_not.mpr rfl), parsed]
  simp only [after, checkCredentials_eq]
  split_ifs <;> rfl

lemma processToken_hello (server : m.isServer = true) (expects : m.state = .serverExpectHello)
    {token username password} (hello : IsHello token username password) :
    after (processToken token) m =
      if m.expectedUsername = some username ∧ m.expectedPassword = some password then
        m.admitted username password else m.failed "Invalid username or password" := by
  obtain ⟨short, short', trailing, rfl⟩ := hello
  have name : (UInt8.ofNat (utf8 "HELLO").length).toNat = (utf8 "HELLO").length := by decide +kernel
  rw [← processHello_parsed (parseHelloBody_body short short' trailing)]
  simp [after, processToken, processCommand, commandFrame, name, bind, EStateM.bind, get_eq, server,
    expects]

lemma produceToken_welcome (state : m.state = .serverSendWelcome) :
    produceToken m = .ok (some (commandFrame "WELCOME")) { m with state := .ready } := by
  simp only [produceToken, bind, EStateM.bind, get_eq, state]
  rfl

lemma produceToken_hello (state : m.state = .clientSendHello) :
    produceToken m = .ok (some (commandFrame "HELLO" ++
      createHelloBody (m.username.getD []) (m.password.getD [])))
      { m with state := .clientExpectWelcome } := by
  simp only [produceToken, bind, EStateM.bind, get_eq, state]
  rfl

lemma produceToken_idle (client : m.state ≠ .clientSendHello)
    (server : m.state ≠ .serverSendWelcome) : produceToken m = .ok none m := by
  simp only [produceToken, bind, EStateM.bind, get_eq]
  cases state : m.state <;> first | exact absurd state client | exact absurd state server | rfl

def Heard (username password : Option (List UInt8)) (made : List Call) : Prop :=
  ∃ before token later user pass, made = before ++ .processToken token :: later ∧
    IsHello token user pass ∧ username = some user ∧ password = some pass

def Welcomed (username password : Option (List UInt8)) (server : PlainMechanism)
    (made : List Call) : Prop :=
  ∃ first later m, made = first ++ .produceToken :: later ∧ Heard username password first ∧
    produceToken (calls server first) = .ok (some (commandFrame "WELCOME")) m

lemma Heard.more {made} (heard : Heard username password made)
    (c : Call) : Heard username password (made ++ [c]) := by
  obtain ⟨before, token, later, user, pass, rfl, hello⟩ := heard
  exact ⟨before, token, later ++ [c], user, pass, by simp, hello⟩

lemma Welcomed.more {server made} (welcomed : Welcomed username password server made) (c : Call) :
    Welcomed username password server (made ++ [c]) := by
  obtain ⟨first, later, m, rfl, heard, produced⟩ := welcomed
  exact ⟨first, later ++ [c], m, by simp, heard, produced⟩

structure Guarded (username password : Option (List UInt8)) (server : PlainMechanism)
    (made : List Call) : Prop where
  role : (calls server made).isServer = true
  user : (calls server made).expectedUsername = username
  pass : (calls server made).expectedPassword = password
  side : (calls server made).state ≠ .clientSendHello
  heard : (calls server made).state = .serverSendWelcome → Heard username password made
  welcomed : (calls server made).state = .ready → Welcomed username password server made

section Guarded

variable {username password : Option (List UInt8)} {server : PlainMechanism} {made : List Call}

lemma Guarded.fails (guarded : Guarded username password server made) {c : Call}
    {reason} (failed : call (calls server made) c = (calls server made).failed reason) :
    Guarded username password server (made ++ [c]) := by
  have last : calls server (made ++ [c]) = (calls server made).failed reason := by
    rw [calls_append, calls_singleton, failed]
  constructor <;> rw [last]
  · exact guarded.role
  · exact guarded.user
  · exact guarded.pass
  all_goals nofun

lemma Guarded.call (guarded : Guarded username password server made) (c : Call) :
    Guarded username password server (made ++ [c]) := by
  cases c with
  | processToken token =>
    obtain ⟨user, pass, -, hello, expectedUser, expectedPass, done⟩ | ⟨_, _, failed⟩ :=
      processToken_server guarded.role token
    · have last : calls server (made ++ [.processToken token]) =
          (calls server made).admitted user pass := by
        rw [calls_append, calls_singleton]
        exact after_ok done
      constructor <;> rw [last]
      · exact guarded.role
      · exact guarded.user
      · exact guarded.pass
      · nofun
      · exact fun _ => ⟨made, token, [], user, pass, rfl, hello,
          guarded.user.symm.trans expectedUser, guarded.pass.symm.trans expectedPass⟩
      · nofun
    · exact guarded.fails (after_error failed)
  | produceToken =>
    by_cases sends : (calls server made).state = .serverSendWelcome
    · have produced := produceToken_welcome sends
      have last : calls server (made ++ [.produceToken]) =
          { calls server made with state := .ready } := by
        rw [calls_append, calls_singleton]
        exact after_ok produced
      constructor <;> rw [last]
      · exact guarded.role
      · exact guarded.user
      · exact guarded.pass
      · nofun
      · nofun
      · exact fun _ => ⟨made, [], _, rfl, guarded.heard sends, produced⟩
    · have last : calls server (made ++ [.produceToken]) = calls server made := by
        rw [calls_append, calls_singleton]
        exact after_ok (produceToken_idle guarded.side sends)
      constructor <;> rw [last]
      · exact guarded.role
      · exact guarded.user
      · exact guarded.pass
      · exact guarded.side
      · exact fun state => (guarded.heard state).more _
      · exact fun state => (guarded.welcomed state).more _
  | setError reason => exact guarded.fails (c := .setError reason) rfl

lemma guarded_run (username password made) :
    Guarded username password (setServerExpectedCredentials username password (new true)) made := by
  induction made using List.reverseRecOn with
  | nil => exact ⟨rfl, rfl, rfl, nofun, nofun, nofun⟩
  | append_singleton made c ih => exact ih.call c

end Guarded

variable {m : PlainMechanism}

lemma status_ready_iff : m.status = .ready ↔ m.state = .ready := by
  unfold status
  cases m.state <;> simp

lemma status_error_iff : m.status = .error ↔ m.state = .error := by
  unfold status
  cases m.state <;> simp

lemma call_failed (server : m.isServer = true) (state : m.state = .error)
    (c : Call) : (call m c).isServer = true ∧ (call m c).state = .error := by
  cases c with
  | processToken token =>
    obtain ⟨user, pass, expects, -⟩ | ⟨_, _, failed⟩ := processToken_server server token
    · rw [state] at expects
      cases expects
    · rw [call, after_error failed]
      exact ⟨server, rfl⟩
  | produceToken =>
    have idle := produceToken_idle (by rw [state]; nofun) (by rw [state]; nofun)
    rw [call, after_ok idle]
    exact ⟨server, state⟩
  | setError reason => exact ⟨server, rfl⟩

lemma calls_failed (server : m.isServer = true) (state : m.state = .error)
    (made) : (calls m made).state = .error := by
  induction made generalizing m with
  | nil => exact state
  | cons c rest ih =>
    obtain ⟨kept, stays⟩ := call_failed server state c
    exact ih kept stays

/-- A server is ready only behind a HELLO of the credentials that it expects and a WELCOME after it,
and it never leaves an error. -/
theorem server_ready_welcomed (username password : Option (List UInt8)) (made : List Call) :
    ((calls (setServerExpectedCredentials username password (new true)) made).status = .ready →
      Welcomed username password (setServerExpectedCredentials username password (new true))
        made) ∧
    ((calls (setServerExpectedCredentials username password (new true)) made).status = .error →
      ∀ more, (calls (setServerExpectedCredentials username password (new true))
        (made ++ more)).status = .error) := by
  have guarded := guarded_run username password made
  refine ⟨fun ready => guarded.welcomed (status_ready_iff.mp ready), fun failed more => ?_⟩
  rw [status_error_iff, calls_append]
  exact calls_failed guarded.role (status_error_iff.mp failed) more

theorem server_ready_welcomed_honest :
    (calls (setServerExpectedCredentials (some [117]) (some [112]) (new true))
      [.processToken (commandFrame "HELLO" ++ [1, 117, 1, 112]), .produceToken]).status = .ready ∧
    Welcomed (some [117]) (some [112])
      (setServerExpectedCredentials (some [117]) (some [112]) (new true))
      [.processToken (commandFrame "HELLO" ++ [1, 117, 1, 112]), .produceToken] := by
  have ready : (calls (setServerExpectedCredentials (some [117]) (some [112]) (new true))
      [.processToken (commandFrame "HELLO" ++ [1, 117, 1, 112]), .produceToken]).status =
      .ready := by
    decide +kernel
  exact ⟨ready, (server_ready_welcomed (some [117]) (some [112]) _).1 ready⟩

structure Pair where
  client : PlainMechanism
  server : PlainMechanism
  toServer : List (List UInt8)
  toClient : List (List UInt8)

/-- A side produces a token for the other, or processes the oldest one that it was sent. -/
inductive PairAction where
  | clientProduces
  | clientProcesses
  | serverProduces
  | serverProcesses

namespace Pair

def step (pair : Pair) : PairAction → Option Pair
  | .clientProduces =>
    match produceToken pair.client with
    | .ok (some token) client => some { pair with client, toServer := pair.toServer ++ [token] }
    | _ => none
  | .clientProcesses =>
    match pair.toClient with
    | token :: toClient =>
      some { pair with client := after (processToken token) pair.client, toClient }
    | [] => none
  | .serverProduces =>
    match produceToken pair.server with
    | .ok (some token) server => some { pair with server, toClient := pair.toClient ++ [token] }
    | _ => none
  | .serverProcesses =>
    match pair.toServer with
    | token :: toServer =>
      some { pair with server := after (processToken token) pair.server, toServer }
    | [] => none

variable (username password expectedUsername expectedPassword : List UInt8)

/-- Both sides before the first token, the client with credentials to send and the server with
those to expect. -/
def start : Pair where
  client := setClientCredentials (some username) (some password) (new false)
  server :=
    setServerExpectedCredentials (some expectedUsername) (some expectedPassword) (new true)
  toServer := []
  toClient := []

def Accepts : Prop :=
  Inevitable step (fun _ _ => True)
    (fun pair => pair.client.status = .ready ∧ pair.server.status = .ready)
    (start username password expectedUsername expectedPassword)

/-- However the two take turns, the server ends in error, and the client is never ready. -/
def Rejects : Prop :=
  Inevitable step (fun _ _ => True)
    (fun pair => pair.server.status = .error ∧ ∀ a, pair.step a = none)
    (start username password expectedUsername expectedPassword) ∧
  ∀ pair, Reaches step (fun _ _ => True)
    (start username password expectedUsername expectedPassword) pair → pair.client.status ≠ .ready

abbrev expecting : PlainMechanism :=
  setServerExpectedCredentials (some expectedUsername) (some expectedPassword) (new true)

def greeted : Pair where
  client := { setClientCredentials (some username) (some password) (new false) with
    state := .clientExpectWelcome }
  server := expecting expectedUsername expectedPassword
  toServer := [commandFrame "HELLO" ++ createHelloBody username password]
  toClient := []

def answered (server : PlainMechanism) (toClient : List (List UInt8)) : Pair where
  client := { setClientCredentials (some username) (some password) (new false) with
    state := .clientExpectWelcome }
  server
  toServer := []
  toClient

variable {username password expectedUsername expectedPassword} {server : PlainMechanism}
  {a : PairAction} {pair : Pair}

lemma step_start : (start username password expectedUsername expectedPassword).step a = some pair ↔
      a = .clientProduces ∧
      pair = greeted username password expectedUsername expectedPassword := by
  cases a with
  | clientProduces => exact ⟨fun h => ⟨rfl, (Option.some.inj h).symm⟩, fun h => by rw [h.2]; rfl⟩
  | clientProcesses | serverProduces | serverProcesses => exact ⟨nofun, nofun⟩

lemma step_greeted :
    (greeted username password expectedUsername expectedPassword).step a = some pair ↔
      a = .serverProcesses ∧ pair = answered username password (after
        (processToken (commandFrame "HELLO" ++ createHelloBody username password))
        (expecting expectedUsername expectedPassword)) [] := by
  cases a with
  | serverProcesses => exact ⟨fun h => ⟨rfl, (Option.some.inj h).symm⟩, fun h => by rw [h.2]; rfl⟩
  | clientProduces | clientProcesses | serverProduces => exact ⟨nofun, nofun⟩

lemma step_admitted (state : server.state = .serverSendWelcome) :
    (answered username password server []).step a = some pair ↔
      a = .serverProduces ∧ pair = answered username password { server with state := .ready }
        [commandFrame "WELCOME"] := by
  cases a with
  | serverProduces =>
    rw [step, answered, produceToken_welcome state]
    exact ⟨fun h => ⟨rfl, (Option.some.inj h).symm⟩, fun h => by rw [h.2]; rfl⟩
  | clientProduces | clientProcesses | serverProcesses => exact ⟨nofun, nofun⟩

lemma step_welcomed (state : server.state = .ready) :
    (answered username password server [commandFrame "WELCOME"]).step a = some pair ↔
      a = .clientProcesses ∧ pair = { answered username password server [] with
        client := { setClientCredentials (some username) (some password) (new false) with
          state := .ready } } := by
  cases a with
  | clientProcesses => exact ⟨fun h => ⟨rfl, (Option.some.inj h).symm⟩, fun h => by rw [h.2]; rfl⟩
  | serverProduces =>
    rw [step, answered, produceToken_idle (by rw [state]; nofun) (by rw [state]; nofun)]
    exact ⟨nofun, nofun⟩
  | clientProduces | serverProcesses => exact ⟨nofun, nofun⟩

lemma step_refused (state : server.state = .error) :
    (answered username password server []).step a = none := by
  cases a with
  | serverProduces =>
    rw [step, answered, produceToken_idle (by rw [state]; nofun) (by rw [state]; nofun)]
  | clientProduces | clientProcesses | serverProcesses => rfl

lemma isHello_createHelloBody (username password) :
    IsHello (commandFrame "HELLO" ++ createHelloBody username password) (username.take 255)
      (password.take 255) := by
  have cut (bs : List UInt8) : bs.take (min bs.length 255) = bs.take 255 := by
    rw [Nat.min_comm, ← List.take_eq_take_min]
  refine ⟨length_take_le _ _, length_take_le _ _, [], ?_⟩
  rw [createHelloBody, cut, cut, List.append_nil, length_take, length_take,
    Nat.min_comm 255, Nat.min_comm 255]

lemma looked (username password expectedUsername expectedPassword) :
    after (processToken (commandFrame "HELLO" ++ createHelloBody username password))
      (expecting expectedUsername expectedPassword) =
    if expectedUsername = username.take 255 ∧ expectedPassword = password.take 255 then
      (expecting expectedUsername expectedPassword).admitted (username.take 255)
        (password.take 255)
    else (expecting expectedUsername expectedPassword).failed "Invalid username or password" := by
  rw [processToken_hello rfl rfl (isHello_createHelloBody username password)]
  simp [setServerExpectedCredentials, new]

lemma accepts_of_cut
    (cut : expectedUsername = username.take 255 ∧ expectedPassword = password.take 255) :
    Accepts username password expectedUsername expectedPassword := by
  have answer := looked username password expectedUsername expectedPassword
  rw [if_pos cut] at answer
  refine .forced trivial (step_start.mpr ⟨rfl, rfl⟩) (fun _ _ _ h => (step_start.mp h).2) ?_
  refine .forced trivial (step_greeted.mpr ⟨rfl, rfl⟩) (fun _ _ _ h => (step_greeted.mp h).2) ?_
  rw [answer]
  refine .forced trivial ((step_admitted rfl).mpr ⟨rfl, rfl⟩)
    (fun _ _ _ h => ((step_admitted rfl).mp h).2) ?_
  refine .forced trivial ((step_welcomed rfl).mpr ⟨rfl, rfl⟩)
    (fun _ _ _ h => ((step_welcomed rfl).mp h).2) ?_
  exact .here ⟨rfl, rfl⟩

lemma rejects_of_cut
    (differ : ¬ (expectedUsername = username.take 255 ∧ expectedPassword = password.take 255)) :
    Rejects username password expectedUsername expectedPassword := by
  have answer := looked username password expectedUsername expectedPassword
  rw [if_neg differ] at answer
  refine ⟨?_, fun pair reached => ?_⟩
  · refine .forced trivial (step_start.mpr ⟨rfl, rfl⟩) (fun _ _ _ h => (step_start.mp h).2) ?_
    refine .forced trivial (step_greeted.mpr ⟨rfl, rfl⟩) (fun _ _ _ h => (step_greeted.mp h).2) ?_
    rw [answer]
    exact .here ⟨rfl, fun _ => step_refused rfl⟩
  · have among : pair = start username password expectedUsername expectedPassword ∨
        pair = greeted username password expectedUsername expectedPassword ∨
        pair = answered username password ((expecting expectedUsername expectedPassword).failed
          "Invalid username or password") [] := by
      induction reached with
      | refl => exact .inl rfl
      | tail _ _ taken ih =>
        obtain rfl | rfl | rfl := ih
        · exact .inr (.inl (step_start.mp taken).2)
        · have next := (step_greeted.mp taken).2
          rw [answer] at next
          exact .inr (.inr next)
        · rw [step_refused rfl] at taken
          cases taken
    obtain rfl | rfl | rfl := among <;> nofun

lemma Rejects.not_accepts (rejects : Rejects username password expectedUsername expectedPassword)
    (accepts : Accepts username password expectedUsername expectedPassword) : False := by
  obtain ⟨pair, reached, ready, -⟩ := accepts.reaches
  exact rejects.2 pair reached ready

lemma accepts_iff : Accepts username password expectedUsername expectedPassword ↔
    expectedUsername = username.take 255 ∧ expectedPassword = password.take 255 := by
  refine ⟨fun accepts => ?_, accepts_of_cut⟩
  by_contra differ
  exact (rejects_of_cut differ).not_accepts accepts

lemma rejects_iff : Rejects username password expectedUsername expectedPassword ↔
    ¬ (expectedUsername = username.take 255 ∧ expectedPassword = password.take 255) :=
  ⟨fun rejects cut => rejects.not_accepts (accepts_of_cut cut), rejects_of_cut⟩

/-- Both are ready exactly when the credentials are equal, and the server refuses all others, if the
credentials of the client are at most 255 bytes each or the server expects neither them nor what is
left of them after 255 bytes. -/
theorem plain_matching_iff (username password expectedUsername expectedPassword : List UInt8) :
    ((Accepts username password expectedUsername expectedPassword ↔
        username = expectedUsername ∧ password = expectedPassword) ∧
      (Rejects username password expectedUsername expectedPassword ↔
        ¬ (username = expectedUsername ∧ password = expectedPassword))) ↔
    (username.length ≤ 255 ∧ password.length ≤ 255) ∨
      (¬ (expectedUsername = username ∧ expectedPassword = password) ∧
        ¬ (expectedUsername = username.take 255 ∧ expectedPassword = password.take 255)) := by
  rw [accepts_iff, rejects_iff, eq_comm (a := username), eq_comm (a := password), not_iff_not,
    and_self]
  by_cases short : username.length ≤ 255 ∧ password.length ≤ 255
  · rw [List.take_of_length_le short.1, List.take_of_length_le short.2]
    exact ⟨fun _ => .inl short, fun _ => Iff.rfl⟩
  · have longer : ¬ (username = username.take 255 ∧ password = password.take 255) := by
      rintro ⟨user, pass⟩
      refine short ⟨?_, ?_⟩
      · rw [user]
        exact length_take_le _ _
      · rw [pass]
        exact length_take_le _ _
    constructor
    · intro same
      refine .inr ⟨?_, ?_⟩
      · rintro ⟨rfl, rfl⟩
        exact longer (same.mpr ⟨rfl, rfl⟩)
      · intro cut
        have equal := same.mp cut
        rw [equal.1, equal.2] at cut
        exact longer cut
    · rintro (fits | ⟨other, other'⟩)
      · exact absurd fits short
      · exact iff_of_false other' other

/-- A server that expects the first 255 bytes of a longer user name lets the client in. -/
theorem long_username_accepted :
    Accepts (List.replicate 256 97) [112] (List.replicate 255 97) [112] ∧
    (List.replicate 256 97 : List UInt8) ≠ List.replicate 255 97 := by
  refine ⟨accepts_of_cut ⟨?_, rfl⟩, fun same => ?_⟩
  · rw [List.take_replicate]
    rfl
  · have lengths := congrArg List.length same
    rw [List.length_replicate, List.length_replicate] at lengths
    cases lengths

end Pair

end Rzmq.PlainMechanism
