import Rzmq.Lib.Transition
import Rzmq.Socket.Outgoing

/-! The PUSH socket and everything that runs beside it, as a transition system: any number of calls,
the connections that take frames or refuse them, and the core.  A step is what one task does between
two points where another task can run. -/

namespace Rzmq

open Function Transition Messages

variable {α : Type}

namespace Push

inductive Call (α : Type) where
  | idle
  | picking (job : SendJob α) (sndtimeo : Timeout)
  | picked (job : SendJob α) (uri : String)
  | sending (job : SendJob α) (uri : String) (connection : Nat)

end Push

/-- `endpoints` and `pipeUri` are the maps of the core; `returned` lists the calls that have
returned, latest last, with the connection that took the frames. -/
structure Push (α : Type) where
  running : Bool
  mailboxClosed : Bool
  sndtimeo : Timeout
  endpoints : String → Option Nat
  pipeUri : Nat → Option String
  loadBalancer : LoadBalancer
  pipeReadToEndpointUri : Nat → Option String
  calls : Nat → Push.Call α
  returned : List (SendJob α × Except ZmqError (Option Nat))

namespace Push

def new (sndtimeo : Timeout) : Push α where
  running := true
  mailboxClosed := false
  sndtimeo
  endpoints _ := none
  pipeUri _ := none
  loadBalancer := .new
  pipeReadToEndpointUri _ := none
  calls _ := .idle
  returned := []

variable (s : Push α)

def setCall (t : Nat) (c : Call α) : Push α := { s with calls := update s.calls t c }

def finish (t : Nat) (job : SendJob α) (result : Except ZmqError (Option Nat)) : Push α :=
  { s.setCall t .idle with returned := s.returned ++ [(job, result)] }

def addConnection (uri : String) : Push α :=
  { s with loadBalancer := s.loadBalancer.addConnection uri }

def removeConnection (uri : String) : Push α :=
  { s with loadBalancer := s.loadBalancer.removeConnection uri }

/-! `send` and `send_multipart` -/

def sendBegin (t : Nat) (m : Msg α) : Option (Push α) :=
  match s.calls t with
  | .idle =>
    if !s.running then some (s.finish t (.send m) (.error .resourceLimitReached))
    else some (s.setCall t (.picking (.send m) s.sndtimeo))
  | _ => none

def sendMultipartBegin (t : Nat) (frames : List (Msg α)) : Option (Push α) :=
  match s.calls t with
  | .idle =>
    if !s.running then some (s.finish t (.sendMultipart frames) (.error .resourceLimitReached))
    else if frames.isEmpty then some (s.finish t (.sendMultipart frames) (.ok none))
    else some (s.setCall t (.picking (.sendMultipart (linked frames)) s.sndtimeo))
  | _ => none

def terminated : SendJob α → Option ZmqError
  | .send _ => if s.mailboxClosed then some (.invalidState "Socket terminated") else none
  | .sendMultipart _ =>
    if !s.running then some (.invalidState "Socket terminated while waiting for peer") else none

def pick (t : Nat) (job : SendJob α) (sndtimeo : Timeout) : Option (Push α) :=
  match s.loadBalancer.getNextConnectionUri with
  | some (uri, loadBalancer) =>
    let s := { s with loadBalancer }
    if (s.endpoints uri).isSome then some (s.setCall t (.picked job uri))
    else some (s.removeConnection uri)
  | none =>
    match s.terminated job with
    | some e => some (s.finish t job (.error e))
    | none =>
      match sndtimeo with
      | .zero => some (s.finish t job (.error .resourceLimitReached))
      | _ => none

def disappeared : SendJob α → ZmqError
  | .send _ => .hostUnreachable "Peer connection disappeared just before send"
  | .sendMultipart _ => .hostUnreachable "PUSH: Peer for multipart send disappeared after selection"

def resolve (t : Nat) (job : SendJob α) (uri : String) : Push α :=
  match s.endpoints uri with
  | some connection => s.setCall t (.sending job uri connection)
  | none => (s.removeConnection uri).finish t job (.error (disappeared job))

def advance (t : Nat) : Option (Push α) :=
  match s.calls t with
  | .picking job sndtimeo => s.pick t job sndtimeo
  | .picked job uri => some (s.resolve t job uri)
  | _ => none

def expire (t : Nat) : Option (Push α) :=
  match s.calls t with
  | .picking job .finite =>
    if s.loadBalancer.hasConnections then none else some (s.finish t job (.error .timeout))
  | _ => none

def accept (t : Nat) : Option (Push α) :=
  match s.calls t with
  | .sending job _ connection => some (s.finish t job (.ok (some connection)))
  | _ => none

/-- `send` keeps the URI only after a timeout or a full pipe, `send_multipart` removes it only when
the connection is closed. -/
def drops : SendJob α → ZmqError → Bool
  | .send _, .resourceLimitReached | .send _, .timeout => false
  | .send _, _ => true
  | .sendMultipart _, .connectionClosed => true
  | .sendMultipart _, _ => false

def refusal : SendJob α → ZmqError → ZmqError
  | .send _, .connectionClosed => .hostUnreachable "Peer connection closed during send"
  | .sendMultipart _, .connectionClosed =>
    .hostUnreachable "PUSH: Peer connection closed during multipart send"
  | _, e => e

def refuse (t : Nat) (e : ZmqError) : Option (Push α) :=
  match s.calls t with
  | .sending job uri _ =>
    let s := if drops job e then s.removeConnection uri else s
    some (s.finish t job (.error (refusal job e)))
  | _ => none

/-! `pipe_attached` and `pipe_detached` -/

def attach (p : Nat) : Push α :=
  match s.pipeUri p with
  | some uri =>
    { s with pipeReadToEndpointUri := update s.pipeReadToEndpointUri p (some uri)
      }.addConnection uri
  | none => s

def detach (p : Nat) : Push α :=
  let unmapped := { s with pipeReadToEndpointUri := update s.pipeReadToEndpointUri p none }
  match s.pipeReadToEndpointUri p with
  | some uri => unmapped.removeConnection uri
  | none => unmapped

inductive Action (α : Type) where
  | sendBegin (t : Nat) (m : Msg α)
  | sendMultipartBegin (t : Nat) (frames : List (Msg α))
  | advance (t : Nat)
  | expire (t : Nat)
  | accept (t : Nat)
  | refuse (t : Nat) (e : ZmqError)
  | attach (p : Nat)
  | detach (p : Nat)
  | setEndpoint (uri : String) (connection : Option Nat)
  | setPipeUri (p : Nat) (uri : Option String)
  | setSndtimeo (sndtimeo : Timeout)
  | shutdown
  | closeMailbox

def step : Action α → Option (Push α)
  | .sendBegin t m => s.sendBegin t m
  | .sendMultipartBegin t frames => s.sendMultipartBegin t frames
  | .advance t => s.advance t
  | .expire t => s.expire t
  | .accept t => s.accept t
  | .refuse t e => s.refuse t e
  | .attach p => some (s.attach p)
  | .detach p => some (s.detach p)
  | .setEndpoint uri connection => some { s with endpoints := update s.endpoints uri connection }
  | .setPipeUri p uri => some { s with pipeUri := update s.pipeUri p uri }
  | .setSndtimeo sndtimeo => some { s with sndtimeo }
  | .shutdown => some { s with running := false }
  | .closeMailbox => some { s with mailboxClosed := true }

/-! Messages that are sent frame by frame -/

def destination : Except ZmqError (Option Nat) → Option Nat
  | .ok connection => connection
  | .error _ => none

def sends : List (Msg α × Option Nat) := sendsOf destination s.returned

def receivedBy (connection : Nat) : List (Msg α) :=
  framesOf (fun result => destination result = some connection) s.returned

def OneTask : Action α → Prop
  | .sendBegin _ _ => ∀ t, s.calls t = .idle
  | .sendMultipartBegin _ _ => False
  | _ => True

/-- While a message is open, the URI at the front of the balancer leads to the connection that took
its frames, that connection takes the next one too, and the core does not give the URI another
connection while a call holds it.  A message none of whose frames was taken stays without a peer. -/
def Steady : Action α → Prop
  | .sendBegin _ _ => s.running = true ∨ Continues s.sends none
  | .advance t =>
    match s.calls t, s.loadBalancer.connectionUris with
    | .picking _ _, uri :: _ => ∀ connection ∈ s.endpoints uri, Continues s.sends (some connection)
    | .picking _ _, [] => Continues s.sends none
    | _, _ => True
  | .expire _ | .refuse _ _ => Continues s.sends none
  | .setEndpoint uri connection => ∀ t job, s.calls t = .picked job uri →
      Continues s.sends connection
  | _ => True

def Call.job : Call α → Option (SendJob α)
  | .idle => none
  | .picking job _ | .picked job _ | .sending job _ _ => some job

/-- The connection that a call has settled on. -/
def Call.due (endpoints : String → Option Nat) : Call α → Option (Option Nat)
  | .idle | .picking _ _ => none
  | .picked _ uri => some (endpoints uri)
  | .sending _ _ connection => some (some connection)

abbrev Passed (s : Push α) (a : Action α) (s' : Push α) : Prop :=
  Passes Call.job destination none (s.OneTask a ∧ s.Steady a) (Call.due s.endpoints) s.calls
    s.returned (Call.due s'.endpoints) s'.calls s'.returned

variable {s s' : Push α} {a : Action α} {t : Nat}

lemma Passed.finish {job result} (has : (s.calls t).job = some job)
    (goes : (s.calls t).due s.endpoints = some (destination result) ∨
      (s.OneTask a ∧ s.Steady a → Continues s.sends (destination result))) :
    s.Passed a (s.finish t job result) :=
  Passes.done t Call.idle job result has rfl goes

lemma Passed.turnAway {job result} (fails : destination result = none)
    (alone : s.OneTask a ∧ s.Steady a → job.IsSend ∧ (∀ u, (s.calls u).job = none) ∧
      Continues s.sends none) : s.Passed a (s.finish t job result) :=
  Passes.away t Call.idle job result rfl fails alone

lemma passed_pick {job sndtimeo} (call : s.calls t = .picking job sndtimeo)
    (taken : s.pick t job sndtimeo = some s') : s.Passed (.advance t) s' := by
  have has : (s.calls t).job = some job := by rw [call]; rfl
  unfold pick LoadBalancer.getNextConnectionUri at taken
  cases uris : s.loadBalancer.connectionUris with
  | cons uri rest =>
    simp only [uris] at taken
    split at taken <;> cases taken
    · rename_i found
      refine .moved t _ has.symm fun d settled => .inr fun ⟨_, steady⟩ => ?_
      obtain ⟨connection, leads⟩ := Option.isSome_iff_exists.mp found
      simp only [Steady, call, uris] at steady
      rw [← Option.some.inj settled, leads]
      exact steady connection leads
    · exact .same _ fun _ _ => .inl
  | nil =>
    have returns (e : ZmqError) : s.Passed (.advance t) (s.finish t job (.error e)) := by
      refine .finish has (.inr fun ⟨_, steady⟩ => ?_)
      simp only [Steady, call, uris] at steady
      exact steady
    simp only [uris] at taken
    split at taken
    · cases taken
      exact returns _
    · split at taken
      · cases taken
        exact returns _
      · cases taken

lemma passed_advance (taken : s.advance t = some s') : s.Passed (.advance t) s' := by
  unfold advance at taken
  split at taken
  · rename_i job sndtimeo call
    exact passed_pick call taken
  · rename_i job uri call
    cases taken
    unfold resolve
    split
    · rename_i connection found
      refine .moved t _ (by rw [call]; rfl) fun d settled => .inl ?_
      rw [call, ← settled]
      exact congrArg some found
    · rename_i gone
      refine Passed.finish (s := s) (by rw [call]; rfl) (.inl ?_)
      rw [call]
      exact congrArg some gone
  · cases taken

lemma passed_sendBegin {m} (taken : s.sendBegin t m = some s') :
    s.Passed (.sendBegin t m) s' := by
  have alone : s.OneTask (.sendBegin t m) → ∀ u, (s.calls u).job = none := fun one u => by
    rw [one u]
    rfl
  unfold sendBegin at taken
  split at taken
  · split at taken <;> cases taken
    · rename_i stopped
      refine .turnAway rfl fun ⟨one, steady⟩ => ⟨⟨m, rfl⟩, alone one, ?_⟩
      exact steady.resolve_left fun running => by simp [running] at stopped
    · exact .begun t _ _ rfl (SendJob.whole_send m) rfl fun ⟨one, _⟩ => ⟨⟨m, rfl⟩, alone one⟩
  · cases taken

lemma passed_sendMultipartBegin {frames} (taken : s.sendMultipartBegin t frames = some s') :
    s.Passed (.sendMultipartBegin t frames) s' := by
  unfold sendMultipartBegin at taken
  split at taken
  · split at taken
    · cases taken
      exact .turnAway rfl fun ⟨one, _⟩ => one.elim
    · split at taken <;> cases taken
      · exact .turnAway rfl fun ⟨one, _⟩ => one.elim
      · rename_i some
        exact .begun t _ _ rfl (SendJob.whole_linked (mt List.isEmpty_iff.mpr some)) rfl
          fun ⟨one, _⟩ => one.elim
  · cases taken

lemma passed_step (taken : s.step a = some s') : s.Passed a s' := by
  cases a with
  | sendBegin t m => exact passed_sendBegin taken
  | sendMultipartBegin t frames => exact passed_sendMultipartBegin taken
  | advance t => exact passed_advance taken
  | expire t =>
    simp only [step, expire] at taken
    split at taken
    · rename_i job call
      split at taken <;> cases taken
      exact .finish (by rw [call]; rfl) (.inr And.right)
    · cases taken
  | accept t =>
    simp only [step, accept] at taken
    split at taken
    · rename_i job uri connection call
      cases taken
      exact .finish (by rw [call]; rfl) (.inl (by rw [call]; rfl))
    · cases taken
  | refuse t e =>
    simp only [step, refuse] at taken
    split at taken
    · rename_i job uri connection call
      cases taken
      have has : (s.calls t).job = some job := by rw [call]; rfl
      split
      · exact Passed.finish (s := s) has (.inr And.right)
      · exact .finish has (.inr And.right)
    · cases taken
  | attach p =>
    cases taken
    unfold attach
    split <;> exact .same _ fun _ _ => .inl
  | detach p =>
    cases taken
    unfold detach
    dsimp only
    split <;> exact .same _ fun _ _ => .inl
  | setEndpoint uri connection =>
    cases taken
    refine .same _ fun t d settled => ?_
    cases call : s.calls t with
    | idle | picking job sndtimeo | sending job uri connection =>
      rw [call] at settled
      exact .inl settled
    | picked job uri' =>
      rw [call] at settled
      simp only [Call.due, Option.some.injEq] at settled
      by_cases same : uri' = uri
      · refine .inr fun ⟨_, steady⟩ => ?_
        rw [same, update_self] at settled
        exact settled ▸ steady t job (same ▸ call)
      · rw [update_of_ne same] at settled
        exact .inl (congrArg some settled)
  | setPipeUri p uri | setSndtimeo sndtimeo | shutdown | closeMailbox =>
    cases taken
    exact .same _ fun _ _ => .inl

/-- In every run in which one task sends frame by frame and each message finds its connection as
`Steady` says, connections take whole messages. -/
theorem messages_kept_together {sndtimeo : Timeout} {s : Push α}
    (reached : Reaches step (fun s a => s.OneTask a ∧ s.Steady a) (new sndtimeo) s) :
    Uniform Msg.isMore s.sends ∧
    ∀ connection, ∃ whole : List (List (Msg α)),
      whole.Sublist (messages Msg.isMore (s.sends.map Prod.fst)) ∧
        s.receivedBy connection = whole.flatten := by
  have whole : Undivided Call.job destination (Call.due s.endpoints) s.calls s.returned :=
    reached.invariant (fun _ _ _ whole allowed taken => (passed_step taken).undivided whole allowed)
      (.nil fun _ => rfl)
  exact ⟨whole.uniform, fun connection => whole.framesOf_whole fun fate => fate = some connection⟩

def connecting (p : Nat) (uri : String) : List (Action α) :=
  [.setEndpoint uri (some p), .setPipeUri p (some uri), .attach p]

def sending (m : Msg α) : List (Action α) := [.sendBegin 0 m, .advance 0, .advance 0, .accept 0]

theorem messages_kept_together_alone : ∃ s : Push UInt8,
      run step (new .infinite)
        (connecting 1 "a" ++ sending (octet 1 true) ++ sending (octet 2 false) ++
          sending (octet 3 false)) = some s ∧
      s.receivedBy 1 = [octet 1 true, octet 2 false, octet 3 false] ∧
      Uniform Msg.isMore s.sends := by
  refine exists_of_permitted ?_ rfl fun reached =>
    ⟨by decide +kernel, (messages_kept_together reached).1⟩
  refine ⟨⟨trivial, nofun⟩, _, rfl, ⟨trivial, trivial⟩, _, rfl, ⟨trivial, trivial⟩, _, rfl, ?_⟩
  iterate 3
    refine ⟨⟨?_, .inl rfl⟩, _, rfl, ⟨trivial, ?_⟩, _, rfl, ⟨trivial, trivial⟩, _, rfl,
      ⟨trivial, trivial⟩, _, rfl, ?_⟩
    · rintro (mine | other) <;> rfl
    · rintro _ ⟨⟩
      decide +kernel
  exact trivial

theorem message_divided : ∃ s : Push UInt8,
      run step (new .infinite)
        (connecting 1 "a" ++ connecting 2 "b" ++ sending (octet 1 true) ++
          sending (octet 2 false)) = some s ∧
      s.receivedBy 1 = [octet 1 true] ∧ s.receivedBy 2 = [octet 2 false] ∧
      ¬ Uniform Msg.isMore s.sends :=
  ⟨_, rfl, by decide +kernel, by decide +kernel, by decide +kernel⟩

end Push

end Rzmq
