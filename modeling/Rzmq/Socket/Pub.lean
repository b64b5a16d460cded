import Rzmq.Lib.Transition
import Rzmq.Socket.Outgoing
import Mathlib.Data.Finset.Option

/-! The PUB socket with its distributor and everything that runs beside it, as a transition system:
any number of calls, the connections, and the core.  A step is what one task does between two points
where another task can run. -/

namespace Rzmq

open Function Transition Messages

variable {α : Type}

namespace Pub

/-- `left` are the URIs still to be visited, `failed` those to be removed, and `accepted` the
connections that took the frames, which the source does not keep. -/
inductive Call (α : Type) where
  | idle
  | starting (job : SendJob α)
  | visiting (job : SendJob α) (left failed : List String) (accepted : List Nat)
  | offering (job : SendJob α) (uri : String) (connection : Nat) (left failed : List String)
      (accepted : List Nat)
  | removing (job : SendJob α) (failed : List String) (accepted : List Nat)

end Pub

/-- `peerUris` is the set of the distributor, `endpoints` and `pipeUri` are the maps of the core;
`returned` lists the calls that have returned, latest last. -/
structure Pub (α : Type) where
  running : Bool
  endpoints : String → Option Nat
  pipeUri : Nat → Option String
  peerUris : Finset String
  pipeReadToEndpointUri : Nat → Option String
  calls : Nat → Pub.Call α
  returned : List (SendJob α × Except ZmqError (List Nat))

namespace Pub

def new : Pub α where
  running := true
  endpoints _ := none
  pipeUri _ := none
  peerUris := ∅
  pipeReadToEndpointUri _ := none
  calls _ := .idle
  returned := []

variable (s : Pub α) (t : Nat)

def setCall (c : Call α) : Pub α := { s with calls := update s.calls t c }

def finish (job : SendJob α) (result : Except ZmqError (List Nat)) : Pub α :=
  { s.setCall t .idle with returned := s.returned ++ [(job, result)] }

def addPeerUri (uri : String) : Pub α :=
  { s with peerUris := insert uri s.peerUris }

def removePeerUri (uri : String) : Pub α :=
  { s with peerUris := s.peerUris.erase uri }

/-! `send` and `send_multipart` -/

def sendBegin (m : Msg α) : Option (Pub α) :=
  match s.calls t with
  | .idle =>
    if !s.running then some (s.finish t (.send m) (.error (.invalidState "Socket is closing")))
    else some (s.setCall t (.starting (.send m)))
  | _ => none

def sendMultipartBegin (frames : List (Msg α)) : Option (Pub α) :=
  match s.calls t with
  | .idle =>
    if !s.running then
      some (s.finish t (.sendMultipart frames) (.error (.invalidState "Socket is closing")))
    else if frames.isEmpty then some (s.finish t (.sendMultipart frames) (.ok []))
    else some (s.setCall t (.starting (.sendMultipart (linked frames))))
  | _ => none

def snapshot (order : List String) : Option (Pub α) :=
  match s.calls t with
  | .starting job =>
    if order.Nodup ∧ order.toFinset = s.peerUris then
      some (s.setCall t (.visiting job order [] []))
    else none
  | _ => none

def advance : Option (Pub α) :=
  match s.calls t with
  | .visiting job (uri :: left) failed accepted =>
    match s.endpoints uri with
    | some connection => some (s.setCall t (.offering job uri connection left failed accepted))
    | none => some (s.setCall t (.visiting job left (failed ++ [uri]) accepted))
  | .visiting job [] failed accepted => some (s.setCall t (.removing job failed accepted))
  | .removing job (uri :: failed) accepted =>
    some ((s.removePeerUri uri).setCall t (.removing job failed accepted))
  | .removing job [] accepted => some (s.finish t job (.ok accepted))
  | _ => none

def accept : Option (Pub α) :=
  match s.calls t with
  | .offering job _ connection left failed accepted =>
    some (s.setCall t (.visiting job left failed (accepted ++ [connection])))
  | _ => none

def passing : ZmqError → Bool
  | .resourceLimitReached | .timeout => true
  | _ => false

def refuse (e : ZmqError) : Option (Pub α) :=
  match s.calls t with
  | .offering job uri _ left failed accepted =>
    let failed := if passing e then failed else failed ++ [uri]
    some (s.setCall t (.visiting job left failed accepted))
  | _ => none

/-! `pipe_attached` and `pipe_detached` -/

def attach (p : Nat) : Pub α :=
  match s.pipeUri p with
  | some uri =>
    { s with pipeReadToEndpointUri := update s.pipeReadToEndpointUri p (some uri) }.addPeerUri uri
  | none => s

def detach (p : Nat) : Pub α :=
  let unmapped := { s with pipeReadToEndpointUri := update s.pipeReadToEndpointUri p none }
  match s.pipeReadToEndpointUri p with
  | some uri => unmapped.removePeerUri uri
  | none => unmapped

inductive Action (α : Type) where
  | sendBegin (t : Nat) (m : Msg α)
  | sendMultipartBegin (t : Nat) (frames : List (Msg α))
  | snapshot (t : Nat) (order : List String)
  | advance (t : Nat)
  | accept (t : Nat)
  | refuse (t : Nat) (e : ZmqError)
  | attach (p : Nat)
  | detach (p : Nat)
  | setEndpoint (uri : String) (connection : Option Nat)
  | setPipeUri (p : Nat) (uri : Option String)
  | shutdown

def step : Action α → Option (Pub α)
  | .sendBegin t m => s.sendBegin t m
  | .sendMultipartBegin t frames => s.sendMultipartBegin t frames
  | .snapshot t order => s.snapshot t order
  | .advance t => s.advance t
  | .accept t => s.accept t
  | .refuse t e => s.refuse t e
  | .attach p => some (s.attach p)
  | .detach p => some (s.detach p)
  | .setEndpoint uri connection => some { s with endpoints := update s.endpoints uri connection }
  | .setPipeUri p uri => some { s with pipeUri := update s.pipeUri p uri }
  | .shutdown => some { s with running := false }

/-! Messages that are sent frame by frame -/

def audience : Except ZmqError (List Nat) → Finset Nat
  | .ok accepted => accepted.toFinset
  | .error _ => ∅

def sends : List (Msg α × Finset Nat) := sendsOf audience s.returned

def receivedBy (connection : Nat) : List (Msg α) :=
  framesOf (fun result => connection ∈ audience result) s.returned

def OneTask : Action α → Prop
  | .sendBegin _ _ => ∀ t, s.calls t = .idle
  | .sendMultipartBegin _ _ => False
  | _ => True

/-- The URIs that a call has still to visit. -/
def Call.left : Call α → List String
  | .visiting _ left _ _ | .offering _ _ _ left _ _ => left
  | _ => []

/-- While a message is open, the peers are those whose connections took its frames when a publish
looks at them, the core gives no URI that is still to be visited another connection, and no
connection refuses a frame. -/
def Steady : Action α → Prop
  | .sendBegin _ _ => s.running = true ∨ Continues s.sends ∅
  | .snapshot _ _ => Continues s.sends (s.peerUris.biUnion fun uri => (s.endpoints uri).toFinset)
  | .refuse _ _ => ∀ last ∈ s.sends.getLast?, last.1.isMore = false
  | .setEndpoint uri _ =>
    (∀ t, uri ∉ (s.calls t).left) ∨ ∀ last ∈ s.sends.getLast?, last.1.isMore = false
  | _ => True

def Call.job : Call α → Option (SendJob α)
  | .idle => none
  | .starting job | .visiting job _ _ _ | .offering job _ _ _ _ _ | .removing job _ _ => some job

/-- The connections that have taken the frame of a call or are still to be offered it. -/
def Call.due (endpoints : String → Option Nat) : Call α → Option (Finset Nat)
  | .idle | .starting _ => none
  | .visiting _ left _ accepted => some (accepted ++ left.filterMap endpoints).toFinset
  | .offering _ _ connection left _ accepted =>
    some (accepted ++ connection :: left.filterMap endpoints).toFinset
  | .removing _ _ accepted => some accepted.toFinset

abbrev Passed (s : Pub α) (a : Action α) (s' : Pub α) : Prop :=
  Passes Call.job audience ∅ (s.OneTask a ∧ s.Steady a) (Call.due s.endpoints) s.calls
    s.returned (Call.due s'.endpoints) s'.calls s'.returned

variable {s s' : Pub α} {a : Action α} {t : Nat}

lemma Passed.turnAway {job result} (fails : audience result = ∅)
    (alone : s.OneTask a ∧ s.Steady a → job.IsSend ∧ (∀ u, (s.calls u).job = none) ∧
      Continues s.sends ∅) : s.Passed a (s.finish t job result) :=
  Passes.away t Call.idle job result rfl fails alone

lemma Passed.setCall {c} (same : c.job = (s.calls t).job)
    (keeps : c.due s.endpoints = (s.calls t).due s.endpoints) : s.Passed a (s.setCall t c) :=
  Passes.moved t c same fun _ settled => .inl (keeps ▸ settled)

lemma passed_advance (taken : s.advance t = some s') : s.Passed (.advance t) s' := by
  unfold advance at taken
  split at taken
  · rename_i job uri left failed accepted call
    split at taken <;> cases taken
    · rename_i connection found
      refine .setCall (by rw [call]; rfl) ?_
      rw [call]
      simp only [Call.due, List.filterMap_cons_some found]
    · rename_i gone
      refine .setCall (by rw [call]; rfl) ?_
      rw [call]
      simp only [Call.due, List.filterMap_cons_none gone]
  · rename_i job failed accepted call
    cases taken
    refine .setCall (by rw [call]; rfl) ?_
    rw [call]
    simp only [Call.due, List.filterMap_nil, List.append_nil]
  · rename_i job uri failed accepted call
    cases taken
    exact Passed.setCall (s := s) (by rw [call]; rfl) (by rw [call]; rfl)
  · rename_i job accepted call
    cases taken
    have has : (s.calls t).job = some job := by rw [call]; rfl
    exact Passes.done t Call.idle job (Except.ok accepted) has rfl (.inl (by rw [call]; rfl))
  · cases taken

lemma passed_sendBegin {m} (taken : s.sendBegin t m = some s') :
    s.Passed (.sendBegin t m) s' := by
  have alone : s.OneTask (.sendBegin t m) → ∀ u, (s.calls u).job = none := fun one u => by
    rw [one u]
    rfl
  unfold sendBegin at taken
  split at taken
  · split at taken <;> cases taken
    · rename_i stopped
      refine .turnAway rfl fun ⟨one, steady⟩ => ⟨⟨m, rfl⟩, alone one, ?_⟩
      exact steady.resolve_left fun running => by simp [running] at stopped
    · exact .begun t _ _ rfl (SendJob.whole_send m) rfl fun ⟨one, _⟩ => ⟨⟨m, rfl⟩, alone one⟩
  · cases taken

lemma passed_sendMultipartBegin {frames} (taken : s.sendMultipartBegin t frames = some s') :
    s.Passed (.sendMultipartBegin t frames) s' := by
  unfold sendMultipartBegin at taken
  split at taken
  · split at taken
    · cases taken
      exact .turnAway rfl fun ⟨one, _⟩ => one.elim
    · split at taken <;> cases taken
      · exact .turnAway rfl fun ⟨one, _⟩ => one.elim
      · rename_i some
        exact .begun t _ _ rfl (SendJob.whole_linked (mt List.isEmpty_iff.mpr some)) rfl
          fun ⟨one, _⟩ => one.elim
  · cases taken

/-- With no message open, a frame may go to any connections. -/
lemma continues_of_complete (complete : ∀ last ∈ s.sends.getLast?, last.1.isMore = false)
    (d : Finset Nat) : Continues s.sends d := by
  intro last mem more
  rw [complete last mem] at more
  cases more

lemma due_setEndpoint {endpoints : String → Option Nat} {uri connection} {c : Call α}
    (apart : uri ∉ c.left) : c.due (update endpoints uri connection) = c.due endpoints := by
  have same {uris : List String} (apart : uri ∉ uris) :
      uris.filterMap (update endpoints uri connection) = uris.filterMap endpoints :=
    List.filterMap_congr fun other mem => update_of_ne (ne_of_mem_of_not_mem mem apart) _ _
  cases c with
  | visiting job left failed accepted | offering job other taker left failed accepted =>
    simp only [Call.due, same (show uri ∉ left from apart)]
  | _ => rfl

lemma passed_step (taken : s.step a = some s') : s.Passed a s' := by
  cases a with
  | sendBegin t m => exact passed_sendBegin taken
  | sendMultipartBegin t frames => exact passed_sendMultipartBegin taken
  | advance t => exact passed_advance taken
  | snapshot t order =>
    simp only [step, snapshot] at taken
    split at taken
    · rename_i job call
      split at taken <;> cases taken
      rename_i fits
      refine .moved t _ (by rw [call]; rfl) fun d settled => .inr fun ⟨_, steady⟩ => ?_
      have all : (order.filterMap s.endpoints).toFinset =
          s.peerUris.biUnion fun uri => (s.endpoints uri).toFinset := by
        rw [← fits.2]
        ext connection
        simp
      rw [← Option.some.inj settled, List.nil_append, all]
      exact steady
    · cases taken
  | accept t =>
    simp only [step, accept] at taken
    split at taken
    · rename_i job uri connection left failed accepted call
      cases taken
      refine .setCall (by rw [call]; rfl) ?_
      rw [call]
      simp only [Call.due, List.append_assoc, List.singleton_append]
    · cases taken
  | refuse t e =>
    simp only [step, refuse] at taken
    split at taken
    · rename_i job uri connection left failed accepted call
      cases taken
      exact .moved t _ (by rw [call]; rfl) fun d _ => .inr fun ⟨_, steady⟩ =>
        continues_of_complete steady d
    · cases taken
  | attach p =>
    cases taken
    unfold attach
    split <;> exact .same _ fun _ _ => .inl
  | detach p =>
    cases taken
    unfold detach
    dsimp only
    split <;> exact .same _ fun _ _ => .inl
  | setEndpoint uri connection =>
    cases taken
    refine .same _ fun t d settled => ?_
    by_cases apart : uri ∉ (s.calls t).left
    · exact .inl (due_setEndpoint apart ▸ settled)
    · exact .inr fun ⟨_, steady⟩ =>
        continues_of_complete (steady.resolve_left fun all => apart (all t)) d
  | setPipeUri p uri | shutdown =>
    cases taken
    exact .same _ fun _ _ => .inl

/-- In every run in which one task publishes frame by frame and each message finds its peers as
`Steady` says, connections take whole messages. -/
theorem messages_whole_or_nothing {s : Pub α}
    (reached : Reaches step (fun s a => s.OneTask a ∧ s.Steady a) new s) :
    Uniform Msg.isMore s.sends ∧
    ∀ connection, ∃ whole : List (List (Msg α)),
      whole.Sublist (messages Msg.isMore (s.sends.map Prod.fst)) ∧
        s.receivedBy connection = whole.flatten := by
  have whole : Undivided Call.job audience (Call.due s.endpoints) s.calls s.returned :=
    reached.invariant (fun _ _ _ whole allowed taken => (passed_step taken).undivided whole allowed)
      (.nil fun _ => rfl)
  exact ⟨whole.uniform, fun connection => whole.framesOf_whole fun fate => connection ∈ fate⟩

def connecting (p : Nat) (uri : String) : List (Action α) :=
  [.setEndpoint uri (some p), .setPipeUri p (some uri), .attach p]

def publishing (uri : String) (m : Msg α) : List (Action α) :=
  [.sendBegin 0 m, .snapshot 0 [uri], .advance 0, .accept 0, .advance 0, .advance 0]

theorem messages_whole_or_nothing_alone : ∃ s : Pub UInt8,
      run step new (connecting 1 "a" ++ publishing "a" (octet 1 true) ++
        publishing "a" (octet 2 false)) = some s ∧
      s.receivedBy 1 = [octet 1 true, octet 2 false] ∧ Uniform Msg.isMore s.sends := by
  refine exists_of_permitted ?_ rfl fun reached =>
    ⟨by decide +kernel, (messages_whole_or_nothing reached).1⟩
  refine ⟨⟨trivial, .inr nofun⟩, _, rfl, ⟨trivial, trivial⟩, _, rfl, ⟨trivial, trivial⟩, _, rfl, ?_⟩
  iterate 2
    refine ⟨⟨?_, .inl rfl⟩, _, rfl, ⟨trivial, ?_⟩, _, rfl, ?_⟩
    · rintro (mine | other) <;> rfl
    · exact show Continues _ _ by decide +kernel
    iterate 4 refine ⟨⟨trivial, trivial⟩, _, rfl, ?_⟩
  exact trivial

/-- A peer whose pipe is full for the first frame of a message gets the second one. -/
theorem message_without_first_frame : ∃ s : Pub UInt8,
      run step new (connecting 1 "a" ++
        [.sendBegin 0 (octet 1 true), .snapshot 0 ["a"], .advance 0,
          .refuse 0 .resourceLimitReached, .advance 0, .advance 0] ++
        publishing "a" (octet 2 false)) = some s ∧
      s.receivedBy 1 = [octet 2 false] ∧ ¬ Uniform Msg.isMore s.sends :=
  ⟨_, rfl, by decide +kernel, by decide +kernel⟩

end Pub

end Rzmq
