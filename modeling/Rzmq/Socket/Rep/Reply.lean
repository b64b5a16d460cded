import Rzmq.Socket.Rep.Address

/-! The replies of a REP socket: which steps keep every request that was taken answerable, that
receive calls made one after the other are such steps, and which connection a reply is handed to. -/

namespace Rzmq

open List Function Transition

variable {α : Type}

namespace Rep

variable {s s' : Rep α} {t p n : Nat} {info : PeerInfo α} {action : Action α}

/-! What one step can do -/

def Call.underway : Call α → Bool
  | .recv _ .locking | .recv _ .popping | .recvMultipart _ _ | .noting _ _ _ _ => true
  | _ => false

/-- A step that makes no request, answers none, picks no connection and starts no receive call. -/
structure Plain (s s' : Rep α) : Prop where
  endpoints : s'.endpoints = s.endpoints
  requests : s'.requests = s.requests
  replies : s'.replies = s.replies
  replying : ∀ t info connection wire, s'.calls t = .replying info connection wire →
    s.calls t = .replying info connection wire
  underway : ∀ t, (s'.calls t).underway = true → (s.calls t).underway = true
  state : s'.state = s.state ∨ s'.state = .readyToReceive

lemma Plain.of_call {c} (calls : s'.calls = update s.calls t c)
    (other : ∀ info connection wire, c ≠ .replying info connection wire)
    (underway : c.underway = true → (s.calls t).underway = true)
    (endpoints : s'.endpoints = s.endpoints) (requests : s'.requests = s.requests)
    (replies : s'.replies = s.replies) (state : s'.state = s.state ∨ s'.state = .readyToReceive) :
    s.Plain s' := by
  refine ⟨endpoints, requests, replies, ?_, ?_, state⟩
  · intro t' info connection wire replying
    rw [calls] at replying
    by_cases mine : t' = t
    · rw [mine, update_self] at replying
      exact absurd replying (other info connection wire)
    · rwa [update_of_ne mine] at replying
  · intro t' busy
    rw [calls] at busy
    by_cases mine : t' = t
    · rw [mine, update_self] at busy
      rw [mine]
      exact underway busy
    · rwa [update_of_ne mine] at busy

lemma Plain.setCall (s : Rep α) (t : Nat) {c}
    (other : ∀ info connection wire, c ≠ .replying info connection wire)
    (underway : c.underway = true → (s.calls t).underway = true) : s.Plain (s.setCall t c) :=
  .of_call rfl other underway rfl rfl rfl (.inl rfl)

lemma Plain.returns (s : Rep α) (t : Nat) : s.Plain (s.setCall t .idle) :=
  .setCall s t (by simp) (by simp [Call.underway])

inductive Effect (s : Rep α) : Action α → Rep α → Prop where
  | plain {action s' : _} (plain : s.Plain s') : Effect s action s'
  | begins {action t c : _} (which : action = .recvBegin t ∨ action = .multiBegin t)
      (ready : s.state = .readyToReceive)
      (other : ∀ info connection wire, c ≠ .replying info connection wire) :
      Effect s action (s.setCall t c)
  | notes {t rcvtimeo whole info payload : _}
      (call : s.calls t = .noting rcvtimeo whole info payload) :
      Effect s (.advance t) (s.note t rcvtimeo whole info payload)
  | addresses {t connection info frames wire : _} (call : s.calls t = .addressing info frames)
      (there : s.endpoints info.targetEndpointUri = some connection) :
      Effect s (.advance t) (s.setCall t (.replying info connection wire))
  | accepts {t connection info wire s' : _}
      (call : s.calls t = .replying info connection wire)
      (plain : s.Plain { s' with replies := s.replies })
      (replies : s'.replies = s.replies ++
        [⟨info.number, info.targetEndpointUri, connection, wire⟩]) : Effect s (.accept t) s'
  | locates {p uri frames s' : _}
      (known : s.pipeUri p = some uri) (plain : s.Plain { s' with requests := s.requests })
      (requests : s'.requests = s.requests ++ [⟨p, uri, frames⟩]) : Effect s (.locate p) s'
  | registers {uri connection : _} :
      Effect s (.setEndpoint uri connection)
        { s with endpoints := update s.endpoints uri connection }

lemma Plain.clearBuffer (plain : s.Plain s') : s.Plain s'.clearBuffer := { plain with }

lemma Plain.refl (s : Rep α) : s.Plain s :=
  ⟨rfl, rfl, rfl, fun _ _ _ _ replying => replying, fun _ busy => busy, .inl rfl⟩

lemma resetState_cases (p : Nat) (state : RepState α) :
    resetState p state = state ∨ resetState p state = .readyToReceive := by
  cases state with
  | readyToReceive => exact .inr rfl
  | receivedRequest info =>
    by_cases mine : info.sourcePipeReadId = p
    · exact .inr (if_pos mine)
    · exact .inl (if_neg mine)

lemma step_effect (taken : s.step action = some s') : s.Effect action s' := by
  cases step_cases taken with
  | recvStart call ready => exact .begins (.inl rfl) ready (by simp)
  | multiStart call ready => exact .begins (.inr rfl) ready (by simp)
  | note call => exact .notes call
  | address call there => exact .addresses call there
  | accept call => exact .accepts call { Plain.returns s _ with } rfl
  | locate handler known => exact .locates known { Plain.refl s with } rfl
  | setEndpoint => exact .registers
  | recvRejected | multiRejected | sendRejected | frame | popFailed | recvTimeout | multiTimeout
  | closing | takeNone | unreachable | refuse | drop | dropReply =>
    exact .plain { Plain.returns s _ with }
  | sendStart | sendMultipartStart | check =>
    exact .plain (.setCall s _ (by simp) (by simp [Call.underway]))
  | clear | reset =>
    exact .plain (Plain.setCall s _ (by simp) (by simp [Call.underway])).clearBuffer
  | lock call => exact .plain (.setCall s _ (by simp) (by rw [call]; exact id))
  | multiLock call =>
    exact .plain (Plain.setCall s _ (by simp) (by rw [call]; exact id)).clearBuffer
  | @pop t info payload rest rcvtimeo whole call items =>
    have busy : (s.calls t).underway = true := by
      rw [call]
      cases whole <;> rfl
    exact .plain { Plain.setCall s t (c := .noting rcvtimeo whole info payload) (by simp)
      (fun _ => busy) with }
  | take call received =>
    exact .plain { Plain.setCall s _ (c := .addressing _ _) (by simp) (by simp [Call.underway]) with
      state := .inr rfl }
  | detach detach => exact .plain { Plain.refl s with state := resetState_cases _ _ }
  | collect | assemble | locateFailed | push | pushRefused | pushDropped | clearPipe | resetBuffer
  | setPipeUri | setRcvtimeo | shutdown | stop => exact .plain { Plain.refl s with }

/-! Receive calls one after the other -/

def Alone (s : Rep α) : Action α → Prop
  | .recvBegin _ | .multiBegin _ => ∀ t, (s.calls t).underway = false
  | _ => True

structure Single (s : Rep α) : Prop where
  ready : ∀ t, (s.calls t).underway = true → s.state = .readyToReceive
  one : ∀ t t', (s.calls t).underway = true → (s.calls t').underway = true → t = t'

lemma Single.of_underway (single : s.Single)
    (underway : ∀ t, (s'.calls t).underway = true → (s.calls t).underway = true)
    (state : s'.state = s.state ∨ s'.state = .readyToReceive) : s'.Single := by
  refine ⟨fun t busy => ?_, fun t t' busy busy' => ?_⟩
  · rcases state with same | ready
    · rw [same]
      exact single.ready t (underway t busy)
    · exact ready
  · exact single.one t t' (underway t busy) (underway t' busy')

lemma single_step (s : Rep α) (action : Action α) (s' : Rep α) (single : s.Single)
    (alone : s.Alone action) (taken : s.step action = some s') : s'.Single := by
  cases step_effect taken with
  | plain plain | accepts call plain replies | locates known plain requests =>
    exact single.of_underway plain.underway plain.state
  | @begins _ t c which ready other =>
    have quiet : ∀ t', (s.calls t').underway = false := by
      rcases which with rfl | rfl <;> exact alone
    have only : ∀ t', (update s.calls t c t').underway = true → t' = t := by
      intro t' busy
      by_contra away
      rw [update_of_ne away, quiet] at busy
      cases busy
    refine ⟨fun _ _ => ready, fun t₁ t₂ busy₁ busy₂ => ?_⟩
    rw [only t₁ busy₁, only t₂ busy₂]
  | @notes t rcvtimeo whole info payload call =>
    have idle : ∀ t', ((s.note t rcvtimeo whole info payload).calls t').underway = false := by
      intro t'
      have others : t' ≠ t → (s.calls t').underway = false := by
        intro away
        by_contra busy
        exact away (single.one t' t (by simpa using busy) (by rw [call]; rfl))
      by_cases mine : t' = t
      · subst mine
        cases whole <;> simp [note, finish, setCall, relocate, Call.underway]
      · cases whole <;> simp [note, finish, setCall, relocate, update_of_ne mine, others mine]
    refine ⟨fun t' busy => ?_, fun t' _ busy => ?_⟩
    · simp [idle t'] at busy
    · simp [idle t'] at busy
  | @addresses t connection info frames wire call there =>
    refine single.of_underway (fun t' busy => ?_) (.inl rfl)
    by_cases mine : t' = t
    · simp [mine, setCall, Call.underway] at busy
    · simpa [setCall, update_of_ne mine] using busy
  | registers => exact single.of_underway (fun _ busy => busy) (.inl rfl)

lemma Single.unoccupied (single : s.Single) (action : Action α) : s.Unoccupied action := by
  cases action with
  | advance t =>
    intro rcvtimeo whole info payload call held received
    have ready := single.ready t (by rw [call]; rfl)
    rw [received] at ready
    cases ready
  | _ => trivial

/-! Connections -/

/-- A URI at which a request came in is not given to another connection, and a request comes in on
the connection that the core has for its URI, if any. -/
def Steady (s : Rep α) : Action α → Prop
  | .setEndpoint uri (some connection) => ∀ r ∈ s.requests, r.uri = uri → r.pipe = connection
  | .locate p => ∀ uri connection, s.pipeUri p = some uri → s.endpoints uri = some connection →
    connection = p
  | _ => True

lemma unoccupied_of_alone (rcvhwm : Nat) (rcvtimeo : Timeout)
    (reached : Reaches step (fun s a => s.Alone a ∧ s.Steady a) (new rcvhwm rcvtimeo) s) :
    Reaches step (fun s a => s.Unoccupied a ∧ s.Steady a) (new rcvhwm rcvtimeo) s := by
  have start : (new rcvhwm rcvtimeo : Rep α).Single :=
    ⟨fun _ _ => rfl, fun _ _ busy => by cases busy⟩
  induction reached with
  | refl => exact .refl
  | tail before permitted taken ih =>
    have single := (before.weaken fun _ _ => And.left).invariant single_step start
    exact ih.tail ⟨single.unoccupied _, permitted.2⟩ taken

/-- The connection under the URI of a request is the one that the request came from. -/
structure Bound (s : Rep α) : Prop where
  endpoints : ∀ r ∈ s.requests, ∀ connection, s.endpoints r.uri = some connection →
    connection = r.pipe
  calls : ∀ t info connection wire, s.calls t = .replying info connection wire →
    connection = info.sourcePipeReadId
  replies : ∀ reply ∈ s.replies, ∃ r, s.requests[reply.number]? = some r ∧ reply.connection = r.pipe

lemma Bound.of_plain (bound : s.Bound) (plain : s.Plain s') : s'.Bound := by
  refine ⟨?_, fun t info connection wire replying => ?_, ?_⟩
  · rw [plain.requests, plain.endpoints]
    exact bound.endpoints
  · exact bound.calls t info connection wire (plain.replying t info connection wire replying)
  · rw [plain.replies, plain.requests]
    exact bound.replies

lemma bound_setCall (bound : s.Bound) {c}
    (mine : ∀ info connection wire, c = .replying info connection wire →
      connection = info.sourcePipeReadId) : (s.setCall t c).Bound := by
  refine ⟨bound.endpoints, ?_, bound.replies⟩
  intro t' info connection wire replying
  change update s.calls t c t' = _ at replying
  by_cases same : t' = t
  · rw [same, update_self] at replying
    exact mine info connection wire replying
  · rw [update_of_ne same] at replying
    exact bound.calls t' info connection wire replying

lemma bound_note (bound : s.Bound) {rcvtimeo} {whole : Bool}
    {payload} : (s.note t rcvtimeo whole info payload).Bound := by
  have moved : ({ s.relocate info.number .noted with
      state := .receivedRequest info } : Rep α).Bound :=
    ⟨bound.endpoints, bound.calls, bound.replies⟩
  cases whole with
  | false => exact bound_setCall moved (by simp)
  | true =>
    have idle := bound_setCall (t := t) (c := .idle) moved (by simp)
    exact ⟨idle.endpoints, idle.calls, idle.replies⟩

lemma bound_step (kept : s.Kept) (bound : s.Bound) (steady : s.Steady action)
    (taken : s.step action = some s') : s'.Bound := by
  cases step_effect taken with
  | plain plain => exact bound.of_plain plain
  | begins which ready other =>
    exact bound_setCall bound fun info connection wire same => absurd same (other _ _ _)
  | notes call => exact bound_note bound
  | @addresses t connection info frames wire call there =>
    apply bound_setCall bound
    intro info' connection' wire' same
    cases same
    obtain ⟨-, r, found, made⟩ := kept.holds info (.answering t) (.call (by rw [call]; rfl))
    rw [made] at there ⊢
    exact bound.endpoints r (mem_of_getElem? found) connection there
  | @accepts t connection info wire s' call plain replies =>
    have same := bound.of_plain plain
    refine ⟨same.endpoints, same.calls, ?_⟩
    rw [replies, show s'.requests = s.requests from plain.requests]
    intro reply mem
    rcases mem_append.mp mem with old | last
    · exact bound.replies reply old
    · rw [mem_singleton.mp last]
      obtain ⟨-, r, found, made⟩ := kept.holds info (.answering t) (.call (by rw [call]; rfl))
      refine ⟨r, found, (bound.calls t info connection wire call).trans ?_⟩
      rw [made]
      rfl
  | @locates p uri frames s' known plain requests =>
    have same := bound.of_plain plain
    refine ⟨?_, same.calls, ?_⟩
    · rw [requests, show s'.endpoints = s.endpoints from plain.endpoints]
      intro r mem connection there
      rcases mem_append.mp mem with old | last
      · exact bound.endpoints r old connection there
      · rw [mem_singleton.mp last] at there ⊢
        exact steady uri connection known there
    · rw [requests, show s'.replies = s.replies from plain.replies]
      intro reply mem
      obtain ⟨r, found, hers⟩ := bound.replies reply mem
      exact ⟨r, getElem?_mono (prefix_append _ _) found, hers⟩
  | @registers uri connection =>
    refine ⟨?_, bound.calls, bound.replies⟩
    intro r mem c there
    change update s.endpoints uri connection r.uri = some c at there
    by_cases same : r.uri = uri
    · rw [same, update_self] at there
      subst there
      exact (steady r mem same).symm
    · rw [update_of_ne same] at there
      exact bound.endpoints r mem c there

/-! The results -/

lemma unoccupied_of_addressed (kept : s.Kept) (taken : s.step action = some s')
    (after : s'.Addressed) : s.Unoccupied action := by
  cases action with
  | advance t =>
    intro rcvtimeo whole info payload call held received
    obtain ⟨noted, known⟩ := kept.holds held .noted (.state received)
    obtain ⟨popped, -⟩ := kept.holds info (.popped t) (.call (by rw [call]; rfl))
    have apart : held.number ≠ info.number := by
      intro same
      rw [same, popped] at noted
      cases noted
    simp only [step, advance, call, Option.some.injEq] at taken
    have fields : s'.place = update s.place info.number .noted ∧ s'.gone = s.gone ∧
        s'.state = .receivedRequest info := by
      rw [← taken]
      cases whole
      · exact ⟨rfl, rfl, rfl⟩
      · exact ⟨rfl, rfl, rfl⟩
    obtain ⟨place, gone, state⟩ := fields
    have left := after.addressable held.number (by rw [place, update_of_ne apart, noted])
    rw [gone, state] at left
    rcases left with gone | ⟨r, -, same⟩
    · exact gone
    · rw [RepState.receivedRequest.injEq] at same
      exact absurd (by rw [same]; rfl) apart
  | _ => trivial

end Rep

end Rzmq
