import Rzmq.Lib.Transition
import Rzmq.Socket.Router

/-! The routing table of a ROUTER over any sequence of attached, identified and detached pipes, with
an account of the pipes beside it.  The table agrees with it as long as no pipe that shares its
identity with another one leaves that identity. -/

namespace Rzmq

open Option Nat Function Octet Transition
open RouterSocket (identityOr pipeAttached pipeDetached_eq updatePeerIdentity)

variable {α : Type} [DecidableEq α]

namespace RouterMap

def identified (m : RouterMap α) (identity : List α) (pipe : Nat) (info : PeerInfo) :
    RouterMap α where
  identityToPeerInfo j :=
    if j = identity then some info
    else if m.readPipeToIdentity.lookup pipe = some j then none
    else m.identityToPeerInfo j
  readPipeToIdentity := m.readPipeToIdentity.insert pipe identity

lemma addPeer_eq (m : RouterMap α) (identity : List α) (pipe : Nat) (uri : String) :
    m.addPeer identity pipe uri = m.identified identity pipe ⟨uri, .default⟩ := by
  simp only [addPeer, identified]
  congr 1
  funext j
  cases m.readPipeToIdentity.lookup pipe with
  | none => simp [update_apply]
  | some old =>
    by_cases same : old = identity <;> by_cases here : j = old <;> simp_all [update_apply, eq_comm]

lemma updatePeerIdentity_eq (m : RouterMap α) (pipe : Nat) (identity : List α) (uri : String)
    (peerSocketType : Option String) :
    m.updatePeerIdentity pipe identity uri peerSocketType =
      m.identified identity pipe ⟨uri, .ofSocketType peerSocketType⟩ := by
  simp only [updatePeerIdentity, identified]
  congr 1
  funext j
  cases m.readPipeToIdentity.lookup pipe with
  | none => simp [update_apply]
  | some old =>
    by_cases same : old = identity <;> by_cases here : j = old <;> simp_all [update_apply, eq_comm]

lemma removePeerByReadPipe_forward (m : RouterMap α) (pipe : Nat) (j : List α) :
    (m.removePeerByReadPipe pipe).identityToPeerInfo j =
      if m.readPipeToIdentity.lookup pipe = some j then none else m.identityToPeerInfo j := by
  unfold removePeerByReadPipe
  cases lookup : m.readPipeToIdentity.lookup pipe with
  | none => simp
  | some identity => simp [update_apply, eq_comm]

lemma removePeerByIdentity_forward (m : RouterMap α) (identity j : List α) :
    (m.removePeerByIdentity identity).identityToPeerInfo j =
      if j = identity then none else m.identityToPeerInfo j := by
  unfold removePeerByIdentity
  split
  · rename_i unknown
    by_cases same : j = identity <;> simp [same, unknown]
  · simp [update_apply]

lemma removePeerByIdentity_reverse {m : RouterMap α} {identity other : List α} {pipe : Nat}
    (apart : other ≠ identity) :
    (m.removePeerByIdentity identity).readPipeToIdentity.lookup pipe = some other ↔
      m.readPipeToIdentity.lookup pipe = some other := by
  unfold removePeerByIdentity
  split
  · rfl
  · dsimp only
    split
    · rename_i entry first
      by_cases here : pipe = entry.1
      · have has : entry.2 = identity := by simpa using List.find?_some first
        have there := AList.mem_lookup_iff.mpr (List.mem_of_find?_eq_some first)
        rw [here, AList.lookup_erase, mem_def.mp there, has]
        simp [apart.symm]
      · rw [AList.lookup_erase_ne here]
    · rfl

lemma removePeerByIdentity_lookup {m : RouterMap α} {identity other : List α} {pipe : Nat}
    (has : (m.removePeerByIdentity identity).readPipeToIdentity.lookup pipe = some other) :
    m.readPipeToIdentity.lookup pipe = some other := by
  unfold removePeerByIdentity at has
  split at has
  · exact has
  · dsimp only at has
    split at has
    · rename_i entry _
      by_cases here : pipe = entry.1
      · rw [here, AList.lookup_erase] at has
        cases has
      · rwa [AList.lookup_erase_ne here] at has
    · exact has

end RouterMap

/-- A pipe that is attached: its identity, its endpoint, and the time at which it took them. -/
structure AttachedPeer (α : Type) where
  identity : List α
  uri : String
  since : Nat

structure RouterTable (α : Type) where
  router : RouterSocket α
  clock : Nat
  peers : Nat → Option (AttachedPeer α)

inductive RouterTable.Action (α : Type) where
  | attached (core : CoreState) (pipe : Nat) (identity : Option (List α))
  | identified (core : CoreState) (pipe : Nat) (identity : Option (List α))
  | detached (core : CoreState) (pipe : Nat)

namespace RouterTable

def start (core : CoreState) (rcvhwm : Nat) : RouterTable α := ⟨.new core rcvhwm, 0, fun _ => none⟩

def registered (core : CoreState) (pipe : Nat) : Option String :=
  (core.pipeReadIdToEndpointUri pipe).filter fun uri => (core.endpoints uri).isSome

variable [Octet α] (t : RouterTable α)

def step : Action α → Option (RouterTable α)
  | .attached core pipe identity => some {
      router := { t.router with core }.pipeAttached pipe identity
      clock := t.clock + 1
      peers :=
        match registered core pipe with
        | none => t.peers
        | some uri =>
          update t.peers pipe (some ⟨identityOr pipe identity, uri, t.clock⟩) }
  | .identified core pipe identity => some {
      router := { t.router with core }.updatePeerIdentity pipe identity
      clock := t.clock + 1
      peers :=
        match core.pipeReadIdToEndpointUri pipe with
        | none => t.peers
        | some uri =>
          update t.peers pipe ((t.peers pipe).map fun _ =>
            ⟨identityOr pipe identity, uri, t.clock⟩) }
  | .detached core pipe => some {
      router := { t.router with core }.pipeDetached pipe
      clock := t.clock
      peers := update t.peers pipe none }

omit [DecidableEq α] [Octet α] in
abbrev table (t : RouterTable α) : RouterMap α := t.router.routerMapForSend

def Routed (pipe : Nat) : Prop :=
  ∃ peer info, t.peers pipe = some peer ∧
    t.table.identityToPeerInfo peer.identity = some info ∧ info.uri = peer.uri

/-- Every entry belongs to an attached pipe with that identity, and every attached pipe whose
identity no later pipe has taken is routed. -/
structure Consistent : Prop where
  owned : ∀ identity info, t.table.identityToPeerInfo identity = some info →
    ∃ pipe peer, t.peers pipe = some peer ∧ peer.identity = identity ∧ info.uri = peer.uri
  routed : ∀ pipe peer, t.peers pipe = some peer →
    (∀ other claim, t.peers other = some claim → claim.identity = peer.identity →
      claim.since ≤ peer.since) → t.Routed pipe

def Unshared (pipe : Nat) : Prop :=
  ∀ peer other claim, t.peers pipe = some peer → other ≠ pipe → t.peers other = some claim →
    claim.identity ≠ peer.identity

/-- A pipe leaves its identity only while it alone has it, and only attached pipes are given one
later. -/
def Sole : Action α → Prop
  | .attached core pipe identity =>
    (registered core pipe).isSome →
      (∃ peer, t.peers pipe = some peer ∧ peer.identity ≠ identityOr pipe identity) →
      t.Unshared pipe
  | .identified core pipe identity =>
    (core.pipeReadIdToEndpointUri pipe).isSome → ∃ peer, t.peers pipe = some peer ∧
      (peer.identity ≠ identityOr pipe identity → t.Unshared pipe)
  | .detached _ pipe => t.Unshared pipe

structure Kept : Prop extends t.Consistent where
  reverse : ∀ pipe, t.table.readPipeToIdentity.lookup pipe =
    (t.peers pipe).map AttachedPeer.identity
  past : ∀ pipe peer, t.peers pipe = some peer → peer.since < t.clock

omit [Octet α] [DecidableEq α] in
lemma kept_start (core : CoreState) (rcvhwm : Nat) : (start core rcvhwm : RouterTable α).Kept where
  owned _ _ entry := by cases entry
  routed _ _ there := by cases there
  reverse _ := rfl
  past _ _ there := by cases there

section Steps

variable {t t' : RouterTable α} {pipe : Nat}

omit [Octet α] [DecidableEq α] in
lemma Kept.unchanged (kept : t.Kept) (table : t'.table = t.table) (peers : t'.peers = t.peers)
    (clock : t.clock ≤ t'.clock) : t'.Kept where
  owned := by rw [table, peers]; exact kept.owned
  routed := by
    unfold Routed
    rw [table, peers]
    exact kept.routed
  reverse := by rw [table, peers]; exact kept.reverse
  past p peer there := by
    rw [peers] at there
    have := kept.past p peer there
    omega

omit [Octet α] in
/-- A pipe that alone has the identity which it leaves, if it leaves one, takes an identity. -/
lemma Kept.identify (kept : t.Kept) (pipe : Nat) (identity : List α) (info)
    (free : ∀ peer, t.peers pipe = some peer → peer.identity ≠ identity → t.Unshared pipe)
    (table : t'.table = t.table.identified identity pipe info) (clock : t'.clock = t.clock + 1)
    (peers : t'.peers = update t.peers pipe (some ⟨identity, info.uri, t.clock⟩)) : t'.Kept := by
  have had : ∀ old, t.table.readPipeToIdentity.lookup pipe = some old →
      ∃ peer, t.peers pipe = some peer ∧ peer.identity = old := by
    intro old lookup
    rw [kept.reverse] at lookup
    exact map_eq_some_iff.mp lookup
  have others : ∀ p, p ≠ pipe → t'.peers p = t.peers p := by
    intro p away
    rw [peers, update_of_ne away]
  have itself : t'.peers pipe = some ⟨identity, info.uri, t.clock⟩ := by
    rw [peers, update_self]
  refine { owned := ?_, routed := ?_, reverse := ?_, past := ?_ }
  · intro k entry found
    rw [table] at found
    by_cases mine : k = identity
    · simp only [RouterMap.identified, mine, if_true, Option.some.injEq] at found
      exact ⟨pipe, _, itself, mine.symm, by rw [← found]⟩
    · simp only [RouterMap.identified, mine, if_false] at found
      split at found
      · cases found
      · rename_i left
        obtain ⟨p, peer, there, same, uri⟩ := kept.owned k entry found
        have away : p ≠ pipe := by
          rintro rfl
          apply left
          rw [kept.reverse, there, map_some, same]
        exact ⟨p, peer, by rw [others p away, there], same, uri⟩
  · intro p peer there unclaimed
    by_cases mine : p = pipe
    · subst mine
      rw [itself, some.injEq] at there
      subst there
      exact ⟨_, info, itself, by rw [table]; simp [RouterMap.identified], rfl⟩
    · rw [others p mine] at there
      have differs : peer.identity ≠ identity := by
        intro same
        have later := unclaimed pipe _ itself same.symm
        have := kept.past p peer there
        simp only at later
        omega
      have elsewhere : t.table.readPipeToIdentity.lookup pipe ≠ some peer.identity := by
        intro lookup
        obtain ⟨old, attached, same⟩ := had _ lookup
        have alone := free old attached (by rw [same]; exact differs)
        exact alone old p peer attached mine there same.symm
      obtain ⟨peer', entry, there', found, uri⟩ := kept.routed p peer there (by
        intro q claim attached same
        have away : q ≠ pipe := by
          rintro rfl
          apply elsewhere
          rw [kept.reverse, attached, map_some, same]
        exact unclaimed q claim (by rw [others q away, attached]) same)
      rw [there, some.injEq] at there'
      subst there'
      refine ⟨peer, entry, by rw [others p mine, there], ?_, uri⟩
      rw [table]
      simp only [RouterMap.identified, differs, elsewhere, if_false]
      exact found
  · intro p
    rw [table]
    by_cases mine : p = pipe
    · subst mine
      rw [itself]
      exact AList.lookup_insert _
    · rw [others p mine, ← kept.reverse]
      exact AList.lookup_insert_ne mine
  · intro p peer there
    rw [clock]
    by_cases mine : p = pipe
    · subst mine
      rw [itself, some.injEq] at there
      subst there
      exact lt_succ_self _
    · rw [others p mine] at there
      have := kept.past p peer there
      omega

omit [Octet α] in
lemma Kept.routed_detach (kept : t.Kept) (alone : t.Unshared pipe)
    (table : t'.table = t.table.removePeerByReadPipe pipe)
    (peers : t'.peers = update t.peers pipe none) {p : Nat} (away : p ≠ pipe)
    (routed : t.Routed p) : t'.Routed p := by
  obtain ⟨peer, entry, there, found, uri⟩ := routed
  refine ⟨peer, entry, by rw [peers, update_of_ne away, there], ?_, uri⟩
  rw [table, RouterMap.removePeerByReadPipe_forward, if_neg, found]
  intro lookup
  rw [kept.reverse] at lookup
  obtain ⟨old, attached, same⟩ := map_eq_some_iff.mp lookup
  exact alone old p peer attached away there same.symm

omit [Octet α] in
lemma Kept.detach (kept : t.Kept) (alone : t.Unshared pipe)
    (table : t'.table = t.table.removePeerByReadPipe pipe) (clock : t'.clock = t.clock)
    (peers : t'.peers = update t.peers pipe none) : t'.Kept := by
  have others : ∀ p, p ≠ pipe → t'.peers p = t.peers p := by
    intro p away
    rw [peers, update_of_ne away]
  have gone : t'.peers pipe = none := by rw [peers, update_self]
  refine { owned := ?_, routed := ?_, reverse := ?_, past := ?_ }
  · intro k entry found
    rw [table, RouterMap.removePeerByReadPipe_forward] at found
    split at found
    · cases found
    · rename_i left
      obtain ⟨p, peer, there, same, uri⟩ := kept.owned k entry found
      have away : p ≠ pipe := by
        rintro rfl
        apply left
        rw [kept.reverse, there, map_some, same]
      exact ⟨p, peer, by rw [others p away, there], same, uri⟩
  · intro p peer there unclaimed
    have away : p ≠ pipe := by
      rintro rfl
      rw [gone] at there
      cases there
    rw [others p away] at there
    refine kept.routed_detach alone table peers away (kept.routed p peer there ?_)
    intro q claim attached same
    have apart : q ≠ pipe := by
      rintro rfl
      exact alone claim p peer attached away there same.symm
    exact unclaimed q claim (by rw [others q apart, attached]) same
  · intro p
    rw [table]
    by_cases mine : p = pipe
    · subst mine
      rw [gone]
      exact AList.lookup_erase _ _
    · rw [others p mine, ← kept.reverse]
      exact AList.lookup_erase_ne mine
  · intro p peer there
    rw [clock]
    have away : p ≠ pipe := by
      rintro rfl
      rw [gone] at there
      cases there
    rw [others p away] at there
    exact kept.past p peer there

omit [Octet α] [DecidableEq α] in
lemma exists_latest (past : ∀ p peer, t.peers p = some peer → peer.since < t.clock)
    {peer} (left : Nat) (room : t.clock - peer.since ≤ left)
    (there : t.peers pipe = some peer) :
    ∃ p last, t.peers p = some last ∧ last.identity = peer.identity ∧
      ∀ other claim, t.peers other = some claim → claim.identity = last.identity →
        claim.since ≤ last.since := by
  induction left generalizing pipe peer with
  | zero =>
    have := past pipe peer there
    omega
  | succ left ih =>
    by_cases latest : ∀ other claim, t.peers other = some claim →
        claim.identity = peer.identity → claim.since ≤ peer.since
    · exact ⟨pipe, peer, there, rfl, latest⟩
    · push Not at latest
      obtain ⟨other, claim, attached, same, later⟩ := latest
      obtain ⟨p, last, there', same', latest⟩ := ih (by omega) attached
      exact ⟨p, last, there', same'.trans same, latest⟩

omit [Octet α] in
/-- A pipe that shares its identity takes the route of the other pipes that have it along. -/
lemma Kept.unshared_of_consistent (kept : t.Kept)
    (table : t'.table = t.table.removePeerByReadPipe pipe) (clock : t'.clock = t.clock)
    (peers : t'.peers = update t.peers pipe none) (consistent : t'.Consistent) :
    t.Unshared pipe := by
  intro peer other claim there away attached same
  have removed : t'.table.identityToPeerInfo peer.identity = none := by
    rw [table, RouterMap.removePeerByReadPipe_forward, if_pos]
    rw [kept.reverse, there, map_some]
  have stays : t'.peers other = some claim := by rw [peers, update_of_ne away, attached]
  have past : ∀ p peer, t'.peers p = some peer → peer.since < t'.clock := by
    intro p peer' there'
    rw [clock]
    apply kept.past p
    by_cases mine : p = pipe
    · simp [peers, mine] at there'
    · rw [← there', peers, update_of_ne mine]
  obtain ⟨p, last, lastThere, lastSame, latest⟩ := exists_latest past _ le_rfl stays
  obtain ⟨peer', entry, there', found, -⟩ := consistent.routed p last lastThere latest
  rw [lastThere, some.injEq] at there'
  subst there'
  rw [lastSame, same, removed] at found
  cases found

end Steps

variable {t t' : RouterTable α}

lemma step_detached {core} {pipe : Nat} (taken : t.step (.detached core pipe) = some t') :
    t'.table = t.table.removePeerByReadPipe pipe ∧ t'.clock = t.clock ∧
      t'.peers = update t.peers pipe none := by
  cases taken
  obtain ⟨target, permits, detached, -⟩ := pipeDetached_eq { t.router with core } pipe
  refine ⟨?_, rfl, rfl⟩
  rw [table, detached]

lemma kept_step (t : RouterTable α) (a : Action α) (t' : RouterTable α) (kept : t.Kept)
    (sole : t.Sole a) (taken : t.step a = some t') : t'.Kept := by
  cases a with
  | attached core pipe identity =>
    cases taken
    cases uri : core.pipeReadIdToEndpointUri pipe with
    | none =>
      refine kept.unchanged ?_ ?_ (le_succ _)
      · simp [pipeAttached, uri]
      · simp [registered, uri]
    | some uri' =>
      cases endpoint : core.endpoints uri' with
      | none =>
        have unknown : registered core pipe = none := by simp [registered, uri, endpoint]
        refine kept.unchanged ?_ ?_ (le_succ _)
        · simp [pipeAttached, uri, endpoint]
        · simp [unknown]
      | some found =>
        have known : registered core pipe = some uri' := by simp [registered, uri, endpoint]
        refine kept.identify pipe _ ⟨uri', .default⟩ (fun peer there differs =>
          sole (by simp [known]) ⟨peer, there, differs⟩) ?_ rfl ?_
        · simp only [table, pipeAttached, uri, endpoint]
          exact RouterMap.addPeer_eq _ _ _ _
        · simp [known]
  | identified core pipe identity =>
    cases taken
    cases uri : core.pipeReadIdToEndpointUri pipe with
    | none =>
      refine kept.unchanged ?_ ?_ (le_succ _)
      · simp [updatePeerIdentity, uri]
      · simp
    | some uri' =>
      obtain ⟨peer, there, free⟩ := sole (by simp [uri])
      refine kept.identify pipe (identityOr pipe identity)
        ⟨uri', .ofSocketType ((core.endpoints uri').bind EndpointInfo.peerSocketType)⟩ ?_ ?_ rfl ?_
      · intro peer' there' differs
        rw [there, some.injEq] at there'
        subst there'
        exact free differs
      · simp only [table, updatePeerIdentity, uri]
        exact RouterMap.updatePeerIdentity_eq _ _ _ _ _
      · simp [there]
  | detached core pipe =>
    obtain ⟨table, clock, peers⟩ := step_detached taken
    exact kept.detach sole table clock peers

/-- In every run in which pipes leave an identity only while they alone have it, the table is
consistent; a detached pipe leaves it so exactly if it shares its identity with no other pipe, and
then takes no other route along. -/
theorem table_consistent {core : CoreState} {rcvhwm : Nat} {t : RouterTable α}
    (reached : Reaches step Sole (start core rcvhwm) t) :
    t.Consistent ∧ ∀ core pipe t', t.step (.detached core pipe) = some t' →
      (t'.Consistent ↔ t.Unshared pipe) ∧
      (t.Unshared pipe → ∀ other, other ≠ pipe → t.Routed other → t'.Routed other) := by
  have kept : t.Kept := reached.invariant kept_step (kept_start core rcvhwm)
  refine ⟨kept.toConsistent, ?_⟩
  intro core pipe t' taken
  obtain ⟨table, clock, peers⟩ := step_detached taken
  constructor
  · constructor
    · intro consistent
      exact kept.unshared_of_consistent table clock peers consistent
    · intro alone
      exact (kept.detach alone table clock peers).toConsistent
  · intro alone other away routed
    exact kept.routed_detach alone table peers away routed

abbrev dealers : CoreState := .twoPeers (some "DEALER")

def collision : List (Action UInt8) :=
  [.attached dealers 1 none, .identified dealers 1 (some [65]),
    .attached dealers 2 none, .identified dealers 2 (some [65])]

omit [DecidableEq α] [Octet α] in
def Action.pipe : Action α → Nat
  | .attached _ pipe _ | .identified _ pipe _ | .detached _ pipe => pipe

lemma step_peers_of_ne {a} (taken : t.step a = some t') {q : Nat}
    (away : q ≠ a.pipe) : t'.peers q = t.peers q := by
  cases a with
  | attached core pipe identity =>
    cases taken
    cases registered core pipe with
    | none => rfl
    | some uri => exact update_of_ne away _ _
  | identified core pipe identity =>
    cases taken
    cases core.pipeReadIdToEndpointUri pipe with
    | none => rfl
    | some uri => exact update_of_ne away _ _
  | detached core pipe =>
    cases taken
    exact update_of_ne away _ _

lemma run_peers_of_ne {actions} (ran : run step t actions = some t') {q : Nat}
    (away : ∀ a ∈ actions, q ≠ a.pipe) : t'.peers q = t.peers q := by
  induction actions generalizing t with
  | nil =>
    cases ran
    rfl
  | cons a rest ih =>
    obtain ⟨u, taken, after⟩ := bind_eq_some_iff.mp ran
    rw [ih after fun b mem => away b (List.mem_cons_of_mem _ mem),
      step_peers_of_ne taken (away a List.mem_cons_self)]

theorem table_consistent_one_pipe : ∃ t : RouterTable UInt8, t.Consistent ∧ t.Routed 1 ∧
      ∃ t', t.step (.detached dealers 1) = some t' ∧ t'.Consistent := by
  have alone : ∀ actions (t : RouterTable UInt8), run step (start dealers 10) actions = some t →
      (∀ a ∈ actions, a.pipe = 1) → t.Unshared 1 := by
    intro actions t ran named peer other claim _ away there
    rw [run_peers_of_ne ran fun a mem => by rw [named a mem]; exact away] at there
    cases there
  have attached : Reaches step Sole (start dealers 10 : RouterTable UInt8) _ :=
    Reaches.refl.tail (a := .attached dealers 1 none) (fun _ _ => alone [] _ rfl (by simp)) rfl
  have identified := attached.tail (a := Action.identified dealers 1 (some [65]))
    (fun _ => ⟨_, rfl, fun _ =>
      alone [.attached dealers 1 none] _ rfl (by simp [Action.pipe])⟩) rfl
  obtain ⟨consistent, detached⟩ := table_consistent identified
  refine ⟨_, consistent, ⟨_, _, rfl, rfl, rfl⟩, _, rfl, (detached dealers 1 _ rfl).1.mpr ?_⟩
  exact alone [.attached dealers 1 none, .identified dealers 1 (some [65])] _ rfl
    (by simp [Action.pipe])

/-- Pipe 2 has taken the identity of pipe 1 and is routed; when pipe 1 is detached, its route is
gone. -/
theorem detach_removes_other_route :
    ∃ t t' : RouterTable UInt8, run step (start dealers 10) collision = some t ∧ t.Routed 2 ∧
      t.step (.detached dealers 1) = some t' ∧ (∃ peer, t'.peers 2 = some peer) ∧
      ¬ t'.Routed 2 ∧ ¬ t'.Consistent := by
  refine ⟨_, _, rfl, ⟨_, _, rfl, rfl, rfl⟩, rfl, ⟨_, rfl⟩, ?_, ?_⟩
  · rintro ⟨peer, info, there, found, -⟩
    cases there
    cases found
  · intro consistent
    obtain ⟨peer, info, there, found, -⟩ := consistent.routed 2 _ rfl (by
      intro other claim there _
      by_cases second : other = 2
      · subst second
        cases there
        exact le_rfl
      · by_cases first : other = 1
        · subst first
          cases there
        · have ran : run step (start dealers 10) (collision ++ [.detached dealers 1]) = some _ :=
            rfl
          have unnamed := run_peers_of_ne ran
            (show ∀ a ∈ collision ++ [.detached dealers 1], other ≠ a.pipe by
              simp [collision, Action.pipe, first, second])
          rw [unnamed] at there
          cases there)
    cases there
    cases found

end RouterTable

end Rzmq
