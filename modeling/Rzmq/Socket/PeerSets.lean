import Rzmq.Socket.Dealer
import Rzmq.Socket.Pub
import Rzmq.Socket.Push
import Rzmq.Socket.Req
import Mathlib.Data.Finset.Insert

/-! The URIs that PUSH, PUB, DEALER and REQ send to.  Pipes are attached and detached by their ids,
but the set of the balancer or the distributor is kept by URI. -/

namespace Rzmq

open List Option Function Transition

variable {α σ : Type}

inductive PipeCall where
  | attached (p : Nat) (uri : String)
  | detached (p : Nat)

/-- The two tables of a socket: the URI of each attached pipe, and the URIs that it sends to. -/
structure Peers where
  pipes : Nat → Option String
  uris : Finset String

namespace Peers

def call (s : Peers) : PipeCall → Peers
  | .attached p uri => ⟨update s.pipes p (some uri), insert uri s.uris⟩
  | .detached p => ⟨update s.pipes p none, (s.pipes p).elim s.uris s.uris.erase⟩

def Exact (s : Peers) : Prop := ∀ uri, uri ∈ s.uris ↔ ∃ p, s.pipes p = some uri

def Fresh (s : Peers) : PipeCall → Prop
  | .attached p _ => s.pipes p = none
  | .detached _ => True

def Alone (s : Peers) : PipeCall → Prop
  | .attached _ _ => True
  | .detached p => ∀ q uri, q ≠ p → s.pipes q = some uri → s.pipes p ≠ some uri

lemma exact_call {s : Peers} {c} (exact : s.Exact) (fresh : s.Fresh c) :
    (s.call c).Exact ↔ s.Alone c := by
  cases c with
  | attached p uri =>
    refine iff_of_true (fun other => ?_) trivial
    simp only [call, Finset.mem_insert, exact other]
    constructor
    · rintro (rfl | ⟨q, has⟩)
      · exact ⟨p, update_self ..⟩
      · have ne : q ≠ p := fun same => by
          rw [same, show s.pipes p = none from fresh] at has
          cases has
        exact ⟨q, (update_of_ne ne ..).trans has⟩
    · rintro ⟨q, has⟩
      by_cases same : q = p
      · rw [same, update_self] at has
        exact .inl (some.inj has).symm
      · exact .inr ⟨q, by rwa [update_of_ne same] at has⟩
  | detached p =>
    have left : ∀ uri, (∃ q, update s.pipes p none q = some uri) ↔
        ∃ q, q ≠ p ∧ s.pipes q = some uri := by
      intro uri
      refine exists_congr fun q => ?_
      by_cases same : q = p <;> simp [same]
    simp only [Exact, call, left]
    cases mapped : s.pipes p with
    | none =>
      refine iff_of_true (fun uri => ?_) fun q uri _ _ => by simp [mapped]
      rw [elim_none, exact uri]
      refine exists_congr fun q => ⟨fun has => ⟨fun same => ?_, has⟩, And.right⟩
      rw [same, mapped] at has
      cases has
    | some mine =>
      simp only [elim_some, Finset.mem_erase, exact _, Alone, mapped]
      constructor
      · intro all q uri ne has same
        exact ((all uri).mpr ⟨q, ne, has⟩).1 (some.inj same).symm
      · intro alone uri
        constructor
        · rintro ⟨other, q, has⟩
          refine ⟨q, fun same => other ?_, has⟩
          rw [same, mapped] at has
          exact (some.inj has).symm
        · rintro ⟨q, ne, has⟩
          exact ⟨fun same => alone q uri ne has (congrArg some same.symm), q, has⟩

end Peers

/-- The calls of a socket do to its two tables what they are for; `Ok` is kept along. -/
def Follows (call : σ → PipeCall → Option σ) (view : σ → Peers) (Ok : σ → Prop) : Prop :=
  ∀ s c t, Ok s → call s c = some t → Ok t ∧ view t = (view s).call c

/-- The socket sends to the URIs of its attached pipes as long as no pipe is detached while another
one has its URI, and no longer. -/
def SendsToAttached (call : σ → PipeCall → Option σ) (view : σ → Peers) (start : σ) : Prop :=
  (∀ s, Reaches call (fun s c => (view s).Fresh c ∧ (view s).Alone c) start s → (view s).Exact) ∧
  ∀ s c t, Reaches call (fun s c => (view s).Fresh c ∧ (view s).Alone c) start s →
    (view s).Fresh c → call s c = some t → ¬ (view s).Alone c → ¬ (view t).Exact

lemma Follows.sendsToAttached {call view Ok}
    {start : σ} (follows : Follows call view Ok) (ok : Ok start) (exact : (view start).Exact) :
    SendsToAttached call view start := by
  have step : ∀ s c t, Ok s ∧ (view s).Exact → (view s).Fresh c ∧ (view s).Alone c →
      call s c = some t → Ok t ∧ (view t).Exact := by
    rintro s c t ⟨ok, exact⟩ ⟨fresh, alone⟩ taken
    obtain ⟨ok', same⟩ := follows s c t ok taken
    exact ⟨ok', same ▸ (Peers.exact_call exact fresh).mpr alone⟩
  have kept : ∀ s, Reaches call (fun s c => (view s).Fresh c ∧ (view s).Alone c) start s →
      Ok s ∧ (view s).Exact := fun s reached => reached.invariant step ⟨ok, exact⟩
  refine ⟨fun s reached => (kept s reached).2, fun s c t reached fresh taken shared exact' => ?_⟩
  obtain ⟨ok, exact⟩ := kept s reached
  rw [(follows s c t ok taken).2] at exact'
  exact shared ((Peers.exact_call exact fresh).mp exact')

/-! The four sockets; before `pipe_attached` the core has the URI of the pipe in its own map. -/

section Uris

variable {uris : List String} {uri : String}

lemma toFinset_add :
    (if uri ∈ uris then uris else uris ++ [uri]).toFinset = insert uri uris.toFinset := by
  split
  · rw [Finset.insert_eq_of_mem (mem_toFinset.mpr ‹_›)]
  · ext other
    simp

lemma nodup_add (nodup : uris.Nodup) : (if uri ∈ uris then uris else uris ++ [uri]).Nodup := by
  split
  · exact nodup
  · rename_i unknown
    exact nodup_append.mpr
      ⟨nodup, by simp, by simpa using fun other mem => ne_of_mem_of_not_mem mem unknown⟩

lemma toFinset_remove (nodup : uris.Nodup) :
    (uris.erase uri).toFinset = uris.toFinset.erase uri := by
  ext other
  simp [nodup.mem_erase_iff]

lemma addConnection_uris (b : LoadBalancer) : (b.addConnection uri).connectionUris =
    if uri ∈ b.connectionUris then b.connectionUris else b.connectionUris ++ [uri] := by
  unfold LoadBalancer.addConnection
  split <;> rfl

end Uris

def listed (pipes : Nat → Option String) (uris : List String) : Peers := ⟨pipes, uris.toFinset⟩

namespace Push

def pipeCall (s : Push α) : PipeCall → Option (Push α)
  | .attached p uri => some ({ s with pipeUri := update s.pipeUri p (some uri) }.attach p)
  | .detached p => some (s.detach p)

def peers (s : Push α) : Peers := listed s.pipeReadToEndpointUri s.loadBalancer.connectionUris

lemma follows :
    Follows (pipeCall (α := α)) peers fun s => s.loadBalancer.connectionUris.Nodup := by
  rintro s (⟨p, uri⟩ | p) _ nodup ⟨⟩
  · simp [attach, addConnection, addConnection_uris, peers, listed, Peers.call, toFinset_add,
      nodup_add nodup]
  · unfold detach
    cases mapped : s.pipeReadToEndpointUri p with
    | none => exact ⟨nodup, by simp [peers, listed, Peers.call, mapped]⟩
    | some uri =>
      exact ⟨nodup.erase uri, by simp [peers, listed, Peers.call, mapped, removeConnection,
        LoadBalancer.removeConnection, toFinset_remove nodup]⟩

end Push

namespace Dealer

def pipeCall (s : Dealer α) : PipeCall → Option (Dealer α)
  | .attached p uri => some ({ s with pipeUri := update s.pipeUri p (some uri) }.attach p)
  | .detached p => some (s.detach p)

def peers (s : Dealer α) : Peers := listed s.pipeReadToEndpointUri s.loadBalancer.connectionUris

lemma follows :
    Follows (pipeCall (α := α)) peers fun s => s.loadBalancer.connectionUris.Nodup := by
  rintro s (⟨p, uri⟩ | p) _ nodup ⟨⟩
  · simp [attach, addConnection_uris, peers, listed, Peers.call, toFinset_add, nodup_add nodup]
  · unfold detach
    cases mapped : s.pipeReadToEndpointUri p with
    | none => exact ⟨nodup, by simp [peers, listed, Peers.call, mapped, removePipe]⟩
    | some uri =>
      exact ⟨nodup.erase uri, by simp [peers, listed, Peers.call, mapped, removeConnection,
        removePipe, LoadBalancer.removeConnection, toFinset_remove nodup]⟩

end Dealer

namespace Pub

def pipeCall (s : Pub α) : PipeCall → Option (Pub α)
  | .attached p uri => some ({ s with pipeUri := update s.pipeUri p (some uri) }.attach p)
  | .detached p => some (s.detach p)

def peers (s : Pub α) : Peers := ⟨s.pipeReadToEndpointUri, s.peerUris⟩

lemma follows : Follows (pipeCall (α := α)) peers fun _ => True := by
  rintro s (⟨p, uri⟩ | p) _ - ⟨⟩
  · exact ⟨trivial, by simp [attach, addPeerUri, peers, Peers.call]⟩
  · refine ⟨trivial, ?_⟩
    unfold detach
    cases mapped : s.pipeReadToEndpointUri p <;> simp [peers, Peers.call, mapped, removePeerUri]

end Pub

namespace Req

def pipeCall (s : Req α) : PipeCall → Option (Req α)
  | .attached p uri => { s with pipeUri := update s.pipeUri p (some uri) }.attach p
  | .detached p => s.detachBegin p

def peers (s : Req α) : Peers := listed s.pipeReadToEndpointUri s.loadBalancer.connectionUris

lemma follows :
    Follows (pipeCall (α := α)) peers fun s => s.loadBalancer.connectionUris.Nodup := by
  rintro s (⟨p, uri⟩ | p) t nodup taken
  · simp only [pipeCall, attach, update_self, Option.some.injEq] at taken
    subst taken
    simp [addConnection, addConnection_uris, peers, listed, Peers.call, toFinset_add,
      nodup_add nodup]
  · simp only [pipeCall, detachBegin] at taken
    split at taken
    · split at taken
      · rename_i mapped
        cases taken
        exact ⟨nodup, by simp [peers, listed, Peers.call, mapped]⟩
      · rename_i uri mapped
        split at taken <;> cases taken <;> exact ⟨nodup.erase uri, by
          simp [peers, listed, Peers.call, mapped, removeConnection,
            LoadBalancer.removeConnection, toFinset_remove nodup]⟩
    · cases taken

end Req

/-- The four sockets send to the URIs of their attached pipes just as long as no pipe is detached
while another one has its URI. -/
theorem sends_to_attached (sndtimeo rcvtimeo : Timeout) (sndhwm : Nat) :
    SendsToAttached Push.pipeCall Push.peers (.new sndtimeo : Push α) ∧
    SendsToAttached Pub.pipeCall Pub.peers (.new : Pub α) ∧
    SendsToAttached Dealer.pipeCall Dealer.peers (.new sndtimeo sndhwm : Dealer α) ∧
    SendsToAttached Req.pipeCall Req.peers (.new sndtimeo rcvtimeo : Req α) := by
  refine ⟨Push.follows.sendsToAttached ?_ ?_, Pub.follows.sendsToAttached trivial ?_,
    Dealer.follows.sendsToAttached ?_ ?_, Req.follows.sendsToAttached ?_ ?_⟩
  all_goals first
    | exact nodup_nil
    | exact fun uri => iff_of_false (Finset.notMem_empty _) nofun

/-- The session of a peer is replaced: the new pipe is attached before the old one is detached. -/
theorem replaced_peer_removed : ∃ s, run Push.pipeCall (.new .infinite : Push UInt8)
    [.attached 0 "tcp://a", .attached 1 "tcp://a", .detached 0] = some s ∧
    s.pipeReadToEndpointUri 1 = some "tcp://a" ∧ s.loadBalancer.connectionUris = [] :=
  ⟨_, rfl, rfl, rfl⟩

end Rzmq
