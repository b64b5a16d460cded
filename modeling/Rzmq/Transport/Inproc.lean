import Rzmq.Socket.Outgoing
import Rzmq.Socket.Router.Table
import Mathlib.Data.Finset.Basic

/-! A socket that is bound to inproc names, and the connectors of these names.  The tables of the
core and of the socket patterns are keyed by the URI of the connector, which is made of the name
alone: the second connector of a name takes the place of the first. -/

namespace Rzmq

open List Option Nat Function Octet Transition
open RouterSocket (identityOr pipeIdToPlaceholderIdentity)

variable {α : Type}

/-! ### The connectors, and what the socket patterns keep of them -/

/-- `SystemEvent::InprocBindingRequest`.  The channel to the connector is named by the identifier of
the pipe that the connector reads from. -/
structure InprocBindingRequest where
  targetInprocName : String
  connectorUri : String
  connectorPipeWriteId : Nat
  connectorPipeReadId : Nat
deriving DecidableEq

namespace InprocBindingRequest

abbrev binderReadId (r : InprocBindingRequest) : Nat := r.connectorPipeWriteId

abbrev binderWriteId (r : InprocBindingRequest) : Nat := r.connectorPipeReadId

abbrev channel (r : InprocBindingRequest) : Nat := r.connectorPipeReadId

def connectInproc (name : String) (writeId readId : Nat) : InprocBindingRequest :=
  ⟨name, "inproc://" ++ name, writeId, readId⟩

end InprocBindingRequest

abbrev Endpoints : Type := AList fun _ : String => EndpointInfo

/-- How the socket finds its peers: by turns (PUSH, DEALER, REQ), all of them (PUB), or by identity
(ROUTER). -/
inductive InprocLogic (α : Type) where
  | balanced (loadBalancer : LoadBalancer) (pipeReadToEndpointUri : Nat → Option String)
  | distributed (peerUris : Finset String) (pipeReadToEndpointUri : Nat → Option String)
  | routed (routerMap : RouterMap α)

inductive InprocPattern where
  | balanced
  | distributed
  | routed

namespace InprocLogic

def new : InprocPattern → InprocLogic α
  | .balanced => .balanced .new fun _ => none
  | .distributed => .distributed ∅ fun _ => none
  | .routed => .routed ⟨fun _ => none, ∅⟩

def isRouted : InprocLogic α → Bool
  | .routed _ => true
  | _ => false

section Mapped

variable {attached : List InprocBindingRequest} {r : InprocBindingRequest}
  {pipes : Nat → Option String} {f g : String → Bool}

def Mapped (pipes : Nat → Option String) (attached : List InprocBindingRequest) : Prop :=
  ∀ pipe uri, pipes pipe = some uri ↔ ∃ r ∈ attached, r.binderReadId = pipe ∧ r.connectorUri = uri

lemma filter_congr {found}
    (same : ∀ uri, found = some uri → f uri = g uri) : found.filter f = found.filter g := by
  cases found with
  | none => rfl
  | some uri => simp only [filter_some, same uri rfl]

lemma Mapped.attach (mapped : Mapped pipes attached)
    (pipe : ∀ q ∈ attached, q.binderReadId ≠ r.binderReadId) :
    Mapped (update pipes r.binderReadId (some r.connectorUri)) (attached ++ [r]) := by
  intro p uri
  have before := mapped p uri
  by_cases here : p = r.binderReadId
  · subst here
    rw [update_self]
    grind
  · rw [update_of_ne here]
    grind

lemma Mapped.listed_attach (mapped : Mapped pipes attached)
    (uri : ∀ q ∈ attached, q.connectorUri ≠ r.connectorUri) (added : f r.connectorUri = true)
    (same : ∀ u, u ≠ r.connectorUri → f u = g u) (p : Nat) :
    (update pipes r.binderReadId (some r.connectorUri) p).filter f =
      if p = r.binderReadId then some r.connectorUri else (pipes p).filter g := by
  by_cases here : p = r.binderReadId
  · subst here
    simp [added]
  · rw [update_of_ne here, if_neg here]
    refine filter_congr fun u found => same u ?_
    obtain ⟨q, mem, -, rfl⟩ := (mapped p u).mp found
    exact uri q mem

lemma Mapped.listed_remove (mapped : Mapped pipes attached)
    (own : ∀ q ∈ attached, q.connectorUri = r.connectorUri → q = r)
    (only : ∀ q ∈ attached, q.binderReadId = r.binderReadId → q = r)
    (removed : f r.connectorUri = false) (same : ∀ u, u ≠ r.connectorUri → f u = g u) (p : Nat) :
    (pipes p).filter f = if p = r.binderReadId then none else (pipes p).filter g := by
  by_cases here : p = r.binderReadId
  · rw [if_pos here]
    cases found : pipes p with
    | none => rfl
    | some u =>
      obtain ⟨q, mem, at_p, rfl⟩ := (mapped p u).mp found
      rw [only q mem (at_p.trans here), filter_some, removed]
      rfl
  · rw [if_neg here]
    refine filter_congr fun u found => same u ?_
    obtain ⟨q, mem, at_p, rfl⟩ := (mapped p u).mp found
    intro named
    rw [own q mem named] at at_p
    exact here at_p.symm

end Mapped

variable [Octet α] [DecidableEq α]

def pipeAttached (pipeReadIdToEndpointUri : Nat → Option String) (endpoints : Endpoints)
    (pipe : Nat) (l : InprocLogic α) : InprocLogic α :=
  match pipeReadIdToEndpointUri pipe with
  | none => l
  | some uri =>
    match l with
    | .balanced loadBalancer pipes =>
      .balanced (loadBalancer.addConnection uri) (update pipes pipe (some uri))
    | .distributed peerUris pipes =>
      .distributed (insert uri peerUris) (update pipes pipe (some uri))
    | .routed routerMap =>
      match endpoints.lookup uri with
      | none => .routed routerMap
      | some _ => .routed (routerMap.addPeer (identityOr pipe none) pipe uri)

def pipeDetached (pipe : Nat) : InprocLogic α → InprocLogic α
  | .balanced loadBalancer pipes =>
    .balanced (((pipes pipe).map loadBalancer.removeConnection).getD loadBalancer)
      (update pipes pipe none)
  | .distributed peerUris pipes =>
    .distributed (((pipes pipe).map peerUris.erase).getD peerUris) (update pipes pipe none)
  | .routed routerMap => .routed (routerMap.removePeerByReadPipe pipe)

/-- A call finds no connection under the URI, or a closed one, and takes the peer out. -/
def giveUp (pipe : Nat) (uri : String) : InprocLogic α → InprocLogic α
  | .balanced loadBalancer pipes => .balanced (loadBalancer.removeConnection uri) pipes
  | .distributed peerUris pipes => .distributed (peerUris.erase uri) pipes
  | .routed routerMap =>
    .routed (routerMap.removePeerByIdentity (pipeIdToPlaceholderIdentity pipe))

def peerUri (pipe : Nat) : InprocLogic α → Option String
  | .balanced loadBalancer pipes => (pipes pipe).filter fun uri => uri ∈ loadBalancer.connectionUris
  | .distributed peerUris pipes => (pipes pipe).filter fun uri => uri ∈ peerUris
  | .routed routerMap =>
    (routerMap.identityToPeerInfo (pipeIdToPlaceholderIdentity pipe)).map (·.uri)

/-- A call takes the peer of a pipe: it is its turn, it is one of all, or the message is for it. -/
def select (pipe : Nat) : InprocLogic α → Option (String × InprocLogic α)
  | .balanced loadBalancer pipes =>
    match loadBalancer.getNextConnectionUri with
    | none => none
    | some (uri, next) => if pipes pipe = some uri then some (uri, .balanced next pipes) else none
  | .distributed peerUris pipes =>
    match pipes pipe with
    | none => none
    | some uri => if uri ∈ peerUris then some (uri, .distributed peerUris pipes) else none
  | .routed routerMap =>
    (routerMap.identityToPeerInfo (pipeIdToPlaceholderIdentity pipe)).map fun info =>
      (info.uri, .routed routerMap)

def Fits (attached : List InprocBindingRequest) : InprocLogic α → Prop
  | .balanced loadBalancer pipes =>
    loadBalancer.connectionUris.Nodup ∧ Mapped pipes attached ∧
      ∀ uri ∈ loadBalancer.connectionUris, ∃ r ∈ attached, r.connectorUri = uri
  | .distributed peerUris pipes =>
    Mapped pipes attached ∧ ∀ uri ∈ peerUris, ∃ r ∈ attached, r.connectorUri = uri
  | .routed routerMap =>
    (∀ pipe identity, routerMap.readPipeToIdentity.lookup pipe = some identity →
      identity = pipeIdToPlaceholderIdentity pipe) ∧
    ∀ pipe info,
      routerMap.identityToPeerInfo (pipeIdToPlaceholderIdentity pipe) = some info →
      (routerMap.readPipeToIdentity.lookup pipe).isSome ∧
        ∃ r ∈ attached, r.binderReadId = pipe ∧ r.connectorUri = info.uri

omit [DecidableEq α] in
lemma placeholder_injective :
    Injective (pipeIdToPlaceholderIdentity : Nat → List α) := by
  intro p q same
  have texts := (String.append_right_inj "pipe:").mp (bytes_utf8_injective (α := α) same)
  have digits : toDigits 10 p = toDigits 10 q := by
    simpa [repr_eq_ofList_toDigits, String.ofList_inj] using texts
  rw [← ofDigitChars_ten_toDigits (n := p), digits, ofDigitChars_ten_toDigits]

variable {l l' : InprocLogic α} {attached : List InprocBindingRequest} {r : InprocBindingRequest}
  {pipes : Nat → Option String} {uri : String}

@[simp] lemma isRouted_pipeAttached (l : InprocLogic α) (pipes : Nat → Option String)
    (endpoints : Endpoints) (pipe : Nat) :
    (l.pipeAttached pipes endpoints pipe).isRouted = l.isRouted := by
  unfold pipeAttached
  split
  · rfl
  · cases l with
    | balanced | distributed => rfl
    | routed =>
      dsimp only
      split <;> rfl

omit [Octet α] in
@[simp] lemma isRouted_pipeDetached (l : InprocLogic α) (pipe : Nat) :
    (l.pipeDetached pipe).isRouted = l.isRouted := by
  cases l <;> rfl

@[simp] lemma isRouted_giveUp (l : InprocLogic α) (pipe : Nat) (uri : String) :
    (l.giveUp pipe uri).isRouted = l.isRouted := by
  cases l <;> rfl

omit [DecidableEq α] in
lemma select_some {pipe : Nat} (selected : l.select pipe = some (uri, l')) :
    l.peerUri pipe = some uri ∧ (∀ p, l'.peerUri p = l.peerUri p) ∧
      l'.isRouted = l.isRouted ∧ ∀ attached, l.Fits attached → l'.Fits attached := by
  cases l with
  | balanced loadBalancer pipes =>
    simp only [InprocLogic.select, LoadBalancer.getNextConnectionUri] at selected
    cases uris : loadBalancer.connectionUris with
    | nil => simp [uris] at selected
    | cons next rest =>
      simp only [uris] at selected
      split at selected
      · rename_i turn
        cases selected
        have rotated := perm_append_singleton uri rest
        refine ⟨by simp [peerUri, turn, uris], fun p => ?_, rfl, ?_⟩
        · exact filter_congr fun v _ => by simp only [uris, rotated.mem_iff]
        · rintro attached ⟨nodup, mapped, known⟩
          rw [uris] at nodup known
          exact ⟨rotated.nodup_iff.mpr nodup, mapped, fun u mem => known u (rotated.mem_iff.mp mem)⟩
      · cases selected
  | distributed peerUris pipes =>
    simp only [InprocLogic.select] at selected
    split at selected
    · cases selected
    · rename_i found
      split at selected
      · rename_i member
        cases selected
        exact ⟨by simp [peerUri, found, member], fun _ => rfl, rfl, fun _ => id⟩
      · cases selected
  | routed routerMap =>
    obtain ⟨info, found, same⟩ := map_eq_some_iff.mp selected
    cases same
    exact ⟨by simp [peerUri, found], fun _ => rfl, rfl, fun _ => id⟩

/-! A connector that finds its URI unused is entered beside the others. -/

lemma Fits.attach (fits : l.Fits attached) (pipe : ∀ q ∈ attached, q.binderReadId ≠ r.binderReadId)
    (uri : ∀ q ∈ attached, q.connectorUri ≠ r.connectorUri) {endpoints}
    (mapped : pipes r.binderReadId = some r.connectorUri)
    (entered : (endpoints.lookup r.connectorUri).isSome) :
    (l.pipeAttached pipes endpoints r.binderReadId).Fits (attached ++ [r]) ∧
      ∀ p, (l.pipeAttached pipes endpoints r.binderReadId).peerUri p =
        if p = r.binderReadId then some r.connectorUri else l.peerUri p := by
  cases l with
  | balanced loadBalancer own =>
    obtain ⟨nodup, maps, known⟩ := fits
    have unknown : r.connectorUri ∉ loadBalancer.connectionUris := by grind
    simp only [pipeAttached, mapped, LoadBalancer.addConnection, if_neg unknown]
    exact ⟨⟨by grind, maps.attach pipe, by grind⟩, maps.listed_attach uri (by simp)
      fun u other => by
      simp [other]⟩
  | distributed peerUris own =>
    obtain ⟨maps, known⟩ := fits
    simp only [pipeAttached, mapped]
    exact ⟨⟨maps.attach pipe, by grind⟩, maps.listed_attach uri (by simp) fun u other => by
      simp [other]⟩
  | routed routerMap =>
    obtain ⟨named, known⟩ := fits
    obtain ⟨info, found⟩ := isSome_iff_exists.mp entered
    simp only [pipeAttached, mapped, found, identityOr, RouterMap.addPeer_eq]
    have forward (p : Nat) (other : p ≠ r.binderReadId) :
        (routerMap.identified (pipeIdToPlaceholderIdentity r.binderReadId)
          r.binderReadId ⟨r.connectorUri, .default⟩).identityToPeerInfo
            (pipeIdToPlaceholderIdentity p) =
          routerMap.identityToPeerInfo (pipeIdToPlaceholderIdentity p) := by
      have apart := placeholder_injective (α := α).ne other
      simp only [RouterMap.identified, if_neg apart]
      refine if_neg fun had => apart (named _ _ had)
    have reverse (p : Nat) : (routerMap.identified
        (pipeIdToPlaceholderIdentity r.binderReadId) r.binderReadId
        ⟨r.connectorUri, .default⟩).readPipeToIdentity.lookup p = if p = r.binderReadId
          then some (pipeIdToPlaceholderIdentity r.binderReadId)
          else routerMap.readPipeToIdentity.lookup p := by
      split
      · subst p
        exact AList.lookup_insert _
      · exact AList.lookup_insert_ne ‹_›
    have here : (routerMap.identified (pipeIdToPlaceholderIdentity r.binderReadId)
        r.binderReadId ⟨r.connectorUri, .default⟩).identityToPeerInfo
          (pipeIdToPlaceholderIdentity r.binderReadId) =
        some ⟨r.connectorUri, .default⟩ := by simp [RouterMap.identified]
    exact ⟨⟨by grind, by grind⟩, by grind [peerUri]⟩

/-! A connector that leaves, or whose calls give it up, is taken out and no other. -/

lemma Fits.giveUp (fits : l.Fits attached)
    (own : ∀ q ∈ attached, q.connectorUri = r.connectorUri → q = r)
    (only : ∀ q ∈ attached, q.binderReadId = r.binderReadId → q = r) :
    (l.giveUp r.binderReadId r.connectorUri).Fits attached ∧
      ∀ p, (l.giveUp r.binderReadId r.connectorUri).peerUri p =
        if p = r.binderReadId then none else l.peerUri p := by
  cases l with
  | balanced loadBalancer pipes =>
    obtain ⟨nodup, maps, known⟩ := fits
    refine ⟨⟨nodup.erase _, maps, fun u mem => known u (mem_of_mem_erase mem)⟩, ?_⟩
    refine maps.listed_remove own only ?_ fun u other => ?_
    · simp [LoadBalancer.removeConnection, nodup.mem_erase_iff]
    · simp [LoadBalancer.removeConnection, nodup.mem_erase_iff, other]
  | distributed peerUris pipes =>
    obtain ⟨maps, known⟩ := fits
    refine ⟨⟨maps, fun u mem => known u (Finset.mem_of_mem_erase mem)⟩, ?_⟩
    exact maps.listed_remove own only (by simp) fun u other => by simp [other]
  | routed routerMap =>
    obtain ⟨named, known⟩ := fits
    have kept (p : Nat) (other : p ≠ r.binderReadId) :
        (routerMap.removePeerByIdentity
          (pipeIdToPlaceholderIdentity r.binderReadId)).identityToPeerInfo
            (pipeIdToPlaceholderIdentity p) =
          routerMap.identityToPeerInfo (pipeIdToPlaceholderIdentity p) := by
      rw [RouterMap.removePeerByIdentity_forward, if_neg (placeholder_injective.ne other)]
    have gone : (routerMap.removePeerByIdentity
        (pipeIdToPlaceholderIdentity r.binderReadId)).identityToPeerInfo
          (pipeIdToPlaceholderIdentity r.binderReadId) = none := by
      rw [RouterMap.removePeerByIdentity_forward, if_pos rfl]
    refine ⟨⟨fun p identity has => ?_, fun p info has => ?_⟩, by
      grind [InprocLogic.giveUp, peerUri]⟩
    · exact named p identity (RouterMap.removePeerByIdentity_lookup has)
    · have here : p ≠ r.binderReadId := by
        rintro rfl
        cases gone.symm.trans has
      rw [kept p here] at has
      obtain ⟨listed, rest⟩ := known p info has
      obtain ⟨identity, there⟩ := isSome_iff_exists.mp listed
      have apart : identity ≠ pipeIdToPlaceholderIdentity r.binderReadId := by
        rw [named p identity there]
        exact placeholder_injective.ne here
      exact ⟨isSome_of_eq_some ((RouterMap.removePeerByIdentity_reverse apart).mpr there), rest⟩

lemma Fits.detach (fits : l.Fits attached) (mem : r ∈ attached)
    (own : ∀ q ∈ attached, q.connectorUri = r.connectorUri → q = r)
    (only : ∀ q ∈ attached, q.binderReadId = r.binderReadId → q = r)
    {rest} (others : ∀ q, q ∈ rest ↔ q ∈ attached ∧ q ≠ r) :
    (l.pipeDetached r.binderReadId).Fits rest ∧
      ∀ p, (l.pipeDetached r.binderReadId).peerUri p =
        if p = r.binderReadId then none else l.peerUri p := by
  have unmapped {pipes : Nat → Option String} (maps : Mapped pipes attached) :
      Mapped (update pipes r.binderReadId none) rest := by
    intro p uri
    have before := maps p uri
    by_cases here : p = r.binderReadId
    · rw [here, update_self]
      grind
    · rw [update_of_ne here]
      grind
  have listed {pipes : Nat → Option String} (maps : Mapped pipes attached) {f g : String → Bool}
      (removed : f r.connectorUri = false) (same : ∀ u, u ≠ r.connectorUri → f u = g u) (p : Nat) :
      (update pipes r.binderReadId none p).filter f =
        if p = r.binderReadId then none else (pipes p).filter g := by
    by_cases here : p = r.binderReadId
    · rw [if_pos here, here, update_self]
      rfl
    · rw [update_of_ne here]
      exact maps.listed_remove own only removed same p
  cases l with
  | balanced loadBalancer pipes =>
    obtain ⟨nodup, maps, known⟩ := fits
    have mapped := (maps _ _).mpr ⟨r, mem, rfl, rfl⟩
    simp only [pipeDetached, mapped, map_some, getD_some]
    refine ⟨⟨nodup.erase _, unmapped maps, ?_⟩, listed maps ?_ fun u other => ?_⟩
    · grind [LoadBalancer.removeConnection]
    · simp [LoadBalancer.removeConnection, nodup.mem_erase_iff]
    · simp [LoadBalancer.removeConnection, nodup.mem_erase_iff, other]
  | distributed peerUris pipes =>
    obtain ⟨maps, known⟩ := fits
    have mapped := (maps _ _).mpr ⟨r, mem, rfl, rfl⟩
    simp only [pipeDetached, mapped, map_some, getD_some]
    exact ⟨⟨unmapped maps, by grind⟩, listed maps (by simp) fun u other => by simp [other]⟩
  | routed routerMap =>
    obtain ⟨named, known⟩ := fits
    have kept (p : Nat) (other : p ≠ r.binderReadId) :
        (routerMap.removePeerByReadPipe r.binderReadId).identityToPeerInfo
            (pipeIdToPlaceholderIdentity p) =
          routerMap.identityToPeerInfo (pipeIdToPlaceholderIdentity p) := by
      rw [RouterMap.removePeerByReadPipe_forward]
      exact if_neg fun had => placeholder_injective.ne other (named _ _ had)
    have gone : (routerMap.removePeerByReadPipe r.binderReadId).identityToPeerInfo
        (pipeIdToPlaceholderIdentity r.binderReadId) = none := by
      rw [RouterMap.removePeerByReadPipe_forward]
      split
      · rfl
      · rename_i unlisted
        by_contra found
        obtain ⟨info, found⟩ := ne_none_iff_exists'.mp found
        obtain ⟨identity, has⟩ := isSome_iff_exists.mp (known _ _ found).1
        exact unlisted (named _ _ has ▸ has)
    have reverse (p : Nat) :
        (routerMap.removePeerByReadPipe r.binderReadId).readPipeToIdentity.lookup p =
          if p = r.binderReadId then none else routerMap.readPipeToIdentity.lookup p := by
      split
      · subst p
        exact AList.lookup_erase ..
      · exact AList.lookup_erase_ne ‹_›
    exact ⟨⟨by grind, by grind⟩, by grind [pipeDetached, peerUri]⟩

lemma giveUp_peerUri (pipe : Nat) (fits : l.Fits attached) (unrouted : l.isRouted = false)
    {other : Nat} (listed : l.peerUri other = some uri) :
    (l.giveUp pipe uri).peerUri other = none := by
  cases l with
  | balanced loadBalancer pipes =>
    have mapped := (filter_eq_some_iff.mp listed).1
    simp [InprocLogic.giveUp, peerUri, mapped, LoadBalancer.removeConnection, fits.1.mem_erase_iff]
  | distributed peerUris pipes =>
    have mapped := (filter_eq_some_iff.mp listed).1
    simp [InprocLogic.giveUp, peerUri, mapped]
  | routed routerMap => cases unrouted

omit [DecidableEq α] in
lemma Fits.known (fits : l.Fits attached) {pipe : Nat} (sent : l.peerUri pipe = some uri) :
    ∃ q ∈ attached, q.binderReadId = pipe ∧ q.connectorUri = uri := by
  cases l with
  | balanced loadBalancer pipes =>
    obtain ⟨-, maps, -⟩ := fits
    exact (maps pipe uri).mp (filter_eq_some_iff.mp sent).1
  | distributed peerUris pipes =>
    obtain ⟨maps, -⟩ := fits
    exact (maps pipe uri).mp (filter_eq_some_iff.mp sent).1
  | routed routerMap =>
    obtain ⟨info, found, rfl⟩ := map_eq_some_iff.mp sent
    exact (fits.2 pipe info found).2

end InprocLogic

/-! ### The binder -/

namespace InprocBinder

inductive Stage where
  /-- It has the URI of the peer. -/
  | picked
  /-- It has a connection, and with it a channel. -/
  | sending (channel : Nat)
  /-- It is about to take the URI out. -/
  | failed
deriving DecidableEq

structure Call where
  request : InprocBindingRequest
  uri : String
  stage : Stage

end InprocBinder

/-- `published` are all requests of connectors, `pending` those yet to be processed, `attached`
those whose connector the binder has and has not seen close; `delivered` are the messages put into a
channel, each with the connector that it was for. -/
structure InprocBinder (α : Type) where
  nextHandle : Nat
  boundInprocNames : List String
  published : List InprocBindingRequest
  pending : List InprocBindingRequest
  endpoints : Endpoints
  pipeReadIdToEndpointUri : Nat → Option String
  logic : InprocLogic α
  calls : List InprocBinder.Call
  attached : List InprocBindingRequest
  delivered : List (InprocBindingRequest × Nat)

inductive InprocAction where
  | bindInproc (name : String)
  | unbindInproc (name : String)
  /-- `connect_inproc`; others take `gap` handles between the two of the connector. -/
  | connectInproc (name : String) (gap : Nat)
  /-- The binder processes the `i`-th of the requests. -/
  | process (i : Nat)
  /-- `InprocPipePeerClosed`. -/
  | peerClosed (name : String) (closedByConnectorPipeReadId : Nat)
  | pick (request : InprocBindingRequest)
  | resolve (i : Nat)
  /-- The channel takes a message; a ROUTER may go on with the next frame. -/
  | accept (i : Nat) (more : Bool)
  | refuse (i : Nat) (closed : Bool)
  | giveUp (i : Nat)

namespace InprocBinder

open InprocLogic

variable [Octet α] [DecidableEq α]

def new (nextHandle : Nat) (pattern : InprocPattern) : InprocBinder α where
  nextHandle
  boundInprocNames := []
  published := []
  pending := []
  endpoints := ∅
  pipeReadIdToEndpointUri _ := none
  logic := .new pattern
  calls := []
  attached := []
  delivered := []

variable (s : InprocBinder α)

def processInprocBindingRequest (r : InprocBindingRequest) : InprocBinder α :=
  let endpoints := s.endpoints.insert r.connectorUri
    ⟨r.channel, some (r.binderWriteId, r.binderReadId), s.nextHandle, none⟩
  let pipes := update s.pipeReadIdToEndpointUri r.binderReadId (some r.connectorUri)
  { s with
    nextHandle := s.nextHandle + 1
    endpoints
    pipeReadIdToEndpointUri := pipes
    logic := s.logic.pipeAttached pipes endpoints r.binderReadId
    attached := s.attached ++ [r] }

def cleanupSessionStateByPipe (pipe : Nat) : InprocBinder α :=
  let s :=
    match s.pipeReadIdToEndpointUri pipe with
    | none => s
    | some uri =>
      match s.endpoints.lookup uri with
      | none => s
      | some info => { s with
          endpoints := s.endpoints.erase uri
          pipeReadIdToEndpointUri :=
            if info.pipeIds.isSome then update s.pipeReadIdToEndpointUri pipe none
            else s.pipeReadIdToEndpointUri }
  { s with logic := s.logic.pipeDetached pipe }

def handleInprocPipePeerClosed (writeId : Nat) : InprocBinder α :=
  let found := s.endpoints.entries.find? fun entry => entry.2.pipeIds.any fun ids => ids.1 = writeId
  let s :=
    match found.bind fun entry => entry.2.pipeIds with
    | none => s
    | some (_, readId) => s.cleanupSessionStateByPipe readId
  { s with attached := s.attached.filter fun r => r.binderWriteId ≠ writeId }

/-- A call that finds its URI without a connection; a ROUTER takes the identity out at once. -/
def lose (i : Nat) (c : Call) : InprocBinder α :=
  if s.logic.isRouted then { s with
    logic := s.logic.giveUp c.request.binderReadId c.uri
    calls := s.calls.eraseIdx i }
  else { s with calls := s.calls.set i { c with stage := .failed } }

def resolve (i : Nat) (c : Call) : InprocBinder α :=
  match s.endpoints.lookup c.uri with
  | none => s.lose i c
  | some info => { s with calls := s.calls.set i { c with stage := .sending info.connectionIface } }

/-- A message is put into the channel.  The next frame of a ROUTER looks for the connection anew. -/
def accept (i : Nat) (c : Call) (channel : Nat) (more : Bool) : InprocBinder α :=
  { s with
    delivered := s.delivered ++ [(c.request, channel)]
    calls :=
      if s.logic.isRouted && more then s.calls.set i { c with stage := .picked }
      else s.calls.eraseIdx i }

def refuse (i : Nat) (c : Call) (closed : Bool) : InprocBinder α :=
  { s with
    calls :=
      if !s.logic.isRouted && closed then s.calls.set i { c with stage := .failed }
      else s.calls.eraseIdx i }

def step : InprocAction → Option (InprocBinder α)
  | .bindInproc name => some { s with boundInprocNames := name :: s.boundInprocNames }
  | .unbindInproc name =>
    some { s with boundInprocNames := s.boundInprocNames.filter fun bound => bound ≠ name }
  | .connectInproc name gap =>
    let r := InprocBindingRequest.connectInproc name s.nextHandle (s.nextHandle + 1 + gap)
    some { s with
      nextHandle := s.nextHandle + gap + 3
      published := s.published ++ [r]
      pending := s.pending ++ [r] }
  | .process i =>
    match s.pending[i]? with
    | none => none
    | some r =>
      let s := { s with pending := s.pending.eraseIdx i }
      some (if r.targetInprocName ∈ s.boundInprocNames then s.processInprocBindingRequest r else s)
  | .peerClosed name writeId =>
    some (if name ∈ s.boundInprocNames then s.handleInprocPipePeerClosed writeId else s)
  | .pick r =>
    if r ∈ s.attached then
      (s.logic.select r.binderReadId).map fun (uri, logic) =>
        { s with logic, calls := s.calls ++ [⟨r, uri, .picked⟩] }
    else none
  | .resolve i =>
    match s.calls[i]? with
    | some c => if c.stage = .picked then some (s.resolve i c) else none
    | none => none
  | .accept i more =>
    match s.calls[i]? with
    | some c =>
      match c.stage with
      | .sending channel => some (s.accept i c channel more)
      | _ => none
    | none => none
  | .refuse i closed =>
    match s.calls[i]? with
    | some c =>
      match c.stage with
      | .sending _ => some (s.refuse i c closed)
      | _ => none
    | none => none
  | .giveUp i =>
    match s.calls[i]? with
    | some c =>
      if c.stage = .failed then some { s with
        logic := s.logic.giveUp c.request.binderReadId c.uri
        calls := s.calls.eraseIdx i }
      else none
    | none => none

def route (pipe : Nat) : Option Nat :=
  (s.logic.peerUri pipe).bind fun uri => (s.endpoints.lookup uri).map (·.connectionIface)

/-- Each connector has an entry of its own, and what is sent to it comes to its channel. -/
structure Own : Prop where
  count : s.endpoints.keys.length = s.attached.length
  entry : ∀ r ∈ s.attached, s.pipeReadIdToEndpointUri r.binderReadId = some r.connectorUri ∧
    ∃ info, s.endpoints.lookup r.connectorUri = some info ∧
      info.pipeIds = some (r.binderWriteId, r.binderReadId) ∧ info.connectionIface = r.channel
  route : ∀ r ∈ s.attached, ∀ channel, s.route r.binderReadId = some channel → channel = r.channel
  delivered : ∀ d ∈ s.delivered, d.2 = d.1.channel

def Concerns (r : InprocBindingRequest) : InprocAction → Prop
  | .bindInproc _ | .unbindInproc _ | .connectInproc _ _ => False
  | .process i => s.pending[i]? = some r
  | .peerClosed _ writeId => r.binderWriteId = writeId
  | .pick q => q = r
  | .resolve i | .accept i _ | .refuse i _ | .giveUp i =>
    ∃ c, s.calls[i]? = some c ∧ c.request = r

structure Steady (a : InprocAction) (t : InprocBinder α) : Prop where
  others : ∀ r ∈ s.attached, ¬ s.Concerns r a →
    r ∈ t.attached ∧ t.route r.binderReadId = s.route r.binderReadId
  fresh : ∀ r ∈ t.attached, r ∉ s.attached → t.route r.binderReadId = some r.channel

def Unused : InprocAction → Prop
  | .process i => ∀ r ∈ s.pending[i]?, r.targetInprocName ∈ s.boundInprocNames →
    s.endpoints.lookup r.connectorUri = none ∧ ∀ c ∈ s.calls, c.uri ≠ r.connectorUri
  | _ => True

/-! ### What the binder keeps while the URIs of its connectors differ -/

/-- A call goes by the URI of its connector, which no other connector has meanwhile. -/
structure Held (c : Call) : Prop where
  request : c.request ∈ s.published
  served : c.request ∉ s.pending
  uri : c.uri = c.request.connectorUri
  own : ∀ r ∈ s.attached, r.connectorUri = c.uri → r = c.request
  channel : ∀ channel, c.stage = .sending channel → channel = c.request.channel
  failed : c.stage = .failed → s.logic.isRouted = false

structure Separate : Prop where
  pipe : ∀ q ∈ s.published, ∀ r ∈ s.published, q.binderReadId = r.binderReadId → q = r
  channel : ∀ q ∈ s.published, ∀ r ∈ s.published, q.channel = r.channel → q = r
  below : ∀ r ∈ s.published, r.binderReadId < s.nextHandle ∧ r.channel < s.nextHandle
  pending : ∀ r ∈ s.pending, r ∈ s.published ∧ r ∉ s.attached
  once : s.pending.Nodup
  attached : ∀ r ∈ s.attached, r ∈ s.published
  attachedOnce : s.attached.Nodup
  uri : ∀ q ∈ s.attached, ∀ r ∈ s.attached, q.connectorUri = r.connectorUri → q = r
  count : s.endpoints.keys.length = s.attached.length
  entries : ∀ uri info, s.endpoints.lookup uri = some info → ∃ r ∈ s.attached,
    r.connectorUri = uri ∧ info.pipeIds = some (r.binderWriteId, r.binderReadId) ∧
      info.connectionIface = r.channel
  entered : ∀ r ∈ s.attached, (s.endpoints.lookup r.connectorUri).isSome
  pipes : ∀ r ∈ s.attached, s.pipeReadIdToEndpointUri r.binderReadId = some r.connectorUri
  fits : s.logic.Fits s.attached
  calls : ∀ c ∈ s.calls, s.Held c
  delivered : ∀ d ∈ s.delivered, d.2 = d.1.channel

variable {s t : InprocBinder α} {a : InprocAction} {r : InprocBindingRequest}

omit [DecidableEq α] in
lemma Separate.entry (sep : Separate s) (mem : r ∈ s.attached) :
    ∃ info, s.endpoints.lookup r.connectorUri = some info ∧
      info.pipeIds = some (r.binderWriteId, r.binderReadId) ∧ info.connectionIface = r.channel := by
  obtain ⟨info, found⟩ := isSome_iff_exists.mp (sep.entered r mem)
  obtain ⟨q, there, same, ids⟩ := sep.entries _ _ found
  rw [sep.uri q there r mem same] at ids
  exact ⟨info, found, ids⟩

omit [DecidableEq α] in
lemma Separate.own (sep : Separate s) : Own s where
  count := sep.count
  entry r mem := ⟨sep.pipes r mem, sep.entry mem⟩
  route := by
    intro r mem channel sent
    obtain ⟨uri, listed, found⟩ := bind_eq_some_iff.mp sent
    obtain ⟨q, there, same, rfl⟩ := sep.fits.known listed
    obtain rfl := sep.pipe q (sep.attached q there) r (sep.attached r mem) same
    obtain ⟨info, entry, -, iface⟩ := sep.entry mem
    rw [entry] at found
    cases found
    exact iface
  delivered := sep.delivered

omit [DecidableEq α] in
lemma route_congr {pipe : Nat} (listed : t.logic.peerUri pipe = s.logic.peerUri pipe)
    (found : ∀ uri, s.logic.peerUri pipe = some uri →
      t.endpoints.lookup uri = s.endpoints.lookup uri) :
    t.route pipe = s.route pipe := by
  unfold route
  rw [listed]
  cases sent : s.logic.peerUri pipe with
  | none => rfl
  | some uri => simp only [bind_some, found uri sent]

omit [DecidableEq α] in
lemma Separate.publish (sep : Separate s) {n : Nat} (pipe : s.nextHandle ≤ r.binderReadId)
    (channel : s.nextHandle ≤ r.channel) (pipe' : r.binderReadId < n) (channel' : r.channel < n) :
    Separate { s with
      nextHandle := n, published := s.published ++ [r], pending := s.pending ++ [r] } := by
  have other {q : InprocBindingRequest} (mem : q ∈ s.published) :
      q.binderReadId ≠ r.binderReadId ∧ q.channel ≠ r.channel := by
    have old := sep.below q mem
    omega
  have known := sep.pipe
  have own := sep.channel
  have below := sep.below
  have waits := sep.pending
  have once := sep.once
  have attached := sep.attached
  refine { sep with pipe := by grind, channel := by grind, below := by grind, pending := by grind,
                    once := by grind, attached := by grind, calls := fun c mem => ?_ }
  have held := sep.calls c mem
  have asked := held.request
  have served := held.served
  exact { held with request := by grind, served := by grind }

omit [DecidableEq α] in
lemma Separate.fresh_pipe (sep : Separate s) (waits : r ∈ s.pending) :
    ∀ q ∈ s.attached, q.binderReadId ≠ r.binderReadId := by
  obtain ⟨listed, new⟩ := sep.pending r waits
  intro q mem same
  rw [sep.pipe q (sep.attached q mem) r listed same] at mem
  exact new mem

section

variable (sep : Separate s)
include sep

omit [DecidableEq α] in
lemma Separate.fresh_uri (unused : s.endpoints.lookup r.connectorUri = none) :
    ∀ q ∈ s.attached, q.connectorUri ≠ r.connectorUri := by
  intro q mem same
  have entered := sep.entered q mem
  rw [same, unused] at entered
  cases entered

lemma Separate.enter {i : Nat} (there : s.pending[i]? = some r)
    (unused : s.endpoints.lookup r.connectorUri = none) :
    let t := processInprocBindingRequest { s with pending := s.pending.eraseIdx i } r
    (t.endpoints.lookup r.connectorUri).map (·.connectionIface) = some r.channel ∧
      t.logic.Fits t.attached ∧ ∀ p, t.logic.peerUri p =
        if p = r.binderReadId then some r.connectorUri else s.logic.peerUri p := by
  have found := AList.lookup_insert (a := r.connectorUri) (b := (⟨r.channel,
    some (r.binderWriteId, r.binderReadId), s.nextHandle, none⟩ : EndpointInfo)) s.endpoints
  refine ⟨congrArg _ found, ?_⟩
  exact sep.fits.attach (sep.fresh_pipe (mem_of_getElem? there)) (sep.fresh_uri unused)
    (update_self r.binderReadId (some r.connectorUri) s.pipeReadIdToEndpointUri)
    (by rw [found]; rfl)

lemma Separate.attach {i : Nat} (there : s.pending[i]? = some r)
    (unused : s.endpoints.lookup r.connectorUri = none)
    (free : ∀ c ∈ s.calls, c.uri ≠ r.connectorUri) :
    Separate (processInprocBindingRequest { s with pending := s.pending.eraseIdx i } r) ∧
      Steady s (.process i)
        (processInprocBindingRequest { s with pending := s.pending.eraseIdx i } r) := by
  obtain ⟨listed, new⟩ := sep.pending r (mem_of_getElem? there)
  have pipe := sep.fresh_pipe (mem_of_getElem? there)
  have uri := sep.fresh_uri unused
  have lookup : ∀ u, (processInprocBindingRequest { s with pending := s.pending.eraseIdx i }
      r).endpoints.lookup u = if u = r.connectorUri then some ⟨r.channel,
        some (r.binderWriteId, r.binderReadId), s.nextHandle, none⟩ else s.endpoints.lookup u := by
    intro u
    split
    · subst u
      exact AList.lookup_insert _
    · exact AList.lookup_insert_ne ‹_›
  have mapped : ∀ p, (processInprocBindingRequest { s with pending := s.pending.eraseIdx i }
      r).pipeReadIdToEndpointUri p =
        if p = r.binderReadId then some r.connectorUri else s.pipeReadIdToEndpointUri p :=
    fun p => update_apply ..
  have joined : (processInprocBindingRequest
      { s with pending := s.pending.eraseIdx i } r).attached =
      s.attached ++ [r] := rfl
  have left : ∀ q ∈ s.pending.eraseIdx i, q ∈ s.pending ∧ q ≠ r := by
    intro q mem
    obtain ⟨j, other, at_j⟩ := mem_eraseIdx_iff_getElem?.mp mem
    refine ⟨mem_of_getElem? at_j, ?_⟩
    rintro rfl
    have inside := (List.getElem?_eq_some_iff.mp at_j).1
    exact other ((List.getElem?_inj inside sep.once).mp (at_j.trans there.symm))
  obtain ⟨entry, fits, listing⟩ := sep.enter there unused
  have waits := sep.pending
  have known := sep.attached
  have once := sep.attachedOnce
  have apart := sep.uri
  have entries := sep.entries
  have entered := sep.entered
  have pipes := sep.pipes
  constructor
  · refine { sep with below := fun q mem => ?_, pending := fun q mem => ?_,
                      once := sep.once.sublist (eraseIdx_sublist _ _),
                      attached := by grind [processInprocBindingRequest],
                      attachedOnce := by grind, uri := by grind, count := ?_, entries := by grind,
                      entered := by grind, pipes := by grind, fits := fits,
                      calls := fun c mem => ?_ }
    · have bounds := sep.below q mem
      exact ⟨lt_succ_of_lt bounds.1, lt_succ_of_lt bounds.2⟩
    · obtain ⟨old, other⟩ := left q mem
      exact ⟨(waits q old).1, by grind⟩
    · have absent := AList.lookup_eq_none.mp unused
      simp [processInprocBindingRequest, erase_of_not_mem absent, sep.count]
    · have held := sep.calls c mem
      have own := held.own
      have unnamed := free c mem
      exact { held with
        served := fun late => held.served (mem_of_mem_eraseIdx late)
        own := by grind
        failed := fun failed => (isRouted_pipeAttached _ _ _ _).trans (held.failed failed) }
  · constructor
    · intro q mem _
      refine ⟨mem_append_left _ mem, route_congr ?_ fun u sent => ?_⟩
      · exact (listing q.binderReadId).trans (if_neg (pipe q mem))
      · obtain ⟨q', mem', -, rfl⟩ := sep.fits.known sent
        exact (lookup _).trans (if_neg (uri q' mem'))
    · intro q mem gone
      obtain rfl : q = r := by grind
      rw [route, (listing q.binderReadId).trans (if_pos rfl), bind_some, entry]

lemma Separate.closed_eq (writeId : Nat) :
    (s.handleInprocPipePeerClosed writeId = s ∧ ∀ r ∈ s.attached, r.binderWriteId ≠ writeId) ∨
    ∃ r ∈ s.attached, r.binderWriteId = writeId ∧
      s.handleInprocPipePeerClosed writeId = { s with
        endpoints := s.endpoints.erase r.connectorUri
        pipeReadIdToEndpointUri := update s.pipeReadIdToEndpointUri r.binderReadId none
        logic := s.logic.pipeDetached r.binderReadId
        attached := s.attached.filter fun q => q.binderWriteId ≠ writeId } := by
  cases found : s.endpoints.entries.find? fun entry =>
      entry.2.pipeIds.any fun ids => ids.1 = writeId with
  | none =>
    have none : ∀ r ∈ s.attached, r.binderWriteId ≠ writeId := by
      intro r mem same
      obtain ⟨info, entry, ids, -⟩ := sep.entry mem
      have absent := List.find?_eq_none.mp found _ (AList.mem_lookup_iff.mp entry)
      simp [ids, same] at absent
    refine .inl ⟨?_, none⟩
    have all : (s.attached.filter fun r => r.binderWriteId ≠ writeId) = s.attached :=
      filter_eq_self.mpr fun r mem => by simpa using none r mem
    simp only [handleInprocPipePeerClosed, found, bind_none, all]
  | some entry =>
    obtain ⟨uri, info⟩ := entry
    have lookup := AList.mem_lookup_iff.mpr (List.mem_of_find?_eq_some found)
    obtain ⟨r, mem, rfl, ids, -⟩ := sep.entries uri info lookup
    have here : r.binderWriteId = writeId := by
      have chosen := List.find?_some found
      simpa [ids] using chosen
    refine .inr ⟨r, mem, here, ?_⟩
    simp only [handleInprocPipePeerClosed, found, bind_some, ids, cleanupSessionStateByPipe,
      sep.pipes r mem, mem_def.mp lookup, isSome_some, if_true]

lemma Separate.close (name : String) (writeId : Nat) :
    Separate (s.handleInprocPipePeerClosed writeId) ∧
      Steady s (.peerClosed name writeId) (s.handleInprocPipePeerClosed writeId) := by
  obtain ⟨same, -⟩ | ⟨r, mem, here, same⟩ := sep.closed_eq writeId
  · rw [same]
    exact ⟨sep, fun r mem _ => ⟨mem, rfl⟩, fun r mem gone => absurd mem gone⟩
  · rw [same]
    have others (q : InprocBindingRequest) :
        (q ∈ s.attached.filter fun q => q.binderWriteId ≠ writeId) ↔ q ∈ s.attached ∧ q ≠ r := by
      rw [mem_filter, decide_eq_true_eq, ← here]
      refine and_congr_right fun there => not_congr ⟨fun same => ?_, fun same => by rw [same]⟩
      exact sep.channel q (sep.attached q there) r (sep.attached r mem) same
    have own : ∀ q ∈ s.attached, q.connectorUri = r.connectorUri → q = r := fun q there same =>
      sep.uri q there r mem same
    have only : ∀ q ∈ s.attached, q.binderReadId = r.binderReadId → q = r := fun q there same =>
      sep.pipe q (sep.attached q there) r (sep.attached r mem) same
    obtain ⟨fits, listing⟩ := sep.fits.detach mem own only others
    have lookup : ∀ u, (s.endpoints.erase r.connectorUri).lookup u =
        if u = r.connectorUri then none else s.endpoints.lookup u := by
      intro u
      split
      · subst u
        exact AList.lookup_erase ..
      · exact AList.lookup_erase_ne ‹_›
    have mapped : ∀ p, update s.pipeReadIdToEndpointUri r.binderReadId none p =
        if p = r.binderReadId then none else s.pipeReadIdToEndpointUri p := fun p => update_apply ..
    have waits := sep.pending
    have known := sep.attached
    have apart := sep.uri
    have entries := sep.entries
    have entered := sep.entered
    have pipes := sep.pipes
    constructor
    · refine { sep with pending := by grind, attached := by grind,
                        attachedOnce := sep.attachedOnce.filter _, uri := by grind, count := ?_,
                        entries := by grind, entered := by grind, pipes := by grind, fits := fits,
                        calls := fun c there => ?_ }
      · have less :
            (s.attached.filter fun q => q.binderWriteId ≠ writeId) = s.attached.erase r := by
          rw [sep.attachedOnce.erase_eq_filter]
          refine List.filter_congr fun q there => ?_
          have split := others q
          simp only [mem_filter, there, true_and, decide_eq_true_eq] at split
          rw [Bool.eq_iff_iff, decide_eq_true_eq, split, bne_iff_ne]
        have present := AList.mem_keys.mp (AList.lookup_isSome.mp (sep.entered r mem))
        rw [AList.keys_erase, length_erase_of_mem present, less, length_erase_of_mem mem, sep.count]
      · have held := sep.calls c there
        exact { held with
          own := fun q kept => held.own q ((others q).mp kept).1
          failed := fun failed => (isRouted_pipeDetached _ _).trans (held.failed failed) }
    · constructor
      · intro q there untouched
        have other : q ≠ r := by
          rintro rfl
          exact untouched here
        refine ⟨(others q).mpr ⟨there, other⟩, route_congr ?_ fun u sent => ?_⟩
        · exact (listing q.binderReadId).trans (if_neg fun same => other (only q there same))
        · obtain ⟨q', there', same, rfl⟩ := sep.fits.known sent
          refine AList.lookup_erase_ne fun named => other (only q there ?_)
          rw [← same, own q' there' named]
      · exact fun q there gone => absurd ((others q).mp there).1 gone

end

omit [DecidableEq α] in
lemma Separate.calls_step (sep : Separate s) {calls delivered logic}
    (fits : logic.Fits s.attached) (kind : logic.isRouted = s.logic.isRouted)
    (held : ∀ c ∈ calls, s.Held c) (right : ∀ d ∈ delivered, d.2 = d.1.channel)
    (listing : ∀ r ∈ s.attached, ¬ s.Concerns r a →
      logic.peerUri r.binderReadId = s.logic.peerUri r.binderReadId) :
    Separate { s with logic, calls, delivered } ∧
      Steady s a { s with logic, calls, delivered } := by
  have calls' : ∀ c ∈ calls, Held { s with logic, calls, delivered } c := fun c mem =>
    { held c mem with failed := fun failed => kind.trans ((held c mem).failed failed) }
  refine ⟨{ sep with fits := fits, calls := calls', delivered := right }, ?_, ?_⟩
  · exact fun r mem other => ⟨mem, route_congr (listing r mem other) fun _ _ => rfl⟩
  · exact fun r mem gone => absurd mem gone

lemma Separate.giveUp (sep : Separate s) {c : Call} (mem : c ∈ s.calls) :
    (s.logic.giveUp c.request.binderReadId c.uri).Fits s.attached ∧
      ∀ r ∈ s.attached, r ≠ c.request →
        (s.logic.giveUp c.request.binderReadId c.uri).peerUri r.binderReadId =
          s.logic.peerUri r.binderReadId := by
  have held := sep.calls c mem
  have only : ∀ q ∈ s.attached, q.binderReadId = c.request.binderReadId → q = c.request :=
    fun q there same => sep.pipe q (sep.attached q there) _ held.request same
  have own : ∀ q ∈ s.attached, q.connectorUri = c.request.connectorUri → q = c.request :=
    fun q there same => held.own q there (same.trans held.uri.symm)
  rw [held.uri]
  obtain ⟨fits, listing⟩ := sep.fits.giveUp own only
  refine ⟨fits, fun r there other => ?_⟩
  exact (listing r.binderReadId).trans (if_neg fun same => other (only r there same))

omit [DecidableEq α] in
lemma Separate.set (sep : Separate s) {c : Call} (mem : c ∈ s.calls) (i : Nat) {stage}
    (channel : ∀ channel, stage = .sending channel → channel = c.request.channel)
    (failed : stage = .failed → s.logic.isRouted = false) :
    ∀ d ∈ s.calls.set i { c with stage }, s.Held d := by
  intro d there
  obtain old | rfl := mem_or_eq_of_mem_set there
  · exact sep.calls d old
  · exact { sep.calls c mem with channel := channel, failed := failed }

omit [DecidableEq α] in
lemma Separate.erase (sep : Separate s) (i : Nat) :
    ∀ d ∈ s.calls.eraseIdx i, s.Held d := fun d there =>
  sep.calls d (mem_of_mem_eraseIdx there)

lemma Separate.step (sep : Separate s) (unused : s.Unused a) (taken : s.step a = some t) :
    Separate t ∧ Steady s a t := by
  have still : Steady s a s := ⟨fun r mem _ => ⟨mem, rfl⟩, fun r mem gone => absurd mem gone⟩
  cases a with
  | bindInproc name | unbindInproc name =>
    cases taken
    exact ⟨{ sep with calls := fun c mem => { sep.calls c mem with } }, still.others, still.fresh⟩
  | connectInproc name gap =>
    cases taken
    refine ⟨sep.publish ?_ ?_ ?_ ?_, still.others, still.fresh⟩ <;>
      dsimp only [InprocBindingRequest.connectInproc, InprocBindingRequest.binderReadId,
        InprocBindingRequest.channel] <;> omega
  | process i =>
    simp only [InprocBinder.step] at taken
    split at taken
    · cases taken
    · rename_i r there
      cases taken
      split
      · rename_i bound
        obtain ⟨absent, free⟩ := unused r there bound
        exact sep.attach there absent free
      · refine ⟨{ sep with pending := ?_, once := ?_, calls := ?_ }, still.others, still.fresh⟩
        · exact fun q mem => sep.pending q (mem_of_mem_eraseIdx mem)
        · exact sep.once.sublist (eraseIdx_sublist _ _)
        · exact fun c mem => { sep.calls c mem with
            served := fun late => (sep.calls c mem).served (mem_of_mem_eraseIdx late) }
  | peerClosed name writeId =>
    cases taken
    split
    · exact sep.close name writeId
    · exact ⟨sep, still⟩
  | pick r =>
    simp only [InprocBinder.step] at taken
    split at taken
    · rename_i mem
      obtain ⟨⟨uri, logic⟩, selected, same⟩ := map_eq_some_iff.mp taken
      cases same
      obtain ⟨listed, listing, kind, fits⟩ := select_some selected
      refine sep.calls_step (fits _ sep.fits) kind (fun c there => ?_) sep.delivered
        fun q _ _ => listing q.binderReadId
      obtain old | new := mem_append.mp there
      · exact sep.calls c old
      · obtain rfl := mem_singleton.mp new
        obtain ⟨q, mem', same, rfl⟩ := sep.fits.known listed
        obtain rfl := sep.pipe q (sep.attached q mem') r (sep.attached r mem) same
        exact ⟨sep.attached q mem, fun late => (sep.pending q late).2 mem, rfl,
          fun q' there' => sep.uri q' there' q mem, nofun, nofun⟩
    · cases taken
  | resolve i =>
    simp only [InprocBinder.step] at taken
    split at taken
    · rename_i c there
      split at taken <;> cases taken
      have mem := mem_of_getElem? there
      have held := sep.calls c mem
      unfold InprocBinder.resolve
      split
      · unfold lose
        split
        · obtain ⟨fits, listing⟩ := sep.giveUp mem
          refine sep.calls_step fits (isRouted_giveUp _ _ _) (sep.erase i) sep.delivered
            fun r mem other => ?_
          exact listing r mem fun same => other ⟨c, there, same.symm⟩
        · rename_i unrouted
          exact sep.calls_step sep.fits rfl (sep.set mem i nofun fun _ => by simpa using unrouted)
            sep.delivered fun _ _ _ => rfl
      · rename_i info found
        refine sep.calls_step sep.fits rfl (sep.set mem i ?_ nofun) sep.delivered fun _ _ _ => rfl
        rintro channel ⟨⟩
        obtain ⟨q, mem', same, -, iface⟩ := sep.entries _ _ found
        rw [iface, held.own q mem' same]
    · cases taken
  | accept i more =>
    simp only [InprocBinder.step] at taken
    split at taken
    · rename_i c there
      split at taken <;> cases taken
      rename_i channel sending
      have mem := mem_of_getElem? there
      have own := (sep.calls c mem).channel channel sending
      refine sep.calls_step sep.fits rfl ?_ ?_ fun _ _ _ => rfl
      · split
        · exact sep.set mem i nofun nofun
        · exact sep.erase i
      · intro d mem'
        obtain old | new := mem_append.mp mem'
        · exact sep.delivered d old
        · rw [mem_singleton.mp new]
          exact own
    · cases taken
  | refuse i closed =>
    simp only [InprocBinder.step] at taken
    split at taken
    · rename_i c there
      split at taken <;> cases taken
      have mem := mem_of_getElem? there
      refine sep.calls_step sep.fits rfl ?_ sep.delivered fun _ _ _ => rfl
      split
      · rename_i dropped
        have unrouted : s.logic.isRouted = false := by simp_all
        exact sep.set mem i nofun fun _ => unrouted
      · exact sep.erase i
    · cases taken
  | giveUp i =>
    simp only [InprocBinder.step] at taken
    split at taken
    · rename_i c there
      split at taken <;> cases taken
      obtain ⟨fits, listing⟩ := sep.giveUp (mem_of_getElem? there)
      refine sep.calls_step fits (isRouted_giveUp _ _ _) (sep.erase i) sep.delivered
        fun r mem other => ?_
      exact listing r mem fun same => other ⟨c, there, same.symm⟩
    · cases taken

omit [DecidableEq α] in
lemma separate_new (nextHandle : Nat) (pattern : InprocPattern) :
    Separate (new nextHandle pattern : InprocBinder α) := by
  have unmapped : Mapped (fun _ => none) [] := fun pipe uri => ⟨nofun, nofun⟩
  have empty : (InprocLogic.new pattern : InprocLogic α).Fits [] := by
    cases pattern with
    | balanced => exact ⟨nodup_nil, unmapped, nofun⟩
    | distributed => exact ⟨unmapped, nofun⟩
    | routed => exact ⟨fun pipe identity has => by simp at has, nofun⟩
  exact ⟨nofun, nofun, nofun, nofun, nodup_nil, nofun, nodup_nil, nofun, rfl,
    fun uri info found => by simp [new] at found, nofun, nofun, empty, nofun, nofun⟩

/-! ### What the second connector of a name does -/

abbrev Leads (s t : InprocBinder α) : Prop := Reaches step (fun _ _ => True) s t

/-- A connector has lost its entry, a message has come to another channel than its own, or a
connector is lost by what is done about another one. -/
def Goes (s : InprocBinder α) : Prop :=
  ∃ u, Leads s u ∧ (¬ Own u ∨ ∃ a v, u.step a = some v ∧ ¬ Steady u a v)

lemma Goes.of_step (taken : s.step a = some t) (goes : Goes t) : Goes s := by
  obtain ⟨u, led, wrong⟩ := goes
  exact ⟨u, (Reaches.refl.tail trivial taken).trans led, wrong⟩

/-- A call is on its way under the URI of a connector that its message is not for. -/
structure Crossed (s : InprocBinder α) (r : InprocBindingRequest) (i : Nat) (c : Call) : Prop where
  attached : r ∈ s.attached
  entry : ∃ info, s.endpoints.lookup r.connectorUri = some info ∧ info.connectionIface = r.channel
  fits : s.logic.Fits s.attached
  sent : s.logic.peerUri r.binderReadId = some r.connectorUri
  call : s.calls[i]? = some c
  uri : c.uri = r.connectorUri
  other : c.request.channel ≠ r.channel

variable {r : InprocBindingRequest} {i : Nat} {c : Call}

section

variable (crossed : Crossed s r i c)
include crossed

omit [DecidableEq α] in
lemma Crossed.set (stage : Stage) (delivered) :
    Crossed { s with calls := s.calls.set i { c with stage }, delivered } r i { c with stage } := by
  have inside : i < s.calls.length := (List.getElem?_eq_some_iff.mp crossed.call).1
  exact { crossed with call := List.getElem?_set_self inside }

lemma Crossed.sending (stage : c.stage = .sending r.channel) : Goes s := by
  have taken : s.step (.accept i false) = some (s.accept i c r.channel false) := by
    simp [step, crossed.call, stage]
  refine ⟨_, Reaches.refl.tail trivial taken, .inl fun own => ?_⟩
  exact crossed.other (own.delivered (c.request, r.channel) (by simp [accept])).symm

lemma Crossed.picked (stage : c.stage = .picked) : Goes s := by
  obtain ⟨info, found, iface⟩ := crossed.entry
  rw [← crossed.uri] at found
  have taken : s.step (.resolve i) = some { s with
      calls := s.calls.set i { c with stage := .sending r.channel } } := by
    simp [step, crossed.call, stage, resolve, found, iface]
  exact .of_step taken ((crossed.set _ s.delivered).sending rfl)

lemma Crossed.failed (stage : c.stage = .failed) (unrouted : s.logic.isRouted = false) :
    Goes s := by
  have taken : s.step (.giveUp i) = some { s with
      logic := s.logic.giveUp c.request.binderReadId c.uri
      calls := s.calls.eraseIdx i } := by
    simp [step, crossed.call, stage]
  refine ⟨s, .refl, .inr ⟨_, _, taken, fun steady => ?_⟩⟩
  obtain ⟨info, found, iface⟩ := crossed.entry
  have before : s.route r.binderReadId = some r.channel := by
    simp [route, crossed.sent, found, iface]
  have unconcerned : ¬ s.Concerns r (.giveUp i) := by
    rintro ⟨d, there, same⟩
    cases crossed.call.symm.trans there
    exact crossed.other (by rw [same])
  obtain ⟨-, kept⟩ := steady.others r crossed.attached unconcerned
  have lost := giveUp_peerUri c.request.binderReadId crossed.fits unrouted crossed.sent
  rw [before, crossed.uri] at kept
  simp only [route, lost] at kept
  cases kept

lemma Crossed.goes (unrouted : c.stage = .failed → s.logic.isRouted = false) : Goes s := by
  cases stage : c.stage with
  | picked => exact crossed.picked stage
  | failed => exact crossed.failed stage (unrouted stage)
  | sending channel =>
    cases routed : s.logic.isRouted with
    | true =>
      have taken : s.step (.accept i true) = some { s with
          calls := s.calls.set i { c with stage := .picked }
          delivered := s.delivered ++ [(c.request, channel)] } := by
        simp [step, crossed.call, stage, accept, routed]
      exact .of_step taken ((crossed.set _ _).picked rfl)
    | false =>
      have taken : s.step (.refuse i true) = some { s with
          calls := s.calls.set i { c with stage := .failed } } := by
        simp [step, crossed.call, stage, refuse, routed]
      exact .of_step taken ((crossed.set _ s.delivered).failed rfl routed)

end

lemma Separate.goes (sep : Separate s) (taken : s.step a = some t) (used : ¬ s.Unused a) :
    Goes t := by
  cases a with
  | process i =>
    unfold Unused at used
    push Not at used
    obtain ⟨r, there, bound, used⟩ := used
    rw [InprocBinder.step, mem_def.mp there] at taken
    simp only [if_pos bound, Option.some.injEq] at taken
    subst taken
    obtain ⟨listed, new⟩ := sep.pending r (mem_of_getElem? there)
    cases found : s.endpoints.lookup r.connectorUri with
    | some info =>
      obtain ⟨q, mem, same, -⟩ := sep.entries _ _ found
      refine ⟨_, .refl, .inl fun own => ?_⟩
      obtain ⟨-, entry, lookup, ids, iface⟩ := own.entry q (mem_append_left _ mem)
      rw [same] at lookup
      cases (AList.lookup_insert s.endpoints).symm.trans lookup
      rw [sep.channel r listed q (sep.attached q mem) iface] at new
      exact new mem
    | none =>
      obtain ⟨c, mem, uri⟩ := used found
      obtain ⟨j, call⟩ := mem_iff_getElem?.mp mem
      have held := sep.calls c mem
      obtain ⟨entry, fits, listing⟩ := sep.enter there found
      have other : c.request.channel ≠ r.channel := by
        intro same
        have served := held.served
        rw [sep.channel _ held.request r listed same] at served
        exact served (mem_of_getElem? there)
      have crossed : Crossed (processInprocBindingRequest
          { s with pending := s.pending.eraseIdx i } r) r j c :=
        ⟨mem_append_right _ (mem_singleton_self r), map_eq_some_iff.mp entry, fits,
          (listing _).trans (if_pos rfl), call, uri, other⟩
      exact crossed.goes fun failed => (isRouted_pipeAttached _ _ _ _).trans (held.failed failed)
  | bindInproc | unbindInproc | connectInproc | peerClosed | pick | resolve | accept | refuse
    | giveUp => exact absurd trivial used

/-- As long as each connector finds its URI unused, the connectors of a binder keep entries of their
own, and what is sent to one comes to its own channel; a connector that does not takes the place of
another or is taken for it. -/
theorem connectors_kept_apart (nextHandle : Nat) (pattern : InprocPattern) :
    (∀ s : InprocBinder α, Reaches step Unused (new nextHandle pattern) s →
      Own s ∧ ∀ a t, s.Unused a → s.step a = some t → Steady s a t) ∧
    ∀ (s : InprocBinder α) a t, Reaches step Unused (new nextHandle pattern) s →
      s.step a = some t → ¬ s.Unused a →
      ∃ u, Reaches step (fun _ _ => True) t u ∧
        (¬ Own u ∨ ∃ b v, u.step b = some v ∧ ¬ Steady u b v) := by
  have kept {s : InprocBinder α} (reached : Reaches step Unused (new nextHandle pattern) s) :
      Separate s :=
    reached.invariant (fun _ _ _ sep unused taken => (sep.step unused taken).1)
      (separate_new nextHandle pattern)
  constructor
  · intro s reached
    exact ⟨(kept reached).own, fun a t unused taken => ((kept reached).step unused taken).2⟩
  · intro s a t reached taken used
    exact (kept reached).goes taken used

theorem connectors_kept_apart_two_names :
    ∃ s : InprocBinder UInt8, run step (new 1 .balanced) [.bindInproc "a", .bindInproc "b",
        .connectInproc "a" 0, .connectInproc "b" 0, .process 1, .process 0] = some s ∧
      s.attached.length = 2 ∧ Own s := by
  refine exists_of_permitted ?_ rfl fun reached =>
    ⟨rfl, ((connectors_kept_apart 1 .balanced).1 _ reached).1⟩
  iterate 4 refine ⟨trivial, _, rfl, ?_⟩
  refine ⟨?_, _, rfl, ?_, _, rfl, trivial⟩
  · rintro r ⟨⟩ -
    exact ⟨rfl, nofun⟩
  · rintro r ⟨⟩ -
    exact ⟨by decide, nofun⟩

/-- Two connectors of one name: the binder has one entry, and what it sends to the first comes to
the channel of the second. -/
theorem second_connector_replaces_first :
    ([.balanced, .distributed, .routed].map fun pattern => (run step
        (new 1 pattern : InprocBinder UInt8) [.bindInproc "a", .connectInproc "a" 0,
          .connectInproc "a" 0, .process 0, .process 0, .pick (.connectInproc "a" 1 2), .resolve 0,
          .accept 0 false]).map fun s => (s.attached, s.endpoints.keys, s.delivered)) =
      List.replicate 3 (some ([.connectInproc "a" 1 2, .connectInproc "a" 4 5], ["inproc://a"],
        [(.connectInproc "a" 1 2, 5)])) := by
  decide +kernel

end InprocBinder

end Rzmq
