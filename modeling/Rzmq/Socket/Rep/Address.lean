import Rzmq.Socket.Rep
import Mathlib.Data.List.Nodup

/-! Where the replies of a REP socket go, over all interleavings of its calls, its sessions and the
core.  Every request has one place at a time, so the proofs follow it from place to place. -/

namespace Rzmq

open List Function Transition

variable {α : Type}

namespace Rep

/-- Every request taken and not yet taken up by a send is the one in the state, or its peer is gone;
it is answered at most once, at its URI and behind its own envelope. -/
structure Addressed (s : Rep α) : Prop where
  addressable : ∀ n, s.place n = .noted →
    s.gone n = true ∨ ∃ r, s.requests[n]? = some r ∧ s.state = .receivedRequest (r.info n)
  once : (s.replies.map Reply.number).Nodup
  right : ∀ reply ∈ s.replies, ∃ r payload, s.requests[reply.number]? = some r ∧
    reply.uri = r.uri ∧ reply.wire = linked ((splitRequest r.frames).1 ++ payload)

/-- A receive call writes its peer into the state only while the state holds none, or one that is
gone. -/
def Unoccupied (s : Rep α) : Action α → Prop
  | .advance t => ∀ rcvtimeo whole info payload, s.calls t = .noting rcvtimeo whole info payload →
    ∀ held, s.state = .receivedRequest held → s.gone held.number = true
  | _ => True

abbrev items (s : Rep α) : List (PeerInfo α × List (Msg α)) :=
  s.orchestrator.mainIncomingQueue.items

def Known (s : Rep α) (info : PeerInfo α) : Prop :=
  ∃ r, s.requests[info.number]? = some r ∧ info = r.info info.number

def carried (t : Nat) : Call α → Option (PeerInfo α × Place)
  | .noting _ _ info _ => some (info, .popped t)
  | .addressing info _ => some (info, .answering t)
  | .replying info _ _ => some (info, .answering t)
  | _ => none

inductive Holds (s : Rep α) : PeerInfo α → Place → Prop where
  | queue {item : _} (mem : item ∈ s.items) : Holds s item.1 .queued
  | handler {p info payload : _}
      (pushes : s.handlers p = .queueing info payload) : Holds s info (.pushing p)
  | call {t info place : _}
      (carries : carried t (s.calls t) = some (info, place)) : Holds s info place
  | state {info : _} (received : s.state = .receivedRequest info) : Holds s info .noted

structure Kept (s : Rep α) : Prop extends s.Addressed where
  holds : ∀ info place, s.Holds info place → s.place info.number = place ∧ s.Known info
  distinct : (s.items.map fun item => item.1.number).Nodup
  wire : ∀ t info connection wire, s.calls t = .replying info connection wire →
    ∃ payload, wire = linked (info.routingPrefix ++ payload)
  answered : ∀ reply ∈ s.replies, s.place reply.number = .answered
  unborn : ∀ n, s.requests.length ≤ n → s.place n = .unborn

variable {s s' : Rep α} {t p n : Nat} {info : PeerInfo α} {a b : Place}

lemma kept_new (rcvhwm : Nat) (rcvtimeo : Timeout) : (new rcvhwm rcvtimeo : Rep α).Kept where
  addressable _ noted := by cases noted
  once := nodup_nil
  right _ mem := by cases mem
  holds := by
    rintro info place (mem | pushes | carries | received)
    · cases mem
    · cases pushes
    · cases carries
    · cases received
  distinct := nodup_nil
  wire _ _ _ _ call := by cases call
  answered _ mem := by cases mem
  unborn _ _ := rfl

variable {o : IncomingMessageOrchestrator (PeerInfo α × List (Msg α)) α} {c : Call α}
  {payload : List (Msg α)}

lemma carried_place (carries : carried t c = some (info, a)) :
    a = .popped t ∨ a = .answering t := by
  cases c <;> simp only [carried, Option.some.injEq, Prod.mk.injEq, reduceCtorEq] at carries
  · exact .inl carries.2.symm
  · exact .inr carries.2.symm
  · exact .inr carries.2.symm

lemma Kept.made (kept : s.Kept) (place : s.place n = a) (born : a ≠ .unborn) :
    n < s.requests.length := by
  by_contra large
  have := kept.unborn n (by omega)
  rw [place] at this
  exact born this

lemma Kept.apart (kept : s.Kept) (holds : s.Holds info b) (place : s.place n = a) (ne : b ≠ a) :
    info.number ≠ n := by
  rintro rfl
  rw [(kept.holds info b holds).1] at place
  exact ne place

lemma getElem?_mono {γ : Type} {l l'} {x : γ} (longer : l <+: l')
    (found : l[n]? = some x) : l'[n]? = some x := by
  obtain ⟨rest, rfl⟩ := longer
  rw [List.getElem?_append_left (List.getElem?_eq_some_iff.mp found).1, found]

lemma Known.mono (known : s.Known info) (requests : s.requests <+: s'.requests) :
    s'.Known info := by
  obtain ⟨r, found, made⟩ := known
  exact ⟨r, getElem?_mono requests found, made⟩

lemma Kept.moved (kept : s.Kept) (place : s'.place = update s.place n b)
    (requests : s.requests <+: s'.requests)
    (holders : ∀ info c, s'.Holds info c →
      info.number = n ∧ c = b ∧ s'.Known info ∨ s.Holds info c ∧ info.number ≠ n) :
    ∀ info c, s'.Holds info c → s'.place info.number = c ∧ s'.Known info := by
  intro info c holds
  rw [place]
  rcases holders info c holds with ⟨rfl, rfl, known⟩ | ⟨before, ne⟩
  · exact ⟨update_self _ _ _, known⟩
  · obtain ⟨there, known⟩ := kept.holds info c before
    exact ⟨(update_of_ne ne _ _).trans there, known.mono requests⟩

lemma Kept.move (kept : s.Kept) (from_ : s.place n = a) (unanswered : a ≠ .answered)
    (small : n < s'.requests.length) (place : s'.place = update s.place n b)
    (requests : s.requests <+: s'.requests) (replies : s'.replies = s.replies)
    (holders : ∀ info c, s'.Holds info c →
      info.number = n ∧ c = b ∧ s'.Known info ∨ s.Holds info c ∧ info.number ≠ n)
    (distinct : (s'.items.map fun item => item.1.number).Nodup)
    (wire : ∀ t info connection wire, s'.calls t = .replying info connection wire →
      ∃ payload, wire = linked (info.routingPrefix ++ payload))
    (addressable : ∀ m, s'.place m = .noted →
      s'.gone m = true ∨ ∃ r, s'.requests[m]? = some r ∧ s'.state = .receivedRequest (r.info m)) :
    s'.Kept where
  addressable := addressable
  once := by
    rw [replies]
    exact kept.once
  right := by
    rw [replies]
    intro reply mem
    obtain ⟨r, payload, found, uri, sent⟩ := kept.right reply mem
    exact ⟨r, payload, getElem?_mono requests found, uri, sent⟩
  holds := kept.moved place requests holders
  distinct := distinct
  wire := wire
  answered := by
    rw [replies, place]
    intro reply mem
    have there := kept.answered reply mem
    have ne : reply.number ≠ n := by
      rintro rfl
      rw [there] at from_
      exact unanswered from_.symm
    exact (update_of_ne ne _ _).trans there
  unborn := by
    intro m large
    rw [place, update_of_ne (by omega)]
    apply kept.unborn
    have := requests.length_le
    omega

structure Still (s s' : Rep α) : Prop where
  place : s'.place = s.place
  gone : s'.gone = s.gone
  requests : s'.requests = s.requests
  replies : s'.replies = s.replies
  state : s'.state = s.state
  items : s'.items = s.items

lemma Kept.still (kept : s.Kept) (still : s.Still s')
    (handlers : ∀ p info payload, s'.handlers p = .queueing info payload →
      s.handlers p = .queueing info payload)
    (calls : ∀ t info c, carried t (s'.calls t) = some (info, c) →
      carried t (s.calls t) = some (info, c))
    (wire : ∀ t info connection wire, s'.calls t = .replying info connection wire →
      ∃ payload, wire = linked (info.routingPrefix ++ payload)) : s'.Kept where
  addressable := by
    rw [still.place, still.gone, still.requests, still.state]
    exact kept.addressable
  once := by
    rw [still.replies]
    exact kept.once
  right := by
    rw [still.replies, still.requests]
    exact kept.right
  holds := by
    unfold Known
    rw [still.place, still.requests]
    intro info c holds
    apply kept.holds
    cases holds with
    | queue mem =>
      rw [still.items] at mem
      exact .queue mem
    | handler pushes => exact .handler (handlers _ _ _ pushes)
    | call carries => exact .call (calls _ _ _ carries)
    | state received =>
      rw [still.state] at received
      exact .state received
  distinct := by
    rw [still.items]
    exact kept.distinct
  wire := wire
  answered := by
    rw [still.replies, still.place]
    exact kept.answered
  unborn := by
    rw [still.requests, still.place]
    exact kept.unborn

/-! The calls of one task -/

lemma Kept.call (kept : s.Kept) (none : carried t c = none)
    (calls : s'.calls = update s.calls t c) (handlers : s'.handlers = s.handlers)
    (still : s.Still s') : s'.Kept := by
  apply kept.still still
  · intro p info payload pushes
    rwa [handlers] at pushes
  · intro t' info b carries
    rw [calls] at carries
    by_cases mine : t' = t
    · rw [mine, update_self, none] at carries
      cases carries
    · rwa [update_of_ne mine] at carries
  · intro t' info connection wire replying
    rw [calls] at replying
    by_cases mine : t' = t
    · rw [mine, update_self] at replying
      rw [replying] at none
      cases none
    · rw [update_of_ne mine] at replying
      exact kept.wire t' info connection wire replying

lemma holders_of_call (holds : s'.Holds info b) (calls : s'.calls = update s.calls t c)
    (handlers : s'.handlers = s.handlers) :
    carried t c = some (info, b) ∨ (∃ item ∈ s'.items, info = item.1 ∧ b = .queued) ∨
      (s'.state = .receivedRequest info ∧ b = .noted) ∨
      (s.Holds info b ∧ b ≠ .queued ∧ b ≠ .noted ∧ b ≠ .popped t ∧ b ≠ .answering t) := by
  cases holds with
  | queue mem => exact .inr (.inl ⟨_, mem, rfl, rfl⟩)
  | handler pushes =>
    rw [handlers] at pushes
    exact .inr (.inr (.inr ⟨.handler pushes, by simp⟩))
  | @call t' _ _ carries =>
    rw [calls] at carries
    by_cases mine : t' = t
    · subst mine
      rw [update_self] at carries
      exact .inl carries
    · rw [update_of_ne mine] at carries
      refine .inr (.inr (.inr ⟨.call carries, ?_⟩))
      rcases carried_place carries with rfl | rfl <;> simp [mine]
  | state received => exact .inr (.inr (.inl ⟨received, rfl⟩))

section

variable (kept : s.Kept)
include kept

lemma wire_of_call (calls : s'.calls = update s.calls t c)
    (mine : ∀ info connection wire, c = .replying info connection wire →
      ∃ payload, wire = linked (info.routingPrefix ++ payload)) :
    ∀ t' info connection wire, s'.calls t' = .replying info connection wire →
      ∃ payload, wire = linked (info.routingPrefix ++ payload) := by
  intro t' info connection wire replying
  rw [calls] at replying
  by_cases same : t' = t
  · rw [same, update_self] at replying
    exact mine info connection wire replying
  · rw [update_of_ne same] at replying
    exact kept.wire t' info connection wire replying

lemma Kept.addressable_update (away : b ≠ .noted) (place : s'.place = update s.place n b)
    (gone : s'.gone = s.gone) (state : s'.state = s.state) (requests : s.requests <+: s'.requests) :
    ∀ m, s'.place m = .noted →
      s'.gone m = true ∨
        ∃ r, s'.requests[m]? = some r ∧ s'.state = .receivedRequest (r.info m) := by
  intro m noted
  rw [place] at noted
  rw [gone, state]
  by_cases same : m = n
  · rw [same, update_self] at noted
    exact absurd noted away
  · rw [update_of_ne same] at noted
    refine (kept.addressable m noted).imp_right ?_
    rintro ⟨r, found, held⟩
    exact ⟨r, getElem?_mono requests found, held⟩

lemma Kept.pop {rest} (items : s.items = (info, payload) :: rest) (rcvtimeo : Timeout)
    (whole : Bool) (left : o.mainIncomingQueue.items = rest) :
    ({ (s.setCall t (.noting rcvtimeo whole info payload)).relocate info.number (.popped t) with
      orchestrator := o } : Rep α).Kept := by
  have first : s.Holds info .queued := .queue (show (info, payload) ∈ s.items by simp [items])
  obtain ⟨place, known⟩ := kept.holds _ _ first
  have distinct := kept.distinct
  rw [items, map_cons, nodup_cons] at distinct
  refine kept.move (b := .popped t) place (by simp) (kept.made place (by simp)) rfl
    prefix_rfl rfl ?_ ?_ (wire_of_call kept rfl (by simp))
    (kept.addressable_update (by simp) rfl rfl rfl prefix_rfl)
  · intro other c holds
    rcases holders_of_call (s := s) (t := t) holds rfl rfl with
      mine | ⟨item, mem, rfl, rfl⟩ | ⟨received, rfl⟩ | ⟨before, away, -⟩
    · simp only [carried, Option.some.injEq, Prod.mk.injEq] at mine
      obtain ⟨rfl, rfl⟩ := mine
      exact .inl ⟨rfl, rfl, known⟩
    · change item ∈ o.mainIncomingQueue.items at mem
      rw [left] at mem
      refine .inr ⟨.queue (by rw [items]; exact mem_cons_of_mem _ mem), ?_⟩
      intro same
      exact distinct.1 (mem_map.mpr ⟨item, mem, same⟩)
    · exact .inr ⟨.state received, kept.apart (.state received) place (by simp)⟩
    · exact .inr ⟨before, kept.apart before place away⟩
  · show (o.mainIncomingQueue.items.map fun item => item.1.number).Nodup
    rw [left]
    exact distinct.2

lemma Kept.note {rcvtimeo} {whole : Bool} (call : s.calls t = .noting rcvtimeo whole info payload)
    (unoccupied : ∀ held, s.state = .receivedRequest held → s.gone held.number = true) :
    (s.note t rcvtimeo whole info payload).Kept := by
  have mine : s.Holds info (.popped t) := .call (by rw [call]; rfl)
  obtain ⟨place, known⟩ := kept.holds _ _ mine
  obtain ⟨c, none, calls⟩ : ∃ c, carried t c = none ∧
      (s.note t rcvtimeo whole info payload).calls = update s.calls t c := by
    cases whole
    · exact ⟨_, rfl, rfl⟩
    · exact ⟨_, rfl, rfl⟩
  have fields : (s.note t rcvtimeo whole info payload).place = update s.place info.number .noted ∧
      (s.note t rcvtimeo whole info payload).state = .receivedRequest info ∧
      (s.note t rcvtimeo whole info payload).requests = s.requests ∧
      (s.note t rcvtimeo whole info payload).replies = s.replies ∧
      (s.note t rcvtimeo whole info payload).gone = s.gone ∧
      (s.note t rcvtimeo whole info payload).handlers = s.handlers ∧
      (s.note t rcvtimeo whole info payload).items = s.items := by
    cases whole
    · exact ⟨rfl, rfl, rfl, rfl, rfl, rfl, rfl⟩
    · exact ⟨rfl, rfl, rfl, rfl, rfl, rfl, rfl⟩
  generalize s.note t rcvtimeo whole info payload = s' at calls fields ⊢
  obtain ⟨place', state, requests, replies, gone, handlers, items⟩ := fields
  have known' : s'.Known info := known.mono (requests ▸ prefix_rfl)
  refine kept.move (b := .noted) place (by simp) ?_ place'
    (requests ▸ prefix_rfl) replies ?_ ?_ ?_ ?_
  · rw [requests]
    exact kept.made place (by simp)
  · intro other b holds
    rcases holders_of_call holds calls handlers with
      has | ⟨item, mem, rfl, rfl⟩ | ⟨received, rfl⟩ | ⟨before, -, -, away, -⟩
    · rw [none] at has
      cases has
    · rw [items] at mem
      exact .inr ⟨.queue mem, kept.apart (.queue mem) place (by simp)⟩
    · rw [state, RepState.receivedRequest.injEq] at received
      subst received
      exact .inl ⟨rfl, rfl, known'⟩
    · exact .inr ⟨before, kept.apart before place away⟩
  · rw [items]
    exact kept.distinct
  · apply wire_of_call kept calls
    rintro info connection wire rfl
    cases none
  · intro m noted
    rw [place'] at noted
    rw [gone, requests, state]
    by_cases same : m = info.number
    · obtain ⟨r, found, made⟩ := known
      rw [same]
      exact .inr ⟨r, found, by rw [← made]⟩
    · rw [update_of_ne same] at noted
      rcases kept.addressable m noted with gone | ⟨r, -, held⟩
      · exact .inl gone
      · exact .inl (unoccupied _ held)

lemma Kept.take (received : s.state = .receivedRequest info) (frames) :
    ({ (s.setCall t (.addressing info frames)).relocate info.number (.answering t) with
      state := .readyToReceive } : Rep α).Kept := by
  obtain ⟨place, known⟩ := kept.holds _ _ (.state received)
  refine kept.move (b := .answering t) place (by simp) (kept.made place (by simp)) rfl
    prefix_rfl rfl ?_ kept.distinct (wire_of_call kept rfl (by simp)) ?_
  · intro other b holds
    rcases holders_of_call (s := s) (t := t) holds rfl rfl with
      has | ⟨item, mem, rfl, rfl⟩ | ⟨empty, rfl⟩ | ⟨before, -, away, -⟩
    · simp only [carried, Option.some.injEq, Prod.mk.injEq] at has
      obtain ⟨rfl, rfl⟩ := has
      exact .inl ⟨rfl, rfl, known⟩
    · exact .inr ⟨.queue mem, kept.apart (.queue mem) place (by simp)⟩
    · cases empty
    · exact .inr ⟨before, kept.apart before place away⟩
  · intro m noted
    change update s.place info.number (.answering t) m = .noted at noted
    by_cases same : m = info.number
    · simp [same] at noted
    · rw [update_of_ne same] at noted
      rcases kept.addressable m noted with gone | ⟨r, -, held⟩
      · exact .inl gone
      · rw [received, RepState.receivedRequest.injEq] at held
        exact absurd (by rw [held]; rfl) same

lemma Kept.release (call : carried t (s.calls t) = some (info, .answering t))
    (none : carried t c = none) (away : b ≠ .noted) (calls : s'.calls = update s.calls t c)
    (place : s'.place = update s.place info.number b) :
    s'.handlers = s.handlers → s'.state = s.state → s'.items = s.items →
    s'.requests = s.requests → s'.gone = s.gone → s'.replies = s.replies → s'.Kept := by
  intro handlers state items requests gone replies
  obtain ⟨before, known⟩ := kept.holds _ _ (.call call)
  have prolonged : s.requests <+: s'.requests := requests ▸ prefix_rfl
  refine kept.move before (by simp) ?_ place prolonged replies ?_ ?_ ?_
    (kept.addressable_update away place gone state prolonged)
  · rw [requests]
    exact kept.made before (by simp)
  · intro other b' holds
    rcases holders_of_call holds calls handlers with
      has | ⟨item, mem, rfl, rfl⟩ | ⟨received, rfl⟩ | ⟨other, -, -, -, away⟩
    · rw [none] at has
      cases has
    · rw [items] at mem
      exact .inr ⟨.queue mem, kept.apart (.queue mem) before (by simp)⟩
    · rw [state] at received
      exact .inr ⟨.state received, kept.apart (.state received) before (by simp)⟩
    · exact .inr ⟨other, kept.apart other before away⟩
  · rw [items]
    exact kept.distinct
  · apply wire_of_call kept calls
    rintro info connection wire rfl
    cases none

lemma Kept.accept {connection : Nat} {wire} (call : s.calls t = .replying info connection wire) :
    ({ (s.finish t .replied).relocate info.number .answered with
      replies := s.replies ++ [⟨info.number, info.targetEndpointUri, connection, wire⟩] } :
        Rep α).Kept := by
  have carries : carried t (s.calls t) = some (info, .answering t) := by rw [call]; rfl
  obtain ⟨before, r, found, made⟩ := kept.holds _ _ (.call carries)
  obtain ⟨payload, sent⟩ := kept.wire t info connection wire call
  have after : ((s.finish t .replied).relocate info.number .answered).Kept :=
    kept.release (b := .answered) carries (c := .idle) rfl (by simp) rfl rfl rfl rfl rfl rfl rfl rfl
  have new : info.number ∉ s.replies.map Reply.number := by
    intro mem
    obtain ⟨reply, there, same⟩ := mem_map.mp mem
    have answered := kept.answered reply there
    rw [same, before] at answered
    cases answered
  refine { after with once := ?_, right := ?_, holds := ?_, answered := ?_ }
  · show ((s.replies ++ [_]).map Reply.number).Nodup
    rw [map_append]
    exact nodup_append_comm.mp (nodup_cons.mpr ⟨new, kept.once⟩)
  · intro reply mem
    rcases mem_append.mp mem with old | last
    · exact kept.right reply old
    · rw [mem_singleton.mp last]
      refine ⟨r, payload, found, ?_, ?_⟩
      · show info.targetEndpointUri = r.uri
        rw [made]
        rfl
      · show wire = _
        rw [sent, made]
        rfl
  · rintro other b (mem | pushes | carries | received)
    · exact after.holds _ _ (.queue mem)
    · exact after.holds _ _ (.handler pushes)
    · exact after.holds _ _ (.call carries)
    · exact after.holds _ _ (.state received)
  · intro reply mem
    rcases mem_append.mp mem with old | last
    · exact after.answered reply old
    · rw [mem_singleton.mp last]
      exact update_self _ _ _

end

/-! The sessions and the core -/

lemma holders_of_handler {h} (holds : s'.Holds info b)
    (handlers : s'.handlers = update s.handlers p h) (calls : s'.calls = s.calls)
    (state : s'.state = s.state) :
    (∃ payload, h = .queueing info payload ∧ b = .pushing p) ∨
      (∃ item ∈ s'.items, info = item.1 ∧ b = .queued) ∨
      (s.Holds info b ∧ b ≠ .queued ∧ b ≠ .pushing p ∧ b ≠ .unborn) := by
  cases holds with
  | queue mem => exact .inr (.inl ⟨_, mem, rfl, rfl⟩)
  | @handler q _ payload pushes =>
    rw [handlers] at pushes
    by_cases mine : q = p
    · subst mine
      rw [update_self] at pushes
      exact .inl ⟨payload, pushes, rfl⟩
    · rw [update_of_ne mine] at pushes
      exact .inr (.inr ⟨.handler pushes, by simp [mine]⟩)
  | call carries =>
    rw [calls] at carries
    refine .inr (.inr ⟨.call carries, ?_⟩)
    rcases carried_place carries with rfl | rfl <;> simp
  | state received =>
    rw [state] at received
    exact .inr (.inr ⟨.state received, by simp⟩)

lemma Kept.locate (kept : s.Kept) (request : Request α) :
    ({ (s.setHandler p (.queueing (request.info s.requests.length) request.payload)).relocate
        s.requests.length (.pushing p) with
      requests := s.requests ++ [request] } : Rep α).Kept := by
  have fresh := kept.unborn _ (Nat.le_refl _)
  refine kept.move (b := .pushing p) fresh (by simp) (by simp) rfl (prefix_append _ _) rfl
    ?_ kept.distinct kept.wire
    (kept.addressable_update (by simp) rfl rfl rfl (prefix_append _ _))
  intro info c holds
  rcases holders_of_handler (s := s) (p := p) holds rfl rfl rfl with
    ⟨payload, made, rfl⟩ | ⟨item, mem, rfl, rfl⟩ | ⟨before, -, -, born⟩
  · simp only [Handler.queueing.injEq] at made
    obtain ⟨rfl, -⟩ := made
    exact .inl ⟨rfl, rfl, request, by simp [Request.info], rfl⟩
  · exact .inr ⟨.queue mem, kept.apart (.queue mem) fresh (by simp)⟩
  · exact .inr ⟨before, kept.apart before fresh born⟩

lemma Kept.pushed (kept : s.Kept) (pushes : s.handlers p = .queueing info payload)
    (joined : o.mainIncomingQueue.items = s.items ∧ b = .lost ∨
      o.mainIncomingQueue.items = s.items ++ [(info, payload)] ∧ b = .queued) :
    ({ (s.setHandler p .idle).relocate info.number b with orchestrator := o } : Rep α).Kept := by
  obtain ⟨place, known⟩ := kept.holds _ _ (.handler pushes)
  have away : b ≠ .noted := by
    rcases joined with ⟨-, rfl⟩ | ⟨-, rfl⟩ <;> simp
  have new : info.number ∉ s.items.map fun item => item.1.number := by
    intro mem
    obtain ⟨item, there, same⟩ := mem_map.mp mem
    exact kept.apart (.queue there) place (by simp) same
  refine kept.move (b := b) place (by simp) (kept.made place (by simp)) rfl prefix_rfl rfl
    ?_ ?_ kept.wire (kept.addressable_update away rfl rfl rfl prefix_rfl)
  · intro other c holds
    rcases holders_of_handler (s := s) (p := p) holds rfl rfl rfl with
      ⟨_, made, -⟩ | ⟨item, mem, rfl, rfl⟩ | ⟨before, -, away, -⟩
    · cases made
    · change item ∈ o.mainIncomingQueue.items at mem
      have old (there : item ∈ s.items) : s.Holds item.1 .queued ∧ item.1.number ≠ info.number :=
        ⟨.queue there, kept.apart (.queue there) place (by simp)⟩
      rcases joined with ⟨same, rfl⟩ | ⟨longer, rfl⟩
      · rw [same] at mem
        exact .inr (old mem)
      · rw [longer] at mem
        rcases mem_append.mp mem with there | last
        · exact .inr (old there)
        · rw [mem_singleton.mp last]
          exact .inl ⟨rfl, rfl, known⟩
    · exact .inr ⟨before, kept.apart before place away⟩
  · show (o.mainIncomingQueue.items.map fun item => item.1.number).Nodup
    rcases joined with ⟨same, -⟩ | ⟨longer, -⟩
    · rw [same]
      exact kept.distinct
    · rw [longer, map_append]
      exact nodup_append_comm.mp (nodup_cons.mpr ⟨new, kept.distinct⟩)

lemma Kept.detach (kept : s.Kept) (detaches : Nat → Detach) : ({ s with
      state := resetState p s.state
      detaches
      gone := fun n => s.gone n || s.requests[n]?.any fun r => r.pipe == p } : Rep α).Kept := by
  have reset : ∀ info, resetState p s.state = .receivedRequest info →
      s.state = .receivedRequest info := by
    intro info after
    cases state : s.state with
    | readyToReceive => simp [state, resetState] at after
    | receivedRequest held =>
      by_cases mine : held.sourcePipeReadId = p
      · simp [state, resetState, mine] at after
      · simpa [state, resetState, mine] using after
  refine { kept with addressable := ?_, holds := ?_ }
  · intro m noted
    rcases kept.addressable m noted with gone | ⟨r, found, held⟩
    · exact .inl (by simp [gone])
    · by_cases mine : r.pipe = p
      · exact .inl (by simp [found, mine])
      · refine .inr ⟨r, found, ?_⟩
        show resetState p s.state = _
        rw [held]
        exact if_neg mine
  · rintro info b (mem | pushes | carries | received)
    · exact kept.holds _ _ (.queue mem)
    · exact kept.holds _ _ (.handler pushes)
    · exact kept.holds _ _ (.call carries)
    · exact kept.holds _ _ (.state (reset info received))

/-! One step -/

section

variable (kept : s.Kept)
include kept

lemma Kept.quiet (still : s.Still s') (handlers : s'.handlers = s.handlers)
    (calls : s'.calls = s.calls) : s'.Kept := by
  apply kept.still still
  · rw [handlers]
    exact fun _ _ _ pushes => pushes
  · rw [calls]
    exact fun _ _ _ carries => carries
  · rw [calls]
    exact kept.wire

lemma Kept.setCall (none : carried t c = none) : (s.setCall t c).Kept :=
  kept.call none rfl rfl ⟨rfl, rfl, rfl, rfl, rfl, rfl⟩

lemma Kept.clearBuffer : s.clearBuffer.Kept :=
  kept.quiet ⟨rfl, rfl, rfl, rfl, rfl, rfl⟩ rfl rfl

lemma Kept.finish (r : Returned α) : (s.finish t r).Kept :=
  kept.call (t := t) (c := .idle) rfl rfl rfl ⟨rfl, rfl, rfl, rfl, rfl, rfl⟩

lemma Kept.address {frames} {connection : Nat} (call : s.calls t = .addressing info frames) :
    (s.setCall t (.replying info connection (linked (info.routingPrefix ++ frames)))).Kept := by
  have carries : carried t (s.calls t) = some (info, .answering t) := by rw [call]; rfl
  refine kept.still ⟨rfl, rfl, rfl, rfl, rfl, rfl⟩ (fun _ _ _ pushes => pushes) ?_
    (wire_of_call kept rfl ?_)
  · intro t' other b has
    by_cases mine : t' = t
    · subst mine
      rw [carries]
      simpa [Rep.setCall, carried] using has
    · simpa [Rep.setCall, update_of_ne mine] using has
  · intro info' connection' wire same
    cases same
    exact ⟨frames, rfl⟩

lemma Kept.spend (carries : carried t (s.calls t) = some (info, .answering t)) :
    ((s.setCall t .idle).relocate info.number .spent).Kept :=
  kept.release (b := .spent) carries (c := .idle) rfl (by simp) rfl rfl rfl rfl rfl rfl rfl rfl

lemma Kept.setHandler {h} (none : ∀ info payload, h ≠ .queueing info payload) :
    (s.setHandler p h).Kept := by
  refine kept.still ⟨rfl, rfl, rfl, rfl, rfl, rfl⟩ ?_ (fun _ _ _ carries => carries) kept.wire
  intro q info payload pushes
  change update s.handlers p h q = _ at pushes
  by_cases mine : q = p
  · rw [mine, update_self] at pushes
    exact absurd pushes (none info payload)
  · rwa [update_of_ne mine] at pushes

end

lemma kept_step (s : Rep α) (action : Action α) (s' : Rep α) (kept : s.Kept)
    (unoccupied : s.Unoccupied action) (taken : s.step action = some s') : s'.Kept := by
  cases step_cases taken with
  | recvRejected e call | multiRejected e call | sendRejected e call
  | popFailed e call | closing e call | takeNone e call | recvTimeout call | multiTimeout call =>
    exact kept.finish _
  | recvStart call | multiStart call | sendStart call | sendMultipartStart call =>
    exact kept.setCall rfl
  | lock call | check call | drop => exact kept.setCall rfl
  | frame call polled queue =>
    exact kept.call (c := .idle) rfl rfl rfl
      ⟨rfl, rfl, rfl, rfl, rfl, congrArg FairQueue.items queue⟩
  | multiLock call | clear call | reset call => exact (kept.setCall rfl).clearBuffer
  | pop call items => exact kept.pop items _ _ rfl
  | note call => exact kept.note call (unoccupied _ _ _ _ call)
  | take call received => exact kept.take received _
  | unreachable e call | refuse call =>
    exact (kept.spend (by rw [call]; rfl)).quiet ⟨rfl, rfl, rfl, rfl, rfl, rfl⟩ rfl rfl
  | address call there => exact kept.address call
  | accept call => exact kept.accept call
  | dropReply call => exact kept.spend (by rw [call]; rfl)
  | assemble handler last =>
    refine (kept.setHandler (h := .complete _) ?_).quiet ⟨rfl, rfl, rfl, rfl, rfl, rfl⟩ rfl rfl
    simp
  | locateFailed handler => exact kept.setHandler (by simp)
  | locate handler known => exact kept.locate ⟨_, _, _⟩
  | push handler pushed =>
    refine kept.pushed handler (.inr ⟨?_, rfl⟩)
    rw [IncomingMessageOrchestrator.queueItem_ok pushed]
  | pushRefused handler | pushDropped handler =>
    exact kept.pushed handler (o := s.orchestrator) (.inl ⟨rfl, rfl⟩)
  | detach detach => exact kept.detach _
  | collect | clearPipe | resetBuffer | setEndpoint | setPipeUri | setRcvtimeo | shutdown | stop =>
    exact kept.quiet ⟨rfl, rfl, rfl, rfl, rfl, rfl⟩ rfl rfl

end Rep

end Rzmq
