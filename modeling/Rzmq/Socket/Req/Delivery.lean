import Rzmq.Socket.Req.Calls

/-! The way of one reply through a REQ socket: from the session of the peer that was asked, frame by
frame through `handle_pipe_event`, into the queue, and out of it. -/

namespace Rzmq.Req

open List Function

variable {α : Type}

/-- Frames are being collected, the message waits for the queue, is queued, or the notifier has been
told. -/
inductive Delivery where
  | collecting
  | queueing
  | queued
  | notified

def Collecting (uri : String) : ReqHandler α → Prop
  | .idle => True
  | .located _ sourceUri => sourceUri = uri
  | .expected _ => True
  | _ => False

/-- Where the reply with these payload frames is, before or after `recv` has taken it. -/
def Stands (p : Nat) (uri : String) (payload : List (Msg α)) (s : Req α) :
    Delivery → Bool → Prop
  | .collecting, taken => taken = false ∧ Collecting uri (s.handlers p) ∧
      s.pending p = delimiter :: payload ∧ s.orchestrator.mainIncomingQueue.items = [] ∧
      ∀ frame ∈ s.orchestrator.partialPipeMessages p, frame.isMore = true
  | .queueing, taken => taken = false ∧ s.handlers p = .queueing payload ∧
      s.pending p = [] ∧ s.orchestrator.mainIncomingQueue.items = []
  | .queued, taken => s.handlers p = .queued ∧ s.pending p = [] ∧
      s.orchestrator.mainIncomingQueue.items = if taken then [] else [payload]
  | .notified, taken => s.handlers p = .idle ∧ s.pending p = [] ∧
      s.orchestrator.mainIncomingQueue.items = if taken then [] else [payload]

structure Link (p : Nat) (uri : String) (payload : List (Msg α)) (d : Delivery) (taken : Bool)
    (s : Req α) : Prop where
  running : s.running = true
  closed : s.orchestrator.mainIncomingQueue.closed = false
  room : 0 < s.orchestrator.mainIncomingQueue.hwm
  source : s.pipeReadToEndpointUri p = some uri
  elsewhere : ∀ q ≠ p, s.wire q = [] ∧ s.handlers q = .idle
  stands : Stands p uri payload s d taken

structure SameTask (s s' : Req α) : Prop where
  calls : s'.calls = s.calls
  state : s'.state = s.state
  permit : s'.permit = s.permit
  waiters : s'.waiters = s.waiters
  returned : s'.returned = s.returned
  buffer : s'.orchestrator.currentRecvFramesBuffer = s.orchestrator.currentRecvFramesBuffer

namespace Link

variable {p : Nat} {uri : String} {payload : List (Msg α)} {d : Delivery} {taken : Bool}
  {s s' : Req α} {q : Nat}

section

variable (h : Link p uri payload d taken s)
include h

lemma pipe_eq (busy : s.wire q ≠ [] ∨ s.handlers q ≠ .idle) : q = p := by
  by_contra ne
  obtain ⟨wire, handler⟩ := h.elsewhere q ne
  simp [wire, handler] at busy

lemma notifyOne : Link p uri payload d taken s.notifyOne := by
  unfold Req.notifyOne
  split
  · exact { h with }
  · exact { h with }

lemma notifyWaiters :
    Link p uri payload d taken s.notifyWaiters := { h with }

lemma dropNotified (t : Nat) (wake : Wake) :
    Link p uri payload d taken (s.dropNotified t wake) := by
  have erased : Link p uri payload d taken { s with waiters := s.waiters.erase t } := { h with }
  unfold Req.dropNotified
  split
  · exact erased.notifyOne
  · exact erased

lemma elsewhere_setHandler (c : ReqHandler α) :
    ∀ q ≠ p, (s.setHandler p c).wire q = [] ∧ (s.setHandler p c).handlers q = .idle := by
  intro q ne
  simpa [Req.setHandler, ne] using h.elsewhere q ne

lemma deliver (step : s.deliver q = some s') :
    d = .collecting ∧ Link p uri payload d taken s' ∧ SameTask s s' ∧
      ∃ frame, s'.handlers p = .located frame uri := by
  unfold Req.deliver at step
  split at step
  · rename_i frame rest idle wire
    obtain rfl := h.pipe_eq (q := q) (.inl (by simp [wire]))
    have pending : s.pending q = s.orchestrator.partialPipeMessages q ++ frame :: rest := by
      simp [Req.pending, idle, wire, inHand]
    dsimp only at step
    rw [h.source] at step
    cases step
    cases d with
    | collecting =>
      obtain ⟨untaken, collecting, stream, queue, partials⟩ := h.stands
      refine ⟨rfl, ⟨h.running, h.closed, h.room, h.source, fun q' ne => ?_, untaken, ?_, ?_,
        queue, partials⟩,
        ⟨rfl, rfl, rfl, rfl, rfl, rfl⟩, frame, by simp [setHandler]⟩
      · simpa [setHandler, ne] using h.elsewhere q' ne
      · simp [setHandler, Collecting]
      · rw [← stream, pending]
        simp [Req.pending, setHandler, inHand]
    | queueing =>
      have handler := h.stands.2.1
      rw [idle] at handler
      cases handler
    | queued =>
      have handler := h.stands.1
      rw [idle] at handler
      cases handler
    | notified =>
      have empty := h.stands.2.1
      rw [pending] at empty
      simp at empty
  · cases step

lemma collecting_of_inHand (busy : inHand (s.handlers p) ≠ []) : d = .collecting := by
  cases d with
  | collecting => rfl
  | queueing => simp [h.stands.2.1, inHand] at busy
  | queued | notified => simp [h.stands.1, inHand] at busy

lemma checkExpected (expects : taken = false → s.state = .expectingReply uri)
    (step : s.checkExpected q = some s') :
    d = .collecting ∧ Link p uri payload d taken s' ∧ SameTask s s' := by
  unfold Req.checkExpected at step
  split at step
  · rename_i frame sourceUri located
    obtain rfl := h.pipe_eq (q := q) (.inr (by simp [located]))
    obtain rfl := h.collecting_of_inHand (by simp [located, inHand])
    obtain ⟨untaken, collecting, stream, queue, partials⟩ := h.stands
    have same : sourceUri = uri := by
      rw [located] at collecting
      exact collecting
    subst same
    rw [if_pos (expects untaken)] at step
    cases step
    refine ⟨rfl, ⟨h.running, h.closed, h.room, h.source, h.elsewhere_setHandler _, untaken, ?_, ?_,
      queue, partials⟩, ⟨rfl, rfl, rfl, rfl, rfl, rfl⟩⟩
    · simp [setHandler, Collecting]
    · rw [← stream]
      simp [Req.pending, setHandler, inHand, located]
  · cases step

lemma accumulate (framed : Framed payload) (step : s.accumulate q = some s') :
    d = .collecting ∧ ∃ d', Link p uri payload d' taken s' ∧ SameTask s s' := by
  unfold Req.accumulate IncomingMessageOrchestrator.accumulatePipeFrame at step
  split at step
  · rename_i frame expected
    obtain rfl := h.pipe_eq (q := q) (.inr (by simp [expected]))
    obtain rfl := h.collecting_of_inHand (by simp [expected, inHand])
    obtain ⟨untaken, -, stream, queue, partials⟩ := h.stands
    simp only [Req.pending, expected, inHand, singleton_append] at stream
    by_cases more : frame.isMore
    · simp only [more] at step
      cases step
      refine ⟨rfl, .collecting, ⟨h.running, h.closed, h.room, h.source,
        h.elsewhere_setHandler _, untaken, ?_, ?_, queue, ?_⟩, ⟨rfl, rfl, rfl, rfl, rfl, rfl⟩⟩
      · simp [setHandler, Collecting]
      · simp [Req.pending, setHandler, inHand, stream]
      · intro frame' mem
        simp only [update_self, mem_append, mem_singleton] at mem
        rcases mem with old | rfl
        · exact partials frame' old
        · exact more
    · simp only [more] at step
      cases step
      have whole : Framed (delimiter :: payload) := by
        cases payload with
        | nil => exact framed.elim
        | cons first rest => exact ⟨rfl, framed⟩
      rw [← stream] at whole
      have ends := whole.last (by simpa using more)
      rw [ends] at stream
      refine ⟨rfl, .queueing, ⟨h.running, h.closed, h.room, h.source,
        h.elsewhere_setHandler _, untaken, ?_, ?_, queue⟩, ⟨rfl, rfl, rfl, rfl, rfl, rfl⟩⟩
      · rw [stream]
        simp [setHandler, processIncomingZmtpMessageForReq, delimiter, Msg.size, Msg.body, Msg.new,
          Msg.setMore]
      · simp [Req.pending, setHandler, inHand, ends]
  · cases step

lemma queueReply (step : s.queueReply q = some s') :
    d = .queueing ∧ Link p uri payload .queued taken s' ∧ SameTask s s' := by
  unfold Req.queueReply at step
  split at step
  · rename_i parts queueing
    obtain rfl := h.pipe_eq (q := q) (.inr (by simp [queueing]))
    cases d with
    | collecting =>
      have collecting := h.stands.2.1
      simp [queueing, Collecting] at collecting
    | queued | notified => simp [h.stands.1] at queueing
    | queueing =>
      obtain ⟨rfl, same, pending, queue⟩ := h.stands
      rw [queueing] at same
      cases same
      have pushed : s.orchestrator.queueItem payload =
          some (.ok (s.orchestrator.setItems [payload])) := by
        simp [IncomingMessageOrchestrator.queueItem, FairQueue.pushItem, h.closed, queue, h.room]
      rw [pushed] at step
      cases step
      refine ⟨rfl, ⟨h.running, h.closed, h.room, h.source, h.elsewhere_setHandler _, ?_, ?_, rfl⟩,
        ⟨rfl, rfl, rfl, rfl, rfl, rfl⟩⟩
      · simp [setHandler]
      · simpa [Req.pending, setHandler, inHand, queueing] using pending
  · cases step

lemma notifyQueued (step : s.notifyQueued q = some s') : d = .queued ∧ ∃ mid,
      Link p uri payload .notified taken mid ∧ SameTask s mid ∧ s' = mid.notifyOne := by
  unfold Req.notifyQueued at step
  split at step
  · rename_i queued
    obtain rfl := h.pipe_eq (q := q) (.inr (by simp [queued]))
    cases d with
    | collecting =>
      have collecting := h.stands.2.1
      simp [queued, Collecting] at collecting
    | queueing => simp [h.stands.2.1] at queued
    | notified => simp [h.stands.1] at queued
    | queued =>
      obtain ⟨-, pending, queue⟩ := h.stands
      cases step
      refine ⟨rfl, s.setHandler q .idle, ⟨h.running, h.closed, h.room, h.source,
        h.elsewhere_setHandler _, ?_, ?_, queue⟩, ⟨rfl, rfl, rfl, rfl, rfl, rfl⟩, rfl⟩
      · simp [setHandler]
      · simpa [Req.pending, setHandler, inHand, queued] using pending
  · rename_i refused
    obtain rfl := h.pipe_eq (q := q) (.inr (by simp [refused]))
    cases d with
    | collecting =>
      have collecting := h.stands.2.1
      simp [refused, Collecting] at collecting
    | queueing => simp [h.stands.2.1] at refused
    | queued | notified => simp [h.stands.1] at refused
  · cases step

end

lemma pop (h : Link p uri payload d false s) {item rest}
    (items : s.orchestrator.mainIncomingQueue.items = item :: rest) : item = payload ∧
      Link p uri payload d true { s with orchestrator := s.orchestrator.setItems rest } := by
  cases d with
  | collecting => simp [h.stands.2.2.2.1] at items
  | queueing => simp [h.stands.2.2.2] at items
  | queued | notified =>
    obtain ⟨handler, pending, queue⟩ := h.stands
    rw [queue] at items
    cases items
    exact ⟨rfl, h.running, h.closed, h.room, h.source, h.elsewhere, handler, pending, rfl⟩

lemma notified_of_handed (h : Link p uri payload d taken s) (framed : Framed payload)
    (handed : s.wire p = [] ∧ s.handlers p = .idle) : d = .notified := by
  obtain ⟨wire, handler⟩ := handed
  cases d with
  | notified => rfl
  | queueing =>
    have queueing := h.stands.2.1
    rw [handler] at queueing
    cases queueing
  | queued =>
    have queued := h.stands.1
    rw [handler] at queued
    cases queued
  | collecting =>
    obtain ⟨-, -, stream, -, partials⟩ := h.stands
    obtain ⟨frame, mem, last⟩ := framed.exists_last
    simp only [Req.pending, handler, wire, inHand, append_nil] at stream
    rw [stream] at partials
    have more := partials frame (mem_cons_of_mem _ mem)
    rw [last] at more
    cases more

end Link

end Rzmq.Req
