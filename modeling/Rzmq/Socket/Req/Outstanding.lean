import Rzmq.Socket.Req
import Mathlib.Data.List.Basic

/-! What is on its way from the peers of a REQ socket to its callers.  `Holds` says that it all
belongs to one reply, or that there is nothing; every step keeps this, except the one by which a
connection takes a request. -/

namespace Rzmq.Req

open List Function

variable {α : Type}

def inHand : ReqHandler α → List (Msg α)
  | .located frame _ => [frame]
  | .expected frame => [frame]
  | _ => []

/-- The frames of pipe `p` that have not yet been assembled, in the order in which they came. -/
def pending (s : Req α) (p : Nat) : List (Msg α) :=
  s.orchestrator.partialPipeMessages p ++ (inHand (s.handlers p) ++ s.wire p)

/-- The frames that follow a request on the wire, when its reply is the single frame `r`. -/
def stream : Option (Msg α) → List (Msg α)
  | none => []
  | some r => [delimiter, r]

variable (o : Option (Msg α))

/-- A reply with an empty body whose delimiter was dropped is itself taken for the delimiter. -/
def Payload (frames : List (Msg α)) : Prop :=
  ∃ r, o = some r ∧ (frames = [r] ∨ frames = [] ∧ r.size = 0)

def Answer (m : Msg α) : Prop := ∃ r, o = some r ∧ m.body = r.body

def FutHolds : RecvMessage α → Prop
  | .storing frames => Payload o frames
  | _ => True

def CallHolds : ReqCall α → Prop
  | .recvSelect _ _ fut => FutHolds o fut
  | .recvPoll fut => FutHolds o fut
  | .recvDone (.ok m) => Answer o m
  | .recvReturning (.ok m) _ => Answer o m
  | .multiPopped (.ok frames) => Payload o frames
  | _ => True

def HandlerHolds : ReqHandler α → Prop
  | .queueing parts => Payload o parts
  | _ => True

structure Holds (s : Req α) : Prop where
  last : ∀ r, o = some r → r.isMore = false
  pipe : ∀ p, (s.pending p).Sublist (stream o)
  handler : ∀ p, HandlerHolds o (s.handlers p)
  queue : ∀ item ∈ s.orchestrator.mainIncomingQueue.items, Payload o item
  buffer : s.orchestrator.currentRecvFramesBuffer = []
  call : ∀ t, CallHolds o (s.calls t)

lemma Payload.body {o : Option (Msg α)} {frames : List (Msg α)} (h : Payload o frames) :
    ∃ r, o = some r ∧ frames.flatMap Msg.body = r.body := by
  obtain ⟨r, eq, rfl | ⟨rfl, empty⟩⟩ := h
  · exact ⟨r, eq, by simp⟩
  · exact ⟨r, eq, (length_eq_zero_iff.mp empty).symm⟩

lemma callHolds_wakeCall {o} {c : ReqCall α} (wake : Wake)
    (h : CallHolds o c) : CallHolds o (wakeCall wake c) := by
  cases c <;> exact h

namespace Holds

variable {o : Option (Msg α)} {s : Req α}

section

variable (h : Holds o s)
include h

lemma setCall (t : Nat) {c} (hc : CallHolds o c) : Holds o (s.setCall t c) := by
  refine { h with call := fun u => ?_ }
  by_cases same : u = t
  · subst same
    simpa [Req.setCall] using hc
  · simpa [Req.setCall, same] using h.call u

lemma finish (t : Nat) (r : Returned α) : Holds o (s.finish t r) :=
  { h.setCall t (c := .idle) trivial with }

lemma removeConnection (uri : String) : Holds o (s.removeConnection uri) :=
  { h with }

lemma notifyOne : Holds o s.notifyOne := by
  unfold Req.notifyOne
  split
  · exact { h with }
  · exact { h.setCall _ (callHolds_wakeCall .one (h.call _)) with }

lemma notifyWaiters : Holds o s.notifyWaiters := by
  refine { h with call := fun t => ?_ }
  by_cases waits : t ∈ s.waiters
  · simpa [Req.notifyWaiters, waits] using callHolds_wakeCall .all (h.call t)
  · simpa [Req.notifyWaiters, waits] using h.call t

lemma dropNotified (t : Nat) (wake : Wake) : Holds o (s.dropNotified t wake) := by
  have erased : Holds o { s with waiters := s.waiters.erase t } := { h with }
  unfold Req.dropNotified
  split
  · exact erased.notifyOne
  · exact erased

end

variable {orch : IncomingMessageOrchestrator (List (Msg α)) α} {frame : Msg α} {rcvtimeo : Timeout}
  {frames : List (Msg α)} {p : Nat}

lemma setOrchestrator (h : Holds o s)
    (partials : orch.partialPipeMessages = s.orchestrator.partialPipeMessages)
    (queue : ∀ item ∈ orch.mainIncomingQueue.items, Payload o item)
    (buffer : orch.currentRecvFramesBuffer = []) : Holds o { s with orchestrator := orch } := by
  refine { h with pipe := fun p => ?_, queue := queue, buffer := buffer }
  simpa only [pending, partials] using h.pipe p

lemma of_call (h : Holds o s) {t : Nat} {c} (call : s.calls t = c) :
    CallHolds o c := by
  rw [← call]
  exact h.call t

lemma recvItem (h : Holds o s) {result}
    (polled : s.orchestrator.recvItemFromMainQueue rcvtimeo = some (result, orch)) :
    Holds o { s with orchestrator := orch } ∧ ∀ frames, result = .ok frames → Payload o frames := by
  obtain ⟨item, rest, items, rfl, rfl⟩ | ⟨e, rfl, rfl, -⟩ :=
    IncomingMessageOrchestrator.recvItemFromMainQueue_ready polled
  · have taken := h.queue
    rw [items] at taken
    refine ⟨h.setOrchestrator rfl (fun i mem => taken i (mem_cons_of_mem _ mem)) h.buffer, ?_⟩
    rintro frames ⟨⟩
    exact taken _ mem_cons_self
  · exact ⟨h, fun _ eq => by cases eq⟩

def Polled (o : Option (Msg α)) : RecvMessage α ⊕ Except ZmqError (Msg α) → Prop
  | .inl fut => FutHolds o fut
  | .inr (.ok m) => Answer o m
  | .inr (.error _) => True

section

variable (h : Holds o s)
include h

lemma recvMessage {fut} (held : FutHolds o fut) {next}
    (polled : fut.poll id rcvtimeo s.orchestrator = some (next, orch)) :
    Holds o { s with orchestrator := orch } ∧ Polled o next := by
  cases fut with
  | locking =>
    simp only [RecvMessage.poll, h.buffer] at polled
    cases polled
    exact ⟨h, trivial⟩
  | popping =>
    simp only [RecvMessage.poll] at polled
    split at polled
    · cases polled
    · rename_i item orch' ready
      cases polled
      obtain ⟨kept, payload⟩ := h.recvItem ready
      exact ⟨kept, payload item rfl⟩
    · rename_i e orch' ready
      cases polled
      exact ⟨(h.recvItem ready).1, trivial⟩
  | storing frames =>
    obtain ⟨r, eq, rfl | ⟨rfl, empty⟩⟩ := held
    · cases polled
      exact ⟨h.setOrchestrator rfl h.queue rfl, r, eq, rfl⟩
    · cases polled
      exact ⟨h, r, eq, (length_eq_zero_iff.mp empty).symm⟩

lemma setHandler (p : Nat) {d}
    (pending : (s.orchestrator.partialPipeMessages p ++ (inHand d ++ s.wire p)).Sublist (stream o))
    (held : HandlerHolds o d) : Holds o (s.setHandler p d) := by
  refine { h with pipe := fun q => ?_, handler := fun q => ?_ }
  all_goals by_cases same : q = p
  · subst same
    simpa [Req.pending, Req.setHandler] using pending
  · simpa [Req.pending, Req.setHandler, same] using h.pipe q
  · subst same
    simpa [Req.setHandler] using held
  · simpa [Req.setHandler, same] using h.handler q

lemma setWire (p : Nat)
    (pending : (s.orchestrator.partialPipeMessages p ++ (inHand (s.handlers p) ++ frames)).Sublist
      (stream o)) : Holds o { s with wire := update s.wire p frames } := by
  refine { h with pipe := fun q => ?_ }
  by_cases same : q = p
  · subst same
    simpa [Req.pending] using pending
  · simpa [Req.pending, same] using h.pipe q

lemma setPartial (p : Nat)
    (pending : (frames ++ (inHand (s.handlers p) ++ s.wire p)).Sublist (stream o)) :
    Holds o { s with orchestrator := { s.orchestrator with
      partialPipeMessages := update s.orchestrator.partialPipeMessages p frames } } := by
  refine { h with pipe := fun q => ?_ }
  by_cases same : q = p
  · subst same
    simpa [Req.pending] using pending
  · simpa [Req.pending, same] using h.pipe q

lemma clearHandler (p : Nat) {d} (done : inHand d = []) (held : HandlerHolds o d) :
    Holds o (s.setHandler p d) := by
  refine h.setHandler p ?_ held
  have before := h.pipe p
  rw [done]
  refine List.Sublist.trans ?_ before
  exact List.Sublist.append (List.Sublist.refl _) (sublist_append_right _ _)

lemma payload_of_sublist {frames rest} (last : frame.isMore = false)
    (sub : (frames ++ frame :: rest).Sublist (stream o)) :
    Payload o (processIncomingZmtpMessageForReq (frames ++ [frame])) := by
  cases o with
  | none =>
    have := sublist_nil.mp sub
    simp at this
  | some r =>
    have ends : (frames ++ [frame]).Sublist [delimiter, r] :=
      List.Sublist.trans (List.Sublist.append (List.Sublist.refl _) (by simp)) sub
    have split := sublist_cons_iff.mp ends
    have notDelimiter : frame ≠ delimiter := by
      rintro rfl
      cases last
    obtain within | ⟨tail, eq, within⟩ := split
    all_goals rcases sublist_singleton.mp within with none | one
    · simp at none
    · rw [one]
      by_cases empty : r.size = 0
      · exact ⟨r, rfl, .inr ⟨by simp [processIncomingZmtpMessageForReq, empty], empty⟩⟩
      · exact ⟨r, rfl, .inl (by simp [processIncomingZmtpMessageForReq, empty])⟩
    · subst none
      have single := append_eq_singleton_iff.mp eq
      simp [notDelimiter] at single
    · rw [eq, one]
      exact ⟨r, rfl, .inl rfl⟩

lemma removePartial (p : Nat) :
    Holds o { s with orchestrator := s.orchestrator.removePartial p } :=
  h.setPartial p ((sublist_append_right _ _).trans (h.pipe p))

lemma resetBuffer : Holds o { s with orchestrator := s.orchestrator.resetRecvMessageBuffer } :=
  h.setOrchestrator rfl h.queue rfl

lemma takeFrame {rest} (next : s.wire p = frame :: rest) :
    Holds o { s with wire := update s.wire p rest } := by
  refine h.setWire p (List.Sublist.trans ?_ (h.pipe p))
  rw [pending, next]
  exact (List.Sublist.refl _).append ((List.Sublist.refl _).append (sublist_cons_self _ _))

lemma collect (handler : s.handlers p = .expected frame) :
    Holds o { s.setHandler p .idle with orchestrator := { s.orchestrator with
      partialPipeMessages := update s.orchestrator.partialPipeMessages p
        (s.orchestrator.partialPipeMessages p ++ [frame]) } } := by
  have before := h.pipe p
  rw [Req.pending, handler] at before
  have cleared := h.clearHandler p (d := .idle) rfl trivial
  refine cleared.setPartial p ?_
  simpa [Req.setHandler, inHand] using before

lemma assemble (handler : s.handlers p = .expected frame) (last : frame.isMore = false) :
    Holds o { s.setHandler p (.queueing (processIncomingZmtpMessageForReq
      (s.orchestrator.partialPipeMessages p ++ [frame]))) with orchestrator := { s.orchestrator with
          partialPipeMessages := update s.orchestrator.partialPipeMessages p [] } } := by
  have before := h.pipe p
  rw [Req.pending, handler] at before
  have payload := h.payload_of_sublist last before
  have cleared := h.clearHandler p (d := .queueing _) rfl payload
  refine cleared.setPartial p (List.Sublist.trans ?_ before)
  simp [Req.setHandler, inHand]

lemma push {parts} (handler : s.handlers p = .queueing parts)
    (pushed : s.orchestrator.queueItem parts = some (.ok orch)) :
    Holds o { s.setHandler p .queued with orchestrator := orch } := by
  have held := h.handler p
  rw [handler] at held
  cases IncomingMessageOrchestrator.queueItem_ok pushed
  have cleared := h.clearHandler p (d := .queued) rfl trivial
  refine cleared.setOrchestrator rfl (fun item mem => ?_) h.buffer
  rcases mem_append.mp mem with old | new
  · exact h.queue item old
  · rw [mem_singleton.mp new]
    exact held

lemma recvLogicalMessage {fut : RecvLogicalMessage}
    {next : RecvLogicalMessage ⊕ Except ZmqError (List (Msg α))}
    (polled : fut.poll rcvtimeo s.orchestrator = some (next, orch)) :
    Holds o { s with orchestrator := orch } ∧
      ∀ result, next = .inr result → CallHolds o (.multiPopped result) := by
  cases fut with
  | locking =>
    cases polled
    exact ⟨h.resetBuffer, fun _ eq => by cases eq⟩
  | popping =>
    simp only [RecvLogicalMessage.poll] at polled
    split at polled <;> cases polled
    rename_i result ready
    obtain ⟨kept, payload⟩ := h.recvItem ready
    refine ⟨kept, ?_⟩
    rintro _ ⟨⟩
    cases result with
    | ok frames => exact payload frames rfl
    | error e => trivial

lemma step {f : Replier α} {a : ReqAction α} {s' : Req α} (notAccept : ∀ t, a ≠ .sendAccept t)
    (taken : Req.step f s a = some s') : Holds o s' := by
  cases step_cases taken with
  | accept call => exact absurd rfl (notAccept _)
  | sendRejected e call | recvRejected e call | multiRejected e call
  | pickFailed e call none | sendTimeout call none | refuse e call other
  | multiFails call ready | recvReturns call => exact h.finish _ _
  | resolveFailed e call gone | refuseClosed e call => exact (h.removeConnection _).finish _ _
  | check call running ready | resolve call found | wake call woken | recheck call running
  | recheckClosed call stopped | multiStart call running expecting | multiTimeout call
  | drop call => exact h.setCall _ trivial
  | pick call balanced attached => exact { h.setCall _ (c := .sendPicked _ _) trivial with }
  | expect call => exact { h.setCall _ (c := .sendReset _) trivial with }
  | sent call => exact h.resetBuffer.finish _ _
  | select call running expecting =>
    exact { h.setCall _ (c := .recvSelect .pending s.rcvtimeo .locking) trivial with }
  | wakeByPermit call permit => exact { h.setCall _ (c := .recvNotified) trivial with }
  | selectOn call polled | pollOn call polled =>
    obtain ⟨kept, next⟩ := h.recvMessage (h.of_call call) polled
    exact kept.setCall _ next
  | @selected _ _ _ _ result _ call polled =>
    obtain ⟨kept, answer⟩ := h.recvMessage (h.of_call call) polled
    refine (kept.dropNotified _ _).setCall _ ?_
    cases result <;> exact answer
  | @polled _ _ _ result call polled =>
    obtain ⟨kept, answer⟩ := h.recvMessage (h.of_call call) polled
    refine kept.setCall _ ?_
    cases result with
    | ok m => exact answer
    | error e => cases e <;> trivial
  | recvTimeout call | dropSelect call => exact (h.dropNotified _ _).setCall _ trivial
  | @giveBack _ result call last expecting =>
    have held := h.of_call call
    have moved : CallHolds o (.recvReturning result true) := by cases result <;> exact held
    exact { h.setCall _ moved with }
  | @keepState _ result call keeps =>
    have held := h.of_call call
    have moved : CallHolds o (.recvReturning result false) := by cases result <;> exact held
    exact h.setCall _ moved
  | recvTells call => exact h.notifyWaiters.finish _ _
  | multiOn call polled => exact (h.recvLogicalMessage polled).1.setCall _ trivial
  | multiPolled call polled =>
    obtain ⟨kept, holds⟩ := h.recvLogicalMessage polled
    exact kept.setCall _ (holds _ rfl)
  | multiReturns call | multiFailsTelling call expecting =>
    have ready : Holds o { s with state := .readyToSend } := { h with }
    exact ready.notifyWaiters.finish _ _
  | discard handler next unknown => exact h.takeFrame next
  | @locate p frame rest uri handler next known =>
    refine (h.takeFrame next).setHandler p ?_ trivial
    have before := h.pipe p
    simpa [Req.pending, handler, next, inHand] using before
  | @expected p frame uri handler expecting =>
    have before := h.pipe p
    rw [Req.pending, handler] at before
    exact h.setHandler p before trivial
  | unexpected handler other | pushRefused handler refused | pushDropped handler =>
    exact h.clearHandler _ rfl trivial
  | collect handler more => exact h.collect handler
  | assemble handler last => exact h.assemble handler last
  | push handler pushed => exact h.push handler pushed
  | notify handler => exact (h.clearHandler _ (d := .idle) rfl trivial).notifyOne
  | notifyRefused handler =>
    have ready : Holds o { s with state := .readyToSend } := { h with }
    exact (ready.clearHandler _ (d := .idle) rfl trivial).notifyWaiters
  | @detachTells p detach =>
    have cleared : Holds o { s with detaches := update s.detaches p .clearing } := { h with }
    exact cleared.notifyOne
  | clear detach => exact { h.removePartial _ with }
  | reset detach => exact { h.resetBuffer with }
  | @lose p =>
    refine h.setWire p (List.Sublist.trans ?_ (h.pipe p))
    simp [Req.pending]
  | stop =>
    have stopped : Holds o { s with running := false } := { h with }
    exact stopped.notifyWaiters
  | skip | attach | attachUnknown | detachUnknown | detachTarget | detachOther | detachSilent
  | setEndpoint | setPipeUri | setTimeouts => exact { h with }

end

end Holds

/-! ## A request goes out when nothing is outstanding -/

lemma not_payload_none {frames : List (Msg α)} : ¬ Payload none frames := by
  rintro ⟨r, none, -⟩
  cases none

lemma futHolds_of_none {o} (fut : RecvMessage α) (h : FutHolds none fut) :
    FutHolds o fut := by
  cases fut with
  | storing frames => exact absurd h not_payload_none
  | locking | popping => trivial

lemma callHolds_of_none {o} {c : ReqCall α} (h : CallHolds none c) :
    CallHolds o c := by
  have absent {m : Msg α} : ¬ Answer none m := by
    rintro ⟨r, none, -⟩
    cases none
  cases c with
  | recvSelect wake rcvtimeo fut | recvPoll fut => exact futHolds_of_none fut h
  | recvDone result | recvReturning result shouldNotify =>
    cases result with
    | ok m => exact absurd h absent
    | error e => trivial
  | multiPopped result =>
    cases result with
    | ok frames => exact absurd h not_payload_none
    | error e => trivial
  | idle | sendChecked | sendPicked | sendTo | sendAccepted | sendReset | recvNotified
  | multiRecv => trivial

lemma Holds.of_none {s : Req α} {r : Msg α} (h : Holds none s) (last : r.isMore = false) :
    Holds (some r) s where
  last := by
    rintro _ ⟨⟩
    exact last
  pipe p := by
    rw [sublist_nil.mp (h.pipe p)]
    exact nil_sublist _
  handler p := by
    have held := h.handler p
    cases eq : s.handlers p with
    | queueing parts =>
      rw [eq] at held
      exact absurd held not_payload_none
    | idle | located | expected | queued | refused => trivial
  queue item mem := absurd (h.queue item mem) not_payload_none
  buffer := h.buffer
  call t := callHolds_of_none (h.call t)

lemma Holds.sendAccept {f} {s s' : Req α} {t p : Nat} {m r : Msg α} {uri}
    (h : Holds none s) (sending : s.calls t = .sendTo m uri p) (reply : f.reply m = [r])
    (taken : sendAccept f s t = some s') : Holds (some r) s' := by
  have framed := f.framed m
  rw [reply] at framed
  have asked := (h.of_none framed).setCall t (c := .sendAccepted m uri) trivial
  simp only [Req.sendAccept, sending] at taken
  cases taken
  refine asked.setWire p ?_
  have here := sublist_nil.mp (h.pipe p)
  simp only [pending, append_eq_nil_iff] at here
  simp [Req.setCall, here, reply, stream]

end Rzmq.Req
