import Rzmq.Lib.Transition
import Rzmq.Socket.Orchestrator
import Mathlib.Data.List.Nodup

/-! Any number of receiving tasks and delivering sessions on one `IncomingMessageOrchestrator`.
Each receive call may be cancelled where it waits.  Every message that arrives gets a number, so
that it can be followed to the calls that return it. -/

namespace Rzmq

open List Option Function Transition

variable {α β : Type}

inductive ReceiveCall (α : Type) where
  | idle
  | message (rcvtimeo : Timeout) (fut : RecvMessage α)
  | logical (rcvtimeo : Timeout) (fut : RecvLogicalMessage)

/-- `pushes p` is the message that pipe `p` is queueing, `clears p` says that `clear_pipe_state`
waits for the frame buffer.  Of the numbered messages, `acknowledged` and `refused` are those for
which `queue_item` returned `Ok` and `Err`, `accepted` those that joined the queue, `taken` those
that left it, `held t` the one that task `t` has yet to store, and `delivered` those returned or
begun: `frames` by `recv_message`, of the messages `started`, and `wholes` by
`recv_logical_message`. -/
structure Receivers (β α : Type) where
  orchestrator : IncomingMessageOrchestrator (Nat × β) α
  calls : Nat → ReceiveCall α
  pushes : Nat → Option (Nat × β)
  clears : Nat → Bool
  arrivals : Nat
  acknowledged : List (Nat × β)
  refused : List (Nat × β)
  accepted : List (Nat × β)
  taken : List (Nat × β)
  held : Nat → Option (Nat × β)
  delivered : List (Nat × β)
  frames : List (Msg α)
  started : List (Nat × β)
  wholes : List ((Nat × β) × List (Msg α))

inductive Receivers.Action (β : Type) where
  | arrive (pipe : Nat) (item : β)
  | push (pipe : Nat)
  | expire (pipe : Nat)
  | recvBegin (t : Nat) (rcvtimeo : Timeout)
  | multiBegin (t : Nat) (rcvtimeo : Timeout)
  | recvPoll (t : Nat)
  | multiPoll (t : Nat)
  | recvExpire (t : Nat)
  | cancel (t : Nat)
  | clearBegin (pipe : Nat)
  | clear (pipe : Nat)
  | close

namespace Receivers

def start (rcvhwm : Nat) : Receivers β α where
  orchestrator := .new rcvhwm
  calls _ := .idle
  pushes _ := none
  clears _ := false
  arrivals := 0
  acknowledged := []
  refused := []
  accepted := []
  taken := []
  held _ := none
  delivered := []
  frames := []
  started := []
  wholes := []

def setCall (s : Receivers β α) (t : Nat) (c : ReceiveCall α) : Receivers β α :=
  { s with calls := update s.calls t c }

abbrev items (s : Receivers β α) : List (Nat × β) := s.orchestrator.mainIncomingQueue.items

abbrev buffer (s : Receivers β α) : List (Msg α) := s.orchestrator.currentRecvFramesBuffer

def received (s : Receivers β α) (t : Nat) (rcvtimeo : Timeout)
    (o : IncomingMessageOrchestrator (Nat × β) α) :
    RecvMessage α ⊕ Except ZmqError (Msg α) → Receivers β α
  | .inl (.storing frames) =>
    { s.setCall t (.message rcvtimeo (.storing frames)) with
      orchestrator := o
      taken := s.taken ++ s.items.head?.toList
      held := update s.held t s.items.head? }
  | .inl fut => { s.setCall t (.message rcvtimeo fut) with orchestrator := o }
  | .inr (.ok m) =>
    { s.setCall t .idle with
      orchestrator := o
      held := update s.held t none
      delivered := s.delivered ++ (s.held t).toList
      frames := s.frames ++ [m]
      started := s.started ++ (s.held t).toList }
  | .inr (.error _) => { s.setCall t .idle with orchestrator := o }

def receivedWhole (toFrames : β → List (Msg α)) (s : Receivers β α) (t : Nat)
    (rcvtimeo : Timeout) (o : IncomingMessageOrchestrator (Nat × β) α) :
    RecvLogicalMessage ⊕ Except ZmqError (Nat × β) → Receivers β α
  | .inl fut => { s.setCall t (.logical rcvtimeo fut) with orchestrator := o }
  | .inr (.ok item) =>
    { s.setCall t .idle with
      orchestrator := o
      taken := s.taken ++ [item]
      delivered := s.delivered ++ [item]
      wholes := s.wholes ++ [(item, toFrames item.2)] }
  | .inr (.error _) => { s.setCall t .idle with orchestrator := o }

def step (toFrames : β → List (Msg α)) (s : Receivers β α) :
    Action β → Option (Receivers β α)
  | .arrive pipe item =>
    match s.pushes pipe with
    | some _ => none
    | none => some { s with
        pushes := update s.pushes pipe (some (s.arrivals, item))
        arrivals := s.arrivals + 1 }
  | .push pipe =>
    match s.pushes pipe with
    | none => none
    | some item =>
      match s.orchestrator.queueItem item with
      | none => none
      | some (.ok o) => some { s with
          orchestrator := o
          pushes := update s.pushes pipe none
          acknowledged := s.acknowledged ++ [item]
          accepted := s.accepted ++ [item] }
      | some (.error _) => some { s with
          pushes := update s.pushes pipe none
          refused := s.refused ++ [item] }
  | .expire pipe =>
    match s.pushes pipe with
    | none => none
    | some item =>
      match s.orchestrator.queueItem item with
      | none => some { s with
          pushes := update s.pushes pipe none
          acknowledged := s.acknowledged ++ [item] }
      | some _ => none
  | .recvBegin t rcvtimeo =>
    match s.calls t with
    | .idle => some (s.setCall t (.message rcvtimeo .locking))
    | _ => none
  | .multiBegin t rcvtimeo =>
    match s.calls t with
    | .idle => some (s.setCall t (.logical rcvtimeo .locking))
    | _ => none
  | .recvPoll t =>
    match s.calls t with
    | .message rcvtimeo fut =>
      match fut.poll (fun item => toFrames item.2) rcvtimeo s.orchestrator with
      | none => none
      | some (r, o) => some (s.received t rcvtimeo o r)
    | _ => none
  | .multiPoll t =>
    match s.calls t with
    | .logical rcvtimeo fut =>
      match fut.poll rcvtimeo s.orchestrator with
      | none => none
      | some (r, o) => some (s.receivedWhole toFrames t rcvtimeo o r)
    | _ => none
  | .recvExpire t =>
    match s.calls t, s.orchestrator.recvItemFromMainQueue .finite with
    | .message .finite .popping, none | .logical .finite .popping, none =>
      some (s.setCall t .idle)
    | _, _ => none
  | .cancel t =>
    match s.calls t with
    | .idle => none
    | _ => some { s.setCall t .idle with held := update s.held t none }
  | .clearBegin pipe => some { s with
      orchestrator := s.orchestrator.removePartial pipe
      clears := update s.clears pipe true }
  | .clear pipe =>
    if s.clears pipe then
      some { s with
        orchestrator := s.orchestrator.resetRecvMessageBuffer
        clears := update s.clears pipe false }
    else none
  | .close => some { s with orchestrator := s.orchestrator.close }

section

variable (toFrames : β → List (Msg α)) (s : Receivers β α)

inductive StepCase : Action β → Receivers β α → Prop where
  | arrive (vacant : s.pushes pipe = none) :
      StepCase (.arrive pipe item) { s with
        pushes := update s.pushes pipe (some (s.arrivals, item))
        arrivals := s.arrivals + 1 }
  | push (waits : s.pushes pipe = some item) :
      StepCase (.push pipe) { s with
        orchestrator := s.orchestrator.setItems (s.items ++ [item])
        pushes := update s.pushes pipe none
        acknowledged := s.acknowledged ++ [item]
        accepted := s.accepted ++ [item] }
  | refuse (waits : s.pushes pipe = some item) :
      StepCase (.push pipe) { s with
        pushes := update s.pushes pipe none
        refused := s.refused ++ [item] }
  | giveUp (waits : s.pushes pipe = some item) :
      StepCase (.expire pipe) { s with
        pushes := update s.pushes pipe none
        acknowledged := s.acknowledged ++ [item] }
  | recvStart (call : s.calls t = .idle) :
      StepCase (.recvBegin t rcvtimeo) (s.setCall t (.message rcvtimeo .locking))
  | multiStart (call : s.calls t = .idle) :
      StepCase (.multiBegin t rcvtimeo) (s.setCall t (.logical rcvtimeo .locking))
  | lock (call : s.calls t = .message rcvtimeo .locking) :
      StepCase (.recvPoll t) (s.setCall t (.message rcvtimeo .popping))
  | frame (call : s.calls t = .message rcvtimeo .locking)
      (buffer : s.buffer = frame :: rest) :
      StepCase (.recvPoll t) { s.setCall t .idle with
        orchestrator := { s.orchestrator with currentRecvFramesBuffer := rest }
        held := update s.held t none
        delivered := s.delivered ++ (s.held t).toList
        frames := s.frames ++ [frame.setMore !rest.isEmpty]
        started := s.started ++ (s.held t).toList }
  | pop (call : s.calls t = .message rcvtimeo .popping)
      (items : s.items = item :: rest) :
      StepCase (.recvPoll t)
        { s.setCall t (.message rcvtimeo (.storing (toFrames item.2))) with
          orchestrator := s.orchestrator.setItems rest
          taken := s.taken ++ [item]
          held := update s.held t (some item) }
  | popFailed (call : s.calls t = .message rcvtimeo .popping) :
      StepCase (.recvPoll t) (s.setCall t .idle)
  | storeNone (call : s.calls t = .message rcvtimeo (.storing [])) :
      StepCase (.recvPoll t) { s.setCall t .idle with
        held := update s.held t none
        delivered := s.delivered ++ (s.held t).toList
        frames := s.frames ++ [.new]
        started := s.started ++ (s.held t).toList }
  | store (call : s.calls t = .message rcvtimeo (.storing (first :: rest)))
      :
      StepCase (.recvPoll t) { s.setCall t .idle with
        orchestrator := { s.orchestrator with currentRecvFramesBuffer := rest }
        held := update s.held t none
        delivered := s.delivered ++ (s.held t).toList
        frames := s.frames ++ [first]
        started := s.started ++ (s.held t).toList }
  | multiLock (call : s.calls t = .logical rcvtimeo .locking) :
      StepCase (.multiPoll t) { s.setCall t (.logical rcvtimeo .popping) with
        orchestrator := s.orchestrator.resetRecvMessageBuffer }
  | popWhole (call : s.calls t = .logical rcvtimeo .popping)
      (items : s.items = item :: rest) :
      StepCase (.multiPoll t) { s.setCall t .idle with
        orchestrator := s.orchestrator.setItems rest
        taken := s.taken ++ [item]
        delivered := s.delivered ++ [item]
        wholes := s.wholes ++ [(item, toFrames item.2)] }
  | popWholeFailed (call : s.calls t = .logical rcvtimeo .popping) :
      StepCase (.multiPoll t) (s.setCall t .idle)
  | recvTimeout (call : s.calls t = .message .finite .popping) :
      StepCase (.recvExpire t) (s.setCall t .idle)
  | multiTimeout (call : s.calls t = .logical .finite .popping) :
      StepCase (.recvExpire t) (s.setCall t .idle)
  | cancel (busy : s.calls t ≠ .idle) :
      StepCase (.cancel t) { s.setCall t .idle with held := update s.held t none }
  | clearBegin :
      StepCase (.clearBegin pipe) { s with
        orchestrator := s.orchestrator.removePartial pipe
        clears := update s.clears pipe true }
  | clear (pending : s.clears pipe = true) :
      StepCase (.clear pipe) { s with
        orchestrator := s.orchestrator.resetRecvMessageBuffer
        clears := update s.clears pipe false }
  | close : StepCase .close { s with orchestrator := s.orchestrator.close }

end

section

variable {toFrames : β → List (Msg α)} {s s' : Receivers β α}

lemma recvPoll_cases {t : Nat} (taken : s.step toFrames (.recvPoll t) = some s') :
    s.StepCase toFrames (.recvPoll t) s' := by
  simp only [step] at taken
  split at taken
  case h_2 => cases taken
  case h_1 rcvtimeo fut call =>
  split at taken
  case h_1 => cases taken
  case h_2 r o polled =>
  cases taken
  cases RecvMessage.poll_cases polled with
  | unbuffered => exact .lock call
  | buffered buffer => exact .frame call buffer
  | popped items =>
    simp only [received, items, head?_cons, toList_some]
    exact .pop call items
  | failed => exact .popFailed call
  | nothing => exact .storeNone call
  | stored => exact .store call

lemma multiPoll_cases {t : Nat} (taken : s.step toFrames (.multiPoll t) = some s') :
    s.StepCase toFrames (.multiPoll t) s' := by
  simp only [step] at taken
  split at taken
  case h_2 => cases taken
  case h_1 rcvtimeo fut call =>
  split at taken
  case h_1 => cases taken
  case h_2 r o polled =>
  cases taken
  cases RecvLogicalMessage.poll_cases polled with
  | reset => exact .multiLock call
  | popped items => exact .popWhole call items
  | failed => exact .popWholeFailed call

lemma step_cases {a} (taken : s.step toFrames a = some s') :
    s.StepCase toFrames a s' := by
  cases a with
  | recvPoll t => exact recvPoll_cases taken
  | multiPoll t => exact multiPoll_cases taken
  | arrive pipe item =>
    simp only [step] at taken
    split at taken <;> cases taken
    case h_2 vacant => exact .arrive vacant
  | push pipe =>
    simp only [step] at taken
    split at taken
    case h_1 => cases taken
    case h_2 item waits =>
    split at taken <;> cases taken
    case h_2 o pushed =>
      rw [IncomingMessageOrchestrator.queueItem_ok pushed]
      exact .push waits
    case h_3 => exact .refuse waits
  | expire pipe =>
    simp only [step] at taken
    split at taken
    case h_1 => cases taken
    case h_2 item waits =>
    split at taken <;> cases taken
    exact .giveUp waits
  | recvBegin t rcvtimeo =>
    simp only [step] at taken
    split at taken <;> cases taken
    case h_1 call => exact .recvStart call
  | multiBegin t rcvtimeo =>
    simp only [step] at taken
    split at taken <;> cases taken
    case h_1 call => exact .multiStart call
  | recvExpire t =>
    simp only [step] at taken
    split at taken <;> cases taken
    case h_1 call _ => exact .recvTimeout call
    case h_2 call _ => exact .multiTimeout call
  | cancel t =>
    simp only [step] at taken
    split at taken <;> cases taken
    case h_2 busy => exact .cancel busy
  | clear pipe =>
    simp only [step] at taken
    split at taken <;> cases taken
    rename_i pending
    exact .clear pending
  | clearBegin pipe =>
    cases taken
    exact .clearBegin
  | close =>
    cases taken
    exact .close

end

def shown (frames : List (Msg α)) : List (Msg α) := if frames.isEmpty then [.new] else frames

variable (toFrames : β → List (Msg α))

/-- What was queued was taken, in order, or is in the queue; what was taken has been delivered once,
or is held by one call; `recv_message` returns the frames of one message after those of another and
`recv_logical_message` all frames of one. -/
structure Lossless (s : Receivers β α) : Prop where
  queued : s.accepted = s.taken ++ s.items
  once : s.delivered.Nodup
  genuine : ∀ item ∈ s.delivered, item ∈ s.taken
  kept : ∀ item ∈ s.taken, item ∈ s.delivered ∨ ∃ t, s.held t = some item
  held : ∀ t item, s.held t = some item → item ∈ s.taken ∧ item ∉ s.delivered ∧
    (∃ rcvtimeo, s.calls t = .message rcvtimeo (.storing (toFrames item.2))) ∧
    ∀ t', s.held t' = some item → t' = t
  split : s.delivered.Perm (s.started ++ s.wholes.map Prod.fst)
  consecutive : (s.started.flatMap fun item => shown (toFrames item.2)) = s.frames ++ s.buffer
  whole : ∀ w ∈ s.wholes, w.2 = toFrames w.1.2

def Posed : Action β → Prop
  | .arrive _ item => Framed (shown (toFrames item))
  | _ => True

/-- A call that holds a message is not cancelled, and stores it only while no message is being
returned frame by frame (unless an empty frame is all that is left of both); and then no call for a
whole message starts, no pipe is cleared and the socket is not closed. -/
def Gentle (s : Receivers β α) : Action β → Prop
  | .recvPoll t => ∀ rcvtimeo frames, s.calls t = .message rcvtimeo (.storing frames) →
    s.buffer = [] ∨ frames = [] ∧ s.buffer = [.new]
  | .multiPoll t => ∀ rcvtimeo, s.calls t = .logical rcvtimeo .locking → s.buffer = []
  | .cancel t => ∀ rcvtimeo frames, s.calls t ≠ .message rcvtimeo (.storing frames)
  | .clear _ | .close => s.buffer = []
  | _ => True

def Holds (held : Option (Nat × β)) : ReceiveCall α → Prop
  | .message _ (.storing frames) => ∃ item, held = some item ∧ frames = toFrames item.2
  | _ => held = none

structure Kept (s : Receivers β α) : Prop extends s.Lossless toFrames where
  numbered : ∀ item ∈ s.accepted, item.1 < s.arrivals
  distinct : (s.accepted.map Prod.fst).Nodup
  pending : ∀ p item, s.pushes p = some item →
    item.1 < s.arrivals ∧ item.1 ∉ s.accepted.map Prod.fst ∧ Framed (shown (toFrames item.2))
  apart : ∀ p q item item', s.pushes p = some item → s.pushes q = some item' →
    item.1 = item'.1 → p = q
  framed : ∀ item ∈ s.accepted, Framed (shown (toFrames item.2))
  shape : s.buffer = [] ∨ Framed s.buffer
  holds : ∀ t, Holds toFrames (s.held t) (s.calls t)

variable {toFrames : β → List (Msg α)} {s s' : Receivers β α}

lemma kept_start (rcvhwm : Nat) : (start rcvhwm : Receivers β α).Kept toFrames where
  queued := rfl
  once := nodup_nil
  genuine _ mem := by cases mem
  kept _ mem := by cases mem
  held _ _ holds := by cases holds
  split := .refl _
  consecutive := rfl
  whole _ mem := by cases mem
  numbered _ mem := by cases mem
  distinct := nodup_nil
  pending _ _ waits := by cases waits
  apart _ _ _ _ waits := by cases waits
  framed _ mem := by cases mem
  shape := .inl rfl
  holds _ := rfl

variable {item : Nat × β} {t : Nat} {rest : List (Nat × β)} {next : List (Msg α)}

lemma setMore_of_framed {frame : Msg α} {rest} (framed : Framed (frame :: rest)) :
    frame.setMore (!rest.isEmpty) = frame := by
  apply Msg.setMore_self
  cases rest with
  | nil => exact framed
  | cons next rest => exact framed.1

lemma mem_snoc {γ : Type} {x y : γ} {l} : x ∈ l ++ [y] ↔ x ∈ l ∨ x = y := by
  rw [mem_append, mem_singleton]

lemma framed_tail {frame : Msg α} {rest} (framed : Framed (frame :: rest)) :
    rest = [] ∨ Framed rest := by
  cases rest with
  | nil => exact .inl rfl
  | cons next rest => exact .inr framed.2

lemma Kept.call (kept : s.Kept toFrames) {c} (free : s.held t = none)
    (holds : Holds toFrames none c) : (s.setCall t c).Kept toFrames := by
  have others : ∀ t' item, s.held t' = some item → t' ≠ t := by
    rintro t' item has rfl
    rw [free] at has
    cases has
  refine { kept with held := ?_, holds := ?_ }
  · intro t' item has
    obtain ⟨mem, new, ⟨rcvtimeo, call⟩, alone⟩ := kept.held t' item has
    refine ⟨mem, new, ⟨rcvtimeo, ?_⟩, alone⟩
    simp only [setCall, update_of_ne (others t' item has)]
    exact call
  · intro t'
    by_cases mine : t' = t
    · subst mine
      simp only [setCall, update_self, free]
      exact holds
    · simp only [setCall, update_of_ne mine]
      exact kept.holds t'

lemma Kept.free (kept : s.Kept toFrames)
    (loose : ∀ rcvtimeo frames, s.calls t ≠ .message rcvtimeo (.storing frames)) :
    s.held t = none := by
  have holds := kept.holds t
  cases call : s.calls t with
  | message rcvtimeo fut =>
    rw [call] at holds
    cases fut with
    | storing frames => exact absurd call (loose rcvtimeo frames)
    | _ => exact holds
  | _ =>
    rw [call] at holds
    exact holds

lemma release_free (free : s.held t = none) : update s.held t none = s.held := by
  rw [← free]
  exact update_eq_self t s.held

section

variable (kept : s.Kept toFrames)
include kept

lemma Kept.head_new (items : s.items = item :: rest) : item ∉ s.taken := by
  intro mem
  have distinct := kept.distinct
  rw [kept.queued, items, map_append, map_cons] at distinct
  exact (nodup_append.mp distinct).2.2 _ (mem_map_of_mem mem) _ mem_cons_self rfl

lemma Kept.new_of_untaken (new : item ∉ s.taken) :
    item ∉ s.delivered ∧ ∀ t, s.held t ≠ some item := by
  refine ⟨fun mem => new (kept.genuine item mem), ?_⟩
  intro t has
  exact new (kept.held t item has).1

lemma Kept.framed_held (has : s.held t = some item) : Framed (shown (toFrames item.2)) := by
  apply kept.framed
  rw [kept.queued]
  exact mem_append_left _ (kept.held t item has).1

lemma Kept.pop {rcvtimeo} (items : s.items = item :: rest) (free : s.held t = none) :
    ({ s.setCall t (.message rcvtimeo (.storing (toFrames item.2))) with
      orchestrator := s.orchestrator.setItems rest
      taken := s.taken ++ [item]
      held := update s.held t (some item) } : Receivers β α).Kept toFrames := by
  obtain ⟨undelivered, unheld⟩ := kept.new_of_untaken (kept.head_new items)
  have others : ∀ t' item', s.held t' = some item' → t' ≠ t := by
    rintro t' item' has rfl
    rw [free] at has
    cases has
  refine { kept with queued := ?_, genuine := ?_, kept := ?_, held := ?_, holds := ?_ }
  · show s.accepted = s.taken ++ [item] ++ rest
    rw [kept.queued, items, append_assoc, singleton_append]
  · intro item' mem
    exact mem_append_left _ (kept.genuine item' mem)
  · intro item' mem
    rcases mem_snoc.mp mem with old | rfl
    · rcases kept.kept item' old with done | ⟨t', has⟩
      · exact .inl done
      · exact .inr ⟨t', (update_of_ne (others t' item' has) _ _).trans has⟩
    · exact .inr ⟨t, update_self _ _ _⟩
  · intro t' item' has
    change update s.held t (some item) t' = some item' at has
    by_cases mine : t' = t
    · subst mine
      rw [update_self, some.injEq] at has
      subst has
      refine ⟨mem_append_right _ mem_cons_self, undelivered, ⟨rcvtimeo, update_self _ _ _⟩, ?_⟩
      intro t' has
      by_contra away
      exact unheld t' ((update_of_ne away _ _).symm.trans has)
    · rw [update_of_ne mine] at has
      obtain ⟨mem, new, ⟨timeo, call⟩, alone⟩ := kept.held t' item' has
      refine ⟨mem_append_left _ mem, new, ⟨timeo, ?_⟩, ?_⟩
      · simp only [setCall, update_of_ne mine]
        exact call
      · intro t'' has'
        change update s.held t (some item) t'' = some item' at has'
        by_cases here : t'' = t
        · rw [here, update_self, some.injEq] at has'
          subst has'
          exact absurd has (unheld t')
        · rw [update_of_ne here] at has'
          exact alone t'' has'
  · intro t'
    by_cases mine : t' = t
    · subst mine
      simp only [setCall, update_self]
      exact ⟨item, rfl, rfl⟩
    · simp only [setCall, update_of_ne mine]
      exact kept.holds t'

/-- `recv_message` returns the first frame of the message that it holds.  `next` is the buffer after
that. -/
lemma Kept.store {first} (has : s.held t = some item)
    (frames : s.buffer ++ shown (toFrames item.2) = first :: next)
    (shape : next = [] ∨ Framed next) : ({ s.setCall t .idle with
      orchestrator := { s.orchestrator with currentRecvFramesBuffer := next }
      held := update s.held t none
      delivered := s.delivered ++ [item]
      frames := s.frames ++ [first]
      started := s.started ++ [item] } : Receivers β α).Kept toFrames := by
  obtain ⟨mem, new, -, alone⟩ := kept.held t item has
  refine { kept with
    once := ?_, genuine := ?_, kept := ?_, held := ?_, split := ?_, consecutive := ?_,
    shape := ?_, holds := ?_ }
  · exact nodup_append_comm.mp (nodup_cons.mpr ⟨new, kept.once⟩)
  · intro item' mem'
    rcases mem_snoc.mp mem' with old | rfl
    · exact kept.genuine item' old
    · exact mem
  · intro item' mem'
    rcases kept.kept item' mem' with done | ⟨t', has'⟩
    · exact .inl (mem_snoc.mpr (.inl done))
    · by_cases mine : t' = t
      · subst mine
        rw [has, some.injEq] at has'
        exact .inl (mem_snoc.mpr (.inr has'.symm))
      · exact .inr ⟨t', (update_of_ne mine _ _).trans has'⟩
  · intro t' item' has'
    change update s.held t none t' = some item' at has'
    have mine : t' ≠ t := by
      rintro rfl
      simp at has'
    rw [update_of_ne mine] at has'
    obtain ⟨mem', new', ⟨timeo, call⟩, alone'⟩ := kept.held t' item' has'
    refine ⟨mem', ?_, ⟨timeo, ?_⟩, ?_⟩
    · intro there
      rcases mem_snoc.mp there with old | rfl
      · exact new' old
      · exact mine (alone t' has')
    · simp only [setCall, update_of_ne mine]
      exact call
    · intro t'' has''
      change update s.held t none t'' = some item' at has''
      by_cases here : t'' = t
      · simp [here] at has''
      · rw [update_of_ne here] at has''
        exact alone' t'' has''
  · show (s.delivered ++ [item]).Perm (s.started ++ [item] ++ s.wholes.map Prod.fst)
    rw [append_assoc]
    exact (kept.split.append_right [item]).trans
      (by rw [append_assoc]; exact perm_append_comm.append_left s.started)
  · show (s.started ++ [item]).flatMap (fun item => shown (toFrames item.2)) =
      s.frames ++ [first] ++ next
    rw [flatMap_append, kept.consecutive, flatMap_singleton, append_assoc, frames]
    simp
  · exact shape
  · intro t'
    by_cases mine : t' = t
    · subst mine
      simp only [setCall, update_self]
      rfl
    · simp only [setCall, update_of_ne mine]
      exact kept.holds t'

lemma Kept.frame {frame : Msg α} {rest} (buffer : s.buffer = frame :: rest) : ({ s with
      orchestrator := { s.orchestrator with currentRecvFramesBuffer := rest }
      frames := s.frames ++ [frame.setMore (!rest.isEmpty)] } : Receivers β α).Kept toFrames := by
  have framed : Framed (frame :: rest) := by
    rcases kept.shape with empty | framed
    · rw [buffer] at empty
      cases empty
    · rwa [buffer] at framed
  refine { kept with consecutive := ?_, shape := framed_tail framed }
  show (s.started.flatMap fun item => shown (toFrames item.2)) =
    s.frames ++ [frame.setMore (!rest.isEmpty)] ++ rest
  rw [kept.consecutive, buffer, setMore_of_framed framed]
  simp

lemma Kept.popWhole (items : s.items = item :: rest) : ({ s with
      orchestrator := s.orchestrator.setItems rest
      taken := s.taken ++ [item]
      delivered := s.delivered ++ [item]
      wholes := s.wholes ++ [(item, toFrames item.2)] } : Receivers β α).Kept toFrames := by
  obtain ⟨undelivered, unheld⟩ := kept.new_of_untaken (kept.head_new items)
  refine { kept with
    queued := ?_, once := ?_, genuine := ?_, kept := ?_, held := ?_, split := ?_, whole := ?_ }
  · show s.accepted = s.taken ++ [item] ++ rest
    rw [kept.queued, items, append_assoc, singleton_append]
  · exact nodup_append_comm.mp (nodup_cons.mpr ⟨undelivered, kept.once⟩)
  · intro item' mem
    rcases mem_snoc.mp mem with old | rfl
    · exact mem_append_left _ (kept.genuine item' old)
    · exact mem_append_right _ mem_cons_self
  · intro item' mem
    rcases mem_snoc.mp mem with old | new
    · exact (kept.kept item' old).imp_left fun done => mem_snoc.mpr (.inl done)
    · exact .inl (mem_snoc.mpr (.inr new))
  · intro t item' has
    obtain ⟨mem, new, call, alone⟩ := kept.held t item' has
    refine ⟨mem_append_left _ mem, ?_, call, alone⟩
    intro there
    rcases mem_snoc.mp there with old | rfl
    · exact new old
    · exact unheld t has
  · show (s.delivered ++ [item]).Perm
      (s.started ++ (s.wholes ++ [(item, toFrames item.2)]).map Prod.fst)
    rw [map_append, ← append_assoc]
    exact kept.split.append_right [item]
  · intro w mem
    rcases mem_snoc.mp mem with old | rfl
    · exact kept.whole w old
    · rfl

lemma Kept.arrive {pipe : Nat} {item : β} (framed : Framed (shown (toFrames item))) : ({ s with
      pushes := update s.pushes pipe (some (s.arrivals, item))
      arrivals := s.arrivals + 1 } : Receivers β α).Kept toFrames := by
  have cases' : ∀ p item', update s.pushes pipe (some (s.arrivals, item)) p = some item' →
      p = pipe ∧ item' = (s.arrivals, item) ∨ p ≠ pipe ∧ s.pushes p = some item' := by
    intro p item' waits
    by_cases mine : p = pipe
    · rw [mine, update_self, some.injEq] at waits
      exact .inl ⟨mine, waits.symm⟩
    · rw [update_of_ne mine] at waits
      exact .inr ⟨mine, waits⟩
  refine { kept with numbered := ?_, pending := ?_, apart := ?_ }
  · intro item' mem
    have := kept.numbered item' mem
    show item'.1 < s.arrivals + 1
    omega
  · intro p item' waits
    rcases cases' p item' waits with ⟨-, rfl⟩ | ⟨-, before⟩
    · refine ⟨Nat.lt_succ_self _, ?_, framed⟩
      intro mem
      obtain ⟨other, there, same⟩ := mem_map.mp mem
      have := kept.numbered other there
      omega
    · obtain ⟨small, new, framed'⟩ := kept.pending p item' before
      exact ⟨Nat.lt_succ_of_lt small, new, framed'⟩
  · intro p q one two hp hq same
    rcases cases' p one hp with ⟨rfl, rfl⟩ | ⟨-, before⟩
    · rcases cases' q two hq with ⟨rfl, -⟩ | ⟨-, other⟩
      · rfl
      · have := (kept.pending q two other).1
        omega
    · rcases cases' q two hq with ⟨rfl, rfl⟩ | ⟨-, other⟩
      · have := (kept.pending p one before).1
        omega
      · exact kept.apart p q one two before other same

lemma Kept.unpush (pipe : Nat) :
    ({ s with pushes := update s.pushes pipe none } : Receivers β α).Kept toFrames := by
  have before : ∀ p item, update s.pushes pipe none p = some item → s.pushes p = some item := by
    intro p item waits
    by_cases mine : p = pipe
    · simp [mine] at waits
    · rwa [update_of_ne mine] at waits
  refine { kept with pending := ?_, apart := ?_ }
  · intro p item waits
    exact kept.pending p item (before p item waits)
  · intro p q one two hp hq same
    exact kept.apart p q one two (before p one hp) (before q two hq) same

lemma Kept.push {pipe : Nat} (waits : s.pushes pipe = some item) : ({ s with
      orchestrator := s.orchestrator.setItems (s.items ++ [item])
      pushes := update s.pushes pipe none
      accepted := s.accepted ++ [item] } : Receivers β α).Kept toFrames := by
  obtain ⟨small, new, framed⟩ := kept.pending pipe item waits
  have numbers : (s.accepted ++ [item]).map Prod.fst = s.accepted.map Prod.fst ++ [item.1] := by
    simp
  have after := kept.unpush pipe
  refine { after with
    queued := ?_, numbered := ?_, distinct := ?_, pending := ?_, framed := ?_ }
  · show s.accepted ++ [item] = s.taken ++ (s.items ++ [item])
    rw [kept.queued, append_assoc]
  · intro item' mem
    rcases mem_snoc.mp mem with old | rfl
    · exact kept.numbered item' old
    · exact small
  · show ((s.accepted ++ [item]).map Prod.fst).Nodup
    rw [numbers]
    exact nodup_append_comm.mp (nodup_cons.mpr ⟨new, kept.distinct⟩)
  · intro p item' waits'
    obtain ⟨small', new', framed'⟩ := after.pending p item' waits'
    refine ⟨small', ?_, framed'⟩
    show item'.1 ∉ (s.accepted ++ [item]).map Prod.fst
    rw [numbers]
    intro mem
    rcases mem_snoc.mp mem with old | same
    · exact new' old
    · have away : p ≠ pipe := by
        rintro rfl
        simp at waits'
      have before : s.pushes p = some item' := (update_of_ne away _ _).symm.trans waits'
      exact away (kept.apart p pipe item' item before waits same)
  · intro item' mem
    rcases mem_snoc.mp mem with old | rfl
    · exact kept.framed item' old
    · exact framed

lemma Kept.log (acknowledged refused) :
    ({ s with acknowledged, refused } : Receivers β α).Kept toFrames := { kept with }

lemma Kept.orchestrator (o)
    (items : o.mainIncomingQueue.items = s.items) (buffer : o.currentRecvFramesBuffer = s.buffer)
    (clears : Nat → Bool) :
    ({ s with orchestrator := o, clears } : Receivers β α).Kept toFrames := by
  refine { kept with queued := ?_, consecutive := ?_, shape := ?_ }
  · show s.accepted = s.taken ++ o.mainIncomingQueue.items
    rw [items]
    exact kept.queued
  · show _ = s.frames ++ o.currentRecvFramesBuffer
    rw [buffer]
    exact kept.consecutive
  · show o.currentRecvFramesBuffer = [] ∨ Framed o.currentRecvFramesBuffer
    rw [buffer]
    exact kept.shape

lemma Kept.holds_storing {rcvtimeo frames}
    (call : s.calls t = .message rcvtimeo (.storing frames)) :
    ∃ item, s.held t = some item ∧ frames = toFrames item.2 := by
  have holds := kept.holds t
  rw [call] at holds
  exact holds

end

lemma kept_step (s : Receivers β α) (a : Action β) (s' : Receivers β α) (kept : s.Kept toFrames)
    (permitted : Posed toFrames a ∧ s.Gentle a) (taken : s.step toFrames a = some s') :
    s'.Kept toFrames := by
  obtain ⟨posed, gentle⟩ := permitted
  cases step_cases taken with
  | arrive vacant => exact kept.arrive posed
  | push waits => exact (kept.push waits).log _ _
  | refuse waits | giveUp waits => exact (kept.unpush _).log _ _
  | recvStart call | multiStart call | lock call | popFailed call | popWholeFailed call
  | recvTimeout call | multiTimeout call => exact kept.call (kept.free (by simp [call])) rfl
  | @frame t _ _ _ call buffer =>
    have free := kept.free (t := t) (by simp [call])
    rw [release_free free, free, toList_none, append_nil, append_nil]
    exact (kept.frame buffer).call (c := .idle) free rfl
  | pop call items => exact kept.pop items (kept.free (by simp [call]))
  | storeNone call =>
    obtain ⟨item, has, frames⟩ := kept.holds_storing call
    have seen : shown (toFrames item.2) = [.new] := by rw [← frames]; rfl
    have same : s.buffer ++ shown (toFrames item.2) = .new :: s.buffer := by
      rw [seen]
      rcases gentle _ _ call with empty | ⟨-, last⟩
      · rw [empty]; rfl
      · rw [last]; rfl
    rw [has, toList_some]
    exact kept.store has same kept.shape
  | @store t rcvtimeo first rest call =>
    obtain ⟨item, has, frames⟩ := kept.holds_storing call
    have seen : shown (toFrames item.2) = first :: rest := by rw [← frames]; rfl
    have quiet : s.buffer = [] := by
      rcases gentle _ _ call with empty | ⟨none, -⟩
      · exact empty
      · cases none
    have framed : Framed (first :: rest) := by
      rw [← seen]
      exact kept.framed_held has
    rw [has, toList_some]
    exact kept.store has (by rw [quiet, seen]; rfl) (framed_tail framed)
  | multiLock call =>
    have quiet := gentle _ call
    exact (kept.orchestrator s.orchestrator.resetRecvMessageBuffer rfl quiet.symm s.clears).call
      (kept.free (by simp [call])) rfl
  | popWhole call items => exact (kept.popWhole items).call (kept.free (by simp [call])) rfl
  | cancel busy =>
    have free := kept.free gentle
    rw [release_free free]
    exact kept.call free rfl
  | clearBegin => exact kept.orchestrator (s.orchestrator.removePartial _) rfl rfl _
  | clear pending => exact kept.orchestrator s.orchestrator.resetRecvMessageBuffer rfl gentle.symm _
  | close => exact kept.orchestrator s.orchestrator.close rfl gentle.symm s.clears

lemma Kept.buffer_eq_nil (kept : s.Kept toFrames) (lossless : s'.Lossless toFrames)
    (started : s'.started = s.started) (frames : s'.frames = s.frames) (cleared : s'.buffer = []) :
    s.buffer = [] := by
  have after := lossless.consecutive
  rw [started, frames, cleared, append_nil, kept.consecutive] at after
  simpa using after

lemma Kept.mixed (kept : s.Kept toFrames) (lossless : s'.Lossless toFrames) (item : Nat × β)
    {first} (started : s'.started = s.started ++ [item])
    (frames : s'.frames = s.frames ++ [first]) (buffer : s'.buffer = next) :
    s.buffer ++ shown (toFrames item.2) = first :: next := by
  have after := lossless.consecutive
  rw [started, frames, buffer, flatMap_append, kept.consecutive, flatMap_singleton,
    append_assoc, append_assoc] at after
  exact append_cancel_left after

lemma eq_new_of_rotate {buffer : List (Msg α)} (shape : buffer = [] ∨ Framed buffer)
    (same : buffer ++ [.new] = .new :: buffer) : buffer = [] ∨ buffer = [.new] := by
  cases buffer with
  | nil => exact .inl rfl
  | cons frame rest =>
    have first : frame = .new := (cons.inj same).1
    cases rest with
    | nil => exact .inr (by rw [first])
    | cons next rest =>
      have more : frame.isMore = true := (shape.resolve_left (by simp)).1
      rw [first] at more
      cases more

lemma gentle_of_lossless {a : Action β} (kept : s.Kept toFrames)
    (taken : s.step toFrames a = some s') (lossless : s'.Lossless toFrames) : s.Gentle a := by
  cases a with
  | recvPoll t =>
    intro rcvtimeo frames call
    obtain ⟨item, has, rfl⟩ := kept.holds_storing call
    cases frames : toFrames item.2 with
    | nil =>
      simp only [step, call, frames, RecvMessage.poll, received, has] at taken
      cases taken
      have mixed := kept.mixed lossless item rfl rfl rfl
      rw [frames] at mixed
      exact (eq_new_of_rotate kept.shape mixed).imp_right fun last => ⟨rfl, last⟩
    | cons first rest =>
      simp only [step, call, frames, RecvMessage.poll, received, has] at taken
      cases taken
      have mixed := kept.mixed lossless item rfl rfl rfl
      rw [frames] at mixed
      exact .inl (by simpa [shown] using mixed)
  | multiPoll t =>
    intro rcvtimeo call
    simp only [step, call, RecvLogicalMessage.poll] at taken
    cases taken
    exact kept.buffer_eq_nil lossless rfl rfl rfl
  | cancel t =>
    intro rcvtimeo frames call
    obtain ⟨item, has, -⟩ := kept.holds_storing call
    obtain ⟨mem, new, -, alone⟩ := kept.held t item has
    simp only [step, call] at taken
    cases taken
    rcases lossless.kept item mem with done | ⟨t', has'⟩
    · exact new done
    · change update s.held t none t' = some item at has'
      by_cases mine : t' = t
      · simp [mine] at has'
      · rw [update_of_ne mine] at has'
        exact mine (alone t' has')
  | clear pipe =>
    simp only [step] at taken
    split at taken <;> cases taken
    exact kept.buffer_eq_nil lossless rfl rfl rfl
  | close =>
    cases taken
    exact kept.buffer_eq_nil lossless rfl rfl rfl
  | _ => trivial

/-- In every run whose steps are gentle every message is delivered once and whole, and exactly the
gentle steps keep it so. -/
theorem delivered_once_and_whole (rcvhwm : Nat)
    (reached : Reaches (step toFrames) (fun s a => Posed toFrames a ∧ s.Gentle a)
      (start rcvhwm) s) :
    s.Lossless toFrames ∧ ∀ a s', Posed toFrames a → s.step toFrames a = some s' →
      (s'.Lossless toFrames ↔ s.Gentle a) := by
  have kept : s.Kept toFrames := reached.invariant kept_step (kept_start rcvhwm)
  refine ⟨kept.toLossless, fun a s' posed taken => ⟨gentle_of_lossless kept taken, ?_⟩⟩
  intro gentle
  exact (kept_step s a s' kept ⟨posed, gentle⟩ taken).toLossless

def pair (n : UInt8) : List (Msg UInt8) := [octet n true, octet n false]

theorem delivered_once_and_whole_pair : ∃ s : Receivers (List (Msg UInt8)) UInt8,
      run (step id) (start 2) [.arrive 1 (pair 7), .push 1, .recvBegin 1 .infinite, .recvPoll 1,
        .recvPoll 1, .recvPoll 1, .recvBegin 1 .infinite, .recvPoll 1] = some s ∧
      s.frames = pair 7 ∧ s.Lossless id := by
  refine exists_of_permitted ?_ rfl fun reached =>
    ⟨by decide +kernel, (delivered_once_and_whole 2 reached).1⟩
  refine ⟨⟨⟨rfl, rfl⟩, trivial⟩, _, rfl, ⟨trivial, trivial⟩, _, rfl, ⟨trivial, trivial⟩, _, rfl, ?_⟩
  iterate 3 refine ⟨⟨trivial, fun _ _ _ => .inl rfl⟩, _, rfl, ?_⟩
  exact ⟨⟨trivial, trivial⟩, _, rfl, ⟨trivial, fun _ _ call => by cases call⟩, _, rfl, trivial⟩

/-- The second of two calls of `recv_message` to store its message overwrites what is left of the
first. -/
theorem frame_overwritten : ∃ s : Receivers (List (Msg UInt8)) UInt8,
      run (step id) (start 2) [.arrive 1 (pair 7), .push 1, .arrive 2 (pair 8), .push 2,
        .recvBegin 1 .infinite, .recvBegin 2 .infinite, .recvPoll 1, .recvPoll 2, .recvPoll 1,
        .recvPoll 2, .recvPoll 1, .recvPoll 2, .recvBegin 1 .infinite, .recvPoll 1] = some s ∧
      s.frames = (pair 7).take 1 ++ pair 8 ∧ s.buffer = [] ∧ s.items = [] ∧ s.wholes = [] ∧
      ¬ s.Lossless id := by
  refine ⟨_, rfl, by decide +kernel, rfl, rfl, rfl, ?_⟩
  intro lossless
  have frames := lossless.consecutive
  revert frames
  decide +kernel

end Receivers

end Rzmq
