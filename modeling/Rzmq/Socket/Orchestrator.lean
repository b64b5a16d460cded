import Rzmq.Message
import Mathlib.Logic.Function.Basic

/-! The receive side that the socket patterns share: the bounded queue, the reassembly of the frames
of each pipe, and the two ways in which an application takes items out.  A future that waits between
its steps is a data type of its stages with a function that polls it. -/

namespace Rzmq

open List

variable {α β : Type}

/-- A socket option of type `Option<Duration>`: none, zero, or any other duration. -/
inductive Timeout where
  | infinite
  | zero
  | finite
deriving DecidableEq

def Framed : List (Msg α) → Prop
  | [] => False
  | [m] => m.isMore = false
  | m :: next :: rest => m.isMore = true ∧ Framed (next :: rest)

lemma Framed.of_append {frames rest : List (Msg α)} (framed : Framed (frames ++ rest))
    (some : rest ≠ []) : Framed rest := by
  induction frames with
  | nil => exact framed
  | cons frame frames ih =>
    apply ih
    cases next : frames ++ rest with
    | nil => exact absurd (append_eq_nil_iff.mp next).2 some
    | cons second later =>
      rw [cons_append, next] at framed
      exact framed.2

lemma Framed.last {frames rest} {frame : Msg α} (last : frame.isMore = false)
    (framed : Framed (frames ++ frame :: rest)) : rest = [] := by
  induction frames with
  | nil =>
    cases rest with
    | nil => rfl
    | cons next rest =>
      have more := framed.1
      rw [last] at more
      cases more
  | cons first frames ih =>
    refine ih ?_
    cases frames with
    | nil | cons second frames => exact framed.2

lemma Framed.first {collected rest message more} {frame : Msg α}
    (carry : ∀ m ∈ collected, m.isMore = true) (last : frame.isMore = false)
    (framed : Framed message) (stream : collected ++ frame :: rest = message ++ more) :
    collected ++ [frame] = message ∧ rest = more := by
  induction collected generalizing message with
  | nil =>
    cases message with
    | nil => exact framed.elim
    | cons first tail =>
      obtain ⟨rfl, eq⟩ := cons.inj stream
      cases tail with
      | nil => exact ⟨rfl, eq⟩
      | cons second tail =>
        have carries := framed.1
        rw [last] at carries
        cases carries
  | cons c cs ih =>
    cases message with
    | nil => exact framed.elim
    | cons first tail =>
      obtain ⟨rfl, eq⟩ := cons.inj stream
      cases tail with
      | nil =>
        have ends : c.isMore = false := framed
        rw [carry c mem_cons_self] at ends
        cases ends
      | cons second tail =>
        obtain ⟨whole, same⟩ :=
          ih (fun m mem => carry m (mem_cons_of_mem _ mem)) framed.2 eq
        exact ⟨by rw [cons_append, whole], same⟩

lemma Framed.exists_last {frames : List (Msg α)} (framed : Framed frames) :
    ∃ frame ∈ frames, frame.isMore = false := by
  induction frames with
  | nil => exact framed.elim
  | cons first rest ih =>
    cases rest with
    | nil => exact ⟨first, mem_cons_self, framed⟩
    | cons second rest =>
      obtain ⟨frame, mem, last⟩ := ih framed.2
      exact ⟨frame, mem_cons_of_mem _ mem, last⟩

namespace Msg

def setMore (m : Msg α) (more : Bool) : Msg α := ⟨m.data, ⟨more, m.flags.command⟩, m.size_lt⟩

@[simp] lemma setMore_body (m : Msg α) (more : Bool) : (m.setMore more).body = m.body := rfl

@[simp] lemma setMore_isMore (m : Msg α) (more : Bool) : (m.setMore more).isMore = more := rfl

lemma setMore_self {m : Msg α} {more : Bool} (carries : m.isMore = more) :
    m.setMore more = m := by
  subst carries
  rfl

end Msg

def linked : List (Msg α) → List (Msg α)
  | [] => []
  | [last] => [last.setMore false]
  | frame :: next :: rest => frame.setMore true :: linked (next :: rest)

lemma framed_linked {frames : List (Msg α)} (some : frames ≠ []) : Framed (linked frames) := by
  induction frames with
  | nil => exact absurd rfl some
  | cons first rest ih =>
    cases rest with
    | nil => exact Msg.setMore_isMore first false
    | cons next rest =>
      have later := ih (by simp)
      cases rest with
      | nil | cons third rest => exact ⟨rfl, later⟩

lemma Framed.linked_eq {frames : List (Msg α)} (framed : Framed frames) :
    linked frames = frames := by
  induction frames with
  | nil => rfl
  | cons first rest ih =>
    cases rest with
    | nil =>
      show [first.setMore false] = [first]
      rw [Msg.setMore_self framed]
    | cons next rest =>
      show first.setMore true :: linked (next :: rest) = first :: next :: rest
      rw [ih framed.2, Msg.setMore_self framed.1]

/-- The channel.  Once it is closed it takes no item, and gives out those it has. -/
structure FairQueue (β : Type) where
  items : List β
  hwm : Nat
  closed : Bool

namespace FairQueue

def new (capacity : Nat) : FairQueue β := ⟨[], max capacity 1, false⟩

def pushItem (q : FairQueue β) (item : β) : Option (Except ZmqError (FairQueue β)) :=
  if q.closed then some (.error (.internal "FairQueue channel closed unexpectedly"))
  else if q.items.length < q.hwm then some (.ok { q with items := q.items ++ [item] })
  else none

def popItem (q : FairQueue β) : Option (Option β × FairQueue β) :=
  match q.items with
  | item :: rest => some (some item, { q with items := rest })
  | [] => if q.closed then some (none, q) else none

def tryPopItem (q : FairQueue β) : Except ZmqError (Option β × FairQueue β) :=
  match q.items with
  | item :: rest => .ok (some item, { q with items := rest })
  | [] =>
    if q.closed then .error (.internal "FairQueue channel closed unexpectedly")
    else .ok (none, q)

end FairQueue

structure IncomingMessageOrchestrator (β α : Type) where
  mainIncomingQueue : FairQueue β
  partialPipeMessages : Nat → List (Msg α)
  currentRecvFramesBuffer : List (Msg α)

namespace IncomingMessageOrchestrator

def new (rcvhwm : Nat) : IncomingMessageOrchestrator β α :=
  ⟨.new (max rcvhwm 1), fun _ => [], []⟩

def accumulatePipeFrame (o : IncomingMessageOrchestrator β α) (pipe : Nat) (frame : Msg α) :
    Option (List (Msg α)) × IncomingMessageOrchestrator β α :=
  let frames := o.partialPipeMessages pipe ++ [frame]
  if frame.isMore then
    (none, { o with partialPipeMessages := Function.update o.partialPipeMessages pipe frames })
  else
    (some frames, { o with partialPipeMessages := Function.update o.partialPipeMessages pipe [] })

def accumulateFrames (o : IncomingMessageOrchestrator β α) (pipe : Nat) :
    List (Msg α) → List (List (Msg α)) × IncomingMessageOrchestrator β α
  | [] => ([], o)
  | frame :: rest =>
    match o.accumulatePipeFrame pipe frame with
    | (none, o) => o.accumulateFrames pipe rest
    | (some message, o) =>
      let (later, o) := o.accumulateFrames pipe rest
      (message :: later, o)

lemma accumulateFrames_framed (o : IncomingMessageOrchestrator β α) (pipe : Nat)
    {frames} (framed : Framed frames) :
    o.accumulateFrames pipe frames = ([o.partialPipeMessages pipe ++ frames],
      { o with partialPipeMessages := Function.update o.partialPipeMessages pipe [] }) := by
  induction frames generalizing o with
  | nil => exact framed.elim
  | cons first rest ih =>
    cases rest with
    | nil =>
      have last : first.isMore = false := framed
      simp [accumulateFrames, accumulatePipeFrame, last]
    | cons next rest =>
      have more : first.isMore = true := framed.1
      rw [accumulateFrames]
      simp only [accumulatePipeFrame, more, if_true]
      rw [ih _ framed.2]
      simp

abbrev setItems (o : IncomingMessageOrchestrator β α) (items : List β) :
    IncomingMessageOrchestrator β α :=
  { o with mainIncomingQueue := { o.mainIncomingQueue with items } }

def queueItem (o : IncomingMessageOrchestrator β α) (item : β) :
    Option (Except ZmqError (IncomingMessageOrchestrator β α)) :=
  match o.mainIncomingQueue.pushItem item with
  | none => none
  | some (.ok q) => some (.ok { o with mainIncomingQueue := q })
  | some (.error _) =>
    some (.error (.internal "Main incoming queue channel unexpectedly closed"))

/-- One poll of `recv_item_from_main_queue`; the expiry of a finite timeout is the caller's. -/
def recvItemFromMainQueue (o : IncomingMessageOrchestrator β α) (rcvtimeo : Timeout) :
    Option (Except ZmqError β × IncomingMessageOrchestrator β α) :=
  match rcvtimeo with
  | .zero =>
    match o.mainIncomingQueue.tryPopItem with
    | .ok (some item, q) => some (.ok item, { o with mainIncomingQueue := q })
    | .ok (none, _) => some (.error .resourceLimitReached, o)
    | .error e => some (.error e, o)
  | .finite =>
    match o.mainIncomingQueue.popItem with
    | some (some item, q) => some (.ok item, { o with mainIncomingQueue := q })
    | some (none, _) =>
      some (.error (.internal "Orchestrator: Main receive queue closed while popping item"), o)
    | none => none
  | .infinite =>
    match o.mainIncomingQueue.popItem with
    | some (some item, q) => some (.ok item, { o with mainIncomingQueue := q })
    | some (none, _) =>
      some (.error (.internal "Orchestrator: Main receive queue closed (inf wait)"), o)
    | none => none

variable {o o' : IncomingMessageOrchestrator β α}

lemma recvItemFromMainQueue_ready {rcvtimeo result}
    (polled : o.recvItemFromMainQueue rcvtimeo = some (result, o')) :
    (∃ item rest, o.mainIncomingQueue.items = item :: rest ∧ result = .ok item ∧
      o' = o.setItems rest) ∨
    ∃ e, result = .error e ∧ o' = o ∧ o.mainIncomingQueue.items = [] ∧
      (o.mainIncomingQueue.closed = true ∨ rcvtimeo = .zero) := by
  cases items : o.mainIncomingQueue.items with
  | nil =>
    right
    cases rcvtimeo <;> by_cases closed : o.mainIncomingQueue.closed <;>
      simp [recvItemFromMainQueue, FairQueue.tryPopItem, FairQueue.popItem, items, closed]
        at polled <;>
      exact ⟨_, polled.1.symm, polled.2.symm, rfl, by simp [closed]⟩
  | cons item rest =>
    left
    cases rcvtimeo <;>
      simp [recvItemFromMainQueue, FairQueue.tryPopItem, FairQueue.popItem, items] at polled <;>
      exact ⟨item, rest, rfl, polled.1.symm, polled.2.symm⟩

lemma recvItemFromMainQueue_cons {o : IncomingMessageOrchestrator β α} {item : β} {rest : List β}
    (items : o.mainIncomingQueue.items = item :: rest) (rcvtimeo : Timeout) :
    o.recvItemFromMainQueue rcvtimeo = some (.ok item, o.setItems rest) := by
  cases rcvtimeo <;> simp [recvItemFromMainQueue, FairQueue.tryPopItem, FairQueue.popItem, items]

lemma queueItem_ok {item : β} (pushed : o.queueItem item = some (.ok o')) :
    o' = o.setItems (o.mainIncomingQueue.items ++ [item]) := by
  unfold queueItem FairQueue.pushItem at pushed
  split at pushed
  · cases pushed
  · rename_i q ready
    cases pushed
    split at ready
    · cases ready
    · split at ready
      · cases ready
        rfl
      · cases ready
  · cases pushed

lemma queueItem_open {o : IncomingMessageOrchestrator β α}
    (opened : o.mainIncomingQueue.closed = false) (item : β) (e : ZmqError) :
    o.queueItem item ≠ some (.error e) := by
  by_cases room : o.mainIncomingQueue.items.length < o.mainIncomingQueue.hwm <;>
    simp [queueItem, FairQueue.pushItem, opened, room]

lemma queueItem_room {o : IncomingMessageOrchestrator β α}
    (opened : o.mainIncomingQueue.closed = false)
    (room : o.mainIncomingQueue.items.length < o.mainIncomingQueue.hwm) (item : β) :
    ∃ o', o.queueItem item = some (.ok o') := by
  simp [queueItem, FairQueue.pushItem, opened, room]

def resetRecvMessageBuffer (o : IncomingMessageOrchestrator β α) :
    IncomingMessageOrchestrator β α :=
  { o with currentRecvFramesBuffer := [] }

def removePartial (o : IncomingMessageOrchestrator β α) (pipe : Nat) :
    IncomingMessageOrchestrator β α :=
  { o with partialPipeMessages := Function.update o.partialPipeMessages pipe [] }

def clearPipeState (o : IncomingMessageOrchestrator β α) (pipe : Nat) :
    IncomingMessageOrchestrator β α :=
  (o.removePartial pipe).resetRecvMessageBuffer

def close (o : IncomingMessageOrchestrator β α) : IncomingMessageOrchestrator β α :=
  ⟨{ o.mainIncomingQueue with closed := true }, fun _ => [], []⟩

end IncomingMessageOrchestrator

/-- Before the frame buffer is looked at, waiting for an item, or with one whose frames are still to
be stored. -/
inductive RecvMessage (α : Type) where
  | locking
  | popping
  | storing (frames : List (Msg α))

namespace RecvMessage

def poll (toFrames : β → List (Msg α)) (rcvtimeo : Timeout) (o : IncomingMessageOrchestrator β α) :
    RecvMessage α →
      Option ((RecvMessage α ⊕ Except ZmqError (Msg α)) × IncomingMessageOrchestrator β α)
  | .locking =>
    match o.currentRecvFramesBuffer with
    | [] => some (.inl .popping, o)
    | frame :: rest =>
      some (.inr (.ok (frame.setMore !rest.isEmpty)), { o with currentRecvFramesBuffer := rest })
  | .popping =>
    match o.recvItemFromMainQueue rcvtimeo with
    | none => none
    | some (.ok item, o') => some (.inl (.storing (toFrames item)), o')
    | some (.error e, o') => some (.inr (.error e), o')
  | .storing [] => some (.inr (.ok .new), o)
  | .storing (first :: rest) =>
    some (.inr (.ok first), { o with currentRecvFramesBuffer := rest })

section

variable (toFrames : β → List (Msg α)) (rcvtimeo : Timeout) (o : IncomingMessageOrchestrator β α)

inductive Polls : RecvMessage α → RecvMessage α ⊕ Except ZmqError (Msg α) →
    IncomingMessageOrchestrator β α → Prop where
  | unbuffered (buffer : o.currentRecvFramesBuffer = []) : Polls .locking (.inl .popping) o
  | buffered (buffer : o.currentRecvFramesBuffer = frame :: rest) :
      Polls .locking (.inr (.ok (frame.setMore !rest.isEmpty)))
        { o with currentRecvFramesBuffer := rest }
  | popped (items : o.mainIncomingQueue.items = item :: rest) :
      Polls .popping (.inl (.storing (toFrames item))) (o.setItems rest)
  | failed (items : o.mainIncomingQueue.items = [])
      (why : o.mainIncomingQueue.closed = true ∨ rcvtimeo = .zero) :
      Polls .popping (.inr (.error e)) o
  | nothing : Polls (.storing []) (.inr (.ok .new)) o
  | stored : Polls (.storing (first :: rest)) (.inr (.ok first))
      { o with currentRecvFramesBuffer := rest }

end

variable {o o' : IncomingMessageOrchestrator β α} {toFrames : β → List (Msg α)}

lemma poll_cases {rcvtimeo fut r} (polled : poll toFrames rcvtimeo o fut = some (r, o')) :
    Polls toFrames rcvtimeo o fut r o' := by
  unfold poll at polled
  split at polled
  · split at polled <;> cases polled
    · exact .unbuffered ‹_›
    · exact .buffered ‹_›
  · split at polled <;> cases polled
    all_goals
      rename_i ready
      obtain ⟨item, rest, items, ⟨⟩, rfl⟩ | ⟨e, ⟨⟩, rfl, items, why⟩ :=
        IncomingMessageOrchestrator.recvItemFromMainQueue_ready ready
    · exact .popped items
    · exact .failed items why
  · cases polled
    exact .nothing
  · cases polled
    exact .stored

end RecvMessage

inductive RecvLogicalMessage where
  | locking
  | popping

namespace RecvLogicalMessage

def poll (rcvtimeo : Timeout) (o : IncomingMessageOrchestrator β α) :
    RecvLogicalMessage →
      Option ((RecvLogicalMessage ⊕ Except ZmqError β) × IncomingMessageOrchestrator β α)
  | .locking => some (.inl .popping, o.resetRecvMessageBuffer)
  | .popping =>
    match o.recvItemFromMainQueue rcvtimeo with
    | none => none
    | some (result, o') => some (.inr result, o')

section

variable (rcvtimeo : Timeout) (o : IncomingMessageOrchestrator β α)

inductive Polls : RecvLogicalMessage → RecvLogicalMessage ⊕ Except ZmqError β →
    IncomingMessageOrchestrator β α → Prop where
  | reset : Polls .locking (.inl .popping) o.resetRecvMessageBuffer
  | popped (items : o.mainIncomingQueue.items = item :: rest) :
      Polls .popping (.inr (.ok item)) (o.setItems rest)
  | failed (items : o.mainIncomingQueue.items = [])
      (why : o.mainIncomingQueue.closed = true ∨ rcvtimeo = .zero) :
      Polls .popping (.inr (.error e)) o

end

variable {o o' : IncomingMessageOrchestrator β α}

lemma poll_cases {rcvtimeo fut r} (polled : poll rcvtimeo o fut = some (r, o')) :
    Polls rcvtimeo o fut r o' := by
  unfold poll at polled
  split at polled
  · cases polled
    exact .reset
  · split at polled <;> cases polled
    rename_i ready
    obtain ⟨item, rest, items, rfl, rfl⟩ | ⟨e, rfl, rfl, items, why⟩ :=
      IncomingMessageOrchestrator.recvItemFromMainQueue_ready ready
    · exact .popped items
    · exact .failed items why

end RecvLogicalMessage

end Rzmq
