import Rzmq.Lib.Transition
import Rzmq.Socket.Orchestrator
import Rzmq.Socket.Sub.Trie

/-! The receive side of a SUB socket.  Each pipe has a reader of its own that reassembles a message,
asks the trie about it and queues it; the subscriptions may change between these steps. -/

namespace Rzmq

open List Function Transition IncomingMessageOrchestrator

inductive SubStage where
  | idle
  | filtering (message : List (Msg UInt8))
  | queueing (message : List (Msg UInt8))

/-- A message that was filtered, and the option calls before that: a topic with SUBSCRIBE or
UNSUBSCRIBE. -/
structure SubFiltered where
  pipe : Nat
  message : List (Msg UInt8)
  calls : List (List UInt8 × Bool)

structure SubSocket where
  subscriptions : TrieNode
  incomingOrchestrator : IncomingMessageOrchestrator (List (Msg UInt8)) UInt8
  stage : Nat → SubStage
  calls : List (List UInt8 × Bool)
  arrived : Nat → List (Msg UInt8)
  filtered : List SubFiltered
  queued : List (Nat × List (Msg UInt8))
  received : List (List (Msg UInt8))

inductive SubAction where
  | subscribe (topic : List UInt8)
  | unsubscribe (topic : List UInt8)
  | frame (pipe : Nat) (msg : Msg UInt8)
  | filter (pipe : Nat)
  | queue (pipe : Nat)
  | recv

namespace SubAction

def call : SubAction → Option (List UInt8 × Bool)
  | .subscribe topic => some (topic, true)
  | .unsubscribe topic => some (topic, false)
  | _ => none

def frameOn (pipe : Nat) : SubAction → Option (Msg UInt8)
  | .frame p msg => if p = pipe then some msg else none
  | _ => none

def filters : SubAction → Option Nat
  | .filter pipe => some pipe
  | _ => none

end SubAction

/-- The pipes whose messages are filtered, each with the option calls up to then. -/
def filterings (calls : List (List UInt8 × Bool)) :
    List SubAction → List (Nat × List (List UInt8 × Bool))
  | [] => []
  | a :: rest =>
    (a.filters.map fun pipe => (pipe, calls)).toList ++ filterings (calls ++ a.call.toList) rest

namespace SubSocket

def new (rcvhwm : Nat) : SubSocket where
  subscriptions := .new
  incomingOrchestrator := .new rcvhwm
  stage _ := .idle
  calls := []
  arrived _ := []
  filtered := []
  queued := []
  received := []

def topicData (message : List (Msg UInt8)) : List UInt8 := (message.head?.bind (·.data)).getD []

def step (s : SubSocket) : SubAction → Option SubSocket
  | .subscribe topic => some { s with
      subscriptions := s.subscriptions.subscribe topic
      calls := s.calls ++ [(topic, true)] }
  | .unsubscribe topic => some { s with
      subscriptions := (s.subscriptions.unsubscribe topic).2
      calls := s.calls ++ [(topic, false)] }
  | .frame pipe msg =>
    match s.stage pipe with
    | .idle =>
      let s := { s with arrived := update s.arrived pipe (s.arrived pipe ++ [msg]) }
      match s.incomingOrchestrator.accumulatePipeFrame pipe msg with
      | (none, o) => some { s with incomingOrchestrator := o }
      | (some message, o) => some { s with
          incomingOrchestrator := o
          stage := update s.stage pipe (.filtering message) }
    | _ => none
  | .filter pipe =>
    match s.stage pipe with
    | .filtering message =>
      let hit := s.subscriptions.matches (topicData message)
      some { s with
        stage := update s.stage pipe (if hit then .queueing message else .idle)
        filtered := s.filtered ++ [⟨pipe, message, s.calls⟩] }
    | _ => none
  | .queue pipe =>
    match s.stage pipe with
    | .queueing message =>
      match s.incomingOrchestrator.queueItem message with
      | some (.ok o) => some { s with
          incomingOrchestrator := o
          stage := update s.stage pipe .idle
          queued := s.queued ++ [(pipe, message)] }
      | _ => none
    | _ => none
  | .recv =>
    match s.incomingOrchestrator.mainIncomingQueue.popItem with
    | some (some message, q) => some { s with
        incomingOrchestrator := { s.incomingOrchestrator with mainIncomingQueue := q }
        received := s.received ++ [message] }
    | _ => none

/-! ### What the option calls ask for -/

/-- The calls of SUBSCRIBE for a topic, less those of UNSUBSCRIBE that found one to undo. -/
def active (topic : List UInt8) (calls : List (List UInt8 × Bool)) : Nat :=
  calls.foldl (fun n call => if topic = call.1 then (if call.2 then n + 1 else n - 1) else n) 0

def Wanted (f : SubFiltered) : Prop :=
  ∃ topic, topic <+: topicData f.message ∧ 0 < active topic f.calls

instance (f : SubFiltered) : Decidable (Wanted f) :=
  decidable_of_iff (∃ topic ∈ (topicData f.message).inits, 0 < active topic f.calls)
    (by simp only [mem_inits, Wanted])

variable (s : SubSocket)

def filteredOf (pipe : Nat) : List SubFiltered := s.filtered.filter (·.pipe = pipe)

def queuedOf (pipe : Nat) : List (List (Msg UInt8)) :=
  (s.queued.filter (·.1 = pipe)).map (·.2)

def unfiltered (pipe : Nat) : List (List (Msg UInt8)) :=
  match s.stage pipe with
  | .filtering message => [message]
  | _ => []

def unqueued (pipe : Nat) : List (List (Msg UInt8)) :=
  match s.stage pipe with
  | .queueing message => [message]
  | _ => []

/-- The frames that come on each pipe are taken up whole and in order; the messages that were wanted
when they were filtered are queued, no others, and the application gets what was queued. -/
structure Filters (arrived : Nat → List (Msg UInt8)) : Prop where
  whole : ∀ pipe, (((s.filteredOf pipe).map (·.message)) ++ s.unfiltered pipe).flatten ++
    s.incomingOrchestrator.partialPipeMessages pipe = arrived pipe
  framed : ∀ pipe, ∀ message ∈ (s.filteredOf pipe).map (·.message) ++ s.unfiltered pipe,
    Framed message
  matching : ∀ pipe, s.queuedOf pipe ++ s.unqueued pipe =
    ((s.filteredOf pipe).filter (Wanted ·)).map (·.message)
  received : s.received ++ s.incomingOrchestrator.mainIncomingQueue.items = s.queued.map (·.2)

/-! ### The steps -/

structure Sound : Prop extends Filters s s.arrived where
  counts : ∀ topic, s.subscriptions.subscriptions topic = active topic s.calls
  carry : ∀ pipe, ∀ m ∈ s.incomingOrchestrator.partialPipeMessages pipe, m.isMore = true
  opened : s.incomingOrchestrator.mainIncomingQueue.closed = false

lemma active_append (topic topic') (added : Bool) (calls) :
    active topic (calls ++ [(topic', added)]) =
      if topic = topic' then (if added then active topic calls + 1 else active topic calls - 1)
      else active topic calls := by
  simp [active]

lemma framed_concat {frames} {last : Msg UInt8}
    (carry : ∀ m ∈ frames, m.isMore = true) (ends : last.isMore = false) :
    Framed (frames ++ [last]) := by
  induction frames with
  | nil => exact ends
  | cons first rest ih =>
    have later := ih fun m mem => carry m (mem_cons_of_mem _ mem)
    cases rest with
    | nil | cons second rest => exact ⟨carry first mem_cons_self, later⟩

lemma Sound.hit {s : SubSocket} (sound : s.Sound) (pipe : Nat) (message) :
    s.subscriptions.matches (topicData message) = true ↔ Wanted ⟨pipe, message, s.calls⟩ := by
  simp [TrieNode.matches_iff, sound.counts, Wanted]

variable {s t : SubSocket}

section

variable (sound : s.Sound)
include sound

lemma Sound.subscribe (topic) (added : Bool) {trie}
    (counts : ∀ topic', trie.subscriptions topic' = if topic' = topic
      then (if added then s.subscriptions.subscriptions topic' + 1
        else s.subscriptions.subscriptions topic' - 1)
      else s.subscriptions.subscriptions topic') :
    ({ s with subscriptions := trie, calls := s.calls ++ [(topic, added)] } : SubSocket).Sound :=
  { sound with
    counts := fun topic' => by
      rw [active_append, ← sound.counts]
      exact counts topic' }

lemma Sound.more {pipe : Nat} {msg} (more : msg.isMore = true) : ({ s with
      arrived := update s.arrived pipe (s.arrived pipe ++ [msg])
      incomingOrchestrator := { s.incomingOrchestrator with
        partialPipeMessages := update s.incomingOrchestrator.partialPipeMessages pipe
          (s.incomingOrchestrator.partialPipeMessages pipe ++ [msg]) } } : SubSocket).Sound :=
  { sound with
    whole := fun other => by
      by_cases same : other = pipe
      · subst same
        have whole := sound.whole other
        simp only [update_self, ← whole, append_assoc]
        rfl
      · simp only [update_of_ne same]
        exact sound.whole other
    carry := fun other m mem => by
      by_cases same : other = pipe
      · subst same
        simp only [update_self, mem_append, mem_singleton] at mem
        obtain old | rfl := mem
        · exact sound.carry other m old
        · exact more
      · simp only [update_of_ne same] at mem
        exact sound.carry other m mem }

lemma Sound.complete {pipe : Nat} {msg : Msg UInt8} (idle : s.stage pipe = .idle)
    (ends : msg.isMore = false) :
    ({ s with
      arrived := update s.arrived pipe (s.arrived pipe ++ [msg])
      incomingOrchestrator := { s.incomingOrchestrator with
        partialPipeMessages := update s.incomingOrchestrator.partialPipeMessages pipe [] }
      stage := update s.stage pipe
        (.filtering (s.incomingOrchestrator.partialPipeMessages pipe ++ [msg])) } :
      SubSocket).Sound :=
  { sound with
    whole := fun other => by
      have whole := sound.whole other
      by_cases same : other = pipe
      · subst same
        simp only [unfiltered, idle, append_nil] at whole
        simp [unfiltered, filteredOf, ← whole]
      · simpa only [unfiltered, filteredOf, update_of_ne same] using whole
    framed := fun other message mem => by
      have framed := sound.framed other message
      by_cases same : other = pipe
      · subst same
        simp only [unfiltered, update_self, mem_append, mem_singleton] at mem
        obtain old | rfl := mem
        · exact framed (mem_append_left _ old)
        · exact framed_concat (sound.carry other) ends
      · simp only [unfiltered, update_of_ne same] at mem
        exact framed mem
    matching := fun other => by
      have matching := sound.matching other
      by_cases same : other = pipe
      · subst same
        simp only [unqueued, idle] at matching
        simpa only [unqueued, queuedOf, filteredOf, update_self] using matching
      · simpa only [unqueued, queuedOf, filteredOf, update_of_ne same] using matching
    carry := fun other m mem => by
      by_cases same : other = pipe
      · subst same
        simp only [update_self] at mem
        cases mem
      · simp only [update_of_ne same] at mem
        exact sound.carry other m mem }

lemma Sound.frame {pipe : Nat} {msg} (taken : s.step (.frame pipe msg) = some t) : t.Sound := by
  simp only [step] at taken
  split at taken
  · rename_i idle
    by_cases more : msg.isMore = true
    · simp only [accumulatePipeFrame, more, if_true] at taken
      cases taken
      exact sound.more more
    · simp only [accumulatePipeFrame, more] at taken
      cases taken
      exact sound.complete idle (Bool.eq_false_iff.mpr more)
  · cases taken

lemma Sound.filter {pipe : Nat} {message} (filtering : s.stage pipe = .filtering message) :
    ({ s with
      stage := update s.stage pipe
        (if s.subscriptions.matches (topicData message) then .queueing message else .idle)
      filtered := s.filtered ++ [⟨pipe, message, s.calls⟩] } : SubSocket).Sound :=
  { sound with
    whole := fun other => by
      have whole := sound.whole other
      by_cases same : other = pipe
      · subst same
        simp only [unfiltered, filtering] at whole
        rw [← whole]
        split_ifs <;> simp [unfiltered, filteredOf]
      · simpa [unfiltered, filteredOf, update_of_ne same, Ne.symm same] using whole
    framed := fun other m mem => by
      refine sound.framed other m ?_
      by_cases same : other = pipe
      · subst same
        simp only [unfiltered, filtering]
        split_ifs at mem <;> simpa [unfiltered, filteredOf] using mem
      · simpa [unfiltered, filteredOf, update_of_ne same, Ne.symm same] using mem
    matching := fun other => by
      have matching := sound.matching other
      by_cases same : other = pipe
      · subst same
        simp only [unqueued, filtering, append_nil] at matching
        have hit := sound.hit other message
        by_cases wanted : Wanted ⟨other, message, s.calls⟩
        · simp [unqueued, queuedOf, filteredOf, hit.mpr wanted, wanted] at matching ⊢
          exact matching
        · have miss := mt hit.mp wanted
          simp [unqueued, queuedOf, filteredOf, miss, wanted] at matching ⊢
          exact matching
      · simpa [unqueued, queuedOf, filteredOf, update_of_ne same, Ne.symm same] using matching }

lemma Sound.queue {pipe : Nat} {message o} (queueing : s.stage pipe = .queueing message)
    (pushed : s.incomingOrchestrator.queueItem message = some (.ok o)) :
    ({ s with
      incomingOrchestrator := o
      stage := update s.stage pipe .idle
      queued := s.queued ++ [(pipe, message)] } : SubSocket).Sound := by
  have same := queueItem_ok pushed
  subst same
  refine { sound with
    whole := fun other => ?_
    framed := fun other m mem => ?_
    matching := fun other => ?_
    received := ?_ }
  · have whole := sound.whole other
    by_cases same : other = pipe
    · subst same
      simpa only [unfiltered, filteredOf, queueing, update_self] using whole
    · simpa only [unfiltered, filteredOf, update_of_ne same] using whole
  · refine sound.framed other m ?_
    by_cases same : other = pipe
    · subst same
      simpa only [unfiltered, filteredOf, queueing, update_self] using mem
    · simpa only [unfiltered, filteredOf, update_of_ne same] using mem
  · have matching := sound.matching other
    by_cases same : other = pipe
    · subst same
      simp only [unqueued, queueing] at matching
      simpa [unqueued, queuedOf, filteredOf] using matching
    · simpa [unqueued, queuedOf, filteredOf, update_of_ne same, Ne.symm same] using matching
  · simp [← sound.received]

lemma Sound.recv {message q}
    (popped : s.incomingOrchestrator.mainIncomingQueue.popItem = some (some message, q)) :
    ({ s with
      incomingOrchestrator := { s.incomingOrchestrator with mainIncomingQueue := q }
      received := s.received ++ [message] } : SubSocket).Sound := by
  have received := sound.received
  unfold FairQueue.popItem at popped
  split at popped
  · rename_i first rest items
    cases popped
    refine { sound with received := ?_ }
    rw [← received, items, append_assoc]
    rfl
  · split_ifs at popped
    cases popped

lemma Sound.step {a} (taken : s.step a = some t) : t.Sound := by
  cases a with
  | subscribe topic =>
    cases taken
    exact sound.subscribe topic true fun topic' => TrieNode.subscriptions_subscribe _ _ _
  | unsubscribe topic =>
    cases taken
    exact sound.subscribe topic false fun topic' => TrieNode.subscriptions_unsubscribe _ _ _
  | frame pipe msg => exact sound.frame taken
  | filter pipe =>
    dsimp only [SubSocket.step] at taken
    split at taken <;> cases taken
    exact sound.filter ‹_›
  | queue pipe =>
    dsimp only [SubSocket.step] at taken
    split at taken
    · split at taken <;> cases taken
      exact sound.queue ‹_› ‹_›
    · cases taken
  | recv =>
    dsimp only [SubSocket.step] at taken
    split at taken <;> cases taken
    exact sound.recv ‹_›

end

lemma sound_new (rcvhwm : Nat) : (new rcvhwm).Sound where
  whole _ := rfl
  framed _ _ mem := nomatch mem
  matching _ := rfl
  received := rfl
  counts topic := TrieNode.subscriptions_new topic
  carry _ _ mem := nomatch mem
  opened := rfl

/-- The logs have what the actions say. -/
lemma step_logs {a} (taken : s.step a = some t) :
    (∀ pipe, t.arrived pipe = s.arrived pipe ++ (a.frameOn pipe).toList) ∧
      t.calls = s.calls ++ a.call.toList ∧
      t.filtered.map (fun f => (f.pipe, f.calls)) = s.filtered.map (fun f => (f.pipe, f.calls)) ++
        (a.filters.map fun pipe => (pipe, s.calls)).toList := by
  cases a with
  | subscribe topic | unsubscribe topic =>
    cases taken
    simp [SubAction.frameOn, SubAction.call, SubAction.filters]
  | frame pipe msg =>
    have others (p : Nat) : update s.arrived pipe (s.arrived pipe ++ [msg]) p =
        s.arrived p ++ ((SubAction.frame pipe msg).frameOn p).toList := by
      by_cases same : p = pipe
      · simp [SubAction.frameOn, same]
      · simp [SubAction.frameOn, update_of_ne same, Ne.symm same]
    dsimp only [step] at taken
    split at taken
    · split at taken <;> cases taken <;> exact ⟨others, (append_nil _).symm, (append_nil _).symm⟩
    · cases taken
  | filter pipe =>
    dsimp only [step] at taken
    split at taken <;> cases taken
    simp [SubAction.frameOn, SubAction.call, SubAction.filters]
  | queue pipe =>
    dsimp only [step] at taken
    split at taken
    · split at taken <;> cases taken
      simp [SubAction.frameOn, SubAction.call, SubAction.filters]
    · cases taken
  | recv =>
    dsimp only [step] at taken
    split at taken <;> cases taken
    simp [SubAction.frameOn, SubAction.call, SubAction.filters]

lemma run_logs {actions} (ran : run step s actions = some t) :
    (∀ pipe, t.arrived pipe = s.arrived pipe ++ actions.filterMap (·.frameOn pipe)) ∧
      t.calls = s.calls ++ actions.filterMap SubAction.call ∧
      t.filtered.map (fun f => (f.pipe, f.calls)) =
        s.filtered.map (fun f => (f.pipe, f.calls)) ++ filterings s.calls actions := by
  induction actions generalizing s with
  | nil =>
    cases ran
    simp [filterings]
  | cons a rest ih =>
    obtain ⟨u, taken, after⟩ := Option.bind_eq_some_iff.mp ran
    obtain ⟨arrived, calls, filtered⟩ := step_logs taken
    obtain ⟨arrived', calls', filtered'⟩ := ih after
    have joins {β : Type} (f : SubAction → Option β) :
        (a :: rest).filterMap f = (f a).toList ++ rest.filterMap f := by
      rw [filterMap_cons]
      cases f a <;> rfl
    refine ⟨fun pipe => ?_, ?_, ?_⟩
    · rw [arrived', arrived, joins, append_assoc]
    · rw [calls', calls, joins, append_assoc]
    · rw [filtered', filtered, calls, filterings, append_assoc]

/-- Whatever is done with a SUB socket, it has taken up the frames that came, and it queues the
messages that the subscriptions ask for when they are filtered, and no others.  A pipe without a
message in hand takes the next frame; a message in hand is filtered, and it is queued if it is
wanted, as soon as the queue has room. -/
theorem sub_filters (rcvhwm : Nat) (actions : List SubAction) (s : SubSocket)
    (ran : run step (new rcvhwm) actions = some s) :
    s.Filters (fun pipe => actions.filterMap (·.frameOn pipe)) ∧
      s.filtered.map (fun f => (f.pipe, f.calls)) = filterings [] actions ∧
      ∀ pipe, (s.stage pipe = .idle → ∀ msg, ∃ t, s.step (.frame pipe msg) = some t) ∧
        ∀ message,
          (s.stage pipe = .filtering message → ∃ t, s.step (.filter pipe) = some t ∧
            t.stage pipe =
              if Wanted ⟨pipe, message, actions.filterMap SubAction.call⟩ then .queueing message
              else .idle) ∧
          (s.stage pipe = .queueing message →
            s.incomingOrchestrator.mainIncomingQueue.items.length <
              s.incomingOrchestrator.mainIncomingQueue.hwm →
            ∃ t, s.step (.queue pipe) = some t ∧ t.stage pipe = .idle ∧
              t.queued = s.queued ++ [(pipe, message)]) := by
  have reached : Reaches step (fun _ _ => True) (new rcvhwm) s :=
    reaches_of_run actions (fun _ _ _ => trivial) ran
  have sound : s.Sound :=
    reached.invariant (fun _ _ _ sound _ taken => sound.step taken) (sound_new rcvhwm)
  obtain ⟨arrived, calls, filtered⟩ := run_logs ran
  refine ⟨{ sound with whole := fun pipe => (sound.whole pipe).trans (arrived pipe) }, filtered,
    fun pipe => ⟨fun idle msg => ?_, fun message => ⟨fun filtering => ?_, fun queueing room => ?_⟩⟩⟩
  · simp only [step, idle]
    split <;> exact ⟨_, rfl⟩
  · have hit := sound.hit pipe message
    rw [show s.calls = _ from calls, show (new rcvhwm).calls = [] from rfl, nil_append] at hit
    simp only [step, filtering, hit]
    exact ⟨_, rfl, update_self ..⟩
  · obtain ⟨o, pushed⟩ := queueItem_room sound.opened room message
    simp only [step, queueing, pushed]
    exact ⟨_, rfl, update_self .., rfl⟩

/-- A message on each of two pipes, whose frames come in turns. -/
def twoPipes : List SubAction :=
  [.subscribe [1], .frame 0 (octet 1 true), .frame 1 (octet 2 false), .frame 0 (octet 3 false),
    .filter 1, .filter 0, .queue 0, .recv]

theorem sub_filters_two : ∃ s, run step (new 1000) twoPipes = some s ∧
      s.queued = [(0, [octet 1 true, octet 3 false])] ∧
      s.received = [[octet 1 true, octet 3 false]] ∧
      s.Filters fun pipe => twoPipes.filterMap (·.frameOn pipe) :=
  ⟨_, rfl, by decide +kernel, by decide +kernel, (sub_filters 1000 twoPipes _ rfl).1⟩

end SubSocket

end Rzmq
