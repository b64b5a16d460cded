import Mathlib.Data.List.Infix
import Mathlib.Data.Multiset.AddSub
import Mathlib.Logic.Function.Basic

/-! `SubscriptionTrie`: a tree of the bytes of topics, with the number of subscriptions that end at
each node.  What it says of topics is the count of each of them, and a message matches when some
beginning of its topic has one. -/

namespace Rzmq

open List Option

/-- A node of the trie.  `children` is the map from bytes to the nodes below. -/
inductive TrieNode where
  | node (count : Nat) (children : UInt8 → Option TrieNode)

namespace TrieNode

open Function

def new : TrieNode := .node 0 fun _ => none

def count : TrieNode → Nat
  | .node count _ => count

def child : TrieNode → UInt8 → Option TrieNode
  | .node _ children => children

/-- The count is a `usize`, which no number of calls brings to its end. -/
def subscribe : TrieNode → List UInt8 → TrieNode
  | .node count children, [] => .node (count + 1) children
  | .node count children, byte :: rest =>
    .node count (update children byte (some (((children byte).getD new).subscribe rest)))

/-- The answer is whether this was the last subscription to the topic.  A count of zero is taken
down and put back. -/
def unsubscribe : TrieNode → List UInt8 → Bool × TrieNode
  | .node count children, [] => (count == 1, .node (count - 1) children)
  | .node count children, byte :: rest =>
    match children byte with
    | none => (false, .node count children)
    | some next =>
      let (last, next) := next.unsubscribe rest
      (last, .node count (update children byte (some next)))

def matchesFrom : TrieNode → List UInt8 → Bool
  | t, [] => decide (0 < t.count)
  | t, byte :: rest =>
    if 0 < t.count then true
    else
      match t.child byte with
      | none => false
      | some next => next.matchesFrom rest

def «matches» (t : TrieNode) (messageTopic : List UInt8) : Bool :=
  if 0 < t.count then true else t.matchesFrom messageTopic

def subscriptions : TrieNode → List UInt8 → Nat
  | t, [] => t.count
  | t, byte :: rest =>
    match t.child byte with
    | none => 0
    | some next => next.subscriptions rest

@[simp] lemma subscriptions_new (topic) : new.subscriptions topic = 0 := by
  cases topic <;> rfl

lemma subscriptions_cons (t : TrieNode) (byte : UInt8) (rest) :
    t.subscriptions (byte :: rest) = ((t.child byte).getD new).subscriptions rest := by
  rw [subscriptions]
  cases t.child byte with
  | none => exact (subscriptions_new rest).symm
  | some next => rfl

lemma subscriptions_subscribe (t : TrieNode) (topic topic') :
    (t.subscribe topic).subscriptions topic' =
      if topic' = topic then t.subscriptions topic' + 1 else t.subscriptions topic' := by
  induction topic generalizing t topic' with
  | nil => cases t; cases topic' <;> rfl
  | cons byte rest ih =>
    cases t with
    | node count children =>
      cases topic' with
      | nil => rfl
      | cons byte' rest' =>
        rw [subscriptions_cons, subscriptions_cons]
        by_cases same : byte' = byte
        · subst same
          simp [subscribe, child, ih]
        · simp [subscribe, child, same]

lemma subscriptions_unsubscribe (t : TrieNode) (topic topic') :
    (t.unsubscribe topic).2.subscriptions topic' =
      if topic' = topic then t.subscriptions topic' - 1 else t.subscriptions topic' := by
  induction topic generalizing t topic' with
  | nil => cases t; cases topic' <;> rfl
  | cons byte rest ih =>
    cases t with
    | node count children =>
      rw [unsubscribe]
      cases found : children byte with
      | none =>
        have absent : (node count children).subscriptions (byte :: rest) = 0 := by
          rw [subscriptions, child, found]
        dsimp only
        by_cases same : topic' = byte :: rest
        · rw [if_pos same, same, absent]
        · rw [if_neg same]
      | some next =>
        cases topic' with
        | nil => rfl
        | cons byte' rest' =>
          rw [subscriptions_cons, subscriptions_cons]
          by_cases same : byte' = byte
          · subst same
            simp [child, ih, found]
          · simp [child, same]

lemma unsubscribe_last (t : TrieNode) (topic) :
    (t.unsubscribe topic).1 = (t.subscriptions topic == 1) := by
  induction topic generalizing t with
  | nil => cases t; rfl
  | cons byte rest ih =>
    cases t with
    | node count children =>
      rw [unsubscribe, subscriptions, child]
      cases children byte with
      | none => rfl
      | some next => exact ih next

lemma matchesFrom_iff (t : TrieNode) (messageTopic) :
    t.matchesFrom messageTopic = true ↔
      ∃ topic, topic <+: messageTopic ∧ 0 < t.subscriptions topic := by
  induction messageTopic generalizing t with
  | nil => simp [matchesFrom, subscriptions]
  | cons byte rest ih =>
    have split : (∃ topic, topic <+: byte :: rest ∧ 0 < t.subscriptions topic) ↔
        0 < t.count ∨ ∃ topic, topic <+: rest ∧ 0 < t.subscriptions (byte :: topic) := by
      constructor
      · rintro ⟨topic, start, active⟩
        cases topic with
        | nil => exact .inl active
        | cons byte' topic =>
          obtain ⟨rfl, later⟩ := cons_prefix_cons.mp start
          exact .inr ⟨topic, later, active⟩
      · rintro (active | ⟨topic, start, active⟩)
        · exact ⟨[], nil_prefix, active⟩
        · exact ⟨byte :: topic, cons_prefix_cons.mpr ⟨rfl, start⟩, active⟩
    rw [matchesFrom, split]
    by_cases here : 0 < t.count
    · simp [here]
    · simp only [here, if_false, false_or, subscriptions]
      cases t.child byte with
      | none => simp
      | some next => exact ih next

lemma matches_iff (t : TrieNode) (messageTopic) :
    t.matches messageTopic = true ↔
      ∃ topic, topic <+: messageTopic ∧ 0 < t.subscriptions topic := by
  rw [← matchesFrom_iff, TrieNode.matches]
  split
  · rename_i active
    exact iff_of_true rfl ((matchesFrom_iff t messageTopic).mpr ⟨[], nil_prefix, active⟩)
  · rfl

inductive Call where
  | subscribe (topic : List UInt8)
  | unsubscribe (topic : List UInt8)
deriving DecidableEq

def call (t : TrieNode) : Call → TrieNode
  | .subscribe topic => t.subscribe topic
  | .unsubscribe topic => (t.unsubscribe topic).2

/-- What a call does to the multiset of topics. -/
def Call.specify (topics : Multiset (List UInt8)) : Call → Multiset (List UInt8)
  | .subscribe topic => topic ::ₘ topics
  | .unsubscribe topic => topics.erase topic

lemma subscriptions_call {t : TrieNode} {topics : Multiset (List UInt8)}
    (holds : ∀ topic, t.subscriptions topic = topics.count topic) (c : Call) (topic) :
    (t.call c).subscriptions topic = (c.specify topics).count topic := by
  cases c with
  | subscribe other =>
    rw [call, subscriptions_subscribe, holds, Call.specify, Multiset.count_cons]
    split <;> rfl
  | unsubscribe other =>
    rw [call, subscriptions_unsubscribe, holds, Call.specify]
    split
    · rename_i same
      rw [same, Multiset.count_erase_self]
    · rename_i ne
      rw [Multiset.count_erase_of_ne ne]

lemma subscriptions_calls {t : TrieNode} {topics : Multiset (List UInt8)}
    (holds : ∀ topic, t.subscriptions topic = topics.count topic) (calls : List Call)
    (topic : List UInt8) :
    (calls.foldl call t).subscriptions topic = (calls.foldl Call.specify topics).count topic := by
  induction calls generalizing t topics with
  | nil => exact holds topic
  | cons c calls ih => exact ih (subscriptions_call holds c)

/-- An order in which the map of children of each node is read.  A byte without a child is passed
over. -/
def Visits (order : List UInt8 → List UInt8) : Prop :=
  ∀ current, (order current).Nodup ∧ ∀ byte, byte ∈ order current

variable (order : List UInt8 → List UInt8)

mutual

def collectTopicsRecursive : TrieNode → List UInt8 → List (List UInt8)
  | .node count children, current =>
    (if 0 < count then [current] else []) ++
      (order current).flatMap fun byte => collectChild (children byte) (current ++ [byte])

def collectChild : Option TrieNode → List UInt8 → List (List UInt8)
  | none, _ => []
  | some child, next => collectTopicsRecursive child next

end

def getAllTopics (t : TrieNode) : List (List UInt8) :=
  collectTopicsRecursive order t []

/-- The topics below a node, each once, with the bytes that lead to the node. -/
def Lists (topics : List (List UInt8)) (current : List UInt8) (t : TrieNode) : Prop :=
  topics.Nodup ∧ ∀ topic,
    topic ∈ topics ↔ ∃ rest, current ++ rest = topic ∧ 0 < t.subscriptions rest

variable {order}

lemma lists_node (visits : Visits order) {count children current}
    {below : UInt8 → List (List UInt8)}
    (lists : ∀ byte, Lists (below byte) (current ++ [byte]) ((children byte).getD new)) :
    Lists ((if 0 < count then [current] else []) ++ (order current).flatMap below) current
      (.node count children) := by
  have child (byte topic) : topic ∈ below byte ↔
      ∃ rest, current ++ byte :: rest = topic ∧
        0 < (node count children).subscriptions (byte :: rest) := by
    simp [(lists byte).2 topic, subscriptions_cons, child]
  constructor
  · refine nodup_append'.mpr ⟨by split <;> simp, nodup_flatMap.mpr ⟨fun byte _ => (lists byte).1,
      (visits current).1.imp fun ne => ?_⟩, ?_⟩
    · intro topic left right
      obtain ⟨rest, rfl, -⟩ := (child _ _).mp left
      obtain ⟨rest', same, -⟩ := (child _ _).mp right
      exact ne (cons.inj (append_cancel_left same)).1.symm
    · intro topic here mem
      obtain ⟨byte, -, mem⟩ := mem_flatMap.mp mem
      obtain ⟨rest, rfl, -⟩ := (child _ _).mp mem
      split at here <;> simp at here
  · intro topic
    rw [mem_append, mem_flatMap]
    constructor
    · rintro (here | ⟨byte, -, mem⟩)
      · split at here
        · rename_i active
          exact ⟨[], by simpa using (mem_singleton.mp here).symm, active⟩
        · cases here
      · obtain ⟨rest, same, active⟩ := (child _ _).mp mem
        exact ⟨byte :: rest, same, active⟩
    · rintro ⟨rest, same, active⟩
      cases rest with
      | nil =>
        rw [subscriptions, TrieNode.count] at active
        simp [active, ← same]
      | cons byte rest =>
        exact .inr ⟨byte, (visits current).2 byte, (child _ _).mpr ⟨rest, same, active⟩⟩

mutual

theorem lists_collect (visits : Visits order) :
    ∀ t current, Lists (collectTopicsRecursive order t current) current t
  | .node _ children, current =>
    lists_node visits fun byte => lists_collectChild visits (children byte) (current ++ [byte])

theorem lists_collectChild (visits : Visits order) :
    ∀ t current, Lists (collectChild order t current) current (t.getD new)
  | none, current => by simp [Lists, collectChild]
  | some child, current => lists_collect visits child current

end

/-- After any calls the trie holds the multiset of topics that they specify: `unsubscribe` answers
whether it takes the last one, `matches` looks for a beginning, and each topic is listed once. -/
theorem trie_holds_multiset (calls : List Call) :
    let t := calls.foldl call new
    let topics := calls.foldl Call.specify 0
    (∀ topic, t.subscriptions topic = topics.count topic) ∧
    (∀ topic, (t.unsubscribe topic).1 = true ↔ topics.count topic = 1) ∧
    (∀ topic, t.matches topic = true ↔ ∃ start ∈ topics, start <+: topic) ∧
    ∀ order, Visits order →
      (t.getAllTopics order).Nodup ∧ ∀ topic, topic ∈ t.getAllTopics order ↔ topic ∈ topics := by
  intro t topics
  have holds : ∀ topic, t.subscriptions topic = topics.count topic :=
    subscriptions_calls (by simp) calls
  refine ⟨holds, fun topic => ?_, fun topic => ?_, fun order visits => ?_⟩
  · rw [unsubscribe_last, holds, beq_iff_eq]
  · simp [matches_iff, holds, Multiset.count_pos, and_comm]
  · obtain ⟨once, lists⟩ := lists_collect visits t []
    refine ⟨once, fun topic => ?_⟩
    simp [getAllTopics, lists, nil_append, exists_eq_left, holds, Multiset.count_pos]

end TrieNode

end Rzmq
