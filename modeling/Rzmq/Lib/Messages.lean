import Mathlib.Data.List.SplitBy

/-! Streams that are divided into messages, and logs of what became of each item of a stream.  An
item with `more` is followed by another one of its message, so the end of a stream may be a message
that is not complete. -/

namespace Messages

open List

variable {ι δ : Type} {more : ι → Bool}

def messages (more : ι → Bool) (items : List ι) : List (List ι) := items.splitBy fun a _ => more a

lemma messages_flatten (items : List ι) : (messages more items).flatten = items :=
  flatten_splitBy _ items

/-- A log tells what became of each item.  It is uniform if all items of a message fared alike. -/
def Uniform (more : ι → Bool) (log : List (ι × δ)) : Prop :=
  ∀ message ∈ messages (more ∘ Prod.fst) log, ∀ a ∈ message, ∀ b ∈ message, a.2 = b.2

instance [DecidableEq δ] (log : List (ι × δ)) : Decidable (Uniform more log) :=
  inferInstanceAs (Decidable (∀ message ∈ messages (more ∘ Prod.fst) log,
    ∀ a ∈ message, ∀ b ∈ message, a.2 = b.2))

def Follows (more : ι → Bool) (a b : ι × δ) : Prop := more a.1 = true → a.2 = b.2

lemma fate_of_first {first : ι × δ} {rest}
    (inside : (first :: rest).IsChain fun a _ => (more ∘ Prod.fst) a = true)
    (chain : (first :: rest).IsChain (Follows more)) : ∀ b ∈ first :: rest, b.2 = first.2 := by
  induction rest generalizing first with
  | nil => simp
  | cons next rest ih =>
    rw [isChain_cons_cons] at inside chain
    have same : first.2 = next.2 := chain.1 inside.1
    intro b mem
    rcases mem_cons.mp mem with rfl | later
    · rfl
    · rw [same]
      exact ih inside.2 chain.2 b later

/-- Inside a message every item but the last has `more`, so steps between neighbours compare all of
them. -/
lemma uniform_iff (log : List (ι × δ)) : Uniform more log ↔ log.IsChain (Follows more) := by
  obtain ⟨whole, filled, inside, between⟩ :=
    splitBy_eq_iff.mp (rfl : messages (more ∘ Prod.fst) log = _)
  constructor
  · intro uniform
    rw [whole, isChain_flatten filled]
    refine ⟨?_, between.imp ?_⟩
    · intro message mem
      refine List.Pairwise.isChain (pairwise_of_forall_mem_list ?_)
      intro a here b there _
      exact uniform message mem a here b there
    · rintro m m' ⟨some, some', ends⟩ a last b first carries
      rw [getLast?_eq_getLast_of_ne_nil some, Option.mem_some] at last
      subst last
      exact absurd carries (by simpa using ends)
  · intro chain message mem
    rw [whole, isChain_flatten filled] at chain
    have first := @fate_of_first ι δ more
    cases message with
    | nil => simp
    | cons head rest =>
      have same := first (inside _ mem) (chain.1 _ mem)
      intro a here b there
      rw [same a here, same b there]

lemma uniform_concat (log : List (ι × δ)) (entry : ι × δ) :
    Uniform more (log ++ [entry]) ↔
      Uniform more log ∧ ∀ last ∈ log.getLast?, Follows more last entry := by
  simp [uniform_iff, isChain_append]

/-! What one receiver gets -/

lemma messages_map (log : List (ι × δ)) :
    messages more (log.map Prod.fst) =
      (messages (more ∘ Prod.fst) log).map (map Prod.fst) := by
  obtain ⟨whole, filled, inside, between⟩ :=
    splitBy_eq_iff.mp (rfl : messages (more ∘ Prod.fst) log = _)
  refine splitBy_eq_iff.mpr ⟨?_, ?_, ?_, ?_⟩
  · rw [← map_flatten, ← whole]
  · simpa using filled
  · intro message mem
    obtain ⟨entries, there, rfl⟩ := mem_map.mp mem
    rw [isChain_map]
    exact inside entries there
  · rw [isChain_map]
    refine between.imp ?_
    rintro m m' ⟨some, some', ends⟩
    exact ⟨by simpa using some, by simpa using some', by simpa using ends⟩

lemma filter_message (chosen : δ → Bool) {message : List (ι × δ)}
    (alike : ∀ a ∈ message, ∀ b ∈ message, a.2 = b.2) :
    message.filter (fun e => chosen e.2) =
      if message.all fun e => chosen e.2 then message else [] := by
  split
  · rename_i all
    rw [filter_eq_self]
    simpa using all
  · rename_i some
    obtain ⟨a, here, out⟩ : ∃ a ∈ message, chosen a.2 = false := by simpa using some
    rw [filter_eq_nil_iff]
    intro b there
    rw [alike b there a here, out]
    exact Bool.false_ne_true

lemma filter_flatten (chosen : δ → Bool) (parts : List (List (ι × δ)))
    (alike : ∀ message ∈ parts, ∀ a ∈ message, ∀ b ∈ message, a.2 = b.2) :
    parts.flatten.filter (fun e => chosen e.2) =
      (parts.filter fun message => message.all fun e => chosen e.2).flatten := by
  induction parts with
  | nil => rfl
  | cons message rest ih =>
    have later := ih fun m mem => alike m (mem_cons_of_mem _ mem)
    rw [flatten_cons, filter_append, later, filter_cons,
      filter_message chosen (alike message mem_cons_self)]
    split <;> simp

lemma Uniform.received {log} (uniform : Uniform more log) (chosen : δ → Bool) :
    ∃ whole : List (List ι), whole.Sublist (messages more (log.map Prod.fst)) ∧
      (log.filter fun e => chosen e.2).map Prod.fst = whole.flatten := by
  refine ⟨((messages (more ∘ Prod.fst) log).filter
    fun message => message.all fun e => chosen e.2).map (map Prod.fst), ?_, ?_⟩
  · rw [messages_map]
    exact filter_sublist.map _
  · rw [← map_flatten, ← filter_flatten chosen _ uniform, messages_flatten]

end Messages
