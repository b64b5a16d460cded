import Mathlib.Data.List.Basic

/-! Decoders that read a stream in pieces.  A decoder takes its private state and the bytes buffered
so far, and returns an item, asks for more bytes, or fails.  `drain` calls it until it asks for more
or fails, and `feed` does so after each chunk.  For a resumable decoder the chunks do not matter:
`feed_drain` reduces every `feed` to one `drain` of the joined stream. -/

namespace Incremental

open List

/-- A decoder with state `σ` over a buffer of `α`, for items `β` and errors `ε`.  `weight` bounds
the items that it can still return without new bytes. -/
structure Decoder (σ α β ε : Type) where
  decode : σ → List α → Except ε (Option β) × σ × List α
  weight : σ → List α → Nat
  weight_lt : ∀ {s s' : σ} {buf rest : List α} {b : β},
    decode s buf = (.ok (some b), s', rest) → weight s' rest < weight s buf

/-- What a run of a decoder leaves: the items, whether it stopped on an error, the state and the
bytes not consumed. -/
structure Drained (σ α β ε : Type) where
  items : List β
  outcome : Except ε Unit
  state : σ
  rest : List α

variable {σ α β ε : Type}

def drain (d : Decoder σ α β ε) (s : σ) (buf : List α) : Drained σ α β ε :=
  match _h : d.decode s buf with
  | (.ok (some b), s', rest) =>
    let tail := drain d s' rest
    { tail with items := b :: tail.items }
  | (.ok none, s', rest) => ⟨[], .ok (), s', rest⟩
  | (.error e, s', rest) => ⟨[], .error e, s', rest⟩
termination_by d.weight s buf
decreasing_by exact d.weight_lt _h

def feed (d : Decoder σ α β ε) : σ → List α → List (List α) → Drained σ α β ε
  | s, buf, [] => ⟨[], .ok (), s, buf⟩
  | s, buf, chunk :: chunks =>
    let head := drain d s (buf ++ chunk)
    match head.outcome with
    | .error _ => head
    | .ok () =>
      let tail := feed d head.state head.rest chunks
      { tail with items := head.items ++ tail.items }

section Equations

variable {d : Decoder σ α β ε} {s s' : σ} {buf rest : List α}

lemma drain_some {b : β} (h : d.decode s buf = (.ok (some b), s', rest)) :
    drain d s buf = { drain d s' rest with items := b :: (drain d s' rest).items } := by
  rw [drain]
  split <;> simp_all

lemma drain_none (h : d.decode s buf = (.ok none, s', rest)) :
    drain d s buf = ⟨[], .ok (), s', rest⟩ := by
  rw [drain]
  split <;> simp_all

lemma drain_error {e : ε} (h : d.decode s buf = (.error e, s', rest)) :
    drain d s buf = ⟨[], .error e, s', rest⟩ := by
  rw [drain]
  split <;> simp_all

lemma drain_congr {t : σ} {buf'} (h : d.decode s buf = d.decode t buf') :
    drain d s buf = drain d t buf' := by
  match hnext : d.decode t buf' with
  | (.ok (some b), s', rest) => rw [drain_some hnext, drain_some (h.trans hnext)]
  | (.ok none, s', rest) => rw [drain_none hnext, drain_none (h.trans hnext)]
  | (.error e, s', rest) => rw [drain_error hnext, drain_error (h.trans hnext)]

end Equations

/-- An item and an error stand when more bytes follow, and a request for more can be taken up from
what it left. -/
structure Resumable (d : Decoder σ α β ε) : Prop where
  some_append : ∀ {s s' : σ} {buf rest : List α} {b : β} (more : List α),
    d.decode s buf = (.ok (some b), s', rest) →
      d.decode s (buf ++ more) = (.ok (some b), s', rest ++ more)
  none_append : ∀ {s s' : σ} {buf rest : List α} (more : List α),
    d.decode s buf = (.ok none, s', rest) → d.decode s (buf ++ more) = d.decode s' (rest ++ more)
  error_append : ∀ {s s' : σ} {buf rest : List α} {e : ε} (more : List α),
    d.decode s buf = (.error e, s', rest) → d.decode s (buf ++ more) = (.error e, s', rest ++ more)

def Idle (d : Decoder σ α β ε) (s : σ) (buf : List α) : Prop :=
  d.decode s buf = (.ok none, s, buf)

lemma drain_induction (d : Decoder σ α β ε) {motive : σ → List α → Prop}
    (item : ∀ {s s' buf rest b}, d.decode s buf = (.ok (some b), s', rest) →
      motive s' rest → motive s buf)
    (stop : ∀ {s s' buf rest}, d.decode s buf = (.ok none, s', rest) → motive s buf)
    (fail : ∀ {s s' buf rest e}, d.decode s buf = (.error e, s', rest) → motive s buf)
    (s : σ) (buf : List α) : motive s buf := by
  induction hn : d.weight s buf using Nat.strongRecOn generalizing s buf with
  | _ n ih =>
    subst hn
    match h : d.decode s buf with
    | (.ok (some b), s', rest) => exact item h (ih _ (d.weight_lt h) s' rest rfl)
    | (.ok none, s', rest) => exact stop h
    | (.error e, s', rest) => exact fail h

section Drain

variable {d : Decoder σ α β ε} (hd : Resumable d)
include hd

lemma idle_of_none {s s' : σ} {buf rest} (h : d.decode s buf = (.ok none, s', rest)) :
    Idle d s' rest := by
  have again := hd.none_append [] h
  simp only [append_nil] at again
  exact again.symm.trans h

lemma drain_idle (s : σ) (buf : List α) (h : (drain d s buf).outcome = .ok ()) :
    Idle d (drain d s buf).state (drain d s buf).rest := by
  induction s, buf using drain_induction d with
  | item hdec ih =>
    rw [drain_some hdec] at h ⊢
    exact ih h
  | stop hdec =>
    rw [drain_none hdec]
    exact idle_of_none hd hdec
  | fail hdec =>
    rw [drain_error hdec] at h
    simp at h

lemma drain_append_ok (s : σ) (buf more : List α) (h : (drain d s buf).outcome = .ok ()) :
    drain d s (buf ++ more) =
      { drain d (drain d s buf).state ((drain d s buf).rest ++ more) with
        items := (drain d s buf).items ++
          (drain d (drain d s buf).state ((drain d s buf).rest ++ more)).items } := by
  induction s, buf using drain_induction d with
  | item hdec ih =>
    rw [drain_some hdec] at h ⊢
    rw [drain_some (hd.some_append more hdec), ih h]
    rfl
  | stop hdec =>
    rw [drain_none hdec, drain_congr (hd.none_append more hdec)]
    rfl
  | fail hdec =>
    rw [drain_error hdec] at h
    simp at h

lemma drain_append_error (s : σ) (buf more : List α) {e : ε}
    (h : (drain d s buf).outcome = .error e) :
    (drain d s (buf ++ more)).items = (drain d s buf).items ∧
      (drain d s (buf ++ more)).outcome = .error e := by
  induction s, buf using drain_induction d with
  | item hdec ih =>
    rw [drain_some hdec] at h ⊢
    rw [drain_some (hd.some_append more hdec)]
    obtain ⟨items, outcome⟩ := ih h
    exact ⟨by simp only [items], outcome⟩
  | stop hdec =>
    rw [drain_none hdec] at h
    simp at h
  | fail hdec =>
    rw [drain_error hdec] at h ⊢
    rw [drain_error (hd.error_append more hdec)]
    exact ⟨rfl, h⟩

end Drain

section Feed

variable {d : Decoder σ α β ε} (hd : Resumable d)
include hd

/-- Feeding chunks to an idle decoder gives the items and the outcome of draining them joined, and,
when there is no error, the same state and bytes left. -/
lemma feed_drain (s : σ) (buf : List α) (chunks) (idle : Idle d s buf) :
    (feed d s buf chunks).items = (drain d s (buf ++ chunks.flatten)).items ∧
    (feed d s buf chunks).outcome = (drain d s (buf ++ chunks.flatten)).outcome ∧
    ((feed d s buf chunks).outcome = .ok () →
      feed d s buf chunks = drain d s (buf ++ chunks.flatten)) := by
  induction chunks generalizing s buf with
  | nil => simp [feed, drain_none idle]
  | cons chunk chunks ih =>
    have split : buf ++ (chunk :: chunks).flatten = (buf ++ chunk) ++ chunks.flatten := by simp
    rw [split, feed]
    cases hout : (drain d s (buf ++ chunk)).outcome with
    | error e =>
      obtain ⟨items, outcome⟩ := drain_append_error hd s (buf ++ chunk) chunks.flatten hout
      rw [items, outcome]
      simp [hout]
    | ok u =>
      obtain ⟨items, outcome, whole⟩ := ih _ _ (drain_idle hd s (buf ++ chunk) hout)
      rw [drain_append_ok hd s (buf ++ chunk) chunks.flatten hout]
      refine ⟨by simp only [items], outcome, fun hok => ?_⟩
      simp only at hok ⊢
      rw [whole hok]

lemma feed_split (s : σ) (buf : List α) {chunks chunks'} (idle : Idle d s buf)
    (same : chunks.flatten = chunks'.flatten) :
    (feed d s buf chunks).items = (feed d s buf chunks').items ∧
    (feed d s buf chunks).outcome = (feed d s buf chunks').outcome := by
  obtain ⟨items, outcome, _⟩ := feed_drain hd s buf chunks idle
  obtain ⟨items', outcome', _⟩ := feed_drain hd s buf chunks' idle
  rw [items, outcome, items', outcome', same]
  exact ⟨rfl, rfl⟩

end Feed

section Reads

/-- A decoder in state `s` with `buf` buffered goes on as one in state `s₀` that is given `seen`. -/
def Reads (d : Decoder σ α β ε) (s₀ : σ) (seen : List α) (s : σ) (buf : List α) : Prop :=
  ∀ more, d.decode s (buf ++ more) = d.decode s₀ (seen ++ more)

lemma Reads.refl (d : Decoder σ α β ε) (s : σ) (buf : List α) : Reads d s buf s buf :=
  fun _ => rfl

lemma Reads.append {d : Decoder σ α β ε} {s₀ s : σ} {seen buf : List α}
    (reads : Reads d s₀ seen s buf) (more : List α) :
    Reads d s₀ (seen ++ more) s (buf ++ more) := by
  intro later
  rw [append_assoc, append_assoc, reads]

lemma Reads.decode {d : Decoder σ α β ε} (hd : Resumable d) {s₀ s s₁ : σ}
    {seen buf code tail : List α} {b : β} (reads : Reads d s₀ seen s buf)
    (first : ∀ more, d.decode s₀ (code ++ more) = (.ok (some b), s₁, more))
    (part : seen <+: code ++ tail) :
    (∃ rest, seen = code ++ rest ∧ d.decode s buf = (.ok (some b), s₁, rest)) ∨
      ∃ s' buf', d.decode s buf = (.ok none, s', buf') ∧ Reads d s₀ seen s' buf' ∧
        ¬ code <+: seen := by
  obtain ⟨unseen, whole⟩ := part
  have now : d.decode s buf = d.decode s₀ seen := by simpa using reads []
  have all := whole ▸ first tail
  match answer : d.decode s₀ seen with
  | (.ok (some b'), s', rest) =>
    have more := hd.some_append unseen answer
    rw [all] at more
    simp only [Prod.mk.injEq, Except.ok.injEq, Option.some.injEq] at more
    obtain ⟨rfl, rfl, rfl⟩ := more
    rw [← append_assoc] at whole
    exact .inl ⟨rest, append_cancel_right whole, now.trans answer⟩
  | (.ok none, s', rest) =>
    refine .inr ⟨s', rest, now.trans answer, fun more => (hd.none_append more answer).symm, ?_⟩
    rintro ⟨more, rfl⟩
    rw [first more] at answer
    cases answer
  | (.error e, s', rest) =>
    have more := hd.error_append unseen answer
    rw [all] at more
    cases more

end Reads

lemma drain_items {d : Decoder σ α β ε} (inv : σ → Prop) (good : β → Prop)
    (hitem : ∀ {s s' buf rest b}, inv s → d.decode s buf = (.ok (some b), s', rest) →
      good b ∧ inv s')
    (hstop : ∀ {s s' buf rest}, inv s → d.decode s buf = (.ok none, s', rest) → inv s')
    (s : σ) (buf : List α) (hs : inv s) :
    (∀ b ∈ (drain d s buf).items, good b) ∧
      ((drain d s buf).outcome = .ok () → inv (drain d s buf).state) := by
  induction s, buf using drain_induction d with
  | item hdec ih =>
    obtain ⟨hb, hs'⟩ := hitem hs hdec
    obtain ⟨tail, last⟩ := ih hs'
    rw [drain_some hdec]
    refine ⟨fun x hx => ?_, last⟩
    rcases mem_cons.mp hx with rfl | hx
    · exact hb
    · exact tail x hx
  | stop hdec =>
    rw [drain_none hdec]
    exact ⟨by simp, fun _ => hstop hs hdec⟩
  | fail hdec =>
    rw [drain_error hdec]
    exact ⟨by simp, by simp⟩

lemma feed_all {d : Decoder σ α β ε} (inv : σ → Prop) (good : β → Prop)
    (hitem : ∀ {s s' buf rest b}, inv s → d.decode s buf = (.ok (some b), s', rest) →
      good b ∧ inv s')
    (hstop : ∀ {s s' buf rest}, inv s → d.decode s buf = (.ok none, s', rest) → inv s')
    (s : σ) (buf : List α) (chunks) (hs : inv s) :
    ∀ b ∈ (feed d s buf chunks).items, good b := by
  induction chunks generalizing s buf with
  | nil => simp [feed]
  | cons chunk chunks ih =>
    obtain ⟨head, last⟩ := drain_items inv good hitem hstop s (buf ++ chunk) hs
    intro b hb
    rw [feed] at hb
    cases hout : (drain d s (buf ++ chunk)).outcome with
    | error e =>
      rw [hout] at hb
      exact head b hb
    | ok u =>
      rw [hout] at hb
      rcases mem_append.mp hb with hb | hb
      · exact head b hb
      · exact ih _ _ (last hout) b hb

/-! ### A limit on the buffer -/

section Capped

variable (d : Decoder σ α β ε) (cap : Nat) (e : ε)

def Decoder.capped : Decoder σ α β ε where
  decode s buf := if cap < buf.length then (.error e, s, buf) else d.decode s buf
  weight := d.weight
  weight_lt h := by
    split at h
    · cases h
    · exact d.weight_lt h

def Room (d : Decoder σ α β ε) (cap : Nat) : σ → List α → List (List α) → Prop
  | _, _, [] => True
  | s, buf, chunk :: chunks =>
    (buf ++ chunk).length ≤ cap ∧
      Room d cap (drain d s (buf ++ chunk)).state (drain d s (buf ++ chunk)).rest chunks

variable {d cap e} {s : σ} {buf : List α}

lemma drain_capped_full (full : cap < buf.length) :
    drain (d.capped cap e) s buf = ⟨[], .error e, s, buf⟩ :=
  drain_error (if_pos full)

variable {chunks : List (List α)} {chunk : List α}

lemma feed_ok (ok : (drain d s (buf ++ chunk)).outcome = .ok ()) :
    feed d s buf (chunk :: chunks) =
      { feed d (drain d s (buf ++ chunk)).state (drain d s (buf ++ chunk)).rest chunks with
        items := (drain d s (buf ++ chunk)).items ++
          (feed d (drain d s (buf ++ chunk)).state
            (drain d s (buf ++ chunk)).rest chunks).items } := by
  rw [feed]
  dsimp only
  rw [ok]

lemma feed_error {e : ε} (failed : (drain d s (buf ++ chunk)).outcome = .error e) :
    feed d s buf (chunk :: chunks) = drain d s (buf ++ chunk) := by
  rw [feed]
  dsimp only
  rw [failed]

lemma feed_cons (ok : (feed d s buf (chunk :: chunks)).outcome = .ok ()) :
    (drain d s (buf ++ chunk)).outcome = .ok () ∧
      (feed d (drain d s (buf ++ chunk)).state (drain d s (buf ++ chunk)).rest chunks).outcome =
        .ok () := by
  cases head : (drain d s (buf ++ chunk)).outcome with
  | error e =>
    rw [feed_error head, head] at ok
    cases ok
  | ok =>
    rw [feed_ok head] at ok
    exact ⟨rfl, ok⟩

def Shrinks (d : Decoder σ α β ε) : Prop :=
  ∀ {s s' : σ} {buf rest : List α} {r : Option β},
    d.decode s buf = (.ok r, s', rest) → rest.length ≤ buf.length

variable (shrinks : Shrinks d)
include shrinks

lemma drain_capped (fits : buf.length ≤ cap) : drain (d.capped cap e) s buf = drain d s buf := by
  induction s, buf using drain_induction d with
  | item hdec ih =>
    rw [drain_some hdec, drain_some ((if_neg (Nat.not_lt.mpr fits)).trans hdec),
      ih (Nat.le_trans (shrinks hdec) fits)]
  | stop hdec => rw [drain_none hdec, drain_none ((if_neg (Nat.not_lt.mpr fits)).trans hdec)]
  | fail hdec => rw [drain_error hdec, drain_error ((if_neg (Nat.not_lt.mpr fits)).trans hdec)]

lemma drain_rest_length (ok : (drain d s buf).outcome = .ok ()) :
    (drain d s buf).rest.length ≤ buf.length := by
  induction s, buf using drain_induction d with
  | item hdec ih =>
    rw [drain_some hdec] at ok ⊢
    exact Nat.le_trans (ih ok) (shrinks hdec)
  | stop hdec =>
    rw [drain_none hdec]
    exact shrinks hdec
  | fail hdec =>
    rw [drain_error hdec] at ok
    cases ok

lemma feed_capped {chunks} (ok : (feed d s buf chunks).outcome = .ok ()) :
    (Room d cap s buf chunks → feed (d.capped cap e) s buf chunks = feed d s buf chunks) ∧
      (¬ Room d cap s buf chunks → (feed (d.capped cap e) s buf chunks).outcome = .error e) := by
  induction chunks generalizing s buf with
  | nil => exact ⟨fun _ => rfl, fun full => absurd trivial full⟩
  | cons chunk chunks ih =>
    obtain ⟨head, ok⟩ := feed_cons ok
    by_cases fits : (buf ++ chunk).length ≤ cap
    · have same := drain_capped (s := s) (e := e) shrinks fits
      rw [feed_ok head, feed_ok (by rw [same]; exact head), same]
      obtain ⟨whole, fails⟩ := ih ok
      refine ⟨fun room => ?_, fun full => fails fun room => full ⟨fits, room⟩⟩
      rw [whole room.2]
    · have full := drain_capped_full (d := d) (e := e) (s := s) (Nat.not_le.mp fits)
      rw [feed_error (e := e) (by rw [full]), full]
      exact ⟨fun room => absurd room.1 fits, fun _ => rfl⟩

lemma room_of_length {chunks} (ok : (feed d s buf chunks).outcome = .ok ())
    (fits : buf.length + chunks.flatten.length ≤ cap) : Room d cap s buf chunks := by
  induction chunks generalizing s buf with
  | nil => trivial
  | cons chunk chunks ih =>
    rw [flatten_cons, length_append] at fits
    have here : (buf ++ chunk).length ≤ cap := by
      rw [length_append]
      omega
    obtain ⟨head, ok⟩ := feed_cons ok
    have less := drain_rest_length shrinks head
    rw [length_append] at less
    exact ⟨here, ih ok (by omega)⟩

end Capped

end Incremental
