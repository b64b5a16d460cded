import Rzmq.Uring.RoutingApart

/-! A number that is taken again, or a connection that is installed, too early: from there an event
or a request of an earlier connection gets at the new one, or the new one is installed and the
number does not lead to its core. -/

namespace Rzmq

open Transition
open Function (update_of_ne update_self)
open CoreFd (idle_iff lookup stale)

namespace CoreFd

variable {κ υ α : Type} [DecidableEq υ]

lemma find_insert (t : CoreFd κ υ α) (c : FdConnection κ υ) :
    (t.insert c).endpoints.find? (·.uri = c.uri) = some c := by
  unfold insert
  rw [List.find?_append, List.find?_eq_none.mpr fun c' mem => ?_]
  · simp
  · have other := (List.mem_filter.mp mem).2
    simpa only [decide_eq_true_eq] using other

end CoreFd

namespace FdRouting

variable {κ υ α : Type} {s s' : FdRouting κ υ α} {c c' : FdConnection κ υ}

lemma touch_crossed (older : c.generation < c'.generation) : (s.touch c c').crossed = true := by
  unfold touch
  rw [decide_eq_true older, Bool.or_true]

variable [DecidableEq κ] [DecidableEq υ] {core : κ}

/-- From here something of an earlier connection can get at a later one, or the number not lead to
an installed one. -/
def Doomed (s : FdRouting κ υ α) : Prop :=
  ∃ u, Reaches step (fun _ _ => True) s u ∧ (u.crossed = true ∨ u.Astray)

lemma Doomed.before {a} (taken : s.step a = some s') (doomed : s'.Doomed) :
    s.Doomed := by
  obtain ⟨u, reached, bad⟩ := doomed
  exact ⟨u, (Reaches.refl.tail trivial taken).trans reached, bad⟩

lemma doomed_of_crossed (crossed : s.crossed = true) : s.Doomed := ⟨s, .refl, .inl crossed⟩

lemma doomed_of_unmapped (live : s.live = some c) (there : s.Installed c)
    (lost : s.mailboxMap = none) : s.Doomed :=
  ⟨s, .refl, .inr ⟨c, live, there, by rw [lost]; nofun⟩⟩

/-! ### Requests of an earlier connection -/

lemma doomed_of_request (live : s.live = some c') (mem : c ∈ s.requests)
    (older : c.generation < c'.generation) : s.Doomed := by
  have taken : s.step (.shutdown c) =
      some ({ s with requests := s.requests.erase c }.touch c c') := by
    refine (if_pos mem).trans ?_
    rw [live]
  exact .before taken (doomed_of_crossed (touch_crossed older))

lemma doomed_of_endpoint (core : κ) (live : s.live = some c') (idle : (s.cores core).idle = true)
    (found : (s.cores core).endpoints.find? (·.uri = c.uri) = some c)
    (older : c.generation < c'.generation) : s.Doomed := by
  refine .before (a := .disconnect core c.uri) ((if_pos idle).trans (by rw [found]; rfl)) ?_
  exact doomed_of_request live (List.mem_append_right _ (List.mem_singleton_self c)) older

lemma Doomed.settled (core : κ) (running : (s.cores core).status = .running)
    (doomed : ∀ t : FdRouting κ υ α, t.live = s.live → t.pending = s.pending → t.held = s.held →
      (t.cores core).idle = true → (∀ core', core' ≠ core → t.cores core' = s.cores core') →
      t.Doomed) : s.Doomed := by
  cases closing : (s.cores core).closing with
  | none => exact doomed s rfl rfl rfl (idle_iff.mpr ⟨running, closing⟩) fun _ _ => rfl
  | some found =>
    obtain ⟨uri, c⟩ := found
    refine .before (a := .finish core 0) (by rw [step, closing]) ?_
    have here := s.setCore_self core { s.cores core with closing := none }
    unfold cleanup
    split
    · refine doomed _ rfl rfl rfl ?_ fun core' other => update_of_ne other _ _
      rw [here]
      exact idle_iff.mpr ⟨running, rfl⟩
    · refine doomed _ rfl rfl rfl ?_ fun core' other => ?_
      · rw [here]
        dsimp only [touch, setCore]
        rw [update_self]
        exact idle_iff.mpr ⟨running, rfl⟩
      · dsimp only [touch, setCore]
        rw [update_of_ne other, update_of_ne other]

lemma install_eq (mem : c ∈ s.pending) (idle : (s.cores c.core).idle = true) :
    s.step (.install c) = some { s.setCore c.core ((s.cores c.core).insert c) with
      pending := s.pending.erase c
      mailboxMap := some c.core } :=
  if_pos ⟨mem, idle⟩

lemma doomed_of_pending (live : s.live = some c') (mem : c ∈ s.pending)
    (status : (s.cores c.core).status ≠ .finished) (older : c.generation < c'.generation) :
    s.Doomed := by
  cases now : (s.cores c.core).status with
  | running =>
    refine .settled c.core now fun t live' pending _ idle _ => ?_
    rw [← live'] at live
    rw [← pending] at mem
    refine .before (install_eq mem idle) (doomed_of_endpoint c.core live ?_ ?_ older)
    · dsimp only [setCore]
      rw [update_self]
      exact idle_iff.mpr (idle_iff.mp idle)
    · dsimp only [setCore]
      rw [update_self]
      exact CoreFd.find_insert _ c
  | stopping =>
    refine .before (a := .orphan c) (if_pos ⟨mem, now⟩) ?_
    exact doomed_of_request live (List.mem_append_right _ (List.mem_singleton_self c)) older
  | finished => exact absurd now status

/-! ### Cores that unregister the number -/

variable {x : FdConnection κ υ × UpstreamEvent α}

lemma doomed_of_gone (core : κ) (live : s.live = some c) (there : s.Installed c)
    (held : s.held = some (core, x)) (finished : (s.cores core).status = .finished) : s.Doomed := by
  have taken : s.step .forward = some { s with held := none, mailboxMap := none } := by
    rw [step, held]
    exact if_pos finished
  exact .before taken (doomed_of_unmapped (c := c) live there rfl)

lemma forward_eq (held : s.held = some (core, x)) (status : (s.cores core).status ≠ .finished) :
    s.step .forward = some ({ s with held := none }.post core x) := by
  rw [step, held]
  exact if_neg status

section

variable (core : κ) (live : s.live = some c) (there : s.Installed c) (other : core ≠ c.core)
include live there other

section

variable (leads : (s.cores core).endpointUri.isSome = true ∨ ∃ x, s.held = some (core, x))
include leads

lemma doomed_of_clean (stopping : (s.cores core).status = .stopping)
    (done : (s.cores core).pendingClose = false) : s.Doomed := by
  refine .before (a := .clean core) (if_pos ⟨stopping, done⟩) ?_
  have kept := (installed_setCore other { CoreFd.new with status := .finished }).mpr there
  by_cases known : (s.cores core).endpointUri.isSome = true
  · exact doomed_of_unmapped (c := c) live kept (if_pos known)
  · obtain ⟨x, held⟩ := leads.resolve_left known
    refine doomed_of_gone core (c := c) (x := x) live kept held ?_
    dsimp only [setCore]
    rw [update_self]

lemma doomed_of_stop (idle : (s.cores core).idle = true) (empty : (s.cores core).endpoints = []) :
    s.Doomed := by
  refine .before (a := .stop core) (if_pos idle) ?_
  refine doomed_of_clean core (c := c) live ((installed_setCore other _).mpr there) other ?_ ?_ ?_
  all_goals dsimp only [setCore]; rw [update_self]
  · exact leads
  · dsimp only
    rw [empty]
    rfl

lemma doomed_of_running (sound : (s.cores core).Sound)
    (running : (s.cores core).status = .running)
    (busy : (s.cores core).endpoints ≠ [] → (s.cores core).closing.isSome = true) :
    s.Doomed := by
  cases closing : (s.cores core).closing with
  | none =>
    refine doomed_of_stop core live there other leads (idle_iff.mpr ⟨running, closing⟩) ?_
    by_contra some
    have busy := busy some
    rw [closing] at busy
    cases busy
  | some found =>
    obtain ⟨uri, c'⟩ := found
    obtain ⟨_, known, later⟩ := sound.closing uri c' closing
    refine .before (a := .finish core 0) (by rw [step, closing]) ?_
    have here := s.setCore_self core { s.cores core with closing := none }
    have found : ((s.setCore core { s.cores core with closing := none }).cores core).stale
        (some uri) 0 = (s.cores core).endpoints.head? := by
      rw [here, ← sound.stale 0, known]
      rfl
    rcases sound.single with empty | ⟨endpoint, only, _⟩
    · rw [empty] at found
      rw [cleanup_none found]
      have kept := (installed_setCore other { s.cores core with closing := none }).mpr there
      refine doomed_of_stop core live kept other ?_ ?_ ?_
      all_goals rw [here]
      · exact leads
      · exact idle_iff.mpr ⟨running, rfl⟩
      · exact empty
    · rw [only] at found
      rw [cleanup_some found (by rw [here]; exact only)
        (later endpoint (by rw [only]; exact List.mem_singleton_self _))]
      exact doomed_of_unmapped (c := c) live
        ((installed_setCore other _).mpr ((installed_setCore other _).mpr there)) rfl

end

lemma doomed_of_error (sound : (s.cores core).Sound)
    (stopping : (s.cores core).status = .stopping) (open' : (s.cores core).endpoints ≠ [])
    (mem : x ∈ (s.cores core).mailbox) (isError : x.2.isError = true) : s.Doomed := by
  generalize mailbox : (s.cores core).mailbox = commands at mem
  induction commands generalizing s with
  | nil => cases mem
  | cons y rest ih =>
    have idle := sound.closing_none (by rw [stopping]; decide)
    obtain ⟨c', event⟩ := y
    have taken : s.step (.serve core 0) =
        some ((s.setCore core { s.cores core with mailbox := rest }).processStopping
          core c' event 0) := by
      rw [step, mailbox, idle]
      dsimp only
      rw [stopping]
    refine .before taken ?_
    have here := s.setCore_self core { s.cores core with mailbox := rest }
    have kept := (installed_setCore other { s.cores core with mailbox := rest }).mpr there
    have shorter : ({ s.cores core with mailbox := rest } : CoreFd κ υ α).Sound :=
      { sound with
        mailbox := fun endpoint mem y mem' =>
          sound.mailbox endpoint mem y (by rw [mailbox]; exact List.mem_cons_of_mem _ mem') }
    unfold processStopping
    split
    · obtain ⟨endpoint, only, known⟩ := sound.single.resolve_left open'
      have found : stale { s.cores core with mailbox := rest } (s.cores core).endpointUri 0 =
          some endpoint := (shorter.stale 0).trans (by dsimp only; rw [only]; rfl)
      have later := sound.mailbox endpoint (by rw [only]; exact List.mem_singleton_self _)
        (c', event) (by rw [mailbox]; exact List.mem_cons_self)
      rw [here, cleanup_some (by rw [here]; exact found) (by rw [here]; exact only) later]
      exact doomed_of_unmapped (c := c) live
        ((installed_setCore other _).mpr ((installed_setCore other _).mpr kept)) rfl
    · rename_i harmless
      refine ih (s := s.setCore core { s.cores core with mailbox := rest }) live kept ?_ ?_ ?_ ?_ ?_
      · rw [here]
        exact shorter
      · rw [here]
        exact stopping
      · rw [here]
        exact open'
      · rw [here]
      · rcases List.mem_cons.mp mem with rfl | mem
        · exact absurd isError harmless
        · exact mem

lemma doomed_of_known (sound : (s.cores core).Sound)
    (known : (s.cores core).endpointUri.isSome = true)
    (busy : (s.cores core).status = .running → (s.cores core).endpoints ≠ [] →
      (s.cores core).closing.isSome = true)
    (later : ∀ x, s.held = some (core, x) → ∀ endpoint ∈ (s.cores core).endpoints,
      endpoint.generation ≤ x.1.generation)
    (active : ¬ ((s.cores core).Aside ∧ ∀ x, s.held = some (core, x) → x.2.isError = false)) :
    s.Doomed := by
  cases status : (s.cores core).status with
  | running => exact doomed_of_running core live there other (.inl known) sound status (busy status)
  | stopping =>
    cases pending : (s.cores core).pendingClose with
    | false => exact doomed_of_clean core live there other (.inl known) status pending
    | true =>
      have open' := (sound.stopping status).mp pending
      by_cases silent : ∀ x ∈ (s.cores core).mailbox, x.2.isError = false
      · obtain ⟨x, error⟩ := not_forall.mp (not_and.mp active ⟨status, pending, silent⟩)
        obtain ⟨held, isError⟩ := Classical.not_imp.mp error
        refine .before (forward_eq held (by rw [status]; decide)) ?_
        refine doomed_of_error core (c := c) (x := x) live ((installed_setCore other _).mpr there)
          other ?_ ?_ ?_ ?_ (Bool.not_eq_false _ ▸ isError)
        all_goals dsimp only [post, setCore]; rw [update_self]
        · exact sound.post (later x held)
        · exact status
        · exact open'
        · exact List.mem_append_right _ (List.mem_singleton_self x)
      · obtain ⟨x, error⟩ := not_forall.mp silent
        obtain ⟨mem, isError⟩ := Classical.not_imp.mp error
        exact doomed_of_error core live there other sound status open' mem
          (Bool.not_eq_false _ ▸ isError)
  | finished =>
    rw [(sound.finished status).1] at known
    cases known

end

/-! ### Events of an earlier connection -/

lemma process_crossed (found : (s.cores core).lookup = some c)
    (older : c'.generation < c.generation) (event) :
    (s.process core c' event).crossed = true := by
  cases event with
  | handshakeComplete | data =>
    dsimp only [process]
    rw [found]
    exact touch_crossed older
  | error f =>
    dsimp only [process]
    cases known : (s.cores core).endpointUri with
    | none =>
      rw [lookup, known] at found
      cases found
    | some uri =>
      dsimp only
      rw [found]
      exact touch_crossed older

lemma doomed_of_mailbox (core : κ) (idle : (s.cores core).idle = true)
    (found : (s.cores core).lookup = some c) (first : (s.cores core).mailbox.head? = some x)
    (older : x.1.generation < c.generation) : s.Doomed := by
  obtain ⟨running, closing⟩ := idle_iff.mp idle
  obtain ⟨rest, mailbox⟩ := List.head?_eq_some_iff.mp first
  obtain ⟨c', event⟩ := x
  refine .before (a := .serve core 0) (by rw [step, mailbox, closing, running]) ?_
  refine doomed_of_crossed (process_crossed (c := c) ?_ older event)
  dsimp only [setCore]
  rw [update_self]
  exact found

lemma doomed_of_stream (live : s.live = some c) (leads : s.mailboxMap = some c.core)
    (there : s.Installed c) (idle : (s.cores c.core).idle = true)
    (found : (s.cores c.core).lookup = some c) (first : (s.stream c.core).head? = some x)
    (older : x.1.generation < c.generation) : s.Doomed := by
  obtain ⟨rest, first⟩ := List.head?_eq_some_iff.mp first
  have running := (idle_iff.mp idle).1
  have next : ∀ t : FdRouting κ υ α, t.cores c.core = s.cores c.core → t.held = some (c.core, x) →
      (s.cores c.core).mailbox = [] → t.Doomed := fun t same held empty => by
    refine .before (forward_eq held (by rw [same, running]; decide)) ?_
    refine doomed_of_mailbox c.core (c := c) (x := x) ?_ ?_ ?_ older
    all_goals dsimp only [post, setCore]; rw [update_self, same]
    · exact idle_iff.mpr (idle_iff.mp idle)
    · exact found
    · dsimp only
      rw [empty]
      rfl
  unfold stream at first
  cases mailbox : (s.cores c.core).mailbox with
  | cons y others =>
    rw [mailbox] at first
    cases first
    exact doomed_of_mailbox c.core idle found (by rw [mailbox]; rfl) older
  | nil =>
    have taken : ∀ t : FdRouting κ υ α, t.cores c.core = s.cores c.core → t.held = none →
        t.mailboxMap = some c.core → t.channel = x :: rest → t.Doomed :=
      fun t same unheld leads channel => by
        refine .before (a := .lookup) (by rw [step, unheld, channel]) (next _ ?_ ?_ mailbox)
        · exact same
        · dsimp only
          rw [leads]
          rfl
    rw [mailbox, List.nil_append] at first
    cases held : s.held with
    | none =>
      refine taken s rfl held leads ?_
      unfold heldTo at first
      rwa [held] at first
    | some command =>
      obtain ⟨core, y⟩ := command
      unfold heldTo at first
      rw [held] at first
      dsimp only at first
      by_cases same : core = c.core
      · rw [if_pos same] at first
        cases first
        rw [same] at held
        exact next s rfl held mailbox
      · rw [if_neg same] at first
        by_cases finished : (s.cores core).status = .finished
        · exact doomed_of_gone core live there held finished
        · refine .before (forward_eq held finished) (taken _ ?_ rfl leads first)
          exact update_of_ne (Ne.symm same) _ _

/-! ### The number is taken too early -/

lemma doomed_of_register {uri : υ} (apart : s.Apart) (early : ¬ s.Free (.register core uri)) :
    ({ s with
      live := some ⟨s.opened, core, uri⟩
      failed := false
      opened := s.opened + 1
      pending := s.pending ++ [⟨s.opened, core, uri⟩] } : FdRouting κ υ α).Doomed := by
  by_cases unasked : s.requests = []
  case neg =>
    obtain ⟨c, mem⟩ := List.exists_mem_of_ne_nil _ unasked
    exact doomed_of_request (c := c) rfl mem (apart.fresh.requests c mem)
  by_cases settled : ∀ c ∈ s.pending, (s.cores c.core).status = .finished
  case neg =>
    obtain ⟨c, left⟩ := not_forall.mp settled
    obtain ⟨mem, status⟩ := Classical.not_imp.mp left
    exact doomed_of_pending (c := c) rfl (List.mem_append_left _ mem) status
      (apart.fresh.pending c mem)
  obtain ⟨core', left⟩ := not_forall.mp (not_and.mp (not_and.mp early unasked) settled)
  obtain ⟨known, left⟩ := Classical.not_imp.mp left
  by_cases busy : (s.cores core').status = .running → (s.cores core').endpoints ≠ [] →
      (s.cores core').closing.isSome = true
  case neg =>
    obtain ⟨running, idle⟩ := Classical.not_imp.mp busy
    obtain ⟨some, idle⟩ := Classical.not_imp.mp idle
    obtain ⟨endpoint, only, _⟩ := (apart.cores core').single.resolve_left some
    refine doomed_of_endpoint core' (c := endpoint) rfl ?_ ?_
      (apart.fresh.endpoints core' endpoint (by rw [only]; exact List.mem_singleton_self _))
    · exact idle_iff.mpr ⟨running, Option.not_isSome_iff_eq_none.mp idle⟩
    · dsimp only
      rw [only]
      simp
  obtain ⟨running, left⟩ := Classical.not_imp.mp (not_and.mp left busy)
  obtain ⟨other, active⟩ := Classical.not_imp.mp left
  refine .settled core running fun t live pending held idle others => ?_
  have mem : ⟨s.opened, core, uri⟩ ∈ t.pending := by
    rw [pending]
    exact List.mem_append_right _ (List.mem_singleton_self _)
  have same : (t.setCore core ((t.cores core).insert ⟨s.opened, core, uri⟩)).cores core' =
      s.cores core' := (update_of_ne other _ _).trans (others core' other)
  refine .before (install_eq mem idle) (doomed_of_known core' (c := ⟨s.opened, core, uri⟩)
    live ?_ other ?_ ?_ ?_ ?_ ?_)
  · dsimp only [Installed, setCore]
    rw [update_self]
    exact List.mem_of_find?_eq_some (CoreFd.find_insert (t.cores core) ⟨s.opened, core, uri⟩)
  all_goals dsimp only; rw [same]
  · exact apart.cores core'
  · exact known
  · exact busy
  · rw [setCore, held]
    exact apart.held core'
  · rw [setCore, held]
    exact active

lemma doomed_of_install (apart : s.Apart) (mem : c ∈ s.pending)
    (idle : (s.cores c.core).idle = true) (early : ¬ s.Free (.install c)) :
    ({ s.setCore c.core ((s.cores c.core).insert c) with
      pending := s.pending.erase c
      mailboxMap := some c.core } : FdRouting κ υ α).Doomed := by
  have here := s.setCore_self c.core ((s.cores c.core).insert c)
  have idle' : ((s.cores c.core).insert c).idle = true :=
    idle_iff.mpr (idle_iff.mp idle)
  have there : c ∈ ((s.cores c.core).insert c).endpoints :=
    List.mem_of_find?_eq_some ((s.cores c.core).find_insert c)
  cases live : s.live with
  | none =>
    refine .before (a := .register c.core c.uri) (if_pos live) ?_
    refine doomed_of_endpoint c.core (c := c) rfl ?_ ?_ (apart.fresh.pending c mem)
    all_goals dsimp only; rw [here]
    · exact idle'
    · exact (s.cores c.core).find_insert c
  | some c' =>
    have running := (idle_iff.mp idle).1
    have ours := apart.ours c' live
    obtain rfl := ours.pending c mem (by rw [running]; decide)
    by_cases later : ∀ x ∈ s.stream c.core, c.generation ≤ x.1.generation
    · obtain ⟨core, left⟩ := not_forall.mp (not_and.mp (not_and.mp early live) later)
      obtain ⟨x, left⟩ := not_forall.mp left
      obtain ⟨held, left⟩ := Classical.not_imp.mp left
      obtain ⟨other, active⟩ := Classical.not_imp.mp left
      have same : (s.setCore c.core ((s.cores c.core).insert c)).cores core = s.cores core :=
        update_of_ne other _ _
      have installed : c ∈ ((s.setCore c.core ((s.cores c.core).insert c)).cores
          c.core).endpoints := by rwa [here]
      cases status : (s.cores core).status with
      | running =>
        refine doomed_of_running core (c := c) live installed other (.inr ⟨x, held⟩) ?_ ?_ ?_
        all_goals dsimp only; rw [same]
        · exact apart.cores core
        · exact status
        · exact fun some => ours.busy core status some fun mem => other (ours.home core mem)
      | stopping =>
        refine doomed_of_clean core (c := c) live installed other (.inr ⟨x, held⟩) ?_ ?_
        all_goals dsimp only; rw [same]
        · exact status
        · exact Bool.not_eq_true _ ▸ not_and.mp active status
      | finished =>
        refine doomed_of_gone core (c := c) live installed held ?_
        dsimp only
        rw [same]
        exact status
    · obtain ⟨x, left⟩ := not_forall.mp later
      obtain ⟨mem', older⟩ := Classical.not_imp.mp left
      have order := ours.order c.core
      cases first : s.stream c.core with
      | nil =>
        rw [first] at mem'
        cases mem'
      | cons y rest =>
        rw [first] at mem' order
        have oldest : y.1.generation < c.generation := by
          rcases List.mem_cons.mp mem' with rfl | mem'
          · exact Nat.not_le.mp older
          · by_contra newer
            exact older ((List.pairwise_cons.mp order).1 x mem' (Nat.not_lt.mp newer))
        refine doomed_of_stream (c := c) (x := y) live rfl ?_ ?_ ?_ ?_ oldest
        all_goals dsimp only [Installed, stream]; rw [here]
        · exact there
        · exact idle'
        · exact (s.cores c.core).find_insert c
        · exact congrArg List.head? first

/-- Nothing of an earlier connection gets at a later one, and the number leads to the core of an
installed connection, as long as numbers are taken and connections installed when they are free;
from any other step on something can. -/
theorem numbers_apart :
    (∀ s : FdRouting κ υ α, Reaches step Free start s → s.crossed = false ∧ ¬ s.Astray) ∧
      ∀ (s : FdRouting κ υ α) a t, Reaches step Free start s → s.step a = some t → ¬ s.Free a →
        ∃ u, Reaches step (fun _ _ => True) t u ∧ (u.crossed = true ∨ u.Astray) := by
  have apart : ∀ s : FdRouting κ υ α, Reaches step Free start s → s.Apart := fun s reached =>
    Reaches.invariant (fun _ _ _ apart free taken => apart.step free taken) reached start_apart
  refine ⟨fun s reached => ⟨(apart s reached).uncrossed, (apart s reached).not_astray⟩,
    fun s a t reached taken early => ?_⟩
  cases a with
  | register core uri =>
    obtain ⟨_, ⟨⟩⟩ := Option.ite_none_right_eq_some.mp taken
    exact doomed_of_register (apart s reached) early
  | install c =>
    obtain ⟨⟨mem, idle⟩, ⟨⟩⟩ := Option.ite_none_right_eq_some.mp taken
    exact doomed_of_install (apart s reached) mem idle early
  | emit | close | shutdown | lookup | forward | orphan | serve | finish | disconnect | stop
  | clean | displace => exact absurd trivial early

/-- The number is taken at once after a close; the error that the close gave rise to is still in the
mailbox when the new connection is installed. -/
def lateError : List (RoutingAction Unit Nat Nat) :=
  [.register () 0, .install ⟨0, (), 0⟩, .disconnect () 0, .shutdown ⟨0, (), 0⟩, .close true,
    .register () 1, .install ⟨1, (), 1⟩, .serve () 0]

/-- The second connection is asked to be closed for the error of the first one. -/
theorem late_error_closes : ∃ s : FdRouting Unit Nat Nat, Reaches step (fun _ _ => True) start s ∧
      s.live = some ⟨1, (), 1⟩ ∧ s.requests = [⟨1, (), 1⟩] ∧ s.crossed = true := by
  have ran : (run step start lateError).map (fun s => (s.live, s.requests, s.crossed)) =
      some (some ⟨1, (), 1⟩, [⟨1, (), 1⟩], true) := by
    decide +kernel
  obtain ⟨s, ran, found⟩ := Option.map_eq_some_iff.mp ran
  obtain ⟨live, found⟩ := Prod.mk.inj found
  obtain ⟨requests, crossed⟩ := Prod.mk.inj found
  exact ⟨s, reaches_of_run _ (fun _ _ _ => trivial) ran, live, requests, crossed⟩

end FdRouting

end Rzmq
