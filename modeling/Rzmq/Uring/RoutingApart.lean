import Rzmq.Uring.Routing
import Mathlib.Data.List.Nodup

/-! The connections that share a number, on their way to the sockets.  If the number is taken again,
and the new connection installed, only when nothing of the connection before can still get at the
new one, then none ever does, and the number leads to the core of the new connection. -/

namespace Rzmq

open List Option Function Transition List.Sublist FdRouting

namespace CoreFd

variable {κ υ α : Type}

/-- At most one endpoint, which is the one that the number leads to, and no command of an earlier
connection than its own. -/
structure Sound (t : CoreFd κ υ α) : Prop where
  single : t.endpoints = [] ∨ ∃ c, t.endpoints = [c] ∧ t.endpointUri = some c.uri
  closing : ∀ uri c, t.closing = some (uri, c) → t.status = .running ∧ t.endpointUri = some uri ∧
    ∀ endpoint ∈ t.endpoints, endpoint.generation ≤ c.generation
  stopping : t.status = .stopping → (t.pendingClose = true ↔ t.endpoints ≠ [])
  finished : t.status = .finished → t.endpointUri = none ∧ t.endpoints = []
  mailbox : ∀ endpoint ∈ t.endpoints, ∀ x ∈ t.mailbox, endpoint.generation ≤ x.1.generation

/-- The core waits for its connection to be closed, and nothing in its mailbox says so. -/
structure Aside (t : CoreFd κ υ α) : Prop where
  stopping : t.status = .stopping
  pendingClose : t.pendingClose = true
  silent : ∀ x ∈ t.mailbox, x.2.isError = false

lemma new_sound : (new : CoreFd κ υ α).Sound where
  single := .inl rfl
  closing := nofun
  stopping := nofun
  finished := nofun
  mailbox := nofun

variable {t : CoreFd κ υ α}

lemma Sound.closing_none (sound : t.Sound) (other : t.status ≠ .running) : t.closing = none := by
  cases closing : t.closing with
  | none => rfl
  | some found => exact absurd (sound.closing _ _ closing).1 other

lemma Sound.mem_endpoints (sound : t.Sound) {c} (mem : c ∈ t.endpoints) :
    t.endpoints = [c] ∧ t.endpointUri = some c.uri := by
  grind [sound.single]

lemma Sound.post {x}
    (sound : t.Sound) (later : ∀ endpoint ∈ t.endpoints, endpoint.generation ≤ x.1.generation) :
    ({ t with mailbox := t.mailbox ++ [x] } : CoreFd κ υ α).Sound :=
  { sound with mailbox := by have := sound.mailbox; grind }

lemma idle_iff : t.idle = true ↔ t.status = .running ∧ t.closing = none := by
  simp [idle]

variable [DecidableEq υ]

lemma Sound.lookup (sound : t.Sound) : t.lookup = t.endpoints.head? := by
  unfold CoreFd.lookup
  rcases sound.single with none | ⟨c, only, uri⟩
  · rw [none]
    cases t.endpointUri <;> rfl
  · simp [only, uri]

lemma Sound.stale (sound : t.Sound) (pick : Nat) :
    t.stale t.endpointUri pick = t.endpoints.head? := by
  have found := sound.lookup
  unfold CoreFd.lookup at found
  unfold CoreFd.stale
  rw [found]
  rcases sound.single with none | ⟨c, only, _⟩
  · simp [none]
  · simp [only]

end CoreFd

namespace FdRouting

variable {κ υ α : Type} (s : FdRouting κ υ α)

def Installed (c : FdConnection κ υ) : Prop :=
  c ∈ (s.cores c.core).endpoints

def Coming (c : FdConnection κ υ) : Prop :=
  s.Installed c ∨ (c ∈ s.pending ∧ (s.cores c.core).status = .running)

/-- The connection is live and its core has it, but the number does not lead to that core. -/
def Astray : Prop :=
  ∃ c, s.live = some c ∧ s.Installed c ∧ s.mailboxMap ≠ some c.core

structure Fresh : Prop where
  live : ∀ c, s.live = some c → c.generation + 1 = s.opened
  pending : ∀ c ∈ s.pending, c.generation < s.opened
  requests : ∀ c ∈ s.requests, c.generation < s.opened
  channel : ∀ x ∈ s.channel, x.1.generation < s.opened
  held : ∀ core x, s.held = some (core, x) → x.1.generation < s.opened
  mailbox : ∀ core, ∀ x ∈ (s.cores core).mailbox, x.1.generation < s.opened
  endpoints : ∀ core, ∀ c ∈ (s.cores core).endpoints, c.generation < s.opened

/-! ### A turn of one core -/

/-- A core has taken a turn: the others are as they were, and it has no more than it had. -/
structure Turn (core : κ) (s s' : FdRouting κ υ α) : Prop where
  live : s'.live = s.live
  opened : s'.opened = s.opened
  pending : s'.pending = s.pending
  channel : s'.channel = s.channel
  held : s'.held = s.held
  others : ∀ core', core' = core ∨ s'.cores core' = s.cores core'
  endpoints : (s'.cores core).endpoints.Sublist (s.cores core).endpoints
  mailbox : (s'.cores core).mailbox.Sublist (s.cores core).mailbox
  running : (s'.cores core).status = .running → (s.cores core).status = .running
  finished : (s.cores core).status = .finished → (s'.cores core).status = .finished
  requests : ∀ c ∈ s'.requests, c ∈ s.requests ∨ c ∈ (s.cores core).endpoints
  map : s'.mailboxMap = s.mailboxMap ∨ s'.mailboxMap = none

variable {s s' : FdRouting κ υ α} {core : κ} {c endpoint : FdConnection κ υ} {uri : υ}
  {event : UpstreamEvent α} {x : FdConnection κ υ × UpstreamEvent α}
  {rest : List (FdConnection κ υ × UpstreamEvent α)}

section

variable (turn : Turn core s s')
include turn

lemma Turn.mem_endpoints (core' : κ) :
    ∀ c ∈ (s'.cores core').endpoints, c ∈ (s.cores core').endpoints := by
  have := turn.endpoints.subset
  have := turn.others core'
  grind

lemma Turn.mailbox_sublist (core' : κ) :
    (s'.cores core').mailbox.Sublist (s.cores core').mailbox := by
  have := turn.mailbox
  have := turn.others core'
  grind

lemma Turn.installed (there : s'.Installed c) : s.Installed c :=
  turn.mem_endpoints _ _ there

lemma Turn.coming (coming : s'.Coming c) : s.Coming c := by
  have := turn.installed (c := c)
  have := turn.others c.core
  grind [Coming, turn.pending, turn.running]

end

lemma Fresh.turn (fresh : s.Fresh) (turn : Turn core s s') : s'.Fresh := by
  have mailbox := fun core' => (turn.mailbox_sublist core').subset
  have endpoints := turn.mem_endpoints
  obtain ⟨live, opened, pending, channel, held, _, _, _, _, _, requests, _⟩ := turn
  obtain ⟨f1, f2, f3, f4, f5, f6, f7⟩ := fresh
  constructor <;> grind

lemma touch_eq {c c'} (later : c'.generation ≤ c.generation) :
    s.touch c c' = s := by
  rw [touch, decide_eq_false (Nat.not_lt.mpr later), Bool.or_false]

variable [DecidableEq κ]

lemma setCore_self (core : κ) (t : CoreFd κ υ α) : (s.setCore core t).cores core = t :=
  update_self ..

lemma installed_setCore {core : κ} (other : core ≠ c.core) (t : CoreFd κ υ α) :
    (s.setCore core t).Installed c ↔ s.Installed c := by
  dsimp only [Installed, setCore]
  rw [update_of_ne (Ne.symm other)]

def heldTo (s : FdRouting κ υ α) (core : κ) : List (FdConnection κ υ × UpstreamEvent α) :=
  match s.held with
  | some (core', x) => if core' = core then [x] else []
  | none => []

def stream (s : FdRouting κ υ α) (core : κ) : List (FdConnection κ υ × UpstreamEvent α) :=
  (s.cores core).mailbox ++ s.heldTo core ++ s.channel

structure Ours (s : FdRouting κ υ α) (c : FdConnection κ υ) : Prop where
  requests : ∀ c' ∈ s.requests, c' = c
  pending : ∀ c' ∈ s.pending, (s.cores c'.core).status ≠ .finished → c' = c
  busy : ∀ core, (s.cores core).status = .running → (s.cores core).endpoints ≠ [] →
    c ∉ (s.cores core).endpoints → (s.cores core).closing.isSome = true
  home : ∀ core, c ∈ (s.cores core).endpoints → core = c.core
  once : c ∈ s.pending → ¬ s.Installed c
  aside : s.Coming c → ∀ core, core ≠ c.core → (s.cores core).endpointUri.isSome = true →
    (s.cores core).Aside ∧ ∀ x, s.held = some (core, x) → x.2.isError = false
  held : s.Installed c → ∀ core x, s.held = some (core, x) → core ≠ c.core →
    (s.cores core).status = .stopping ∧ (s.cores core).pendingClose = true
  map : s.Installed c → s.mailboxMap = some c.core
  order : ∀ core, (s.stream core).Pairwise fun a b =>
    c.generation ≤ a.1.generation → c.generation ≤ b.1.generation

structure Apart (s : FdRouting κ υ α) : Prop where
  fresh : s.Fresh
  cores : ∀ core, (s.cores core).Sound
  nodup : s.pending.Nodup
  held : ∀ core x, s.held = some (core, x) → ∀ endpoint ∈ (s.cores core).endpoints,
    endpoint.generation ≤ x.1.generation
  channel : ∀ core, s.mailboxMap = some core → ∀ endpoint ∈ (s.cores core).endpoints,
    ∀ x ∈ s.channel, endpoint.generation ≤ x.1.generation
  map : ∀ core, s.mailboxMap = some core → ∃ c, s.live = some c ∧ c.core = core
  ours : ∀ c, s.live = some c → s.Ours c
  uncrossed : s.crossed = false

lemma start_apart : (start : FdRouting κ υ α).Apart where
  fresh := ⟨nofun, nofun, nofun, nofun, nofun, fun _ => nofun, fun _ => nofun⟩
  cores _ := CoreFd.new_sound
  nodup := nodup_nil
  held := nofun
  channel := nofun
  map := nofun
  ours := nofun
  uncrossed := rfl

lemma Turn.stream_sublist (turn : Turn core s s') (core' : κ) :
    (s'.stream core').Sublist (s.stream core') := by
  unfold stream heldTo
  rw [turn.held, turn.channel]
  exact ((turn.mailbox_sublist core').append (refl _)).append (refl _)

lemma Apart.not_astray (apart : s.Apart) : ¬ s.Astray := fun ⟨c, live, there, lost⟩ =>
  lost ((apart.ours c live).map there)

/-- A running core that is not in the middle of anything has no endpoint but that of the live
connection. -/
lemma Apart.endpoint_live (apart : s.Apart) (live : s.live = some c)
    (running : (s.cores core).status = .running) (idle : (s.cores core).closing = none) :
    ∀ endpoint ∈ (s.cores core).endpoints, endpoint = c := by
  intro endpoint mem
  have only := (apart.cores core).mem_endpoints mem
  have busy := (apart.ours c live).busy core running
  grind

lemma Apart.aside (apart : s.Apart) (live : s.live = some c) (there : s.Installed c)
    (other : core ≠ c.core) (known : (s.cores core).endpointUri.isSome = true) :
    (s.cores core).Aside :=
  ((apart.ours c live).aside (.inl there) core other known).1

/-- What a core's turn has to respect for the live connection `c`, if it leaves the core as `u`,
with the given entry of the map and the given requests. -/
structure Fair (core : κ) (s : FdRouting κ υ α) (u : CoreFd κ υ α) (map : Option κ)
    (requests : List (FdConnection κ υ)) (c : FdConnection κ υ) : Prop where
  requests : ∀ c' ∈ requests, c' = c
  busy : u.status = .running → u.endpoints ≠ [] → c ∉ u.endpoints → u.closing.isSome = true
  aside : core ≠ c.core → u.endpointUri.isSome = true →
    (s.cores core).endpointUri.isSome = true ∧ ((s.cores core).Aside → u.Aside)
  stays : s.Installed c → core ≠ c.core → (s.cores core).status = .stopping →
    (s.cores core).pendingClose = true → u.status = .stopping ∧ u.pendingClose = true
  map : s.Installed c → (core = c.core → c ∈ u.endpoints) → map = s.mailboxMap

lemma Ours.turn (ours : s.Ours c) (turn : Turn core s s')
    (fair : Fair core s (s'.cores core) s'.mailboxMap s'.requests c) : s'.Ours c := by
  have endpoints := turn.mem_endpoints
  have stream := turn.stream_sublist
  have coming := turn.coming (c := c)
  have installed := turn.installed (c := c)
  have others := turn.others
  obtain ⟨o1, o2, o3, o4, o5, o6, o7, o8, o9⟩ := ours
  obtain ⟨r, b, a, st, m⟩ := fair
  constructor
  case order => exact fun core' => (o9 core').sublist (stream core')
  all_goals grind [Turn, Installed]

lemma Apart.turn (core : κ) (apart : s.Apart) (turn : Turn core s s')
    (sound : (s'.cores core).Sound)
    (fair : ∀ c, s.live = some c → Fair core s (s'.cores core) s'.mailboxMap s'.requests c)
    (uncrossed : s'.crossed = false) : s'.Apart := by
  have endpoints := turn.mem_endpoints
  have others := turn.others
  refine ⟨apart.fresh.turn turn, ?_, turn.pending ▸ apart.nodup, ?_, ?_, ?_, fun c live => ?_,
    uncrossed⟩
  case refine_5 =>
    rw [turn.live] at live
    exact (apart.ours c live).turn turn (fair c live)
  all_goals grind [Turn, Apart]

section

variable (apart : s.Apart)
include apart

lemma Apart.turned {u map requests}
    (told) (sound : u.Sound)
    (endpoints : u.endpoints.Sublist (s.cores core).endpoints)
    (mailbox : u.mailbox.Sublist (s.cores core).mailbox)
    (running : u.status = .running → (s.cores core).status = .running)
    (finished : (s.cores core).status = .finished → u.status = .finished)
    (requested : ∀ c ∈ requests, c ∈ s.requests ∨ c ∈ (s.cores core).endpoints)
    (mapped : map = s.mailboxMap ∨ map = none)
    (fair : ∀ c, s.live = some c → Fair core s u map requests c) :
    ({ s with
      cores := update s.cores core u
      mailboxMap := map
      requests
      told } : FdRouting κ υ α).Apart := by
  have here : update s.cores core u core = u := update_self ..
  refine apart.turn core ⟨rfl, rfl, rfl, rfl, rfl, fun core' => ?_, ?_, ?_, ?_, ?_, requested,
    mapped⟩ ?_ ?_ apart.uncrossed
  · exact or_iff_not_imp_left.mpr fun other => update_of_ne other _ _
  all_goals dsimp only; rwa [here]

lemma Apart.take (mailbox : (s.cores core).mailbox = x :: rest) :
    (s.setCore core { s.cores core with mailbox := rest }).Apart := by
  have sound := apart.cores core
  refine apart.turned s.told ?_ (refl _) ?_ id id (fun _ => .inl) (.inl rfl)
    fun c live => ?_
  · exact { sound with mailbox := by have := sound.mailbox; grind }
  · rw [mailbox]
    exact sublist_cons_self x rest
  · have ours := apart.ours c live
    exact ⟨ours.requests, ours.busy core, by grind [CoreFd.Aside], by grind, by grind⟩

lemma Apart.tell (told) :
    ({ s with told } : FdRouting κ υ α).Apart :=
  { apart with
    fresh := { apart.fresh with }
    ours := fun c live => { apart.ours c live with } }

lemma Apart.removed {u} (live : s.live = some c) (empty : u.endpoints = [])
    (unknown : u.endpointUri = none) (away : s.Installed c → core = c.core) :
    Fair core s u none s.requests c :=
  ⟨(apart.ours c live).requests, by grind, by grind, by grind, by grind⟩

lemma Apart.ask {pending requests} (fewer : pending.Sublist s.pending)
    (fresh : ∀ c ∈ requests, c.generation < s.opened)
    (ours : ∀ c, s.live = some c → ∀ c' ∈ requests, c' = c) :
    ({ s with pending, requests } : FdRouting κ υ α).Apart := by
  have subset := fewer.subset
  refine { apart with
    fresh := { apart.fresh with
      pending := fun c mem => apart.fresh.pending c (subset mem)
      requests := fresh }
    nodup := apart.nodup.sublist fewer
    ours := fun c live => ?_ }
  have before := apart.ours c live
  exact { before with
    requests := ours c live
    pending := fun c' mem => before.pending c' (subset mem)
    once := fun mem => before.once (subset mem)
    aside := fun coming => before.aside (coming.imp_right fun there => ⟨subset there.1, there.2⟩) }

lemma Apart.disconnect (running : (s.cores core).status = .running)
    (idle : (s.cores core).closing = none) (mem : endpoint ∈ (s.cores core).endpoints) :
    ({ s with requests := s.requests ++ [endpoint] } : FdRouting κ υ α).Apart := by
  have fresh := apart.fresh.requests
  have fresh' := apart.fresh.endpoints core
  refine apart.ask (refl _) (by grind) fun c live => ?_
  have only := apart.endpoint_live live running idle
  have asked := (apart.ours c live).requests
  grind

lemma Apart.stop (running : (s.cores core).status = .running)
    (idle : (s.cores core).closing = none) :
    ({ s.setCore core { s.cores core with
        status := .stopping, pendingClose := !(s.cores core).endpoints.isEmpty } with
      requests := s.requests ++ (s.cores core).endpoints } : FdRouting κ υ α).Apart := by
  have sound := apart.cores core
  refine apart.turned s.told ?_ (refl _) (refl _) (by grind) (by grind)
    (by grind) (.inl rfl) fun c live => ?_
  · exact { sound with closing := by grind, stopping := by grind, finished := by grind }
  · have asked := (apart.ours c live).requests
    have only := apart.endpoint_live live running idle
    constructor <;> grind [CoreFd.Aside, setCore]

lemma Apart.clean (stopping : (s.cores core).status = .stopping)
    (done : (s.cores core).pendingClose = false) :
    ({ s.setCore core { CoreFd.new with status := .finished } with
      mailboxMap := if (s.cores core).endpointUri.isSome then none else s.mailboxMap
      requests := s.requests ++ (s.cores core).endpoints } : FdRouting κ υ α).Apart := by
  have empty : (s.cores core).endpoints = [] := by
    have := (apart.cores core).stopping stopping
    grind
  rw [empty, append_nil]
  refine apart.turned s.told ?_ (nil_sublist _) (nil_sublist _) nofun (by grind)
    (fun _ => .inl) (by grind) fun c live => ?_
  · exact ⟨.inl rfl, nofun, nofun, fun _ => ⟨rfl, rfl⟩, nofun⟩
  · have aside : s.Installed c → core ≠ c.core → (s.cores core).endpointUri.isSome = true →
        (s.cores core).Aside := apart.aside live
    refine ⟨(apart.ours c live).requests, nofun, nofun, by grind, ?_⟩
    grind [CoreFd.new, CoreFd.Aside]

end

/-! ### The worker and the processor -/

/-- A number may be taken again when nobody can still ask to close an earlier connection or
unregister the number once the new one is installed; a connection is installed while it is live,
with no event of an earlier one on its way to its core. -/
def Free (s : FdRouting κ υ α) : RoutingAction κ υ α → Prop
  | .register core _ =>
    s.requests = [] ∧ (∀ c ∈ s.pending, (s.cores c.core).status = .finished) ∧
      ∀ core', (s.cores core').endpointUri.isSome = true →
        ((s.cores core').status = .running → (s.cores core').endpoints ≠ [] →
          (s.cores core').closing.isSome = true) ∧
        ((s.cores core).status = .running → core' ≠ core →
          (s.cores core').Aside ∧ ∀ x, s.held = some (core', x) → x.2.isError = false)
  | .install c =>
    s.live = some c ∧ (∀ x ∈ s.stream c.core, c.generation ≤ x.1.generation) ∧
      ∀ core x, s.held = some (core, x) → core ≠ c.core →
        (s.cores core).status = .stopping ∧ (s.cores core).pendingClose = true
  | _ => True

variable {x : FdConnection κ υ × UpstreamEvent α}

lemma mem_heldTo : x ∈ s.heldTo core ↔ s.held = some (core, x) := by
  unfold heldTo
  split
  · rename_i core' y held
    rw [held]
    by_cases same : core' = core
    · rw [if_pos same, mem_singleton, same]
      simp only [some.injEq, Prod.mk.injEq, true_and]
      exact eq_comm
    · rw [if_neg same]
      simp [some.injEq, Prod.mk.injEq, same]
  · rename_i empty
    simp [empty, reduceCtorEq]

lemma Fresh.stream (fresh : s.Fresh) (mem : x ∈ s.stream core) : x.1.generation < s.opened := by
  rcases mem_append.mp mem with mem | mem
  · rcases mem_append.mp mem with mem | mem
    · exact fresh.mailbox core x mem
    · exact fresh.held core x (mem_heldTo.mp mem)
  · exact fresh.channel x mem

section

variable (apart : s.Apart)
include apart

lemma Apart.register (vacant : s.live = none) (free : s.Free (.register core uri)) : ({ s with
      live := some ⟨s.opened, core, uri⟩
      failed := false
      opened := s.opened + 1
      pending := s.pending ++ [⟨s.opened, core, uri⟩] } : FdRouting κ υ α).Apart := by
  obtain ⟨unasked, settled, aside⟩ := free
  obtain ⟨fresh, cores, nodup, held, channel, map, _, uncrossed⟩ := apart
  have streamed : ∀ core', ∀ x ∈ s.stream core', x.1.generation < s.opened :=
    fun _ _ => fresh.stream
  obtain ⟨_, f2, f3, f4, f5, f6, f7⟩ := fresh
  have new : ∀ core', ⟨s.opened, core, uri⟩ ∉ (s.cores core').endpoints := by grind
  refine ⟨⟨by grind, by grind, by grind, by grind, by grind, by grind, by grind⟩, cores, by grind,
    held, channel, by grind, fun c live => ?_, uncrossed⟩
  cases live
  refine ⟨by grind, by grind, fun core' running open' _ => ?_, by grind, by grind [Installed],
    fun coming core' other known => ?_, by grind [Installed], by grind [Installed], fun core' => ?_⟩
  · obtain ⟨_, _, known⟩ := (cores core').single.resolve_left open'
    exact (aside core' (by rw [known]; rfl)).1 running open'
  · obtain there | ⟨_, running⟩ := coming
    · exact absurd there (new core)
    · exact (aside core' known).2 running other
  · refine List.Pairwise.imp_of_mem (R := fun _ _ => True) (fun {a} _ mem _ _ newer => ?_)
      (pairwise_of_forall fun _ _ => trivial)
    exact absurd newer (Nat.not_le.mpr (streamed core' a mem))

lemma Apart.emit (live : s.live = some c) : ({ s with
      failed := event.isError
      channel := s.channel ++ [(c, event)]
      emitted := s.emitted ++ [(c, event)] } : FdRouting κ υ α).Apart := by
  have newest := apart.fresh.live c live
  have older := apart.fresh.endpoints
  have fresh := apart.fresh.channel
  have later := apart.channel
  refine { apart with
    fresh := { apart.fresh with channel := by grind }
    channel := by grind
    ours := fun c' live' => ?_ }
  cases live.symm.trans live'
  refine { apart.ours c live with order := fun core => ?_ }
  have longer : (s.stream core ++ [(c, event)]).Pairwise fun a b =>
      c.generation ≤ a.1.generation → c.generation ≤ b.1.generation :=
    pairwise_append.mpr ⟨(apart.ours c live).order core, pairwise_singleton _ _, by grind⟩
  rwa [stream, append_assoc] at longer

lemma Apart.lookup (idle : s.held = none) (channel : s.channel = x :: rest) :
    ({ s with channel := rest, held := s.mailboxMap.map (·, x) } : FdRouting κ υ α).Apart := by
  have fresh := apart.fresh.channel
  have later := apart.channel
  have map := apart.map
  refine { apart with
    fresh := { apart.fresh with channel := by grind, held := by grind [map_eq_some_iff] }
    held := by grind [map_eq_some_iff]
    channel := by grind
    ours := fun c live => ?_ }
  have ours := apart.ours c live
  have leads := ours.map
  refine { ours with
    aside := fun coming core other known => ⟨(ours.aside coming core other known).1,
      by grind [map_eq_some_iff]⟩
    held := by grind [map_eq_some_iff]
    order := fun core => (ours.order core).sublist ?_ }
  unfold stream heldTo
  rw [idle, channel, append_nil]
  cases s.mailboxMap with
  | none => simp
  | some core' =>
    dsimp only [map_some]
    split <;> simp

lemma Apart.post (fresh : x.1.generation < s.opened)
    (later : ∀ endpoint ∈ (s.cores core).endpoints, endpoint.generation ≤ x.1.generation)
    (silent : ∀ c, s.live = some c → s.Coming c → core ≠ c.core →
      (s.cores core).endpointUri.isSome = true → x.2.isError = false)
    (order : ∀ c, s.live = some c → ((s.cores core).mailbox ++ [x] ++ s.heldTo core ++
      s.channel).Pairwise fun a b => c.generation ≤ a.1.generation →
        c.generation ≤ b.1.generation) : (s.post core x).Apart := by
  have cores : ∀ core', (s.post core x).cores core' = if core' = core
      then { s.cores core with mailbox := (s.cores core).mailbox ++ [x] } else s.cores core' :=
    fun core' => update_apply ..
  have same : (s.post core x).opened = s.opened ∧ (s.post core x).pending = s.pending ∧
      (s.post core x).held = s.held ∧ (s.post core x).mailboxMap = s.mailboxMap ∧
      (s.post core x).channel = s.channel := ⟨rfl, rfl, rfl, rfl, rfl⟩
  have coming : ∀ c, (s.post core x).Coming c ↔ s.Coming c := by grind [Coming, Installed]
  obtain ⟨frame, sound, nodup, held, channel, map, ours, uncrossed⟩ := apart
  have mailbox := frame.mailbox
  have endpoints := frame.endpoints
  refine ⟨{ frame with mailbox := by grind, endpoints := by grind }, fun core' => ?_, nodup,
    fun core' y there => ?_, fun core' leads => ?_, map, fun c live => ?_, uncrossed⟩
  · have posted := (sound core).post later
    grind
  · have older := held core' y there
    grind
  · have older := channel core' leads
    grind
  · have quiet := silent c live
    have ordered := order c live
    obtain ⟨requests, pending, busy, home, once, aside, away, leads, order⟩ := ours c live
    refine ⟨requests, by grind, by grind, by grind, by grind [Installed],
      fun comes core' other known => ?_, by grind [Installed], by grind [Installed],
      fun core' => ?_⟩
    · have before := aside ((coming c).mp comes) core' other (by grind)
      refine ⟨?_, before.2⟩
      grind [CoreFd.Aside]
    · have := order core'
      rw [stream, cores]
      split
      · exact (‹core' = core› : core' = core) ▸ ordered
      · exact this

lemma Apart.drop : ({ s with held := none } : FdRouting κ υ α).Apart := by
  refine { apart with
    fresh := { apart.fresh with held := nofun }
    held := nofun
    ours := fun c live => ?_ }
  have ours := apart.ours c live
  refine { ours with
    aside := fun coming core other known => ⟨(ours.aside coming core other known).1, nofun⟩
    held := nofun
    order := fun core' => (ours.order core').sublist ?_ }
  exact ((refl _).append (nil_sublist _)).append (refl _)

lemma Apart.forward (held : s.held = some (core, x)) :
    ({ s with held := none }.post core x : FdRouting κ υ α).Apart := by
  refine apart.drop.post (apart.fresh.held core x held) (apart.held core x held)
    (fun c live coming other known => ((apart.ours c live).aside coming core other known).2 x held)
    fun c live => ?_
  have order := (apart.ours c live).order core
  grind [stream, heldTo]

lemma Apart.forward_finished (held : s.held = some (core, x))
    (finished : (s.cores core).status = .finished) :
    ({ s with held := none, mailboxMap := none } : FdRouting κ υ α).Apart := by
  have gone := (apart.cores core).finished finished
  refine { apart.drop with
    fresh := { apart.drop.fresh with }
    channel := nofun
    map := nofun
    ours := fun c live => { apart.drop.ours c live with map := fun there => ?_ } }
  have away := (apart.ours c live).held there core x held
  grind [Installed]

lemma Apart.closeFd (live : s.live = some c) (told : Bool) : (s.closeFd c told).Apart := by
  have vacant : ({ s with live := none, mailboxMap := none } : FdRouting κ υ α).Apart :=
    { apart with
      fresh := { apart.fresh with live := nofun }
      channel := nofun
      map := nofun
      ours := nofun }
  have newest := apart.fresh.live c live
  have older := apart.fresh.endpoints
  unfold FdRouting.closeFd
  split
  · dsimp only
    split
    · exact vacant.post (by grind) (by grind) nofun nofun
    · exact vacant
  · rename_i empty
    rwa [← empty] at vacant

end

variable [DecidableEq υ]

lemma Apart.process (apart : s.Apart) (running : (s.cores core).status = .running)
    (idle : (s.cores core).closing = none)
    (later : ∀ endpoint ∈ (s.cores core).endpoints, endpoint.generation ≤ c.generation)
    (event) : (s.process core c event).Apart := by
  have sound := apart.cores core
  cases event with
  | handshakeComplete | data =>
    dsimp only [FdRouting.process]
    rw [sound.lookup]
    cases found : (s.cores core).endpoints.head? with
    | none => exact apart
    | some endpoint =>
      dsimp only
      rw [touch_eq (later endpoint (mem_of_head? found))]
      exact apart.tell _
  | error f =>
    dsimp only [FdRouting.process]
    split
    · exact apart
    · rename_i uri known
      have waits : ∀ requests : List (FdConnection κ υ),
          (∀ c' ∈ requests, c' ∈ s.requests ∨ c' ∈ (s.cores core).endpoints) →
          ({ s.setCore core { s.cores core with closing := some (uri, c) } with requests } :
            FdRouting κ υ α).Apart := fun requests asked => by
        refine apart.turned s.told { sound with closing := by grind } (refl _)
          (refl _) id id asked (.inl rfl) fun c' live => ?_
        have only := apart.endpoint_live live running idle
        have mine := (apart.ours c' live).requests
        constructor <;> grind [CoreFd.Aside, setCore]
      rw [sound.lookup]
      cases found : (s.cores core).endpoints.head? with
      | none => exact waits s.requests fun _ => .inl
      | some endpoint =>
        have mem := mem_of_head? found
        dsimp only
        rw [touch_eq (later endpoint mem)]
        exact waits (s.requests ++ [endpoint]) (by grind)

lemma cleanup_none {c uri} {pick : Nat}
    (found : (s.cores core).stale uri pick = none) : s.cleanup core c uri pick = s := by
  rw [cleanup, found]

lemma cleanup_some {c endpoint uri} {pick : Nat}
    (found : (s.cores core).stale uri pick = some endpoint)
    (only : (s.cores core).endpoints = [endpoint])
    (later : endpoint.generation ≤ c.generation) :
    s.cleanup core c uri pick = { s with
      cores := update s.cores core
        { s.cores core with endpoints := [], endpointUri := none }
      mailboxMap := none } := by
  have gone : (s.cores core).endpoints.filter (· ≠ endpoint) = [] := by
    rw [only]
    simp
  rw [cleanup, found]
  dsimp only
  rw [gone, touch_eq later]
  rfl

section

variable (apart : s.Apart)
include apart

lemma Apart.finish (closing : (s.cores core).closing = some (uri, c)) (pick : Nat) :
    ((s.setCore core { s.cores core with closing := none }).cleanup
      core c (some uri) pick).Apart := by
  have sound := apart.cores core
  obtain ⟨running, known, later⟩ := sound.closing uri c closing
  have here := s.setCore_self core { s.cores core with closing := none }
  have found : ((s.setCore core { s.cores core with closing := none }).cores core).stale
      (some uri) pick = (s.cores core).endpoints.head? := by
    rw [here, ← sound.stale pick, known]
    rfl
  rcases sound.single with empty | ⟨endpoint, only, _⟩
  · rw [empty] at found
    rw [cleanup_none found]
    refine apart.turned s.told { sound with closing := nofun } (refl _)
      (refl _) id id (fun _ => .inl) (.inl rfl) fun c' live => ?_
    have mine := (apart.ours c' live).requests
    constructor <;> grind [CoreFd.Aside, setCore]
  · rw [only] at found
    rw [cleanup_some found (by rw [here]; exact only) (later endpoint (by grind)), here]
    dsimp only [setCore]
    rw [update_idem]
    refine apart.turned s.told ?_ (nil_sublist _) (refl _) id id (fun _ => .inl)
      (.inr rfl) fun c' live => apart.removed live rfl rfl fun there => ?_
    · exact ⟨.inl rfl, nofun, by grind, fun _ => ⟨rfl, rfl⟩, nofun⟩
    · by_contra other
      have aside := (apart.aside live there other (by rw [known]; rfl)).stopping
      grind

/-- A command of a core that is shutting down.  An error is not for a core that stands aside. -/
lemma Apart.processStopping (stopping : (s.cores core).status = .stopping)
    (later : ∀ endpoint ∈ (s.cores core).endpoints, endpoint.generation ≤ c.generation)
    (away : event.isError = true → (s.cores core).endpointUri.isSome = true →
      ∀ c', s.live = some c' → s.Installed c' → core = c'.core) (pick : Nat) :
    (s.processStopping core c event pick).Apart := by
  have sound := apart.cores core
  have idle := sound.closing_none (by rw [stopping]; decide)
  unfold FdRouting.processStopping
  split
  · rename_i isError
    have found := sound.stale pick
    have waits := sound.stopping stopping
    rcases sound.single with empty | ⟨endpoint, only, known⟩
    · rw [empty] at found
      rw [cleanup_none found]
      refine apart.turned s.told { sound with stopping := by grind } (refl _)
        (refl _) id id (fun _ => .inl) (.inl rfl) fun c' live => ?_
      have mine := (apart.ours c' live).requests
      constructor <;> grind [CoreFd.Aside, setCore]
    · rw [only] at found
      rw [cleanup_some found only (later endpoint (by grind))]
      dsimp only [setCore]
      rw [update_self, update_idem]
      refine apart.turned s.told ?_ (nil_sublist _) (refl _) id id (fun _ => .inl)
        (.inr rfl) fun c' live => apart.removed live rfl rfl (away isError (by grind) c' live)
      exact ⟨.inl rfl, by grind, by grind, fun _ => ⟨rfl, rfl⟩, nofun⟩
  · exact apart

lemma Apart.displace (running : (s.cores core).status = .running)
    (idle : (s.cores core).closing = none) (uri : υ) :
    (s.setCore core { s.cores core with
      endpoints := (s.cores core).endpoints.filter (·.uri ≠ uri) }).Apart := by
  have sound := apart.cores core
  have fewer : ((s.cores core).endpoints.filter (·.uri ≠ uri)).Sublist (s.cores core).endpoints :=
    filter_sublist
  refine apart.turned s.told ?_ fewer (refl _) id id (fun _ => .inl) (.inl rfl)
    fun c live => ?_
  · have single := sound.single
    exact ⟨by grind, by grind, by grind, by grind,
      fun endpoint mem => sound.mailbox endpoint (fewer.subset mem)⟩
  · have only := apart.endpoint_live live running idle
    have mine := (apart.ours c live).requests
    refine ⟨mine, fun _ rest other => ?_, by grind [CoreFd.Aside], by grind, by grind [setCore]⟩
    obtain ⟨endpoint, mem⟩ := exists_mem_of_ne_nil _ rest
    exact absurd (only endpoint (fewer.subset mem) ▸ mem) other

lemma Apart.install (mem : c ∈ s.pending) (running : (s.cores c.core).status = .running)
    (idle : (s.cores c.core).closing = none) (free : s.Free (.install c)) :
    ({ s.setCore c.core ((s.cores c.core).insert c) with
      pending := s.pending.erase c
      mailboxMap := some c.core } : FdRouting κ υ α).Apart := by
  obtain ⟨live, later, stays⟩ := free
  have only := apart.endpoint_live live running idle
  obtain ⟨requests, pending, busy, home, once, aside, _, _, order⟩ := apart.ours c live
  have empty : (s.cores c.core).endpoints = [] := by
    have absent := once mem
    rw [eq_nil_iff_forall_not_mem]
    grind [Installed]
  have inserted : (s.cores c.core).insert c =
      { s.cores c.core with endpoints := [c], endpointUri := some c.uri } := by
    rw [CoreFd.insert, empty]
    rfl
  have cores : ∀ core, update s.cores c.core ((s.cores c.core).insert c) core =
      if core = c.core then { s.cores c.core with endpoints := [c], endpointUri := some c.uri }
      else s.cores core := by
    rw [inserted]
    exact fun core => update_apply ..
  unfold setCore
  obtain ⟨fresh, sound, nodup, held, channel, _, _, uncrossed⟩ := apart
  have fewer : ∀ c', c' ∈ s.pending.erase c → c' ∈ s.pending := fun _ => mem_of_mem_erase
  have known := fresh.pending
  have mailbox := fresh.mailbox
  have endpoints := fresh.endpoints
  have ahead : ∀ core x, s.held = some (core, x) → x ∈ s.heldTo core := fun _ _ => mem_heldTo.mpr
  have streamed : ∀ x, x ∈ s.stream c.core ↔ x ∈ (s.cores c.core).mailbox ∨ x ∈ s.heldTo c.core ∨
      x ∈ s.channel := by grind [stream]
  refine ⟨{ fresh with
      pending := fun c' there => known c' (fewer c' there)
      mailbox := fun core x there => mailbox core x (by grind)
      endpoints := fun core endpoint there => by grind }, fun core => ?_, nodup.erase c,
    fun core x there endpoint => ?_, fun core leads endpoint => ?_, by grind,
    fun c' live' => ?_, uncrossed⟩
  · have before := sound core
    dsimp only
    rw [cores]
    split
    · exact ⟨.inr ⟨c, rfl, rfl⟩, by grind, by grind, by grind, by grind⟩
    · exact before
  · have before := held core x there endpoint
    grind [setCore]
  · grind [setCore]
  · cases live.symm.trans live'
    refine ⟨requests, by grind, by grind, by grind, ?_, fun _ core other => ?_,
      fun _ core x there other => ?_, fun _ => rfl, fun core => ?_⟩
    · exact fun there => absurd there (List.Nodup.not_mem_erase nodup)
    · have before := aside (.inr ⟨mem, running⟩) core other
      grind [setCore]
    · have before := stays core x there other
      grind
    · have before := order core
      grind [stream, heldTo, setCore]

lemma Apart.step {a} (free : s.Free a) (taken : s.step a = some s') : s'.Apart := by
  cases a with
  | register core uri =>
    obtain ⟨vacant, ⟨⟩⟩ := ite_none_right_eq_some.mp taken
    exact apart.register vacant free
  | emit event =>
    dsimp only [FdRouting.step] at taken
    split at taken
    · rename_i c live
      obtain ⟨_, ⟨⟩⟩ := ite_none_left_eq_some.mp taken
      exact apart.emit live
    · cases taken
  | close told =>
    obtain ⟨c, live, rfl⟩ := map_eq_some_iff.mp taken
    exact apart.closeFd live told
  | shutdown c =>
    obtain ⟨mem, taken⟩ := ite_none_right_eq_some.mp taken
    have asked : ({ s with requests := s.requests.erase c } : FdRouting κ υ α).Apart :=
      apart.ask (refl _)
        (fun c' mem => apart.fresh.requests c' (mem_of_mem_erase mem))
        fun c' live c'' mem => (apart.ours c' live).requests c'' (mem_of_mem_erase mem)
    split at taken
    · rename_i c' live
      cases taken
      rw [(apart.ours c' live).requests c mem] at asked ⊢
      rw [touch_eq (Nat.le_refl _)]
      exact asked
    · cases taken
      exact asked
  | lookup =>
    dsimp only [FdRouting.step] at taken
    split at taken
    · rename_i x rest held channel
      cases taken
      exact apart.lookup held channel
    · cases taken
  | forward =>
    dsimp only [FdRouting.step] at taken
    split at taken
    · rename_i core x held
      split at taken
      · rename_i finished
        cases taken
        exact apart.forward_finished held finished
      · cases taken
        exact apart.forward held
    · cases taken
  | install c =>
    obtain ⟨⟨mem, idle⟩, ⟨⟩⟩ := ite_none_right_eq_some.mp taken
    obtain ⟨running, idle⟩ := CoreFd.idle_iff.mp idle
    exact apart.install mem running idle free
  | orphan c =>
    obtain ⟨⟨mem, stopping⟩, ⟨⟩⟩ := ite_none_right_eq_some.mp taken
    have unfinished : (s.cores c.core).status ≠ .finished := by
      rw [stopping]
      decide
    have asked := apart.fresh.requests
    have known := apart.fresh.pending c mem
    refine apart.ask erase_sublist (by grind) fun c' live => ?_
    have mine := (apart.ours c' live).requests
    have ours := (apart.ours c' live).pending c mem unfinished
    grind
  | serve core pick =>
    dsimp only [FdRouting.step] at taken
    split at taken
    · rename_i c event rest mailbox idle
      have first : (c, event) ∈ (s.cores core).mailbox := by
        rw [mailbox]
        exact mem_cons_self
      have served := apart.take mailbox
      have here := s.setCore_self core { s.cores core with mailbox := rest }
      have later : ∀ endpoint ∈ ((s.setCore core { s.cores core with
          mailbox := rest }).cores core).endpoints, endpoint.generation ≤ c.generation := by
        rw [here]
        exact fun endpoint mem => (apart.cores core).mailbox endpoint mem _ first
      split at taken
      · rename_i running
        cases taken
        exact served.process (by rw [here]; exact running) (by rw [here]; exact idle) later event
      · rename_i stopping
        cases taken
        refine served.processStopping (by rw [here]; exact stopping) later ?_ pick
        rw [here]
        intro isError known c' live there
        by_contra other
        have there := (installed_setCore other _).mp there
        have silent := (apart.aside live there other known).silent _ first
        cases silent.symm.trans isError
      · cases taken
    · cases taken
  | finish core pick =>
    dsimp only [FdRouting.step] at taken
    split at taken
    · rename_i uri c closing
      cases taken
      exact apart.finish closing pick
    · cases taken
  | disconnect core uri =>
    obtain ⟨idle, taken⟩ := ite_none_right_eq_some.mp taken
    obtain ⟨endpoint, found, rfl⟩ := map_eq_some_iff.mp taken
    obtain ⟨running, idle⟩ := CoreFd.idle_iff.mp idle
    exact apart.disconnect running idle (mem_of_find?_eq_some found)
  | stop core =>
    obtain ⟨idle, ⟨⟩⟩ := ite_none_right_eq_some.mp taken
    obtain ⟨running, idle⟩ := CoreFd.idle_iff.mp idle
    exact apart.stop running idle
  | clean core =>
    obtain ⟨⟨stopping, done⟩, ⟨⟩⟩ := ite_none_right_eq_some.mp taken
    exact apart.clean stopping done
  | displace core uri =>
    obtain ⟨idle, ⟨⟩⟩ := ite_none_right_eq_some.mp taken
    obtain ⟨running, idle⟩ := CoreFd.idle_iff.mp idle
    exact apart.displace running idle uri

end

end FdRouting

end Rzmq
