import Rzmq.Uring.RoutingApart

/-! What becomes of the events of a live connection.  They pass the upstream channel, the processor
and the mailbox of the core; on the way they are dropped if the number is not in the map, or if the
core has no endpoint for it, and for no other reason. -/

namespace Rzmq

open List Option Function Transition FdRouting

section Events

variable {κ υ α : Type} [DecidableEq κ] [DecidableEq υ]

def eventsOf (c : FdConnection κ υ) (xs : List (FdConnection κ υ × UpstreamEvent α)) :
    List (UpstreamEvent α) :=
  (xs.filter fun x => x.1 = c ∧ x.2.isError = false).map (·.2)

def toldOf (c : FdConnection κ υ)
    (xs : List (FdConnection κ υ × FdConnection κ υ × UpstreamEvent α)) : List (UpstreamEvent α) :=
  eventsOf c ((xs.filter (·.1 = c)).map (·.2))

variable {c : FdConnection κ υ} {xs ys : List (FdConnection κ υ × UpstreamEvent α)}

@[simp] lemma eventsOf_append (xs ys : List (FdConnection κ υ × UpstreamEvent α)) :
    eventsOf c (xs ++ ys) = eventsOf c xs ++ eventsOf c ys := by
  simp [eventsOf]

lemma eventsOf_cons (x : FdConnection κ υ × UpstreamEvent α) :
    eventsOf c (x :: xs) = eventsOf c [x] ++ eventsOf c xs :=
  eventsOf_append [x] xs

lemma eventsOf_none (other : ∀ x ∈ xs, ¬ (x.1 = c ∧ x.2.isError = false)) :
    eventsOf c xs = [] := by
  rw [eventsOf, filter_eq_nil_iff.mpr fun x mem => ?_, map_nil]
  simpa only [decide_eq_true_eq] using other x mem

lemma toldOf_append {xs ys : List (FdConnection κ υ × FdConnection κ υ × UpstreamEvent α)} :
    toldOf c (xs ++ ys) = toldOf c xs ++ toldOf c ys := by
  rw [toldOf, filter_append, map_append, eventsOf_append]
  rfl

lemma toldOf_none {xs : List (FdConnection κ υ × FdConnection κ υ × UpstreamEvent α)}
    (other : ∀ x ∈ xs, x.1 = c → ¬ (x.2.1 = c ∧ x.2.2.isError = false)) : toldOf c xs = [] := by
  refine eventsOf_none fun x mem => ?_
  obtain ⟨y, told, rfl⟩ := mem_map.mp mem
  obtain ⟨mem, same⟩ := mem_filter.mp told
  exact other y mem (of_decide_eq_true same)

lemma eventsOf_single {event : UpstreamEvent α} (data : event.isError = false) :
    eventsOf c [(c, event)] = [event] := by
  simp [eventsOf, data]

end Events

namespace FdRouting

variable {κ υ α : Type}

structure Dated (s : FdRouting κ υ α) : Prop where
  emitted : ∀ x ∈ s.emitted, x.1.generation < s.opened
  told : ∀ x ∈ s.told, x.2.1.generation < s.opened
  channel : ∀ x ∈ s.channel, x.1.generation < s.opened
  held : ∀ core x, s.held = some (core, x) → x.1.generation < s.opened
  mailbox : ∀ core, ∀ x ∈ (s.cores core).mailbox, x.1.generation < s.opened
  home : ∀ core, ∀ c ∈ (s.cores core).endpoints, c.core = core
  live : ∀ c, s.live = some c → c.generation < s.opened

structure Steady (s s' : FdRouting κ υ α) : Prop where
  live : s'.live = s.live
  opened : s'.opened = s.opened
  channel : s'.channel = s.channel
  held : s'.held = s.held
  emitted : s'.emitted = s.emitted
  running : ∀ core, (s'.cores core).status = .running → (s.cores core).status = .running
  finished : ∀ core, (s.cores core).status = .finished → (s'.cores core).status = .finished
  mailbox : ∀ core, (s'.cores core).mailbox = (s.cores core).mailbox ∨
    ((s'.cores core).mailbox = [] ∧ (s'.cores core).status = .finished)
  endpoints : ∀ core, ∀ c ∈ (s'.cores core).endpoints, c ∈ (s.cores core).endpoints ∨ c.core = core

variable {s s' s'' : FdRouting κ υ α} {core : κ} {c c' : FdConnection κ υ}
  {event : UpstreamEvent α} {x : FdConnection κ υ × UpstreamEvent α}
  {rest : List (FdConnection κ υ × UpstreamEvent α)}

lemma Steady.refl : Steady s s :=
  ⟨rfl, rfl, rfl, rfl, rfl, fun _ => id, fun _ => id, fun _ => .inl rfl, fun _ _ => .inl⟩

lemma Steady.trans (first : Steady s s') (second : Steady s' s'') : Steady s s'' := by
  obtain ⟨_, _, _, _, _, running, finished, mailbox, endpoints⟩ := first
  obtain ⟨_, _, _, _, _, running', finished', mailbox', endpoints'⟩ := second
  constructor <;> grind

lemma Dated.steady (dated : s.Dated) (steady : Steady s s')
    (told : ∀ x ∈ s'.told, x.2.1.generation < s.opened) : s'.Dated := by
  obtain ⟨emitted, _, channel, held, mailbox, home, live⟩ := dated
  obtain ⟨_, _, _, _, _, _, _, mailbox', endpoints⟩ := steady
  constructor <;> grind

lemma start_dated : (start : FdRouting κ υ α).Dated :=
  ⟨nofun, nofun, nofun, nofun, fun _ => nofun, fun _ => nofun, nofun⟩

variable [DecidableEq κ]

lemma steady_setCore (core : κ) {u}
    (running : u.status = .running → (s.cores core).status = .running)
    (finished : (s.cores core).status = .finished → u.status = .finished)
    (mailbox : u.mailbox = (s.cores core).mailbox ∨ (u.mailbox = [] ∧ u.status = .finished))
    (endpoints : ∀ c ∈ u.endpoints, c ∈ (s.cores core).endpoints ∨ c.core = core) :
    Steady s (s.setCore core u) := by
  have cores : ∀ core', (s.setCore core u).cores core' =
      if core' = core then u else s.cores core' :=
    fun core' => update_apply ..
  exact ⟨rfl, rfl, rfl, rfl, rfl, by grind, by grind, by grind, by grind⟩

lemma Dated.setMailbox {mailbox} (dated : s.Dated)
    (older : ∀ x ∈ mailbox, x.1.generation < s.opened) :
    (s.setCore core { s.cores core with mailbox }).Dated := by
  have cores : ∀ core', (s.setCore core { s.cores core with mailbox }).cores core' =
      if core' = core then { s.cores core with mailbox } else s.cores core' :=
    fun core' => update_apply ..
  have before := dated.mailbox
  have home := dated.home
  exact { dated with mailbox := by grind [setCore], home := by grind }

lemma Dated.post (dated : s.Dated) (older : x.1.generation < s.opened) : (s.post core x).Dated := by
  have before := dated.mailbox core
  exact dated.setMailbox (by grind)

lemma Dated.take (dated : s.Dated) (mailbox : (s.cores core).mailbox = x :: rest) :
    (s.setCore core { s.cores core with mailbox := rest }).Dated := by
  have before := dated.mailbox core
  exact dated.setMailbox (by grind)

lemma Steady.stream (steady : Steady s s')
    (running : (s'.cores core).status = .running) : s'.stream core = s.stream core := by
  unfold FdRouting.stream heldTo
  rw [steady.held, steady.channel]
  rcases steady.mailbox core with same | ⟨_, finished⟩
  · rw [same]
  · cases running.symm.trans finished

lemma stream_setCore {core' : κ} (u) (other : core' ≠ core) :
    (s.setCore core u).stream core' = s.stream core' := by
  unfold stream heldTo
  dsimp only [setCore]
  rw [update_of_ne other]

variable [DecidableEq υ]

lemma cleanup_steady (core : κ) (c) (uri : Option υ) (pick : Nat) :
    Steady s (s.cleanup core c uri pick) ∧ (s.cleanup core c uri pick).told = s.told := by
  unfold cleanup
  split
  · exact ⟨.refl, rfl⟩
  · refine ⟨{ steady_setCore core (u := { s.cores core with endpoints := _, endpointUri := none })
      id id (.inl rfl) fun c mem => ?_ with }, rfl⟩
    exact .inl (mem_filter.mp mem).1

def delivery (s : FdRouting κ υ α) (core : κ) (c : FdConnection κ υ) (event : UpstreamEvent α) :
    List (FdConnection κ υ × FdConnection κ υ × UpstreamEvent α) :=
  if event.isError then [] else (s.cores core).lookup.toList.map (·, c, event)

lemma process_steady (core : κ) (c event) :
    Steady s (s.process core c event) ∧
      (s.process core c event).told = s.told ++ s.delivery core c event := by
  cases event with
  | handshakeComplete | data =>
    unfold process delivery
    cases (s.cores core).lookup with
    | none => exact ⟨.refl, (append_nil _).symm⟩
    | some endpoint => exact ⟨{ (Steady.refl : Steady s s) with }, rfl⟩
  | error f =>
    have quiet : s.delivery core c (.error f) = [] := if_pos rfl
    rw [quiet, append_nil]
    dsimp only [process]
    split
    · exact ⟨.refl, rfl⟩
    · have closing : ∀ uri, Steady s
          (s.setCore core { s.cores core with closing := some (uri, c) }) := fun uri =>
        steady_setCore core id id (.inl rfl) fun _ => .inl
      split
      · exact ⟨{ closing _ with }, rfl⟩
      · exact ⟨closing _, rfl⟩

lemma process_data (core : κ) (c) (data : event.isError = false) :
    ∃ told crossed, s.process core c event = { s with told, crossed } := by
  cases event with
  | error => cases data
  | handshakeComplete | data =>
    dsimp only [process]
    split
    · exact ⟨_, _, rfl⟩
    · exact ⟨s.told, s.crossed, rfl⟩

lemma processStopping_steady (core : κ) (c event)
    (pick : Nat) :
    Steady s (s.processStopping core c event pick) ∧
      (s.processStopping core c event pick).told = s.told := by
  unfold processStopping
  split
  · obtain ⟨cleaned, told⟩ := cleanup_steady (s := s) core c (s.cores core).endpointUri pick
    exact ⟨cleaned.trans (steady_setCore core id id (.inl rfl) fun _ => .inl), told⟩
  · exact ⟨.refl, rfl⟩

def Moves : RoutingAction κ υ α → Prop
  | .register .. | .emit _ | .close _ | .lookup | .forward | .serve .. => True
  | _ => False

lemma steady_of_step {a} (taken : s.step a = some s') (still : ¬ Moves a) :
    Steady s s' ∧ s'.told = s.told := by
  cases a with
  | register | emit | close | lookup | forward | serve => exact absurd trivial still
  | shutdown c =>
    obtain ⟨_, taken⟩ := ite_none_right_eq_some.mp taken
    split at taken
    all_goals
      cases taken
      exact ⟨{ (Steady.refl : Steady s s) with }, rfl⟩
  | install c =>
    obtain ⟨_, ⟨⟩⟩ := ite_none_right_eq_some.mp taken
    refine ⟨{ steady_setCore (s := s) c.core (u := (s.cores c.core).insert c)
      id id (.inl rfl) fun c' mem => ?_ with }, rfl⟩
    grind [CoreFd.insert]
  | orphan c =>
    obtain ⟨_, ⟨⟩⟩ := ite_none_right_eq_some.mp taken
    exact ⟨{ (Steady.refl : Steady s s) with }, rfl⟩
  | finish core pick =>
    dsimp only [step] at taken
    split at taken
    · rename_i uri c closing
      cases taken
      have closed : Steady s (s.setCore core { s.cores core with closing := none }) :=
        steady_setCore core id id (.inl rfl) fun _ => .inl
      obtain ⟨cleaned, told⟩ := cleanup_steady
        (s := s.setCore core { s.cores core with closing := none }) core c (some uri) pick
      exact ⟨closed.trans cleaned, told⟩
    · cases taken
  | disconnect core uri =>
    obtain ⟨_, taken⟩ := ite_none_right_eq_some.mp taken
    obtain ⟨endpoint, _, rfl⟩ := map_eq_some_iff.mp taken
    exact ⟨{ (Steady.refl : Steady s s) with }, rfl⟩
  | stop core =>
    obtain ⟨idle, ⟨⟩⟩ := ite_none_right_eq_some.mp taken
    have running := (CoreFd.idle_iff.mp idle).1
    exact ⟨{ steady_setCore (s := s) core
      (u := { s.cores core with status := .stopping, pendingClose := _ })
      (by simp) (fun finished => by cases running.symm.trans finished) (.inl rfl)
      fun _ => .inl with }, rfl⟩
  | clean core =>
    obtain ⟨_, ⟨⟩⟩ := ite_none_right_eq_some.mp taken
    exact ⟨{ steady_setCore (s := s) core (u := { CoreFd.new with status := .finished })
      (by simp) (fun _ => rfl) (.inr ⟨rfl, rfl⟩) (fun _ mem => by cases mem) with }, rfl⟩
  | displace core uri =>
    obtain ⟨_, ⟨⟩⟩ := ite_none_right_eq_some.mp taken
    exact ⟨steady_setCore core id id (.inl rfl) fun c mem => .inl (mem_filter.mp mem).1, rfl⟩

/-! ### One step -/

def Delivered (s : FdRouting κ υ α) (c : FdConnection κ υ) : Prop :=
  eventsOf c s.emitted = toldOf c s.told ++ eventsOf c (s.stream c.core)

lemma Delivered.steady (delivered : s.Delivered c) (steady : Steady s s')
    (told : s'.told = s.told) (running : (s'.cores c.core).status = .running) :
    s'.Delivered c := by
  rw [Delivered, steady.emitted, told, steady.stream running]
  exact delivered

lemma Dated.delivered (dated : s.Dated) (new : c.generation = s.opened) : s.Delivered c := by
  obtain ⟨emitted, told, channel, held, mailbox, _, _⟩ := dated
  have streamed : ∀ x ∈ s.stream c.core, x.1.generation < s.opened := fun x mem => by
    rcases mem_append.mp mem with mem | mem
    · rcases mem_append.mp mem with mem | mem
      · exact mailbox c.core x mem
      · exact held c.core x (mem_heldTo.mp mem)
    · exact channel x mem
  rw [Delivered, eventsOf_none (by grind), toldOf_none (by grind), eventsOf_none (by grind),
    append_nil]

lemma Delivered.emit {failed : Bool} (delivered : s.Delivered c) : ({ s with
      failed
      channel := s.channel ++ [(c', event)]
      emitted := s.emitted ++ [(c', event)] } : FdRouting κ υ α).Delivered c := by
  unfold Delivered stream heldTo at delivered ⊢
  dsimp only
  rw [eventsOf_append, delivered, ← append_assoc _ s.channel]
  rw [eventsOf_append (_ ++ s.channel), append_assoc]

lemma Delivered.lookup (delivered : s.Delivered c) (unheld : s.held = none)
    (channel : s.channel = x :: rest)
    (leads : x.1 = c ∧ x.2.isError = false → s.mailboxMap = some c.core) :
    ({ s with
      channel := rest
      held := s.mailboxMap.map (·, x) } : FdRouting κ υ α).Delivered c := by
  unfold Delivered stream at delivered ⊢
  have none : s.heldTo c.core = [] := by rw [heldTo, unheld]
  rw [none, channel, eventsOf_append, eventsOf_append, eventsOf_cons] at delivered
  dsimp only
  rw [delivered, eventsOf_append, eventsOf_append]
  congr 1
  by_cases mine : x.1 = c ∧ x.2.isError = false
  · have held : ({ s with channel := rest, held := s.mailboxMap.map (·, x) } :
        FdRouting κ υ α).heldTo c.core = [x] := by
      rw [heldTo, leads mine]
      exact if_pos rfl
    rw [held, append_assoc, append_assoc]
    rfl
  · have dropped : eventsOf c (({ s with channel := rest, held := s.mailboxMap.map (·, x) } :
        FdRouting κ υ α).heldTo c.core) = [] := eventsOf_none fun y mem => by
      obtain ⟨core, _, eq⟩ := map_eq_some_iff.mp (mem_heldTo.mp mem)
      rw [← (Prod.mk.inj eq).2]
      exact mine
    have single : eventsOf c [x] = [] := eventsOf_none fun y mem => by
      rw [mem_singleton.mp mem]
      exact mine
    rw [dropped, single]
    rfl

lemma Delivered.forward (delivered : s.Delivered c) (held : s.held = some (core, x)) :
    ({ s with held := none }.post core x : FdRouting κ υ α).Delivered c := by
  have same : ({ s with held := none }.post core x : FdRouting κ υ α).stream c.core =
      s.stream c.core := by
    unfold stream heldTo
    rw [held]
    dsimp only [post, setCore]
    rcases eq_or_ne c.core core with eq | other
    · rw [← eq, update_self, if_pos rfl, append_nil]
    · rw [update_of_ne other, if_neg (Ne.symm other)]
  rw [Delivered, same]
  exact delivered

omit [DecidableEq κ] in
lemma mem_delivery {x} (mem : x ∈ s.delivery core c event) :
    (s.cores core).lookup = some x.1 ∧ x.2 = (c, event) := by
  unfold delivery at mem
  split at mem
  · cases mem
  · obtain ⟨endpoint, found, rfl⟩ := mem_map.mp mem
    exact ⟨mem_toList.mp found, rfl⟩

lemma Delivered.drop (delivered : s.Delivered c) (held : s.held = some (core, x))
    (other : core ≠ c.core) :
    ({ s with held := none, mailboxMap := none } : FdRouting κ υ α).Delivered c := by
  unfold Delivered stream at delivered ⊢
  have none : s.heldTo c.core = [] := by
    rw [heldTo, held]
    exact if_neg other
  rwa [none] at delivered

lemma Delivered.serve (dated : s.Dated) (delivered : s.Delivered c)
    (mailbox : (s.cores core).mailbox = (c', event) :: rest)
    (found : c' = c → event.isError = false → core = c.core → (s.cores core).lookup = some c) :
    eventsOf c s.emitted = toldOf c (s.told ++ s.delivery core c' event) ++
      eventsOf c ((s.setCore core { s.cores core with mailbox := rest }).stream c.core) := by
  rw [toldOf_append]
  rcases eq_or_ne c.core core with rfl | other
  · have taken : (s.setCore c.core { s.cores c.core with mailbox := rest }).stream c.core =
        rest ++ (s.heldTo c.core ++ s.channel) := by
      unfold stream
      dsimp only [setCore]
      rw [update_self, append_assoc]
      rfl
    have before : s.stream c.core = (c', event) :: (rest ++ (s.heldTo c.core ++ s.channel)) := by
      rw [stream, mailbox, append_assoc, cons_append]
    rw [Delivered, before, eventsOf_cons] at delivered
    rw [taken, delivered, append_assoc]
    congr 2
    by_cases mine : c' = c ∧ event.isError = false
    · obtain ⟨rfl, data⟩ := mine
      have told : s.delivery c'.core c' event = [(c', c', event)] := by
        rw [delivery, data, found rfl data rfl]
        rfl
      rw [told, toldOf]
      simp
    · rw [eventsOf_none fun y mem => (by rw [mem_singleton.mp mem]; exact mine),
        toldOf_none fun y mem _ => (by rw [(mem_delivery mem).2]; exact mine)]
  · have told : toldOf c (s.delivery core c' event) = [] := toldOf_none fun y mem same => by
      obtain ⟨uri, _, endpoint⟩ := bind_eq_some_iff.mp (mem_delivery mem).1
      have home := dated.home core y.1 (mem_of_find?_eq_some endpoint)
      rw [same] at home
      exact absurd home other
    rw [stream_setCore _ other, told, append_nil]
    exact delivered

lemma Dated.step {a} (dated : s.Dated) (taken : s.step a = some s') :
    s'.Dated := by
  cases a with
  | register core uri =>
    obtain ⟨_, ⟨⟩⟩ := ite_none_right_eq_some.mp taken
    obtain ⟨emitted, told, channel, held, mailbox, home, _⟩ := dated
    constructor <;> grind
  | emit event =>
    dsimp only [FdRouting.step] at taken
    split at taken
    · rename_i c live
      obtain ⟨_, ⟨⟩⟩ := ite_none_left_eq_some.mp taken
      have older := dated.live c live
      have emitted := dated.emitted
      have channel := dated.channel
      exact { dated with emitted := by grind, channel := by grind }
    · cases taken
  | close told =>
    obtain ⟨c, live, rfl⟩ := map_eq_some_iff.mp taken
    unfold closeFd
    split
    · rename_i core _
      dsimp only
      split
      · have posted : (s.post core (c, .error (.error .connectionClosed))).Dated :=
          dated.post (dated.live c live)
        exact { posted with live := nofun }
      · exact { dated with live := nofun }
    · exact { dated with live := nofun }
  | lookup =>
    dsimp only [FdRouting.step] at taken
    split at taken
    · rename_i x rest held channel
      cases taken
      have older := dated.channel
      exact { dated with channel := by grind, held := by grind [map_eq_some_iff] }
    · cases taken
  | forward =>
    dsimp only [FdRouting.step] at taken
    split at taken
    · rename_i core x held
      have sent : ({ s with held := none } : FdRouting κ υ α).Dated := { dated with held := nofun }
      split at taken
      · cases taken
        exact { sent with }
      · cases taken
        exact sent.post (dated.held core x held)
    · cases taken
  | serve core pick =>
    dsimp only [FdRouting.step] at taken
    split at taken
    · rename_i c event rest mailbox idle
      have older := dated.mailbox core (c, event) (by rw [mailbox]; exact mem_cons_self)
      have served := dated.take mailbox
      split at taken
      · cases taken
        obtain ⟨steady, told⟩ := process_steady
          (s := s.setCore core { s.cores core with mailbox := rest }) core c event
        refine served.steady steady fun x mem => ?_
        rw [told] at mem
        rcases mem_append.mp mem with mem | mem
        · exact dated.told x mem
        · exact (mem_delivery mem).2 ▸ older
      · cases taken
        obtain ⟨steady, told⟩ := processStopping_steady
          (s := s.setCore core { s.cores core with mailbox := rest }) core c event pick
        exact served.steady steady (by rw [told]; exact dated.told)
      · cases taken
    · cases taken
  | shutdown | install | orphan | finish | disconnect | stop | clean | displace =>
    obtain ⟨steady, told⟩ := steady_of_step taken id
    exact dated.steady steady (by rw [told]; exact dated.told)

end FdRouting

/-- The routing of a number, with the connections that were ever asked to be closed. -/
structure WatchedRouting (κ υ α : Type) where
  routing : FdRouting κ υ α
  asked : List (FdConnection κ υ)

namespace WatchedRouting

variable {κ υ α : Type}

def start : WatchedRouting κ υ α := ⟨.start, []⟩

/-- The event is to be told to the socket logic: its connection is live and is not being closed, and
neither is its core. -/
def Due (w : WatchedRouting κ υ α) (c : FdConnection κ υ) (event : UpstreamEvent α) : Prop :=
  w.routing.live = some c ∧ c ∉ w.asked ∧ (w.routing.cores c.core).status = .running ∧
    event.isError = false

variable [DecidableEq κ] [DecidableEq υ] (w : WatchedRouting κ υ α)

def step (a : RoutingAction κ υ α) : Option (WatchedRouting κ υ α) :=
  (w.routing.step a).map fun s => ⟨s, w.asked ++ s.requests⟩

def Kept : Prop :=
  ∀ c, w.routing.live = some c → c ∉ w.asked → (w.routing.cores c.core).status = .running →
    w.routing.Delivered c

/-- An event that is due is taken from the channel when the number leads to the core, and from the
mailbox when the core has the endpoint. -/
def Ready : RoutingAction κ υ α → Prop
  | .lookup => ∀ c event, w.routing.channel.head? = some (c, event) → w.Due c event →
    w.routing.mailboxMap = some c.core
  | .serve core _ => ∀ c event, (w.routing.cores core).mailbox.head? = some (c, event) →
    w.Due c event → core = c.core → (w.routing.cores core).lookup = some c
  | _ => True

structure Watched : Prop where
  dated : w.routing.Dated
  asked : ∀ c ∈ w.routing.requests, c ∈ w.asked
  kept : w.Kept

variable {w : WatchedRouting κ υ α} {s : FdRouting κ υ α}

lemma Watched.kept_step {a} (watched : w.Watched) (ready : w.Ready a)
    (taken : w.routing.step a = some s) : Kept ⟨s, w.asked ++ s.requests⟩ := by
  intro c live never running
  have unasked : c ∉ w.asked := fun mem => never (mem_append_left _ mem)
  cases a with
  | register core uri =>
    obtain ⟨_, ⟨⟩⟩ := ite_none_right_eq_some.mp taken
    cases live
    exact watched.dated.delivered rfl
  | emit event =>
    dsimp only [FdRouting.step] at taken
    split at taken
    · rename_i c' live'
      obtain ⟨_, ⟨⟩⟩ := ite_none_left_eq_some.mp taken
      exact (watched.kept c live unasked running).emit
    · cases taken
  | close told =>
    obtain ⟨c', live', rfl⟩ := map_eq_some_iff.mp taken
    unfold closeFd at live
    split at live <;> cases live
  | lookup =>
    dsimp only [FdRouting.step] at taken
    split at taken
    · rename_i x rest held channel
      cases taken
      refine (watched.kept c live unasked running).lookup held channel ?_
      rintro ⟨rfl, data⟩
      exact ready x.1 x.2 (by rw [channel]; rfl) ⟨live, unasked, running, data⟩
    · cases taken
  | forward =>
    dsimp only [FdRouting.step] at taken
    split at taken
    · rename_i core x held
      split at taken
      · rename_i finished
        cases taken
        refine (watched.kept c live unasked running).drop held ?_
        rintro rfl
        cases finished.symm.trans running
      · cases taken
        refine (watched.kept c live unasked ?_).forward held
        dsimp only [post, setCore] at running
        rcases eq_or_ne c.core core with eq | other
        · rwa [eq, update_self, ← eq] at running
        · rwa [update_of_ne other] at running
    · cases taken
  | serve core pick =>
    dsimp only [FdRouting.step] at taken
    split at taken
    · rename_i c' event rest mailbox idle
      have status : ((w.routing.setCore core { w.routing.cores core with
          mailbox := rest }).cores c.core).status = (w.routing.cores c.core).status := by
        dsimp only [setCore]
        rcases eq_or_ne c.core core with eq | other
        · rw [eq, update_self]
        · rw [update_of_ne other]
      split at taken
      · cases taken
        obtain ⟨steady, told⟩ := process_steady (s := w.routing.setCore core
          { w.routing.cores core with mailbox := rest }) core c' event
        have running' := (status.symm.trans (steady.running c.core running))
        have live' : w.routing.live = some c := steady.live.symm.trans live
        have same : (w.routing.setCore core { w.routing.cores core with
            mailbox := rest }).delivery core c' event = w.routing.delivery core c' event := by
          dsimp only [delivery, setCore]
          rw [update_self]
          rfl
        rw [same] at told
        rw [Delivered, steady.emitted, told, steady.stream running]
        refine (watched.kept c live' unasked running').serve watched.dated mailbox ?_
        rintro rfl data eq
        exact ready c' event (by rw [mailbox]; rfl) ⟨live', unasked, running', data⟩ eq
      · rename_i stopping
        cases taken
        obtain ⟨steady, told⟩ := processStopping_steady (s := w.routing.setCore core
          { w.routing.cores core with mailbox := rest }) core c' event pick
        have running' := (status.symm.trans (steady.running c.core running))
        have other : c.core ≠ core := by
          rintro rfl
          cases stopping.symm.trans running'
        have kept := watched.kept c (steady.live.symm.trans live) unasked running'
        rw [Delivered, steady.emitted, told, steady.stream running,
          stream_setCore _ other]
        exact kept
      · cases taken
    · cases taken
  | shutdown | install | orphan | finish | disconnect | stop | clean | displace =>
    obtain ⟨steady, told⟩ := steady_of_step taken id
    have kept := watched.kept c (steady.live.symm.trans live) unasked
      (steady.running c.core running)
    exact kept.steady steady told running

lemma Watched.step {w' a} (watched : w.Watched)
    (ready : w.Ready a) (taken : w.step a = some w') : w'.Watched := by
  obtain ⟨s, moved, rfl⟩ := map_eq_some_iff.mp taken
  exact ⟨watched.dated.step moved, fun c mem => mem_append_right _ mem,
    watched.kept_step ready moved⟩

lemma start_watched : (start : WatchedRouting κ υ α).Watched :=
  ⟨start_dated, nofun, nofun⟩

lemma not_kept {c event}
    (before after) (due : w.Due c event) (kept : w.routing.Delivered c)
    (asked : ∀ c ∈ s.requests, c ∈ w.asked) (live : s.live = w.routing.live)
    (running : (s.cores c.core).status = .running) (emitted : s.emitted = w.routing.emitted)
    (told : toldOf c s.told = toldOf c w.routing.told)
    (flight : eventsOf c (w.routing.stream c.core) = before ++ event :: after)
    (lost : eventsOf c (s.stream c.core) = before ++ after) :
    ¬ Kept ⟨s, w.asked ++ s.requests⟩ := by
  intro still
  have now := still c (live.trans due.1) (fun mem => ?_) running
  · rw [Delivered, emitted, kept, told, flight, lost] at now
    have lengths := congrArg length now
    simp only [length_append, length_cons] at lengths
    omega
  · rcases mem_append.mp mem with mem | mem
    · exact due.2.1 mem
    · exact due.2.1 (asked c mem)

lemma Watched.lost_lookup (watched : w.Watched) (early : ¬ w.Ready .lookup)
    (taken : w.routing.step .lookup = some s) : ¬ Kept ⟨s, w.asked ++ s.requests⟩ := by
  obtain ⟨c, left⟩ := not_forall.mp early
  obtain ⟨event, left⟩ := not_forall.mp left
  obtain ⟨first, left⟩ := Classical.not_imp.mp left
  obtain ⟨due, unmapped⟩ := Classical.not_imp.mp left
  have kept := watched.kept c due.1 due.2.1 due.2.2.1
  dsimp only [FdRouting.step] at taken
  split at taken
  · rename_i x rest held channel
    cases taken
    rw [channel, head?_cons, some.injEq] at first
    rw [first] at channel
    have unheld : w.routing.heldTo c.core = [] := by rw [heldTo, held]
    refine not_kept (eventsOf c (w.routing.cores c.core).mailbox) (eventsOf c rest) due kept
      watched.asked rfl due.2.2.1 rfl rfl ?_ ?_
    · rw [stream, unheld, append_nil, eventsOf_append, channel, eventsOf_cons,
        eventsOf_single due.2.2.2]
      rfl
    · have astray : (({ w.routing with
          channel := rest
          held := w.routing.mailboxMap.map (·, x) } : FdRouting κ υ α).heldTo c.core) = [] := by
        rw [eq_nil_iff_forall_not_mem]
        intro y mem
        obtain ⟨core, leads, eq⟩ := map_eq_some_iff.mp (mem_heldTo.mp mem)
        rw [(Prod.mk.inj eq).1] at leads
        exact unmapped leads
      rw [stream, astray, append_nil, eventsOf_append]
  · cases taken

lemma Watched.lost_serve {core : κ} {pick : Nat} (watched : w.Watched)
    (early : ¬ w.Ready (.serve core pick)) (taken : w.routing.step (.serve core pick) = some s) :
    ¬ Kept ⟨s, w.asked ++ s.requests⟩ := by
  obtain ⟨c, left⟩ := not_forall.mp early
  obtain ⟨event, left⟩ := not_forall.mp left
  obtain ⟨first, left⟩ := Classical.not_imp.mp left
  obtain ⟨due, left⟩ := Classical.not_imp.mp left
  obtain ⟨rfl, unknown⟩ := Classical.not_imp.mp left
  have kept := watched.kept c due.1 due.2.1 due.2.2.1
  have running := due.2.2.1
  dsimp only [FdRouting.step] at taken
  split at taken
  · rename_i c' event' rest mailbox idle
    rw [mailbox, head?_cons, some.injEq] at first
    obtain ⟨rfl, rfl⟩ := Prod.mk.inj first
    split at taken
    case h_2 stopping => cases running.symm.trans stopping
    case h_3 => cases taken
    cases taken
    obtain ⟨told, crossed, eq⟩ := process_data (s := w.routing.setCore c'.core
      { w.routing.cores c'.core with mailbox := rest }) c'.core c' due.2.2.2
    have record := (process_steady (s := w.routing.setCore c'.core
      { w.routing.cores c'.core with mailbox := rest }) c'.core c' event').2
    rw [eq] at record ⊢
    refine not_kept [] (eventsOf c' (rest ++ w.routing.heldTo c'.core ++ w.routing.channel)) due
      kept watched.asked rfl ?_ rfl ?_ ?_ ?_
    · dsimp only [setCore]
      rw [update_self]
      exact running
    · have nothing : toldOf c' ((w.routing.setCore c'.core { w.routing.cores c'.core with
          mailbox := rest }).delivery c'.core c' event') = [] := toldOf_none fun x mem same => by
        have found := (mem_delivery mem).1
        dsimp only [setCore] at found
        rw [update_self, same] at found
        exact absurd found unknown
      dsimp only at record ⊢
      rw [record, toldOf_append, nothing, append_nil]
      rfl
    · rw [stream, mailbox, cons_append, cons_append, eventsOf_cons,
        eventsOf_single due.2.2.2]
      rfl
    · rw [stream]
      dsimp only [setCore]
      rw [update_self]
      rfl
  · cases taken

/-- Every event of a live connection that nobody has asked to close is told to its socket logic in
order, or is on its way, as long as the events are taken when the map and the core know the
connection; otherwise the event that is taken is lost. -/
theorem events_kept : (∀ w : WatchedRouting κ υ α, Reaches step Ready start w → w.Kept) ∧
      ∀ (w : WatchedRouting κ υ α) a w', Reaches step Ready start w → w.step a = some w' →
        ¬ w.Ready a → ¬ w'.Kept := by
  have watched : ∀ w : WatchedRouting κ υ α, Reaches step Ready start w → w.Watched :=
    fun w reached =>
      Reaches.invariant (fun _ _ _ watched ready taken => watched.step ready taken) reached
        start_watched
  refine ⟨fun w reached => (watched w reached).kept, fun w a w' reached taken early => ?_⟩
  obtain ⟨s, moved, rfl⟩ := map_eq_some_iff.mp taken
  cases a with
  | lookup => exact (watched w reached).lost_lookup early moved
  | serve core pick => exact (watched w reached).lost_serve early moved
  | register | emit | close | forward | shutdown | install | orphan | finish | disconnect | stop
  | clean | displace => exact absurd trivial early

/-- The peer is quick: the handshake is over and a message is there before the core knows of the
connection. -/
def quickPeer : List (RoutingAction Unit Nat Nat) :=
  [.register () 0, .emit (.handshakeComplete none), .lookup,
    .emit (.data ⟨some [1], .empty, by decide⟩), .lookup, .install ⟨0, (), 0⟩]

/-- The connection is installed, and the socket logic never hears of the handshake or the message.
-/
theorem quick_peer_unheard :
    ∃ w : WatchedRouting Unit Nat Nat, Reaches step (fun _ _ => True) start w ∧
      w.routing.live = some ⟨0, (), 0⟩ ∧ w.routing.Installed ⟨0, (), 0⟩ ∧ ¬ w.Kept := by
  have ran : (run step start quickPeer).map (fun w => (w.routing.live, w.asked,
      (w.routing.cores ()).status, (w.routing.cores ()).endpoints,
      (eventsOf ⟨0, (), 0⟩ w.routing.emitted).length,
      (toldOf ⟨0, (), 0⟩ w.routing.told ++ eventsOf ⟨0, (), 0⟩ (w.routing.stream ())).length)) =
      some (some ⟨0, (), 0⟩, [], .running, [⟨0, (), 0⟩], 2, 0) := by
    rfl
  obtain ⟨w, ran, found⟩ := map_eq_some_iff.mp ran
  simp only [Prod.mk.injEq] at found
  obtain ⟨live, asked, running, endpoints, emitted, left⟩ := found
  refine ⟨w, reaches_of_run _ (fun _ _ _ => trivial) ran, live, ?_, fun kept => ?_⟩
  · rw [Installed, endpoints]
    exact mem_singleton_self _
  · have all := congrArg length (kept _ live (by rw [asked]; exact not_mem_nil) running)
    rw [emitted, left] at all
    cases all

end WatchedRouting

end Rzmq
