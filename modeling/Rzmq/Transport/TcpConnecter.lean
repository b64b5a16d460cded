import Mathlib.Algebra.Order.Group.Nat
import Rzmq.Lib.Transition

/-! The retries of a TCP endpoint.  `TcpConnecter` doubles its own delay while it lives, the core
takes one from `ReconnectState` when a connection or a connecter is lost, and a connecter spawned
later inherits the core's count of attempts.  Durations are nanoseconds. -/

namespace Rzmq

open List Option Nat Transition

/-- `Duration::MAX`. -/
def durationMax : Nat := (2 ^ 64 - 1) * 10 ^ 9 + 999999999

/-- The last `Instant`, whose seconds are an `i64`. -/
def instantMax : Nat := (2 ^ 63 - 1) * 10 ^ 9 + 999999999

structure ReconnectOptions where
  ivl : Nat
  ivlMax : Option Nat
  ivl_le : ivl ≤ durationMax
  ivlMax_le : ∀ m ∈ ivlMax, m ≤ durationMax

namespace ReconnectOptions

/-- `(delay * 2).min(max)`, where the product panics if it is no `Duration`. -/
def double (m d : Nat) : Option Nat := if d * 2 ≤ durationMax then some (min (d * 2) m) else none

def fastForward (m : Nat) : Nat → Nat → Option Nat
  | 0, d => some d
  | n + 1, d => (double m d).bind (fastForward m n)

variable (o : ReconnectOptions)

/-- The delay that a connecter spawned with `attempts` starts with. -/
def initialDelay (attempts : Nat) : Option Nat :=
  match o.ivlMax with
  | some (m + 1) => if 0 < o.ivl then fastForward (m + 1) (min attempts 31) o.ivl else some o.ivl
  | _ => some o.ivl

/-- The update of the connecter's delay after it has waited. -/
def nextDelay (d : Nat) : Option Nat :=
  match o.ivlMax with
  | some (m + 1) => if 0 < d then double (m + 1) d else some (m + 1)
  | some 0 => some d
  | none => some (if 0 < d then o.ivl else d)

/-- The core's limit where `RECONNECT_IVL_MAX` is unset. -/
def defaultMax : Nat := 60 * 10 ^ 9

def coreDelay (attempts : Nat) : Nat :=
  let delay := min (o.ivl * 2 ^ min attempts 31) durationMax
  let m := o.ivlMax.getD defaultMax
  if 0 < m then min delay m else delay

/-- `ReconnectState::on_connection_failure`, as the core calls it: the delay and the count of
attempts.  `Instant::now() + delay` panics if it is no `Instant`. -/
def onConnectionFailure (now attempts : Nat) : Option (Nat × Nat) :=
  if now + o.coreDelay attempts ≤ instantMax then
    some (o.coreDelay attempts, min (attempts + 1) (2 ^ 32 - 1))
  else none

/-- The delay before retry `k` of an outage, counted from 0. -/
def law (k : Nat) : Nat :=
  match o.ivlMax with
  | some (m + 1) => min (o.ivl * 2 ^ k) (m + 1)
  | _ => o.ivl

lemma law_mono {j k : Nat} (le : j ≤ k) : o.law j ≤ o.law k := by
  have scaled := Nat.mul_le_mul_left o.ivl (Nat.pow_le_pow_right (n := 2) (by decide) le)
  unfold law
  split
  · omega
  · exact le_refl _

/-- The delay doubled `e` times is the one before retry `k`, and the limit is above the first. -/
def Matched (e k : Nat) : Prop :=
  match o.ivlMax with
  | some (m + 1) => o.ivl ≤ m + 1 ∧ (e = k ∨ m + 1 ≤ o.ivl * 2 ^ min e k)
  | _ => True

def CoreMatched (attempts k : Nat) : Prop :=
  match o.ivlMax with
  | none => o.ivl = defaultMax ∨ attempts = 0 ∧ o.ivl ≤ defaultMax
  | some 0 => attempts = 0 ∨ o.ivl = durationMax
  | some (_ + 1) => o.Matched (min attempts 31) k

lemma min_mul_two_pow {b : Nat} (pos : 0 < b) (e k m : Nat) :
    min (b * 2 ^ e) m = min (b * 2 ^ k) m ↔ e = k ∨ m ≤ b * 2 ^ min e k := by
  have grows : ∀ {i j : Nat}, i < j → b * 2 ^ i < b * 2 ^ j := fun lt =>
    Nat.mul_lt_mul_of_pos_left (Nat.pow_lt_pow_right (by decide) lt) pos
  rcases lt_trichotomy e k with lt | rfl | lt
  · have := grows lt
    rw [min_eq_left (le_of_lt lt)]
    omega
  · simp
  · have := grows lt
    rw [min_eq_right (le_of_lt lt)]
    omega

variable {o} (pos : 0 < o.ivl)
include pos

lemma matched_iff (e k : Nat) : o.Matched e k ↔ o.law e = o.law k ∧ o.law 0 = o.ivl := by
  unfold Matched law
  split
  · rw [min_mul_two_pow pos]
    omega
  · simp

lemma coreMatched_iff (n k : Nat) :
    o.CoreMatched n k ↔ o.coreDelay n = o.law k ∧ o.law 0 = o.ivl := by
  have bounded := o.ivl_le
  have scaled := Nat.mul_le_mul_left o.ivl (Nat.one_le_two_pow (n := min n 31))
  have once : min n 31 ≠ 0 → o.ivl * 2 ≤ o.ivl * 2 ^ min n 31 := fun some_attempt =>
    mul_le_mul_left _ (le_self_pow some_attempt 2)
  have first : n = 0 → o.ivl * 2 ^ min n 31 = o.ivl := by simp +contextual
  cases limit : o.ivlMax with
  | none =>
    have below : defaultMax < durationMax := by decide
    have positive : 0 < defaultMax := by decide
    simp [CoreMatched, coreDelay, law, limit, positive]
    omega
  | some m =>
    have fits := o.ivlMax_le m limit
    match m with
    | 0 =>
      simp [CoreMatched, coreDelay, law, limit]
      omega
    | m + 1 =>
      have capped : min (min (o.ivl * 2 ^ min n 31) durationMax) (m + 1)
        = min (o.ivl * 2 ^ min n 31) (m + 1) := by omega
      simp [CoreMatched, matched_iff pos, coreDelay, law, limit, capped]

lemma nextDelay_law {d e x : Nat} (first : o.law 0 = o.ivl) (doubled : d = o.law e)
    (next : o.nextDelay d = some x) : x = o.law (e + 1) := by
  have scaled := Nat.mul_le_mul_left o.ivl (Nat.one_le_two_pow (n := e))
  unfold nextDelay at next
  unfold law at *
  split at next <;> rename_i limit <;> simp only [limit] at *
  · rw [if_pos (by omega)] at next
    obtain ⟨_, ⟨⟩⟩ := ite_none_right_eq_some.mp next
    rw [pow_succ, ← mul_assoc]
    omega
  · cases next
    exact doubled
  · rw [if_pos (by omega)] at next
    exact (some.inj next).symm

lemma fastForward_law {m : Nat} (limit : o.ivlMax = some (m + 1)) (first : o.law 0 = o.ivl)
    (n : Nat) {d e x : Nat} (doubled : d = o.law e)
    (forward : fastForward (m + 1) n d = some x) : x = o.law (e + n) := by
  induction n generalizing d e with
  | zero =>
    cases forward
    exact doubled
  | succ n ih =>
    have positive : 0 < d := lt_of_lt_of_le pos (first ▸ doubled ▸ o.law_mono (zero_le e))
    obtain ⟨y, once, rest⟩ := bind_eq_some_iff.mp forward
    have next : o.nextDelay d = some y := by simp only [nextDelay, limit, if_pos positive, once]
    rw [ih (nextDelay_law pos first doubled next) rest, add_right_comm, add_assoc]

lemma initialDelay_law {n x : Nat} (first : o.law 0 = o.ivl)
    (start : o.initialDelay n = some x) : x = o.law (min n 31) := by
  unfold initialDelay at start
  split at start
  · rename_i limit
    rw [if_pos pos] at start
    rw [fastForward_law pos limit first _ first.symm start, zero_add]
  · rename_i limit
    cases start
    simp [law]

end ReconnectOptions

structure RetryDelay where
  delay : Nat
  /-- How often the delay counts as doubled, the attempts inherited from the core included. -/
  doublings : Nat
  attemptCount : Nat

/-- The retries of one endpoint since its last handshake.  With `overflowed` an operation has gone
out of the range of its type: a `Duration`, an `Instant` or the `u32` of the attempts. -/
structure Outage where
  currentAttempts : Nat := 0
  connecter : Option RetryDelay := none
  delays : List Nat := []
  overflowed : Bool := false

namespace Outage

inductive Action where
  | spawn
  /-- An attempt of the connecter failed, and it waits and goes on. -/
  | retry
  /-- The connection was lost, or the connecter stopped with an error that is not fatal. -/
  | fail (now : Nat)
  | succeed

open ReconnectOptions

variable (o : ReconnectOptions)

/-- The connecter goes on to its next attempt, unless there is none to count. -/
def attempt (s : Outage) (delay : Option Nat) (doublings attemptCount : Nat) : Outage :=
  match delay with
  | some d =>
    if attemptCount + 1 < 2 ^ 32 then { s with connecter := some ⟨d, doublings, attemptCount + 1⟩ }
    else { s with connecter := none, overflowed := true }
  | none => { s with connecter := none, overflowed := true }

def step (s : Outage) : Action → Option Outage
  | .spawn => if s.connecter.isSome then none else
    some (s.attempt (o.initialDelay s.currentAttempts) (min s.currentAttempts 31) s.currentAttempts)
  | .retry => s.connecter.map fun c =>
    attempt { s with delays := s.delays ++ [c.delay] } (o.nextDelay c.delay) (c.doublings + 1)
      c.attemptCount
  | .fail now =>
    match o.onConnectionFailure now s.currentAttempts with
    | some (delay, attempts) => some { s with
        connecter := none, currentAttempts := attempts, delays := s.delays ++ [delay] }
    | none => some { s with connecter := none, overflowed := true }
  | .succeed => some { s with connecter := none, currentAttempts := 0, delays := [] }

/-- The step takes the delay that the law asks for, and nothing overflows. -/
def Lawful (s : Outage) : Action → Prop
  | .spawn => (o.initialDelay s.currentAttempts).isSome ∧ s.currentAttempts + 1 < 2 ^ 32
  | .retry => ∀ c ∈ s.connecter, o.Matched c.doublings s.delays.length ∧
    (o.nextDelay c.delay).isSome ∧ c.attemptCount + 1 < 2 ^ 32
  | .fail now => o.CoreMatched s.currentAttempts s.delays.length ∧
    now + o.coreDelay s.currentAttempts ≤ instantMax
  | .succeed => True

def Follows (delays : List Nat) : Prop :=
  delays = (range delays.length).map o.law ∧ ∀ d ∈ delays.head?, d = o.ivl

variable {o}

lemma follows_append {delays} (before : Follows o delays) (d : Nat) :
    Follows o (delays ++ [d]) ↔ d = o.law delays.length ∧ o.law 0 = o.ivl := by
  have all : delays ++ [d] = (range (delays ++ [d]).length).map o.law ↔
      d = o.law delays.length := by
    rw [length_append, length_singleton, range_succ, map_append, ← before.1]
    simp
  have head (eq : delays ++ [d] = (range (delays ++ [d]).length).map o.law) :
      (delays ++ [d]).head? = some (o.law 0) := by
    rw [eq, length_append, length_singleton, range_succ_eq_map]
    rfl
  refine ⟨fun ⟨eq, first⟩ => ⟨all.mp eq, first _ (head eq)⟩, fun ⟨eq, first⟩ => ?_⟩
  refine ⟨all.mpr eq, fun x mem => ?_⟩
  rw [head (all.mpr eq)] at mem
  exact (some.inj mem).symm.trans first

/-- The connecter's delay is the law's, unless the first delay is above the limit. -/
def Kept (o : ReconnectOptions) (s : Outage) : Prop :=
  s.overflowed = false ∧ Follows o s.delays ∧
    ∀ c ∈ s.connecter, o.law 0 = o.ivl → c.delay = o.law c.doublings

lemma attempt_fine {s : Outage} {delay doublings count} (fine : s.overflowed = false) :
    (s.attempt delay doublings count).overflowed = false ↔ delay.isSome ∧ count + 1 < 2 ^ 32 := by
  cases delay with
  | none => simp [attempt]
  | some d =>
    unfold attempt
    dsimp only
    split
    · exact iff_of_true fine ⟨rfl, ‹_›⟩
    · exact iff_of_false nofun fun both => absurd both.2 ‹_›

lemma attempt_delays (s : Outage) (delay doublings count) :
    (s.attempt delay doublings count).delays = s.delays := by
  unfold attempt
  split
  · split <;> rfl
  · rfl

lemma attempt_connecter {s : Outage} {delay doublings count} {c : RetryDelay}
    (mem : c ∈ (s.attempt delay doublings count).connecter) :
    delay = some c.delay ∧ c.doublings = doublings := by
  unfold attempt at mem
  split at mem
  · split at mem
    · cases mem
      exact ⟨rfl, rfl⟩
    · cases mem
  · cases mem

variable (pos : 0 < o.ivl)
include pos

lemma step_lawful_iff {s t a} (kept : s.Kept o) (taken : step o s a = some t) :
    Lawful o s a ↔ t.overflowed = false ∧ Follows o t.delays := by
  obtain ⟨fine, follows, delay⟩ := kept
  cases a <;> dsimp only [step] at taken
  case spawn =>
    obtain ⟨_, ⟨⟩⟩ := ite_none_left_eq_some.mp taken
    rw [attempt_fine fine, attempt_delays]
    exact (and_iff_left follows).symm
  case retry =>
    obtain ⟨c, alive, ⟨⟩⟩ := map_eq_some_iff.mp taken
    have waited : o.Matched c.doublings s.delays.length ↔ Follows o (s.delays ++ [c.delay]) := by
      rw [matched_iff pos, follows_append follows]
      exact and_congr_left fun first => by rw [delay c alive first]
    rw [attempt_fine (by exact fine), attempt_delays, ← waited, and_comm]
    exact ⟨fun lawful => lawful c alive, fun all _ mem => mem_unique mem alive ▸ all⟩
  case fail now =>
    have next := (coreMatched_iff pos s.currentAttempts _).trans (follows_append follows _).symm
    by_cases fits : now + o.coreDelay s.currentAttempts ≤ instantMax
    · simp only [onConnectionFailure, if_pos fits] at taken
      cases taken
      simp [Lawful, fits, fine, next]
    · simp only [onConnectionFailure, if_neg fits] at taken
      cases taken
      simp [Lawful, fits]
  case succeed =>
    cases taken
    exact iff_of_true trivial ⟨fine, rfl, fun _ mem => nomatch mem⟩

lemma step_kept {s t a} (kept : s.Kept o) (lawful : Lawful o s a)
    (taken : step o s a = some t) : t.Kept o := by
  obtain ⟨fine, follows⟩ := (step_lawful_iff pos kept taken).mp lawful
  refine ⟨fine, follows, fun c mem first => ?_⟩
  cases a <;> dsimp only [step] at taken
  case spawn =>
    obtain ⟨_, ⟨⟩⟩ := ite_none_left_eq_some.mp taken
    obtain ⟨start, doubled⟩ := attempt_connecter mem
    rw [doubled]
    exact initialDelay_law pos first start
  case retry =>
    obtain ⟨c', alive, ⟨⟩⟩ := map_eq_some_iff.mp taken
    obtain ⟨next, doubled⟩ := attempt_connecter mem
    rw [doubled]
    exact nextDelay_law pos first (kept.2.2 c' alive first) next
  case fail =>
    split at taken <;> cases taken <;> cases mem
  case succeed =>
    cases taken
    cases mem

omit pos in
lemma start_kept : Kept o {} := ⟨rfl, ⟨rfl, fun _ mem => nomatch mem⟩, fun _ mem => nomatch mem⟩

/-- One law for all delays, which grows, stays below the limit and is constant without one; exactly
the lawful steps follow it without an overflow. -/
theorem one_backoff_law : (∀ j k, j ≤ k → o.law j ≤ o.law k) ∧
    (∀ m ∈ o.ivlMax, 0 < m → ∀ k, o.law k ≤ m) ∧
    ((∀ m ∈ o.ivlMax, m = 0) → ∀ k, o.law k = o.ivl) ∧
    (∀ s, Reaches (step o) (Lawful o) {} s → s.overflowed = false ∧ Follows o s.delays) ∧
    ∀ s a t, Reaches (step o) (Lawful o) {} s → step o s a = some t →
      (Lawful o s a ↔ t.overflowed = false ∧ Follows o t.delays) := by
  have kept {s : Outage} (reached : Reaches (step o) (Lawful o) {} s) : s.Kept o :=
    reached.invariant (fun _ _ _ => step_kept pos) start_kept
  refine ⟨fun _ _ => o.law_mono, fun m limit positive k => ?_, fun unset k => ?_,
    fun s reached => ?_, fun s a t reached => step_lawful_iff pos (kept reached)⟩
  · obtain ⟨m, rfl⟩ := exists_eq_succ_of_ne_zero (ne_of_gt positive)
    simp only [law, mem_def.mp limit]
    exact min_le_right _ _
  · unfold law
    split
    · rename_i limit
      exact absurd (unset _ limit) (succ_ne_zero _)
    · rfl
  · exact ⟨(kept reached).1, (kept reached).2.1⟩

omit pos

/-- The options of a new socket. -/
def defaults : ReconnectOptions := ⟨10 ^ 9, some 0, by decide, by decide⟩

def limited : ReconnectOptions := ⟨10 ^ 9, some (4 * 10 ^ 9), by decide, by decide⟩

/-- A connection is lost, and three attempts of the connecter fail. -/
theorem one_backoff_law_limited :
    ∃ s, run (step limited) {} [.fail 0, .spawn, .retry, .retry, .retry] = some s ∧
      s.delays = [10 ^ 9, 2 * 10 ^ 9, 4 * 10 ^ 9, 4 * 10 ^ 9] ∧ s.overflowed = false ∧
      Follows limited s.delays := by
  refine exists_of_permitted ?_ rfl fun reached =>
    ⟨rfl, (one_backoff_law (by decide)).2.2.2.1 _ reached⟩
  refine ⟨⟨⟨by decide, .inl rfl⟩, by decide⟩, _, rfl, ⟨rfl, by decide⟩, _, rfl, ?_⟩
  iterate 3
    refine ⟨?_, _, rfl, ?_⟩
    · rintro _ ⟨⟩
      exact ⟨⟨by decide, .inl rfl⟩, rfl, by decide⟩
  exact trivial

/-- Without a limit the core's second delay is doubled. -/
theorem core_delay_grows : ∃ s, run (step defaults) {} [.fail 0, .fail 0] = some s ∧
    s.delays = [10 ^ 9, 2 * 10 ^ 9] ∧ ¬ Follows defaults s.delays :=
  ⟨_, rfl, rfl, fun follows => absurd follows.1 (by decide)⟩

end Outage

inductive SystemEvent where
  | contextTerminating
  | socketClosing (id : Nat)
  | other
deriving DecidableEq

/-- The outcome of a receive from the event bus; `empty` is for `try_recv` only. -/
inductive BusReceived where
  | ok (event : SystemEvent)
  | empty
  | lagged
  | closed

/-- `overflowChecks` is that of the build: without it `attempt_count` wraps around. -/
structure TcpConnecter where
  parent : Nat
  options : ReconnectOptions
  initialAttempts : UInt32
  overflowChecks : Bool

namespace TcpConnecter

inductive Stop where
  | event (e : SystemEvent)
  | bus
  | connected
  | fatal
  | noRetry
  | panicked
deriving DecidableEq

/-- In the wait, before the check that precedes an attempt, in the attempt, or done. -/
inductive At where
  | waiting
  | ready
  | connecting
  | stopped (why : Stop)
deriving DecidableEq

structure Life where
  stage : At
  delay : Nat
  attemptCount : UInt32
  /-- The delay since the last failed attempt is over. -/
  expired : Bool
  /-- The end of the context or of the parent was received. -/
  told : Bool

variable (c : TcpConnecter)

def noRetry : Bool := c.options.ivl = 0 && c.options.ivlMax.getD 0 = 0

def ends (e : SystemEvent) : Bool := e = .contextTerminating || e = .socketClosing c.parent

/-- `attempt_count += 1`, and on to the check before an attempt. -/
def enter (s : Life) : Life :=
  if c.overflowChecks ∧ s.attemptCount = -1 then { s with stage := .stopped .panicked }
  else { s with stage := .ready, attemptCount := s.attemptCount + 1 }

def start : Life :=
  match c.options.initialDelay c.initialAttempts.toNat with
  | some d => c.enter ⟨.ready, d, c.initialAttempts, true, false⟩
  | none => ⟨.stopped .panicked, 0, c.initialAttempts, true, false⟩

/-- After a wait: the delay is updated and the loop goes on to the check. -/
def proceed (s : Life) (expired : Bool) : Life :=
  match c.options.nextDelay s.delay with
  | some d => c.enter { s with delay := d, expired }
  | none => { s with stage := .stopped .panicked }

/-- After a failed attempt that is not fatal.  A wait is for an attempt that is counted as another
than the first. -/
def failed (s : Life) : Life :=
  if c.initialAttempts < s.attemptCount then
    { s with stage := if c.noRetry then .stopped .noRetry else .waiting, expired := false }
  else c.enter { s with expired := false }

def stop (s : Life) (e : SystemEvent) : Life :=
  { s with stage := .stopped (.event e), told := s.told || c.ends e }

inductive Action where
  | receive (r : BusReceived)
  | sleep
  | fail (fatal : Bool)
  | connect

/-- While the connecter waits without a delay it asks the bus once, and does not look at the id of a
socket that closes.  An attempt that an event ends is taken for a failed one. -/
def step (s : Life) : Action → Option Life
  | .receive r => match s.stage, r with
    | .waiting, r => if s.delay = 0 then some (match r with
        | .ok .contextTerminating => c.stop s .contextTerminating
        | .ok (.socketClosing id) => c.stop s (.socketClosing id)
        | _ => c.proceed s true)
      else match r with
        | .ok e => some (if c.ends e then c.stop s e else c.proceed s false)
        | .empty => none
        | _ => some { s with stage := .stopped .bus }
    | .ready, .ok e => some (if c.ends e then c.stop s e else { s with stage := .connecting })
    | .ready, .empty => some { s with stage := .connecting }
    | .ready, _ => some { s with stage := .stopped .bus }
    | .connecting, .ok e => some (if c.ends e then c.failed { s with told := true } else s)
    | .connecting, .empty => none
    | .connecting, _ => some (c.failed s)
    | .stopped _, _ => none
  | .sleep => if s.stage = .waiting ∧ 0 < s.delay then some (c.proceed s true) else none
  | .fail fatal => if s.stage = .connecting then
      some (if fatal then { s with stage := .stopped .fatal } else c.failed s) else none
  | .connect => if s.stage = .connecting then some { s with stage := .stopped .connected } else none

/-- No event of others ends a wait or the connecter, and none that ends the connecter comes during
an attempt that may be repeated; a delay that overflows ends it anyway. -/
def Undisturbed (s : Life) : Action → Prop
  | .receive (.ok e) => match s.stage with
    | .waiting =>
      c.ends e ∨ if s.delay = 0 then e = .other else c.options.nextDelay s.delay = none
    | .connecting => c.ends e → c.noRetry ∨ c.options.nextDelay s.delay = none
    | _ => True
  | _ => True

/-- The attempts can be counted. -/
abbrev Counted (s : Life) : Prop := s.attemptCount ≠ -1

def OnTime (s : Life) : Prop :=
  (s.stage = .connecting → s.expired ∧ ¬ s.told) ∧ ∀ e, s.stage = .stopped (.event e) → c.ends e

structure Kept (s : Life) : Prop where
  counted : (∀ why, s.stage ≠ .stopped why) → c.initialAttempts < s.attemptCount
  waits : s.stage = .waiting → s.told → c.options.nextDelay s.delay = none
  heard : ∀ e, s.stage = .stopped (.event e) → c.ends e
  tries : s.stage = .ready ∨ s.stage = .connecting → s.expired ∧ ¬ s.told

variable {c}

lemma kept_stopped {s : Life} {why} (stops : s.stage = .stopped why)
    (heard : ∀ e, why = .event e → c.ends e) : c.Kept s := by
  obtain ⟨_, _, _, _, _⟩ := s
  cases stops
  exact ⟨fun goes => absurd rfl (goes why), nofun, fun e same => heard e (At.stopped.inj same),
    nofun⟩

lemma enter_kept {s : Life} (counted : Counted s) (later : c.initialAttempts ≤ s.attemptCount)
    (expired : s.expired = true) (untold : ¬ s.told) : c.Kept (c.enter s) := by
  have grows : s.attemptCount < s.attemptCount + 1 := by
    have := UInt32.toNat_inj.not.mpr counted
    rw [UInt32.lt_iff_toNat_lt, UInt32.toNat_add]
    have := s.attemptCount.toNat_lt
    simp at *
    omega
  rw [enter, if_neg fun wraps => counted wraps.2]
  exact ⟨fun _ => UInt32.lt_of_le_of_lt later grows, nofun, nofun, fun _ => ⟨expired, untold⟩⟩

lemma proceed_kept {s : Life} {expired : Bool} (kept : c.Kept s) (counted : Counted s)
    (waiting : s.stage = .waiting) (wait : c.options.nextDelay s.delay ≠ none → expired) :
    c.Kept (c.proceed s expired) := by
  unfold proceed
  split
  · rename_i next
    have told := kept.waits waiting
    simp only [next, reduceCtorEq, imp_false] at told wait
    have later := kept.counted (by simp [waiting])
    exact enter_kept (by exact counted) (UInt32.le_of_lt later) (wait nofun) told
  · exact kept_stopped rfl nofun

lemma failed_kept {s : Life} (kept : c.Kept s) (going : s.stage = .connecting) {told : Bool}
    (ends : told → s.told ∨ c.noRetry ∨ c.options.nextDelay s.delay = none) :
    c.Kept (c.failed { s with told }) := by
  have later := kept.counted (by simp [going])
  have untold := (kept.tries (.inr going)).2
  rw [failed, if_pos later]
  by_cases no : c.noRetry
  · exact kept_stopped (if_pos no) nofun
  · refine ⟨fun _ => later, fun _ heard => ?_, by simp [no], by simp [no]⟩
    rcases ends heard with before | never | stuck
    · exact absurd before untold
    · exact absurd never no
    · exact stuck

lemma step_kept {s t : Life} {a} (kept : c.Kept s) (quiet : c.Undisturbed s a ∧ Counted s)
    (taken : c.step s a = some t) : c.Kept t := by
  obtain ⟨quiet, counted⟩ := quiet
  cases a with
  | receive r =>
    cases going : s.stage with
    | waiting =>
      simp only [step, going] at taken
      simp only [Undisturbed, going] at quiet
      split at taken <;> rename_i zero
      · cases taken
        split
        · exact kept_stopped rfl fun e same => by cases same; simp [ends]
        · rename_i id
          refine kept_stopped rfl fun e same => ?_
          cases same
          simpa [zero] using quiet
        · exact proceed_kept kept counted going fun _ => rfl
      · split at taken <;> cases taken
        · rename_i e
          by_cases ends : c.ends e
          · rw [if_pos ends]
            exact kept_stopped rfl fun _ same => by cases same; exact ends
          · have next : c.options.nextDelay s.delay = none := by
              simpa [zero, ends] using quiet
            rw [if_neg ends]
            exact proceed_kept kept counted going fun more => absurd next more
        · exact kept_stopped rfl nofun
    | ready =>
      have attempts : c.Kept { s with stage := .connecting } :=
        ⟨fun _ => kept.counted (by simp [going]), nofun, nofun, fun _ => kept.tries (.inl going)⟩
      cases r with
      | ok e =>
        simp only [step, going] at taken
        cases taken
        by_cases ends : c.ends e
        · rw [if_pos ends]
          exact kept_stopped rfl fun _ same => by cases same; exact ends
        · rw [if_neg ends]
          exact attempts
      | empty =>
        simp only [step, going] at taken
        cases taken
        exact attempts
      | _ =>
        simp only [step, going] at taken
        cases taken
        exact kept_stopped rfl nofun
    | connecting =>
      cases r with
      | ok e =>
        simp only [step, going] at taken
        simp only [Undisturbed, going] at quiet
        cases taken
        by_cases ends : c.ends e
        · rw [if_pos ends]
          exact failed_kept kept going fun _ => .inr (quiet ends)
        · rw [if_neg ends]
          exact kept
      | empty => simp [step, going] at taken
      | _ =>
        simp only [step, going] at taken
        cases taken
        exact failed_kept kept going .inl
    | stopped why => simp [step, going] at taken
  | sleep =>
    obtain ⟨⟨waits, _⟩, ⟨⟩⟩ := ite_none_right_eq_some.mp taken
    exact proceed_kept kept counted waits fun _ => rfl
  | fail fatal =>
    obtain ⟨tries, ⟨⟩⟩ := ite_none_right_eq_some.mp taken
    cases fatal
    · exact failed_kept kept tries .inl
    · exact kept_stopped rfl nofun
  | connect =>
    obtain ⟨_, ⟨⟩⟩ := ite_none_right_eq_some.mp taken
    exact kept_stopped rfl nofun

lemma start_kept (counted : c.initialAttempts ≠ -1) : c.Kept c.start := by
  unfold start
  split
  · exact enter_kept counted (UInt32.le_refl _) rfl nofun
  · exact kept_stopped rfl nofun

lemma Kept.prompt {s : Life} (kept : c.Kept s) : c.OnTime s ∧
    (s.told → (∃ why, s.stage = .stopped why) ∨ c.options.nextDelay s.delay = none) := by
  refine ⟨⟨fun tries => kept.tries (.inr tries), kept.heard⟩, fun told => ?_⟩
  cases going : s.stage with
  | waiting => exact .inr (kept.waits going told)
  | stopped why => exact .inl ⟨why, rfl⟩
  | ready => exact absurd told (kept.tries (.inl going)).2
  | connecting => exact absurd told (kept.tries (.inr going)).2

lemma enter_attempts {s : Life} (counted : Counted s) :
    Reaches c.step (fun _ _ => True) (c.enter s)
      { s with stage := .connecting, attemptCount := s.attemptCount + 1 } := by
  rw [enter, if_neg fun wraps => counted wraps.2]
  exact Reaches.refl.tail (a := .receive .empty) trivial rfl

lemma step_disturbed {s t : Life} {a} (kept : c.Kept s) (counted : Counted s)
    (taken : c.step s a = some t) (disturbed : ¬ c.Undisturbed s a) :
    ∃ u, Reaches c.step (fun _ _ => True) t u ∧ ¬ c.OnTime u := by
  obtain ⟨stage, delay, count, expired, told⟩ := s
  match a, stage with
  | .receive (.ok e), .waiting =>
    obtain ⟨goes, disturbed⟩ := not_or.mp disturbed
    dsimp only [step] at taken
    split at taken <;> rename_i zero <;> simp only [zero, if_true, if_false] at disturbed
    · match e with
      | .contextTerminating => exact absurd (by simp [ends]) goes
      | .socketClosing id =>
        cases taken
        exact ⟨_, .refl, fun prompt => goes (prompt.2 _ rfl)⟩
      | .other => exact absurd rfl disturbed
    · obtain ⟨d, next⟩ := ne_none_iff_exists'.mp disturbed
      cases taken
      simp only [proceed, next]
      exact ⟨_, enter_attempts counted, fun prompt => nomatch (prompt.1 rfl).1⟩
  | .receive (.ok e), .connecting =>
    obtain ⟨ends, disturbed⟩ := Classical.not_imp.mp disturbed
    obtain ⟨again, disturbed⟩ := not_or.mp disturbed
    obtain ⟨d, next⟩ := ne_none_iff_exists'.mp disturbed
    cases taken
    have later : c.initialAttempts < count := kept.counted nofun
    simp only [if_pos ends, failed, if_neg again, if_pos later]
    have waited : Reaches c.step (fun _ _ => True) ⟨.waiting, delay, count, false, true⟩
        (c.enter ⟨.waiting, d, count, true, true⟩) := by
      by_cases zero : delay = 0
      · refine Reaches.refl.tail (a := .receive .empty) trivial ?_
        simp [step, zero, proceed, zero ▸ next]
      · refine Reaches.refl.tail (a := .sleep) trivial ?_
        simp [step, pos_of_ne_zero zero, proceed, next]
    exact ⟨_, waited.trans (enter_attempts counted), fun prompt => (prompt.1 rfl).2 rfl⟩
  | .receive (.ok e), .ready | .receive (.ok e), .stopped why | .receive .empty, _
  | .receive .lagged, _ | .receive .closed, _ | .sleep, _ | .fail _, _ | .connect, _ =>
    exact absurd trivial disturbed

/-- In undisturbed runs with no more attempts than can be counted, an attempt after a failed one
follows the expiry of the delay, none is made after the end was heard of, and no other socket's
closing stops the connecter; a disturbed step can be followed by the opposite. -/
theorem retry_waits_full_delay (counted : c.initialAttempts ≠ -1) {s : Life}
    (reached : Reaches c.step (fun s a => c.Undisturbed s a ∧ Counted s) c.start s) :
    (c.OnTime s ∧
      (s.told → (∃ why, s.stage = .stopped why) ∨ c.options.nextDelay s.delay = none)) ∧
    ∀ a t, Counted s → c.step s a = some t → ¬ c.Undisturbed s a →
      ∃ u, Reaches c.step (fun _ _ => True) t u ∧ ¬ c.OnTime u := by
  have kept := reached.invariant (fun _ _ _ => step_kept) (start_kept counted)
  exact ⟨kept.prompt, fun _ _ => step_disturbed kept⟩

def lone : TcpConnecter := ⟨7, Outage.defaults, 0, true⟩

/-- The first attempt fails, and the second one follows when the delay is over. -/
theorem retry_waits_full_delay_once : ∃ s, run lone.step lone.start
      [.receive .empty, .fail false, .sleep, .receive .empty] = some s ∧
    s.stage = .connecting ∧ s.attemptCount = 2 ∧ lone.OnTime s := by
  refine exists_of_permitted ?_ rfl fun reached =>
    ⟨rfl, rfl, (retry_waits_full_delay (by decide) reached).1.1⟩
  iterate 4 refine ⟨⟨trivial, by decide⟩, _, rfl, ?_⟩
  exact trivial

/-- An event that concerns nobody here ends the wait of the first retry at once. -/
theorem wait_cut_short : ∃ s, run lone.step lone.start
    [.receive .empty, .fail false, .receive (.ok .other), .receive .empty] = some s ∧
    s.stage = .connecting ∧ s.expired = false :=
  ⟨_, rfl, rfl, rfl⟩

end TcpConnecter

end Rzmq
