import Rzmq.Lib.Transition
import Mathlib.Algebra.Order.Group.Nat
import Mathlib.Data.List.Basic

/-! The accept loop of a TCP listener and the permits of its connection limiter.  A permit is
acquired before `accept`, and goes with the connection into the tokio session, or no further than
the task that hands the descriptor to the io_uring worker.  One that is given back too early is
enough for one connection more. -/

namespace Rzmq

open List Option Bool Transition

/-! ### One connection -/

/-- Where an accepted connection has got to.  It begins in the task that `run_accept_loop` spawns
for it. -/
inductive AcceptedConnection where
  | spawned
  /-- tokio: the options cannot be applied, and the task comes to its end. -/
  | rejected
  /-- tokio: the locals of the task are dropped, the permit with them.  The stream is captured by
  the task, and is dropped behind them. -/
  | abandoned
  /-- A `SessionConnectionActorX` has the stream and the permit. -/
  | session
  /-- The session has shut its stream, or has dropped its handler: a field before the permit. -/
  | shut
  /-- io_uring: a stream of `std`. -/
  | standard
  | rawFd
  | requested
  /-- The worker has the descriptor; the task has yet to end. -/
  | registered
  | handed
  /-- io_uring: closed; the task has yet to end. -/
  | released
  | closed
  deriving DecidableEq

inductive ConnectionEvent where
  | intoStd (ok : Bool)
  | applyTcpSocketOptions (ok : Bool)
  | sendRegisterExternalFd (ok : Bool)
  /-- The reply of the worker, which is a success for this descriptor or anything else. -/
  | reply (ok : Bool)
  /-- The task or the session ends. -/
  | finish
  | dropStream
  | shutdownStream
  | closeFd
  deriving DecidableEq

namespace AcceptedConnection

def isOpen : AcceptedConnection → Bool
  | .shut | .released | .closed => false
  | _ => true

def hasPermit : AcceptedConnection → Bool
  | .abandoned | .handed | .closed => false
  | _ => true

def next (useIoUring : Bool) : AcceptedConnection → ConnectionEvent → Option AcceptedConnection
  | .spawned, .intoStd ok =>
    if useIoUring then some (if ok then .standard else .released) else none
  | .spawned, .applyTcpSocketOptions ok =>
    if useIoUring then none else some (if ok then .session else .rejected)
  | .standard, .applyTcpSocketOptions ok => some (if ok then .rawFd else .released)
  | .rawFd, .sendRegisterExternalFd ok => some (if ok then .requested else .released)
  | .requested, .reply ok => some (if ok then .registered else .released)
  | .registered, .finish => some .handed
  | .registered, .closeFd => some .released
  | .handed, .closeFd => some .closed
  | .released, .finish => some .closed
  | .rejected, .finish => some .abandoned
  | .abandoned, .dropStream => some .closed
  | .session, .shutdownStream => some .shut
  | .shut, .finish => some .closed
  | _, _ => none

def Leaks (c : AcceptedConnection) (e : ConnectionEvent) : Prop :=
  e = .finish ∧ (c = .registered ∨ c = .rejected)

instance (c : AcceptedConnection) (e : ConnectionEvent) : Decidable (c.Leaks e) :=
  inferInstanceAs (Decidable (_ ∧ _))

variable {useIoUring : Bool} {c d : AcceptedConnection} {e : ConnectionEvent}

section

variable (taken : c.next useIoUring e = some d)
include taken

lemma next_isOpen (opened : d.isOpen = true) : c.isOpen = true := by
  cases c <;> first | rfl | skip
  all_goals cases e <;> cases taken
  all_goals cases opened

lemma next_hasPermit (held : d.hasPermit = true) : c.hasPermit = true := by
  cases c <;> first | rfl | skip
  all_goals cases e <;> cases taken
  all_goals cases held

lemma next_permitted (tight : ¬ c.Leaks e) (permitted : c.isOpen = true → c.hasPermit = true)
    (opened : d.isOpen = true) : d.hasPermit = true := by
  have held := permitted (next_isOpen taken opened)
  cases c with
  | spawned =>
    cases e <;> cases useIoUring <;> cases taken
    all_goals split <;> rfl
  | standard | rawFd | requested =>
    cases e <;> cases taken
    split <;> rfl
  | session =>
    cases e <;> cases taken
    rfl
  | registered =>
    cases e <;> cases taken
    · exact absurd ⟨rfl, .inl rfl⟩ tight
    · rfl
  | rejected =>
    cases e <;> cases taken
    exact absurd ⟨rfl, .inr rfl⟩ tight
  | shut | released =>
    cases e <;> cases taken
    cases opened
  | abandoned | handed | closed => cases held

lemma next_of_leaks (leaks : c.Leaks e) : d.isOpen = true ∧ d.hasPermit = false := by
  obtain ⟨rfl, rfl | rfl⟩ := leaks <;> cases taken <;> exact ⟨rfl, rfl⟩

end

lemma next_finish (useIoUring : Bool) (held : c.hasPermit = true) (shut : c.isOpen = false) :
    c.next useIoUring .finish = some .closed := by
  cases c with
  | shut | released => rfl
  | abandoned | handed | closed => cases held
  | _ => cases shut

end AcceptedConnection

/-! ### The listener -/

inductive AcceptLoop where
  | acquiring
  /-- A permit is at hand. -/
  | accepting
  /-- The 100 ms behind an error that is not fatal. -/
  | sleeping
  | stopped
  deriving DecidableEq

def AcceptLoop.permits : AcceptLoop → Nat
  | .accepting => 1
  | _ => 0

structure TcpListener where
  useIoUringForSession : Bool
  /-- The permits of `connection_limiter`. -/
  available : Nat
  acceptLoop : AcceptLoop
  connections : List AcceptedConnection

inductive ListenerAction where
  | acquire
  | accept
  | acceptFailed (fatal : Bool)
  | wake
  /-- The command loop aborts the accept loop. -/
  | abort
  | connection (i : Nat) (e : ConnectionEvent)

namespace TcpListener

def maxPermits : Nat := 2 ^ 64 / 8 - 1

def createAndSpawn (maxConnections : Option Nat) (useIoUringForSession : Bool) :
    Option TcpListener :=
  let maxConns := maxConnections.getD (2 ^ 64 - 1)
  if max maxConns 1 ≤ maxPermits then
    some ⟨useIoUringForSession, max maxConns 1, .acquiring, []⟩
  else none

/-- A permit goes with its connection and comes back when the task that has it drops it. -/
def step (s : TcpListener) : ListenerAction → Option TcpListener
  | .acquire =>
    if s.acceptLoop = .acquiring ∧ 0 < s.available then
      some { s with available := s.available - 1, acceptLoop := .accepting }
    else none
  | .accept =>
    if s.acceptLoop = .accepting then
      some { s with acceptLoop := .acquiring, connections := s.connections ++ [.spawned] }
    else none
  | .acceptFailed fatal =>
    if s.acceptLoop = .accepting then
      some { s with
        available := s.available + 1
        acceptLoop := if fatal then .stopped else .sleeping }
    else none
  | .wake => if s.acceptLoop = .sleeping then some { s with acceptLoop := .acquiring } else none
  | .abort =>
    some { s with available := s.available + s.acceptLoop.permits, acceptLoop := .stopped }
  | .connection i e => do
    let c ← s.connections[i]?
    let d ← c.next s.useIoUringForSession e
    pure { s with
      available := s.available + if c.hasPermit && !d.hasPermit then 1 else 0
      connections := s.connections.set i d }

def openCount (s : TcpListener) : Nat := s.connections.countP (·.isOpen)

/-- While the loop may accept, no permit is given back before its connection is closed. -/
def Orderly (s : TcpListener) : ListenerAction → Prop
  | .connection i e => s.acceptLoop ≠ .stopped → ∀ c ∈ s.connections[i]?, ¬ c.Leaks e
  | _ => True

variable {n : Nat} {s t : TcpListener} {a : ListenerAction}

/-- No permit is lost and none is made. -/
def Balanced (n : Nat) (s : TcpListener) : Prop :=
  s.available + s.acceptLoop.permits + s.connections.countP (·.hasPermit) = n

lemma step_connection {i : Nat} {e} (taken : s.step (.connection i e) = some t) :
    ∃ c d, s.connections[i]? = some c ∧ c.next s.useIoUringForSession e = some d ∧
      t = { s with
        available := s.available + if c.hasPermit && !d.hasPermit then 1 else 0
        connections := s.connections.set i d } := by
  obtain ⟨c, at_i, rest⟩ := bind_eq_some_iff.mp taken
  obtain ⟨d, next, same⟩ := bind_eq_some_iff.mp rest
  exact ⟨c, d, at_i, next, (some.inj same).symm⟩

lemma countP_set_add {p : AcceptedConnection → Bool} {i : Nat} {c d : AcceptedConnection}
    {l : List AcceptedConnection} (at_i : l[i]? = some c) :
    (l.set i d).countP p + (if p c then 1 else 0) = l.countP p + (if p d then 1 else 0) := by
  induction l generalizing i with
  | nil => cases at_i
  | cons head tail ih =>
    cases i with
    | zero =>
      cases at_i
      simp [set_cons_zero, countP_cons]
      omega
    | succ i =>
      have later := ih at_i
      simp [set_cons_succ, countP_cons]
      omega

lemma step_acquire (taken : s.step .acquire = some t) :
    s.acceptLoop = .acquiring ∧ 0 < s.available ∧
      t = { s with available := s.available - 1, acceptLoop := .accepting } := by
  simp only [step] at taken
  split at taken
  · cases taken
    exact ⟨‹_ ∧ _›.1, ‹_ ∧ _›.2, rfl⟩
  · cases taken

lemma step_accept (taken : s.step .accept = some t) :
    s.acceptLoop = .accepting ∧
      t = { s with acceptLoop := .acquiring, connections := s.connections ++ [.spawned] } := by
  simp only [step] at taken
  split at taken
  · cases taken
    exact ⟨‹_›, rfl⟩
  · cases taken

lemma step_acceptFailed {fatal : Bool} (taken : s.step (.acceptFailed fatal) = some t) :
    s.acceptLoop = .accepting ∧
      t = { s with
        available := s.available + 1
        acceptLoop := if fatal then .stopped else .sleeping } := by
  simp only [step] at taken
  split at taken
  · cases taken
    exact ⟨‹_›, rfl⟩
  · cases taken

lemma step_wake (taken : s.step .wake = some t) :
    s.acceptLoop = .sleeping ∧ t = { s with acceptLoop := .acquiring } := by
  simp only [step] at taken
  split at taken
  · cases taken
    exact ⟨‹_›, rfl⟩
  · cases taken

lemma Balanced.step (balanced : Balanced n s) (taken : s.step a = some t) : Balanced n t := by
  unfold Balanced at balanced ⊢
  cases a with
  | acquire =>
    obtain ⟨acquiring, left, rfl⟩ := step_acquire taken
    rw [acquiring] at balanced
    simp only [AcceptLoop.permits] at balanced ⊢
    omega
  | accept =>
    obtain ⟨accepting, rfl⟩ := step_accept taken
    rw [accepting] at balanced
    have one : [AcceptedConnection.spawned].countP (·.hasPermit) = 1 := rfl
    simp only [AcceptLoop.permits, countP_append] at balanced ⊢
    omega
  | acceptFailed fatal =>
    obtain ⟨accepting, rfl⟩ := step_acceptFailed taken
    rw [accepting] at balanced
    cases fatal <;> exact balanced
  | wake =>
    obtain ⟨sleeping, rfl⟩ := step_wake taken
    rw [sleeping] at balanced
    exact balanced
  | abort =>
    cases taken
    exact balanced
  | connection i e =>
    obtain ⟨c, d, at_i, next, rfl⟩ := step_connection taken
    have change := countP_set_add (p := (·.hasPermit)) (d := d) at_i
    have back := AcceptedConnection.next_hasPermit next
    revert change back
    cases c.hasPermit <;> cases d.hasPermit <;> simp <;> omega

structure Bounded (n : Nat) (s : TcpListener) : Prop where
  balanced : Balanced n s
  permitted : s.acceptLoop ≠ .stopped → ∀ c ∈ s.connections, c.isOpen = true → c.hasPermit = true
  bound : s.openCount ≤ n

lemma openCount_le (balanced : Balanced n s)
    (permitted : ∀ c ∈ s.connections, c.isOpen = true → c.hasPermit = true) :
    s.openCount ≤ n := by
  have covered : s.openCount ≤ s.connections.countP (·.hasPermit) :=
    countP_mono_left permitted
  unfold Balanced at balanced
  omega

lemma Bounded.step (bounded : Bounded n s) (orderly : s.Orderly a) (taken : s.step a = some t) :
    Bounded n t := by
  have balanced := bounded.balanced.step taken
  cases a with
  | acquire =>
    obtain ⟨acquiring, -, rfl⟩ := step_acquire taken
    exact ⟨balanced, fun _ => bounded.permitted (by simp [acquiring]), bounded.bound⟩
  | accept =>
    obtain ⟨accepting, rfl⟩ := step_accept taken
    have permitted : ∀ c ∈ s.connections ++ [.spawned], c.isOpen = true → c.hasPermit = true := by
      intro c mem opened
      obtain old | new := mem_append.mp mem
      · exact bounded.permitted (by simp [accepting]) c old opened
      · obtain rfl := mem_singleton.mp new
        rfl
    exact ⟨balanced, fun _ => permitted, openCount_le balanced permitted⟩
  | acceptFailed fatal =>
    obtain ⟨accepting, rfl⟩ := step_acceptFailed taken
    exact ⟨balanced, fun _ => bounded.permitted (by simp [accepting]), bounded.bound⟩
  | wake =>
    obtain ⟨sleeping, rfl⟩ := step_wake taken
    exact ⟨balanced, fun _ => bounded.permitted (by simp [sleeping]), bounded.bound⟩
  | abort =>
    cases taken
    exact ⟨balanced, fun live => absurd rfl live, bounded.bound⟩
  | connection i e =>
    obtain ⟨c, d, at_i, next, rfl⟩ := step_connection taken
    refine ⟨balanced, fun live x mem => ?_, ?_⟩
    · obtain old | rfl := mem_or_eq_of_mem_set mem
      · exact bounded.permitted live x old
      · exact AcceptedConnection.next_permitted next (orderly live c at_i)
          (bounded.permitted live c (mem_of_getElem? at_i))
    · have change := countP_set_add (p := (·.isOpen)) (d := d) at_i
      have shrinks := AcceptedConnection.next_isOpen next
      have before := bounded.bound
      unfold openCount at before ⊢
      revert change shrinks
      cases c.isOpen <;> cases d.isOpen <;> simp <;> omega

/-! ### One connection too many -/

/-- A connection is open whose permit is free again. -/
structure Leaked (n : Nat) (s : TcpListener) : Prop where
  balanced : Balanced n s
  live : s.acceptLoop ≠ .stopped
  leak : ∃ c ∈ s.connections, c.isOpen = true ∧ c.hasPermit = false

def permittedCount (s : TcpListener) : Nat := s.connections.countP fun c => c.isOpen && c.hasPermit

lemma Leaked.openCount (leaked : Leaked n s) : s.permittedCount < s.openCount := by
  obtain ⟨c, mem, opened, gone⟩ := leaked.leak
  obtain ⟨before, behind, split⟩ := append_of_mem mem
  have less (l : List AcceptedConnection) :
      l.countP (fun c => c.isOpen && c.hasPermit) ≤ l.countP (·.isOpen) :=
    countP_mono_left fun c _ both => (and_eq_true_iff.mp both).1
  have first := less before
  have last := less behind
  simp [permittedCount, TcpListener.openCount, split, opened, gone]
  omega

abbrev Leads (s t : TcpListener) : Prop := Reaches step (fun _ _ => True) s t

lemma Leaked.vacate (leaked : Leaked n s) (acquiring : s.acceptLoop = .acquiring)
    (room : s.permittedCount < n) :
    ∃ t, Leads s t ∧ Leaked n t ∧ t.acceptLoop = .acquiring ∧ 0 < t.available ∧
      t.permittedCount = s.permittedCount := by
  by_cases free : 0 < s.available
  · exact ⟨s, .refl, leaked, acquiring, free, rfl⟩
  · have balanced := leaked.balanced
    simp only [Balanced, acquiring, AcceptLoop.permits] at balanced
    have waiting : ∃ c ∈ s.connections, c.hasPermit = true ∧ c.isOpen = false := by
      by_contra none
      push Not at none
      have covered : s.connections.countP (·.hasPermit) ≤ s.permittedCount :=
        countP_mono_left fun c mem held =>
          and_eq_true_iff.mpr ⟨by simpa using none c mem held, held⟩
      omega
    obtain ⟨c, mem, held, shut⟩ := waiting
    obtain ⟨i, at_i⟩ := mem_iff_getElem?.mp mem
    have finished := AcceptedConnection.next_finish s.useIoUringForSession held shut
    have taken : s.step (.connection i .finish) = some { s with
        available := s.available + 1, connections := s.connections.set i .closed } := by
      simp only [step, at_i, bind, Option.bind, finished, held]
      rfl
    have change := countP_set_add (p := fun c => c.isOpen && c.hasPermit) (d := .closed) at_i
    simp only [shut, Bool.false_and, false_eq_true, if_false] at change
    refine ⟨_, Reaches.refl.tail trivial taken, ⟨leaked.balanced.step taken, leaked.live, ?_⟩,
      acquiring, Nat.succ_pos _, ?_⟩
    · obtain ⟨leak, there, opened, gone⟩ := leaked.leak
      obtain ⟨j, at_j⟩ := mem_iff_getElem?.mp there
      have other : i ≠ j := by
        rintro rfl
        cases at_i.symm.trans at_j
        cases shut.symm.trans opened
      exact ⟨leak, mem_of_getElem? ((List.getElem?_set_ne other).trans at_j), opened, gone⟩
    · exact change

lemma Leaked.more (leaked : Leaked n s) (room : s.permittedCount < n) :
    ∃ t, Leads s t ∧ Leaked n t ∧ t.permittedCount = s.permittedCount + 1 := by
  have accepts {u : TcpListener} (leaked : Leaked n u) (accepting : u.acceptLoop = .accepting) :
      ∃ t, Leads u t ∧ Leaked n t ∧ t.permittedCount = u.permittedCount + 1 := by
    have taken : u.step .accept = some { u with
        acceptLoop := .acquiring, connections := u.connections ++ [.spawned] } := if_pos accepting
    refine ⟨_, Reaches.refl.tail trivial taken, ⟨leaked.balanced.step taken, nofun, ?_⟩, ?_⟩
    · obtain ⟨c, mem, leak⟩ := leaked.leak
      exact ⟨c, mem_append_left _ mem, leak⟩
    · exact countP_append
  have acquires {u : TcpListener} (leaked : Leaked n u) (acquiring : u.acceptLoop = .acquiring)
      (room : u.permittedCount < n) :
      ∃ t, Leads u t ∧ Leaked n t ∧ t.permittedCount = u.permittedCount + 1 := by
    obtain ⟨v, led, leaked, acquiring, free, count⟩ := leaked.vacate acquiring room
    have taken : v.step .acquire = some { v with
        available := v.available - 1, acceptLoop := .accepting } := if_pos ⟨acquiring, free⟩
    obtain ⟨t, led', leaked', count'⟩ :=
      accepts ⟨leaked.balanced.step taken, nofun, leaked.leak⟩ rfl
    exact ⟨t, (led.tail trivial taken).trans led', leaked', count'.trans (by rw [← count]; rfl)⟩
  cases loop : s.acceptLoop with
  | accepting => exact accepts leaked loop
  | acquiring => exact acquires leaked loop room
  | sleeping =>
    have taken : s.step .wake = some { s with acceptLoop := .acquiring } := if_pos loop
    obtain ⟨t, led, leaked', count⟩ :=
      acquires ⟨leaked.balanced.step taken, nofun, leaked.leak⟩ rfl room
    exact ⟨t, (Reaches.refl.tail trivial taken).trans led, leaked', count⟩
  | stopped => exact absurd loop leaked.live

lemma Leaked.overflows (leaked : Leaked n s) : ∃ t, Leads s t ∧ n < t.openCount := by
  induction left : n - s.permittedCount generalizing s with
  | zero => exact ⟨s, .refl, lt_of_le_of_lt (Nat.le_of_sub_eq_zero left) leaked.openCount⟩
  | succ left' ih =>
    obtain ⟨t, led, leaked', more⟩ := leaked.more (by omega)
    obtain ⟨u, led', exceeded⟩ := ih leaked' (by omega)
    exact ⟨u, led.trans led', exceeded⟩

lemma Bounded.leak (bounded : Bounded n s) (taken : s.step a = some t) (leaks : ¬ s.Orderly a) :
    Leaked n t := by
  cases a with
  | connection i e =>
    simp only [Orderly] at leaks
    push Not at leaks
    obtain ⟨live, c, at_i, leaks⟩ := leaks
    have balanced := bounded.balanced.step taken
    obtain ⟨c', d, at_i', next, rfl⟩ := step_connection taken
    cases at_i.symm.trans at_i'
    have inside : i < s.connections.length := (List.getElem?_eq_some_iff.mp at_i).1
    exact ⟨balanced, live, d, mem_set inside d, AcceptedConnection.next_of_leaks next leaks⟩
  | acquire | accept | acceptFailed | wake | abort => exact absurd trivial leaks

/-- At most `max_connections` are open as long as no permit is given back early.  When one is, the
listener can go beyond. -/
theorem max_connections_enforced (positive : 1 ≤ n) {useIoUring : Bool} {start : TcpListener}
    (created : createAndSpawn (some n) useIoUring = some start) :
    (∀ s, Reaches step Orderly start s → s.openCount ≤ n) ∧
    ∀ s a t, Reaches step Orderly start s → s.step a = some t → ¬ s.Orderly a →
      ∃ u, Reaches step (fun _ _ => True) t u ∧ n < u.openCount := by
  have fresh : Bounded n start := by
    simp only [createAndSpawn, getD_some, max_eq_left positive] at created
    split at created
    · cases created
      exact ⟨rfl, fun _ => nofun, Nat.zero_le n⟩
    · cases created
  have kept {s : TcpListener} (reached : Reaches step Orderly start s) : Bounded n s :=
    reached.invariant (fun _ _ _ bounded orderly taken => bounded.step orderly taken) fresh
  constructor
  · intro s reached
    exact (kept reached).bound
  · intro s a t reached taken leaks
    exact ((kept reached).leak taken leaks).overflows

/-- A session of a tokio listener is shut and gives back its permit, and the next peer is let in. -/
theorem max_connections_enforced_one : ∃ start s, createAndSpawn (some 1) false = some start ∧
      run step start [.acquire, .accept, .connection 0 (.applyTcpSocketOptions true),
        .connection 0 .shutdownStream, .connection 0 .finish, .acquire, .accept] = some s ∧
      s.openCount ≤ 1 := by
  have orderly : Permitted step Orderly ⟨false, 1, .acquiring, []⟩ [.acquire, .accept,
      .connection 0 (.applyTcpSocketOptions true), .connection 0 .shutdownStream,
      .connection 0 .finish, .acquire, .accept] :=
    ⟨trivial, _, rfl, trivial, _, rfl, fun _ => by decide, _, rfl, fun _ => by decide, _, rfl,
      fun _ => by decide, _, rfl, trivial, _, rfl, trivial, _, rfl, trivial⟩
  have created : createAndSpawn (some 1) false = some ⟨false, 1, .acquiring, []⟩ := rfl
  have reached := reaches_of_permitted orderly rfl
  exact ⟨_, _, created, rfl, (max_connections_enforced le_rfl created).1 _ reached⟩

/-- Two are open: the first was handed to the io_uring worker, or its options cannot be applied and
its stream is not yet dropped. -/
theorem second_connection_accepted : ((createAndSpawn (some 1) true).bind fun start =>
      (run step start [.acquire, .accept, .connection 0 (.intoStd true),
        .connection 0 (.applyTcpSocketOptions true), .connection 0 (.sendRegisterExternalFd true),
        .connection 0 (.reply true), .connection 0 .finish, .acquire, .accept]).map openCount) =
      some 2 ∧
    ((createAndSpawn (some 1) false).bind fun start =>
      (run step start [.acquire, .accept, .connection 0 (.applyTcpSocketOptions false),
        .connection 0 .finish, .acquire, .accept]).map openCount) = some 2 := by
  decide

end TcpListener

end Rzmq
