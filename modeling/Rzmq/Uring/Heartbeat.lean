import Mathlib.Logic.Basic
import Rzmq.Lib.Transition

/-! The heartbeat of the io_uring handler in its data phase.  `prepare_sqes` submits a PING, the
next completion takes it for sent, and the read path clears the wait when a PONG is there; what the
kernel reports comes in any order. -/

namespace Rzmq

open Option Transition

structure HeartbeatConfig where
  ivl : Option Nat
  timeout : Nat
  v2 : Bool

inductive HeartbeatPhase where
  | data
  | error
  | timedOut
deriving DecidableEq

structure UringHeartbeat where
  phase : HeartbeatPhase := .data
  now : Nat := 0
  lastActivity : Nat := 0
  lastPingSent : Option Nat := none
  waitingForPong : Bool := false
  lastSentWasPing : Bool := false
  outgoing : Nat := 0
  /-- A PONG was received after every PING that was submitted. -/
  answered : Bool := true

namespace UringHeartbeat

inductive ReadFrame where
  | ping
  | pong
  | errorCommand
  | otherCommand
  /-- Also a read that completes no frame. -/
  | message

inductive Action where
  | tick (elapsed : Nat)
  | appData
  /-- A completion without an error, of a PING or of another operation. -/
  | completion
  | frame (f : ReadFrame)
  /-- `prepare_sqes`, with or without a read that it has to submit. -/
  | prepareSqes (reads : Bool)
  /-- A fatal completion, a frame that cannot be written, or a full upstream channel. -/
  | fail

variable (config : HeartbeatConfig)

def prepareSqes (s : UringHeartbeat) : UringHeartbeat :=
  if s.waitingForPong then
    if s.lastPingSent.any fun sent => config.timeout < s.now - sent then
      { s with phase := .timedOut } else s
  else if !config.v2 && config.ivl.any fun ivl => ivl ≤ s.now - s.lastActivity then
    { s with lastSentWasPing := true, answered := false }
  else s

def readFrame (s : UringHeartbeat) (f : ReadFrame) : UringHeartbeat :=
  let s := { s with lastActivity := s.now }
  match f with
  | .message => s
  | .errorCommand => { s with phase := .error }
  | .pong => if config.v2 then { s with phase := .error } else
    { s with waitingForPong := false, lastPingSent := none, answered := true }
  | _ => if config.v2 then { s with phase := .error } else s

def completion (s : UringHeartbeat) : UringHeartbeat :=
  let s := { s with lastActivity := s.now, outgoing := s.outgoing - 1 }
  if s.lastSentWasPing then
    { s with waitingForPong := true, lastPingSent := some s.now, lastSentWasPing := false }
  else s

def step (s : UringHeartbeat) (a : Action) : Option UringHeartbeat :=
  if s.phase ≠ .data then none else some <| match a with
    | .tick elapsed => { s with now := s.now + elapsed }
    | .appData => if s.outgoing = 0 then s else { s with outgoing := s.outgoing + 1 }
    | .completion => s.completion
    | .frame f => s.readFrame config f
    | .prepareSqes reads =>
      if reads then s
      else if 0 < s.outgoing then { s with outgoing := s.outgoing - 1 } else s.prepareSqes config
    | .fail => { s with phase := .error }

/-- No PONG is read between the submission of a PING and the next completion. -/
def Acknowledged (s : UringHeartbeat) (a : Action) : Prop :=
  a = .frame .pong → config.v2 ∨ ¬ s.lastSentWasPing

def Sound (s : UringHeartbeat) : Prop := s.answered → ¬ s.waitingForPong ∧ s.phase ≠ .timedOut

/-- Of an answered PING no completion is due. -/
def Kept (s : UringHeartbeat) : Prop := s.Sound ∧ (s.answered → ¬ s.lastSentWasPing)

variable {config}

lemma readFrame_kept {s} (kept : s.Kept) (data : s.phase = .data) (f : ReadFrame)
    (acknowledged : Acknowledged config s (.frame f)) : (s.readFrame config f).Kept := by
  obtain ⟨sound, due⟩ := kept
  have failed (answered : s.answered) := (sound answered).1
  cases f with
  | message => exact ⟨sound, due⟩
  | errorCommand => exact ⟨fun answered => ⟨failed answered, nofun⟩, due⟩
  | pong =>
    dsimp only [readFrame]
    split
    · exact ⟨fun answered => ⟨failed answered, nofun⟩, due⟩
    · rename_i v3
      exact ⟨fun _ => ⟨nofun, by simp [data]⟩, fun _ => (acknowledged rfl).resolve_left v3⟩
  | ping | otherCommand =>
    dsimp only [readFrame]
    split
    · exact ⟨fun answered => ⟨failed answered, nofun⟩, due⟩
    · exact ⟨sound, due⟩

lemma prepareSqes_kept {s : UringHeartbeat} (kept : s.Kept) : (s.prepareSqes config).Kept := by
  unfold prepareSqes
  split
  · rename_i waiting
    have unanswered : ¬ s.answered := fun answered => (kept.1 answered).1 waiting
    split
    · exact ⟨fun answered => absurd answered unanswered, kept.2⟩
    · exact kept
  · split
    · exact ⟨nofun, nofun⟩
    · exact kept

lemma step_kept {s t : UringHeartbeat} {a : Action} (kept : s.Kept)
    (acknowledged : Acknowledged config s a) (taken : step config s a = some t) : t.Kept := by
  obtain ⟨data, taken⟩ := ite_none_left_eq_some.mp taken
  cases a <;> cases taken
  case tick => exact kept
  case appData =>
    dsimp only
    split <;> exact kept
  case completion =>
    dsimp only [completion]
    split
    · rename_i sent
      exact ⟨fun answered => absurd sent (kept.2 answered), nofun⟩
    · exact kept
  case frame f => exact readFrame_kept kept (not_not.mp data) f acknowledged
  case prepareSqes reads =>
    dsimp only
    split
    · exact kept
    split
    · exact kept
    · exact prepareSqes_kept kept
  case fail => exact ⟨fun answered => ⟨(kept.1 answered).1, nofun⟩, kept.2⟩

/-- The completion that is due after an early PONG waits for another one. -/
lemma step_unacknowledged {s t a} (taken : step config s a = some t)
    (early : ¬ Acknowledged config s a) :
    ∃ u, Reaches (step config) (fun _ _ => True) t u ∧ ¬ u.Sound := by
  obtain ⟨rfl, still⟩ := Classical.not_imp.mp early
  obtain ⟨v3, sent⟩ := not_or.mp still
  obtain ⟨data, ⟨⟩⟩ := ite_none_left_eq_some.mp taken
  have read : s.readFrame config .pong = { s with
      lastActivity := s.now, waitingForPong := false, lastPingSent := none, answered := true } :=
    if_neg v3
  refine ⟨_, Reaches.refl.tail (a := .completion) trivial (if_neg ?_), ?_⟩
  · simpa [read] using data
  · simp [read, Sound, completion, not_not.mp sent]

variable (config) in
/-- The handler waits for a PONG, or ends with a timeout, only behind a PING without a PONG, as
long as no PONG is read before the completion of its PING; after one that is, it can. -/
theorem heartbeat_sound (outgoing : Nat) :
    (∀ s, Reaches (step config) (Acknowledged config) { outgoing } s → s.Sound) ∧
    ∀ s a t, Reaches (step config) (Acknowledged config) { outgoing } s →
      step config s a = some t → ¬ Acknowledged config s a →
        ∃ u, Reaches (step config) (fun _ _ => True) t u ∧ ¬ u.Sound := by
  refine ⟨fun s reached => ?_, fun _ _ _ _ => step_unacknowledged⟩
  have kept : s.Kept :=
    reached.invariant (fun _ _ _ => step_kept) ⟨fun _ => ⟨nofun, nofun⟩, nofun⟩
  exact kept.1

theorem heartbeat_sound_answered : ∃ s, run (step ⟨some 1, 1, false⟩) {}
    [.tick 1, .prepareSqes false, .completion, .frame .pong] = some s ∧ s.answered ∧ s.Sound := by
  refine exists_of_permitted ?_ rfl fun reached => ⟨rfl, (heartbeat_sound _ 0).1 _ reached⟩
  iterate 3 refine ⟨fun pong => (by cases pong), _, rfl, ?_⟩
  exact ⟨fun _ => .inr Bool.false_ne_true, _, rfl, trivial⟩

/-- The PONG comes before the completion of the PING, and the connection times out. -/
theorem answered_times_out : ∃ s, run (step ⟨some 1, 1, false⟩) {}
    [.tick 1, .prepareSqes false, .frame .pong, .completion, .tick 2, .prepareSqes false] = some s ∧
    s.answered ∧ s.phase = .timedOut :=
  ⟨_, rfl, rfl, rfl⟩

end UringHeartbeat

end Rzmq
