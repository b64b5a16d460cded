import Rzmq.Socket.Rep

/-! A caller that has a REP socket to itself: a request taken by `recv`, call after call, and by
`recv_multipart`. -/

namespace Rzmq

open Function Transition

variable {α : Type}

namespace Rep

/-- The call of task `t` goes on to its end, with nothing between its steps; `none` if it waits. -/
def drive (t : Nat) : Nat → Rep α → Option (Rep α)
  | 0, _ => none
  | k + 1, s =>
    match s.calls t with
    | .idle => some s
    | _ => (s.step (.advance t)).bind (drive t k)

def recvAlone (t : Nat) (s : Rep α) : Option (Rep α) := (s.step (.recvBegin t)).bind (drive t 5)

def recvMultipartAlone (t : Nat) (s : Rep α) : Option (Rep α) :=
  (s.step (.multiBegin t)).bind (drive t 5)

def recvTimes (t : Nat) : Nat → Rep α → Option (Rep α)
  | 0, s => some s
  | k + 1, s => (s.recvAlone t).bind (recvTimes t k)

def recvUntilLast (t : Nat) : Nat → Rep α → Option (Rep α)
  | 0, _ => none
  | k + 1, s =>
    (s.recvAlone t).bind fun s' =>
      match s'.returned.getLast? with
      | some (.received [m]) => if m.isMore then recvUntilLast t k s' else some s'
      | _ => some s'

structure Asked (s : Rep α) (t : Nat) (r : Request α) : Prop where
  running : s.running = true
  ready : s.state = .readyToReceive
  idle : s.calls t = .idle
  empty : s.orchestrator.currentRecvFramesBuffer = []
  queued : ∃ n rest, s.orchestrator.mainIncomingQueue.items = (r.info n, r.payload) :: rest
  framed : Framed r.frames

/-- The caller gets all frames from `recv`, and may send after the last one and not before. -/
structure FrameByFrame (s : Rep α) (t : Nat) (payload : List (Msg α)) : Prop where
  all : ∃ s', s.recvUntilLast t payload.length = some s' ∧
    s'.returned = s.returned ++ payload.map (fun m => .received [m]) ∧
    ∃ info, s'.peerToReplyTo = .ok info
  before : ∀ k < payload.length, ∃ s', s.recvTimes t k = some s' ∧
    ∀ info, s'.peerToReplyTo ≠ .ok info

def AllAtOnce (s : Rep α) (t : Nat) (payload : List (Msg α)) : Prop :=
  ∃ s', s.recvMultipartAlone t = some s' ∧ s'.returned = s.returned ++ [.received payload] ∧
    ∃ info, s'.peerToReplyTo = .ok info

variable {s : Rep α} {t : Nat} {r : Request α}

lemma Asked.popped (asked : s.Asked t r) : ∃ n o, s.orchestrator.recvItemFromMainQueue s.rcvtimeo =
      some (.ok (r.info n, r.payload), o) := by
  obtain ⟨n, behind, items⟩ := asked.queued
  exact ⟨n, _, IncomingMessageOrchestrator.recvItemFromMainQueue_cons items s.rcvtimeo⟩

lemma recvAlone_first (asked : s.Asked t r) {first rest} (payload : r.payload = first :: rest) :
    ∃ s' n, s.recvAlone t = some s' ∧ s'.returned = s.returned ++ [.received [first]] ∧
      s'.state = .receivedRequest (r.info n) ∧ s'.running = true ∧ s'.calls t = .idle := by
  obtain ⟨n, o, popped⟩ := asked.popped
  rw [payload] at popped
  generalize ran : s.recvAlone t = result
  simp [recvAlone, step, recvBegin, receiveBegin, asked.idle, asked.running, asked.ready,
    RepState.isReady, drive, advance, setCall, RecvMessage.poll, asked.empty, pop, popped,
    relocate, note, finish] at ran
  subst ran
  exact ⟨_, n, rfl, by simp⟩

lemma recvMultipartAlone_all (asked : s.Asked t r) : s.AllAtOnce t r.payload := by
  obtain ⟨n, o, popped⟩ := asked.popped
  have cleared : s.orchestrator.resetRecvMessageBuffer = s.orchestrator := by
    rw [IncomingMessageOrchestrator.resetRecvMessageBuffer, ← asked.empty]
  unfold AllAtOnce
  generalize ran : s.recvMultipartAlone t = result
  simp [recvMultipartAlone, step, multiBegin, receiveBegin, asked.idle, asked.running, asked.ready,
    RepState.isReady, drive, advance, setCall, clearBuffer, cleared, pop, popped, relocate, note,
    finish] at ran
  subst ran
  exact ⟨_, rfl, by simp [peerToReplyTo]⟩

lemma framed_payload (framed : Framed r.frames) (some : r.payload ≠ []) : Framed r.payload := by
  rw [← splitRequest_append r.frames] at framed
  exact framed.of_append some

/-- The caller gets the request frame by frame, and may send only when it has it all, exactly if it
has one frame of payload. -/
theorem recv_frames_iff (asked : s.Asked t r) (some : r.payload ≠ []) :
    s.FrameByFrame t r.payload ∧ s.AllAtOnce t r.payload ↔ r.payload.length = 1 := by
  obtain ⟨first, rest, payload⟩ := List.exists_cons_of_ne_nil some
  obtain ⟨s', n, ran, returned, state, -, -⟩ := recvAlone_first asked payload
  have sendable : s'.peerToReplyTo = .ok (r.info n) := by rw [peerToReplyTo, state]
  constructor
  · rintro ⟨frames, -⟩
    by_contra several
    have more : 1 < r.payload.length := by
      have := List.length_pos_iff.mpr some
      omega
    obtain ⟨s'', ran', silent⟩ := frames.before 1 more
    rw [recvTimes, ran] at ran'
    cases ran'
    exact silent _ sendable
  · intro single
    have alone : rest = [] := by simpa [payload] using single
    subst alone
    have last : first.isMore = false := by
      have framed := framed_payload asked.framed some
      rw [payload] at framed
      exact framed
    refine ⟨⟨⟨s', ?_, ?_, _, sendable⟩, ?_⟩, recvMultipartAlone_all asked⟩
    · simp [single, recvUntilLast, ran, returned, last]
    · rw [returned, payload]
      rfl
    · intro k bound
      obtain rfl : k = 0 := by omega
      exact ⟨s, rfl, by simp [peerToReplyTo, asked.ready]⟩

theorem recv_frames_iff_one : ∃ s : Rep UInt8,
      run step (new 1 .infinite) (asking 1 "a" [Msg.new.setMore true, octet 7 false]) = some s ∧
      s.FrameByFrame 1 [octet 7 false] ∧ s.AllAtOnce 1 [octet 7 false] := by
  refine ⟨_, rfl, ?_⟩
  refine (recv_frames_iff (r := ⟨1, "a", [Msg.new.setMore true, octet 7 false]⟩) ?_ ?_).mpr rfl
  · exact ⟨rfl, rfl, rfl, rfl, ⟨0, [], rfl⟩, ⟨rfl, rfl⟩⟩
  · decide +kernel

/-- A request of two frames: the second `recv` fails, and a reply could be sent after the first. -/
theorem second_recv_refused : ∃ s s' : Rep UInt8,
      run step (new 1 .infinite)
        (asking 1 "a" [Msg.new.setMore true, octet 7 true, octet 8 false]) = some s ∧
      s.recvUntilLast 1 2 = some s' ∧
      s'.returned = [.received [octet 7 true],
        .failed (.invalidState "REP socket must call send() before receiving again")] ∧
      ¬ (s.FrameByFrame 1 [octet 7 true, octet 8 false] ∧
        s.AllAtOnce 1 [octet 7 true, octet 8 false]) := by
  refine ⟨_, _, rfl, rfl, by decide +kernel, ?_⟩
  rintro ⟨frames, -⟩
  obtain ⟨s', ran, returned, -⟩ := frames.all
  cases ran
  revert returned
  decide +kernel

end Rep

end Rzmq
