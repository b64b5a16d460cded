import Rzmq.Socket.Pull
import Mathlib.Algebra.BigOperators.Fin

/-! The connections of a PULL socket side by side.  A step moves one of them and leaves the others
as they are, so what `Flow` says of each holds along every run. -/

namespace Rzmq

open Transition Function IncomingMessageOrchestrator

variable {n : Nat} {α : Type}

def ofConnection (c : Fin n) (items : List (Fin n × List (Msg α))) : List (List (Msg α)) :=
  (items.filter fun item => item.1 = c).map Prod.snd

@[simp] lemma ofConnection_append (c : Fin n) (items more : List (Fin n × List (Msg α))) :
    ofConnection c (items ++ more) = ofConnection c items ++ ofConnection c more := by
  simp [ofConnection]

@[simp] lemma ofConnection_own (c : Fin n) (message : List (Msg α)) :
    ofConnection c [(c, message)] = [message] := by
  simp [ofConnection]

lemma ofConnection_other {c d : Fin n} (other : d ≠ c) (message : List (Msg α)) :
    ofConnection d [(c, message)] = [] := by
  simp [ofConnection, other.symm]

namespace Pull

def items (s : Pull n α) : List (Fin n × List (Msg α)) := s.orchestrator.mainIncomingQueue.items

def lane (s : Pull n α) (c : Fin n) : Lane α where
  outgoing := s.outgoing c
  stream := s.stream c
  session := s.sessions c
  collected := s.orchestrator.partialPipeMessages c
  passed := ofConnection c (s.returned ++ s.items)

/-- Connection `c` has gone from `v` to `w`, and the queue has gained what `w` has passed on. -/
structure MovesTo (s t : Pull n α) (c : Fin n) (w : Lane α) : Prop where
  own : t.lane c = w
  others : ∀ d, d ≠ c → t.lane d = s.lane d
  gained : t.items.length + (s.lane c).passed.length = s.items.length + w.passed.length
  closed : t.orchestrator.mainIncomingQueue.closed = s.orchestrator.mainIncomingQueue.closed
  hwm : t.orchestrator.mainIncomingQueue.hwm = s.orchestrator.mainIncomingQueue.hwm

lemma movesTo_session (s : Pull n α) (c : Fin n) (session) :
    MovesTo s (s.setSession c session) c { s.lane c with session } where
  own := by simp [lane, setSession, items]
  others d other := by simp [lane, setSession, items, other]
  gained := rfl
  closed := rfl
  hwm := rfl

lemma cancel_moves {s t : Pull n α} {c : Fin n} (taken : s.cancel c = some t) :
    (s.lane c).session.stage = .reading ∧
      MovesTo s t c { s.lane c with session := (s.lane c).session.setStage .polling } := by
  unfold cancel at taken
  split at taken
  · rename_i reads
    cases taken
    exact ⟨reads, s.movesTo_session c _⟩
  · cases taken

lemma recvMultipart_moves {s t : Pull n α} (taken : s.recvMultipart = some t) :
    (∀ c, t.lane c = s.lane c) ∧ t.items.length < s.items.length ∧
      t.orchestrator.mainIncomingQueue.closed = s.orchestrator.mainIncomingQueue.closed ∧
      t.orchestrator.mainIncomingQueue.hwm = s.orchestrator.mainIncomingQueue.hwm := by
  unfold recvMultipart at taken
  split at taken
  · rename_i item o polled
    obtain ⟨first, rest, queued, ⟨⟩, rfl⟩ | ⟨e, ⟨⟩, -⟩ := recvItemFromMainQueue_ready polled
    cases taken
    have queued : s.items = item :: rest := queued
    refine ⟨fun c => ?_, ?_, rfl, rfl⟩
    · simp only [lane, queued]
      simp [items, resetRecvMessageBuffer]
    · rw [queued]
      simp [items]
  · cases taken

variable [Octet α]

/-- All steps but two: a read that brings the buffer of its session above the limit, and a push
that is given up on a full queue. -/
def Roomy (s : Pull n α) : PullAction n → Prop
  | .read c bytes => (s.sessions c).networkReadBuffer.length + bytes ≤ maxBufferSize
  | .queueExpire _ => False
  | _ => True

variable {s t : Pull n α} {c : Fin n}

lemma write_moves (taken : s.write c = some t) : ∃ w, Lane.Move (s.lane c) w ∧ MovesTo s t c w := by
  unfold write at taken
  split at taken
  · cases taken
  · rename_i batch rest next
    rw [writeDataMsgs_ok] at taken
    cases taken
    exact ⟨_, .write (v := s.lane c) next,
      { own := by simp [lane, items]
        others := fun d other => by simp [lane, items, other]
        gained := rfl
        closed := rfl
        hwm := rfl }⟩

lemma poll_moves (taken : s.poll c = some t) : ∃ w, Lane.Move (s.lane c) w ∧ MovesTo s t c w := by
  unfold poll at taken
  split at taken
  · rename_i polls
    cases taken
    exact ⟨_, .poll (v := s.lane c) polls, s.movesTo_session c _⟩
  · cases taken

lemma read_moves {bytes : Nat} (taken : s.read c bytes = some t)
    (fits : (s.sessions c).networkReadBuffer.length + bytes ≤ maxBufferSize) :
    ∃ w, Lane.Move (s.lane c) w ∧ MovesTo s t c w := by
  unfold read at taken
  split at taken
  · rename_i reads
    split at taken
    · rename_i some
      cases taken
      exact ⟨_, .read (v := s.lane c) reads some fits,
        { own := by simp [lane, items, setSession]
          others := fun d other => by simp [lane, items, setSession, other]
          gained := rfl
          closed := rfl
          hwm := rfl }⟩
    · cases taken
  · cases taken

lemma handle_moves (taken : s.handle c = some t) :
    ∃ w, Lane.Move (s.lane c) w ∧ MovesTo s t c w := by
  unfold handle at taken
  split at taken
  · rename_i msg handles
    split at taken
    · rename_i command
      cases taken
      exact ⟨_, .handleCommand (v := s.lane c) handles command, s.movesTo_session c _⟩
    · rename_i data
      by_cases more : msg.isMore = true
      · simp only [accumulatePipeFrame, more, if_true] at taken
        cases taken
        exact ⟨_, .handleMore (v := s.lane c) handles (by simpa using data) more,
          { own := by simp [lane, items, setSession]
            others := fun d other => by
              simp [lane, items, setSession, other, Fin.val_ne_of_ne other]
            gained := rfl
            closed := rfl
            hwm := rfl }⟩
      · simp only [accumulatePipeFrame, more] at taken
        cases taken
        exact ⟨_, .handleLast (v := s.lane c) handles (by simpa using data) (by simpa using more),
          { own := by simp [lane, items, setSession]
            others := fun d other => by
              simp [lane, items, setSession, other, Fin.val_ne_of_ne other]
            gained := rfl
            closed := rfl
            hwm := rfl }⟩
  · cases taken

lemma queue_moves (taken : s.queue c = some t)
    (opened : s.orchestrator.mainIncomingQueue.closed = false) :
    ∃ w, Lane.Move (s.lane c) w ∧ MovesTo s t c w := by
  unfold queue at taken
  split at taken
  · rename_i message queueing
    split at taken
    · cases taken
    · rename_i o pushed
      cases taken
      rw [queueItem_ok pushed]
      exact ⟨_, .queue (v := s.lane c) queueing,
        { own := by simp [lane, items, setSession]
          others := fun d other => by
            simp [lane, items, setSession, other, ofConnection_other other]
          gained := by
            simp [lane, items, ofConnection_append]
            omega
          closed := rfl
          hwm := rfl }⟩
    · rename_i e refused
      exact absurd refused (queueItem_open opened _ e)
  · cases taken

/-! ## Every run -/

structure Conserved (messages : Fin n → List (List (Msg α))) (maxMsgSize : Fin n → Int)
    (s : Pull n α) : Prop where
  flow : ∀ c, Flow (messages c) (maxMsgSize c) (s.lane c)
  opened : s.orchestrator.mainIncomingQueue.closed = false
  positive : 0 < s.orchestrator.mainIncomingQueue.hwm

namespace Conserved

variable {messages : Fin n → List (List (Msg α))} {maxMsgSize : Fin n → Int} {s t : Pull n α}

section

variable (h : Conserved messages maxMsgSize s)
include h

lemma movesTo {c w} (flow : Flow (messages c) (maxMsgSize c) w) (moved : MovesTo s t c w) :
    Conserved messages maxMsgSize t := by
  refine ⟨fun d => ?_, moved.closed.trans h.opened, moved.hwm ▸ h.positive⟩
  by_cases own : d = c
  · subst own
    rw [moved.own]
    exact flow
  · rw [moved.others d own]
    exact h.flow d

lemma recvMultipart (taken : s.recvMultipart = some t) : Conserved messages maxMsgSize t := by
  obtain ⟨lanes, -, closed, hwm⟩ := recvMultipart_moves taken
  exact ⟨fun c => by rw [lanes c]; exact h.flow c, closed.trans h.opened, hwm ▸ h.positive⟩

lemma moves {a} (roomy : Roomy s a) (taken : s.step a = some t) :
    (∃ c w, Lane.Move (s.lane c) w ∧ MovesTo s t c w) ∨ s.recvMultipart = some t ∨
      ∃ c, a = .cancel c := by
  cases a with
  | write c => exact .inl ⟨c, write_moves taken⟩
  | poll c => exact .inl ⟨c, poll_moves taken⟩
  | read c bytes => exact .inl ⟨c, read_moves taken roomy⟩
  | cancel c => exact .inr (.inr ⟨c, rfl⟩)
  | handle c => exact .inl ⟨c, handle_moves taken⟩
  | queue c => exact .inl ⟨c, queue_moves taken h.opened⟩
  | queueExpire c => exact roomy.elim
  | recvMultipart => exact .inr (.inl taken)

lemma step {a} (roomy : Roomy s a) (taken : s.step a = some t) :
    Conserved messages maxMsgSize t := by
  rcases h.moves roomy taken with ⟨c, w, move, moved⟩ | received | ⟨c, rfl⟩
  · exact h.movesTo ((h.flow c).move move) moved
  · exact h.recvMultipart received
  · obtain ⟨reads, moved⟩ := cancel_moves taken
    obtain ⟨rest, later, flowing⟩ := h.flow c
    exact h.movesTo ⟨rest, later, flowing.cancel reads⟩ moved

lemma returned_prefix (c : Fin n) : ofConnection c s.returned <+: messages c := by
  obtain ⟨rest, later, flowing⟩ := h.flow c
  rw [flowing.conserved]
  refine ⟨ofConnection c s.items ++ ((s.lane c).queueing ++ later), ?_⟩
  simp [lane]

end

end Conserved

def rank (s : Pull n α) : Nat := ∑ c, (s.lane c).rank + s.items.length

lemma rank_movesTo {s t : Pull n α} {c : Fin n} {w : Lane α} (moved : MovesTo s t c w)
    (less : w.rank + w.passed.length < (s.lane c).rank + (s.lane c).passed.length) :
    t.rank < s.rank := by
  have split (u : Pull n α) : (u.lane c).rank + ∑ d ∈ Finset.univ.erase c, (u.lane d).rank =
      ∑ d, (u.lane d).rank :=
    Finset.add_sum_erase _ (fun d => (u.lane d).rank) (Finset.mem_univ c)
  have rest : ∑ d ∈ Finset.univ.erase c, (t.lane d).rank =
      ∑ d ∈ Finset.univ.erase c, (s.lane d).rank :=
    Finset.sum_congr rfl fun d mem => by rw [moved.others d (Finset.ne_of_mem_erase mem)]
  have before := split s
  have after := split t
  rw [rest, moved.own] at after
  have gained := moved.gained
  unfold rank
  omega

end Pull

end Rzmq
