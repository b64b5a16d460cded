import Rzmq.Socket.Dealer.Outbox
import Rzmq.Socket.Pub
import Rzmq.Socket.Push
import Rzmq.Socket.Rep
import Rzmq.Socket.Router.Send

/-! What `send_multipart` hands to a connection, for the five sockets that have one: PUSH, PUB,
DEALER and REP set the MORE flags themselves, ROUTER relies on the caller for all but the last. -/

namespace Rzmq

open List Option Function Transition
open RouterSocket (twoPeers)
open RouterSendStrategy (enveloped prepareWireFrames)

variable {α : Type}

/-- The frames are those of one message, and a receiver that holds none of its pipe makes just this
message of them. -/
def OneMessage (wire : List (Msg α)) : Prop :=
  Framed wire ∧ ∀ (β : Type) (o : IncomingMessageOrchestrator β α) (pipe : Nat),
    o.partialPipeMessages pipe = [] → (o.accumulateFrames pipe wire).1 = [wire]

lemma Framed.oneMessage {wire : List (Msg α)} (framed : Framed wire) : OneMessage wire := by
  refine ⟨framed, fun β o pipe none => ?_⟩
  rw [o.accumulateFrames_framed pipe framed, none]
  rfl

/-! PUSH and PUB -/

lemma Push.multipart_framed {sndtimeo : Timeout} {s : Push α}
    (reached : Reaches step (fun _ _ => True) (new sndtimeo) s) {frames} {connection : Nat}
    (sent : (.sendMultipart frames, .ok (some connection)) ∈ s.returned) : Framed frames := by
  have wired : Wired Call.job destination none s.calls s.returned :=
    reached.invariant (fun _ _ _ wired _ taken => (passed_step taken).wired wired) ⟨nofun, nofun⟩
  exact wired.whole _ sent nofun frames rfl

lemma Pub.multipart_framed {s : Pub α} (reached : Reaches step (fun _ _ => True) new s)
    {frames} {accepted : List Nat} {connection : Nat}
    (sent : (.sendMultipart frames, .ok accepted) ∈ s.returned) (took : connection ∈ accepted) :
    Framed frames := by
  have wired : Wired Call.job audience ∅ s.calls s.returned :=
    reached.invariant (fun _ _ _ wired _ taken => (passed_step taken).wired wired) ⟨nofun, nofun⟩
  exact wired.whole _ sent (Finset.ne_empty_of_mem (mem_toFinset.mpr took)) frames rfl

/-! DEALER -/

lemma framed_prepare (framing : FramingLatch) {frames : List (Msg α)} (some : frames ≠ []) :
    Framed (prepareFullMultipartSendSequence framing frames) := by
  cases framing with
  | manual => exact framed_linked some
  | auto =>
    have present : frames.isEmpty = false := by simpa using some
    simp only [prepareFullMultipartSendSequence, present, Bool.false_eq_true, if_false]
    exact framed_linked (cons_ne_nil _ _)

namespace Dealer

variable {s s' : Dealer α} {t : Nat}

def Posed (_ : Dealer α) : Action α → Prop
  | .sendMultipartBegin _ frames => frames ≠ []
  | _ => True

def Call.Sound : Call α → Prop
  | .idle | .locking _ => True
  | .multiLocking frames _ | .multiWaiting frames _ => frames ≠ []
  | .starting wire => Framed wire
  | .attempting d | .picking d | .located d _ | .acquiring d _ _ _ | .delivering d _ _ _
  | .queueing d | .measuring d | .pushing d | .full d => Framed d.wire

/-- Whatever is promised is a message, and a connection is only handed what is promised. -/
structure Wired (s : Dealer α) : Prop where
  numbered : s.Numbered
  calls : ∀ t, (s.calls t).Sound
  okayed : ∀ m ∈ s.okayed, Framed m.frames
  outbox : ∀ m ∈ s.outbox.waiting ++ s.outbox.delivered, m ∈ s.okayed

lemma sound_update {calls : Nat → Call α} {c : Call α} (before : ∀ t, (calls t).Sound)
    (sound : c.Sound) : ∀ u, (update calls t c u).Sound :=
  (forall_update_iff calls fun _ c => c.Sound).mpr ⟨sound, fun u _ => before u⟩

section

variable (sound : ∀ t, (s.calls t).Sound)
include sound

lemma sound_fail (e : ZmqError) : ∀ u, ((s.fail t e).calls u).Sound := sound_update sound trivial

lemma sound_permitDenied {d : Direct α} (framed : Framed d.wire) (uri : String) (e : ZmqError) :
    ∀ u, ((s.permitDenied t d uri e).calls u).Sound := by
  unfold permitDenied
  split
  · exact sound_update sound framed
  · exact sound_update sound framed
  · exact sound_update sound framed
  · exact sound_fail sound _

lemma sound_lockTransaction (m : Msg α) : ∀ u, ((s.lockTransaction t m).calls u).Sound := by
  unfold lockTransaction
  split
  · exact sound_update sound trivial
  · split
    · exact sound_update sound trivial
    · exact sound_update sound trivial
  · exact sound_update sound (framed_prepare _ (cons_ne_nil _ _))
  · exact sound_update sound (framed_prepare _ (by simp))

lemma sound_advance (taken : s.advance t = some s') : ∀ u, (s'.calls u).Sound := by
  have mine := sound t
  unfold advance at taken
  split at taken
  case h_11 => cases taken
  all_goals
    rename_i call
    rw [call] at mine
  case h_7 =>
    unfold acquire at taken
    obtain ⟨answer, -, rfl⟩ := map_eq_some_iff.mp taken
    cases answer with
    | ok permits => exact sound_update sound mine
    | error e => exact sound_permitDenied sound mine _ e
  all_goals cases taken
  · exact sound_lockTransaction sound _
  · unfold lockMultipart
    split
    · exact sound_update sound (framed_prepare _ mine)
    · exact sound_fail sound _
    · exact sound_update sound mine
  · unfold start
    split
    · exact sound_fail sound _
    · exact sound_update sound mine
  · unfold attempt
    split
    · exact sound_update sound mine
    · split
      · exact sound_fail sound _
      · exact sound_update sound mine
  · unfold pick
    split
    · exact sound_update sound mine
    · dsimp only
      split
      · exact sound_update sound mine
      · exact sound_update sound mine
  · unfold locate
    split
    · exact sound_update sound mine
    · exact sound_update sound mine
  · unfold queueCheck
    split
    · exact sound_fail sound _
    · exact sound_update sound mine
  · unfold measure
    split
    · exact sound_update sound mine
    · split
      · exact sound_fail sound _
      · exact sound_update sound mine
  · exact sound_update sound trivial

end

lemma calls_processorDenied (c : Cycle α) (uri : String) (e : ZmqError) :
    (s.processorDenied c uri e).calls = s.calls := by
  unfold processorDenied
  split <;> rfl

lemma calls_processorAdvance (taken : s.processorAdvance = some s') : s'.calls = s.calls := by
  unfold processorAdvance at taken
  split at taken <;> try cases taken
  · unfold processorPop
    split
    · split <;> rfl
    · rfl
  · rfl
  · unfold processorCheck
    split
    · split <;> rfl
    · rfl
  · unfold processorPick
    split <;> rfl
  · unfold processorLocate
    split <;> rfl
  · unfold processorAcquire at taken
    obtain ⟨answer, -, rfl⟩ := map_eq_some_iff.mp taken
    cases answer with
    | ok permits => rfl
    | error e => exact calls_processorDenied _ _ e
  · rfl
  · rfl

lemma sound_step {a : Action α} (sound : ∀ t, (s.calls t).Sound) (posed : s.Posed a)
    (taken : s.step a = some s') : ∀ u, (s'.calls u).Sound := by
  cases a with
  | sendBegin t m =>
    simp only [step, sendBegin] at taken
    split at taken
    · split at taken <;> cases taken
      · exact sound_fail sound _
      · exact sound_update sound trivial
    · cases taken
  | sendMultipartBegin t frames =>
    simp only [step, sendMultipartBegin] at taken
    split at taken
    · split at taken <;> cases taken
      · exact sound_fail sound _
      · exact sound_update sound posed
    · cases taken
  | advance t => exact sound_advance sound taken
  | transactionDone t =>
    have mine := sound t
    simp only [step, transactionDone] at taken
    split at taken <;> cases taken
    rename_i call
    rw [call] at mine
    exact sound_update sound mine
  | transactionExpire t =>
    simp only [step, transactionExpire] at taken
    split at taken <;> cases taken
    exact sound_fail sound _
  | transactionClosing t =>
    simp only [step, transactionClosing] at taken
    split at taken
    · split at taken <;> cases taken
      exact sound_fail sound _
    · cases taken
  | permitExpire t =>
    have mine := sound t
    simp only [step, permitExpire] at taken
    split at taken
    · rename_i call
      rw [call] at mine
      split at taken <;> cases taken
      exact sound_permitDenied sound mine _ _
    · cases taken
  | accept t =>
    simp only [step, accept] at taken
    split at taken <;> cases taken
    exact sound_update sound trivial
  | refuse t e =>
    have mine := sound t
    simp only [step, refuse] at taken
    split at taken
    · rename_i call
      rw [call] at mine
      split at taken
      · cases taken
        exact sound_update sound mine
      · split at taken <;> cases taken
        · exact sound_update sound mine
        · exact sound_update sound trivial
    · cases taken
  | queueWake t =>
    have mine := sound t
    simp only [step, queueWake] at taken
    split at taken <;> cases taken
    rename_i call
    rw [call] at mine
    exact sound_update sound mine
  | queueExpire t =>
    simp only [step, queueExpire] at taken
    split at taken
    · split at taken <;> cases taken
      exact sound_fail sound _
    · cases taken
  | processorAdvance =>
    rw [calls_processorAdvance taken]
    exact sound
  | processorWake =>
    simp only [step, processorWake] at taken
    split at taken
    · split at taken <;> cases taken <;> exact sound
    · cases taken
  | processorPermitExpire =>
    simp only [step, processorPermitExpire] at taken
    split at taken
    · split at taken <;> cases taken
      rw [calls_processorDenied]
      exact sound
    · cases taken
  | processorAccept =>
    simp only [step, processorAccept] at taken
    split at taken <;> cases taken
    exact sound
  | processorRefuse e =>
    simp only [step, processorRefuse] at taken
    split at taken
    · split at taken
      · cases taken
        exact sound
      · split at taken <;> cases taken <;> exact sound
    · cases taken
  | attach p =>
    cases taken
    unfold attach
    split <;> exact sound
  | detach p =>
    cases taken
    unfold detach
    dsimp only
    split <;> exact sound
  | setEndpoint uri info | setPipeUri p uri | setOptions sndtimeo sndhwm | setManual | shutdown
  | stop =>
    cases taken
    exact sound

lemma promise_framed {a m} (sound : ∀ t, (s.calls t).Sound)
    (promises : s.event a = .direct m ∨ s.event a = .enqueue m) : Framed m.frames := by
  obtain ⟨t, d, rfl, mine⟩ := event_promise promises
  have framed := sound t
  rcases mine with ⟨uri, connection, pipe, call⟩ | call
  · rw [call] at framed
    exact framed
  · rw [call] at framed
    exact framed

lemma wired_step (s : Dealer α) (a : Action α) (s' : Dealer α) (wired : s.Wired)
    (posed : s.Posed a) (taken : s.step a = some s') : s'.Wired := by
  have moved := outbox_step wired.numbered taken
  refine ⟨numbered_step wired.numbered taken, sound_step wired.calls posed taken, ?_,
    moved.promised wired.outbox⟩
  generalize happens : s.event a = e at moved
  generalize becomes : s'.outbox = after at moved
  have okayed : s'.okayed = after.promised := by rw [← becomes]; rfl
  rw [okayed]
  cases moved with
  | direct fresh =>
    intro n mem
    rcases mem_append.mp mem with old | new
    · exact wired.okayed n old
    · rw [mem_singleton.mp new]
      exact promise_framed wired.calls (.inl happens)
  | enqueue fresh =>
    intro n mem
    rcases mem_append.mp mem with old | new
    · exact wired.okayed n old
    · rw [mem_singleton.mp new]
      exact promise_framed wired.calls (.inr happens)
  | quiet | pop | copy | putBack | deliver => exact wired.okayed

lemma multipart_framed {sndtimeo : Timeout} {sndhwm : Nat} {s : Dealer α}
    (reached : Reaches step Posed (new sndtimeo sndhwm) s) {delivery}
    (accepted : delivery ∈ s.accepted) : Framed delivery.2.frames := by
  have wired : s.Wired :=
    reached.invariant wired_step ⟨nofun, fun _ => trivial, nofun, nofun⟩
  refine wired.okayed _ (wired.outbox _ (mem_append_right _ ?_))
  exact mem_map_of_mem accepted

end Dealer

/-! REP -/

namespace Rep

variable {s s' : Rep α} {t : Nat}

def Call.Sound : Call α → Prop
  | .resetting frames | .taking frames | .addressing _ frames => frames ≠ []
  | .replying _ _ wire => Framed wire
  | _ => True

structure Wired (s : Rep α) : Prop where
  calls : ∀ t, (s.calls t).Sound
  replies : ∀ r ∈ s.replies, Framed r.wire

lemma Wired.update (wired : s.Wired) {c} (calls : s'.calls = update s.calls t c)
    (replies : s'.replies = s.replies) (sound : c.Sound) : s'.Wired := by
  constructor
  · rw [calls]
    exact (forall_update_iff s.calls fun _ c => c.Sound).mpr ⟨sound, fun u _ => wired.calls u⟩
  · rw [replies]
    exact wired.replies

lemma wired_step (s : Rep α) (a : Action α) (s' : Rep α) (wired : s.Wired) (_ : True)
    (taken : s.step a = some s') : s'.Wired := by
  have mine := wired.calls
  cases step_cases taken with
  | recvRejected | multiRejected | sendRejected | recvStart | multiStart | sendStart
  | sendMultipartStart | lock | frame | multiLock | pop | popFailed | recvTimeout | multiTimeout
  | clear | closing | takeNone | unreachable | refuse | drop | dropReply =>
    exact wired.update rfl rfl trivial
  | note call =>
    unfold note
    dsimp only
    split
    · exact wired.update rfl rfl trivial
    · exact wired.update rfl rfl trivial
  | @check t frames call =>
    refine wired.update rfl rfl ?_
    show (if frames.isEmpty then [Msg.new] else frames) ≠ []
    cases frames <;> simp
  | @reset t frames call | @take t frames info call received =>
    have some : frames ≠ [] := by have := mine t; rwa [call] at this
    exact wired.update rfl rfl some
  | @address t info frames _ call there =>
    have some : frames ≠ [] := by have := mine t; rwa [call] at this
    have framed : Framed (linked (info.routingPrefix ++ frames)) :=
      framed_linked fun none => some (append_eq_nil_iff.mp none).2
    exact wired.update rfl rfl framed
  | @accept t connection info wire call =>
    have framed : Framed wire := by have := mine t; rwa [call] at this
    have ended : (s.finish t .replied).Wired := wired.update rfl rfl trivial
    refine ⟨ended.calls, fun r mem => ?_⟩
    rcases mem_append.mp mem with old | new
    · exact wired.replies r old
    · rw [mem_singleton.mp new]
      exact framed
  | collect | assemble | locateFailed | locate | push | pushRefused | pushDropped | detach
  | clearPipe | resetBuffer | setEndpoint | setPipeUri | setRcvtimeo | shutdown | stop =>
    exact ⟨wired.calls, wired.replies⟩

lemma multipart_framed {rcvhwm : Nat} {rcvtimeo : Timeout} {s : Rep α}
    (reached : Reaches step (fun _ _ => True) (new rcvhwm rcvtimeo) s) {reply : Reply α}
    (sent : reply ∈ s.replies) : Framed reply.wire := by
  have wired : s.Wired := reached.invariant wired_step ⟨fun _ => trivial, nofun⟩
  exact wired.replies reply sent

end Rep

/-! ROUTER -/

def Chained (frames : List (Msg α)) : Prop := ∀ m ∈ frames.dropLast, m.isMore = true

lemma framed_clearLast {frames : List (Msg α)} (some : frames ≠ []) :
    Framed (clearLast frames) ↔ Chained frames := by
  induction frames with
  | nil => exact absurd rfl some
  | cons first rest ih =>
    cases rest with
    | nil => simp [clearLast, Framed, Chained]
    | cons next rest =>
      have later := ih (cons_ne_nil _ _)
      cases rest with
      | nil => simp [clearLast, Framed, Chained]
      | cons third rest =>
        simp only [clearLast, Framed, Chained] at later ⊢
        rw [later]
        simp

lemma framed_clearLast_cons {m : Msg α} {frames : List (Msg α)} (more : m.isMore = true)
    (some : frames ≠ []) : Framed (clearLast (m :: frames)) ↔ Chained frames := by
  rw [framed_clearLast (cons_ne_nil _ _)]
  cases frames with
  | nil => exact absurd rfl some
  | cons first rest => simp [Chained, more]

def RouterSendStrategy.envelopes (framing : FramingLatch) : RouterSendStrategy → Bool
  | .reqPeer | .default => true
  | .dealerPeer => framing = .auto
  | .routerPeer => false

lemma framed_enveloped (identity : Msg α) (payload) (framing : FramingLatch) :
    Framed (clearLast (enveloped identity payload framing)) ↔ Chained payload := by
  cases payload with
  | nil => cases framing <;>
      simp [enveloped, FramingLatch.encode, routerAutoEncode, delimiterBefore,
        clearLast, Framed, Chained]
  | cons first rest =>
    have some := cons_ne_nil first rest
    cases framing with
    | manual => exact framed_clearLast_cons (Msg.setMore_isMore _ _) some
    | auto =>
      have whole : Chained (delimiterBefore (first :: rest) :: first :: rest) ↔
          Chained (first :: rest) := by simp [Chained, delimiterBefore]
      rw [← whole]
      exact framed_clearLast_cons (Msg.setMore_isMore _ _) (cons_ne_nil _ _)

lemma framed_prepareWireFrames (identity : Msg α) (payload)
    (framing : FramingLatch) (strategy : RouterSendStrategy) :
    Framed (clearLast (strategy.prepareWireFrames identity payload framing)) ↔
      Chained payload ∧ (payload = [] → strategy.envelopes framing = true) := by
  have bare : Framed (clearLast payload) ↔ Chained payload ∧ (payload = [] → False) := by
    cases payload with
    | nil => simp [clearLast, Framed]
    | cons first rest => simpa using framed_clearLast (cons_ne_nil first rest)
  cases strategy with
  | reqPeer =>
    cases payload with
    | nil => simp [prepareWireFrames, RouterSendStrategy.envelopes,
        delimiterBefore, clearLast, Framed, Chained]
    | cons first rest =>
      simpa [prepareWireFrames]
        using framed_clearLast_cons (m := delimiterBefore (first :: rest)) rfl
          (cons_ne_nil first rest)
  | dealerPeer =>
    cases framing with
    | manual => simpa [prepareWireFrames, RouterSendStrategy.envelopes] using bare
    | auto =>
      simpa [prepareWireFrames, RouterSendStrategy.envelopes]
        using framed_enveloped identity payload .auto
  | routerPeer =>
    simpa [prepareWireFrames, RouterSendStrategy.envelopes] using bare
  | default =>
    simpa [prepareWireFrames, RouterSendStrategy.envelopes]
      using framed_enveloped identity payload framing

namespace RouterSocket

/-- What `send_multipart` of the connection is called with, if it is. -/
def handed (s : RouterSocket α) (frames : List (Msg α)) (answers : SendAnswers) :
    Option (Nat × List (Msg α)) :=
  match frames with
  | [] => none
  | identity :: payload =>
    if s.core.running = false ∨ identity.body = [] then none
    else
      (s.routerMapForSend.identityToPeerInfo identity.body).bind fun info =>
        (s.connectionOf info.uri).bind fun (connection, pipe) =>
          match s.pipeSendCoordinator.acquireSendPermit pipe s.core.sndtimeo answers.permit with
          | .error _ => none
          | .ok _ => some (connection,
              clearLast (info.strategy.prepareWireFrames identity payload s.framing))

lemma given_handed [DecidableEq α] (s : RouterSocket α) (frames : List (Msg α))
    (answers : SendAnswers) :
    (s.sendMultipart frames answers).2.given = s.given ++
      ((s.handed frames answers).elim [] fun given => given.2.map fun m => (given.1, m)) := by
  unfold sendMultipart handed
  cases running : s.core.running with
  | false => cases frames <;> simp
  | true =>
    cases frames with
    | nil => simp
    | cons identity payload =>
      by_cases empty : identity.body = []
      · simp [empty]
      · rw [if_neg (by simp)]
        dsimp only
        rw [if_neg empty, if_neg (by simp [empty])]
        cases s.routerMapForSend.identityToPeerInfo identity.body with
        | none => simp
        | some info =>
          rw [bind_some]
          dsimp only
          cases s.connectionOf info.uri with
          | none => simp
          | some found =>
            rw [bind_some]
            dsimp only
            cases s.pipeSendCoordinator.acquireSendPermit found.2 s.core.sndtimeo
              answers.permit with
            | error e => simp
            | ok permits => cases answers.frame <;> rfl

def MultipartSound (s : RouterSocket α) : List (Msg α) → Prop
  | [] => False
  | identity :: payload => Chained payload ∧ (payload = [] →
      ∀ info, s.routerMapForSend.identityToPeerInfo identity.body = some info →
        info.strategy.envelopes s.framing = true)

lemma handed_framed {s : RouterSocket α} {frames wire : List (Msg α)} {answers : SendAnswers}
    {connection : Nat} (gives : s.handed frames answers = some (connection, wire)) :
    Framed wire ↔ s.MultipartSound frames := by
  cases frames with
  | nil => cases gives
  | cons identity payload =>
    simp only [handed] at gives
    split at gives
    · cases gives
    · obtain ⟨info, known, gives⟩ := bind_eq_some_iff.mp gives
      obtain ⟨⟨_, pipe⟩, -, gives⟩ := bind_eq_some_iff.mp gives
      dsimp only at gives
      split at gives
      · cases gives
      · cases gives
        rw [framed_prepareWireFrames, MultipartSound]
        simp [known]

end RouterSocket

/-- PUSH, PUB, DEALER and REP hand over one message for every call that sends frames, whatever flags
the caller has set; ROUTER exactly if the caller has set MORE on all payload frames but the last,
and has sent a payload to a peer that gets nothing else. -/
theorem one_call_one_message :
    (∀ (sndtimeo : Timeout) (s : Push α), Reaches Push.step (fun _ _ => True) (.new sndtimeo) s →
      ∀ frames connection, (.sendMultipart frames, .ok (some connection)) ∈ s.returned →
        OneMessage frames) ∧
    (∀ s : Pub α, Reaches Pub.step (fun _ _ => True) .new s →
      ∀ frames accepted, (.sendMultipart frames, .ok accepted) ∈ s.returned →
        ∀ connection ∈ accepted, OneMessage frames) ∧
    (∀ (sndtimeo : Timeout) (sndhwm : Nat) (s : Dealer α),
      Reaches Dealer.step Dealer.Posed (.new sndtimeo sndhwm) s →
      ∀ delivery ∈ s.accepted, OneMessage delivery.2.frames) ∧
    (∀ (rcvhwm : Nat) (rcvtimeo : Timeout) (s : Rep α),
      Reaches Rep.step (fun _ _ => True) (.new rcvhwm rcvtimeo) s →
      ∀ reply ∈ s.replies, OneMessage reply.wire) ∧
    ∀ (s : RouterSocket α) (frames : List (Msg α)) (answers : SendAnswers) (connection : Nat)
      (wire : List (Msg α)), s.handed frames answers = some (connection, wire) →
      (OneMessage wire ↔ s.MultipartSound frames) := by
  refine ⟨?_, ?_, ?_, ?_, ?_⟩
  · intro sndtimeo s reached frames connection sent
    exact (Push.multipart_framed reached sent).oneMessage
  · intro s reached frames accepted sent connection took
    exact (Pub.multipart_framed reached sent took).oneMessage
  · intro sndtimeo sndhwm s reached delivery accepted
    exact (Dealer.multipart_framed reached accepted).oneMessage
  · intro rcvhwm rcvtimeo s reached reply sent
    exact (Rep.multipart_framed reached sent).oneMessage
  · intro s frames answers connection wire gives
    rw [← RouterSocket.handed_framed gives]
    exact ⟨And.left, Framed.oneMessage⟩

theorem one_call_one_message_req :
    OneMessage [Msg.new.setMore true, octet 1 true, octet 2 false] :=
  (one_call_one_message.2.2.2.2 (twoPeers (some "REQ"))
    [octet 65 true, octet 1 true, octet 2 true] .fine 1 _
    (by decide +kernel)).mpr ⟨by unfold Chained; decide +kernel, nofun⟩

/-- A payload frame without MORE before another one: the peer makes two messages of the call. -/
theorem one_call_two_messages : (twoPeers none).handed
        [octet 65 true, octet 1 false, octet 2 false] .fine =
      some (1, [octet 65 true, Msg.new.setMore true, octet 1 false, octet 2 false]) ∧
    (IncomingMessageOrchestrator.accumulateFrames (IncomingMessageOrchestrator.new (β := Unit) 1) 7
        [octet 65 true, Msg.new.setMore true, octet 1 false, octet 2 false]).1 =
      [[octet 65 true, Msg.new.setMore true, octet 1 false], [octet 2 false]] :=
  ⟨by decide +kernel, by decide +kernel⟩

end Rzmq
