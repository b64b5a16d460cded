import Rzmq.Socket.Req.Calls

/-! The wake-ups of a REQ socket.  The notifier keeps a wake-up that nobody waited for, and
`recv_multipart` never takes one; a `recv` that finds such a wake-up looks for its reply at once and
fails if it is not there.  An account of the exchanges is kept beside the socket. -/

namespace Rzmq

open Function Transition Req RecvMessage IncomingMessageOrchestrator

variable {α : Type}

namespace Req

lemma notifyOne_eq (s : Req α) :
    ∃ calls permit waiters, s.notifyOne = { s with calls, permit, waiters } ∧
      ∀ t, calls t = s.calls t ∨ calls t = wakeCall .one (s.calls t) :=
  ⟨s.notifyOne.calls, s.notifyOne.permit, s.notifyOne.waiters,
    by unfold notifyOne; split <;> rfl, calls_notifyOne s⟩

lemma dropNotified_eq (s : Req α) (t : Nat) (wake : Wake) :
    ∃ calls permit waiters, s.dropNotified t wake = { s with calls, permit, waiters } ∧
      ∀ t, calls t = s.calls t ∨ calls t = wakeCall .one (s.calls t) := by
  unfold dropNotified
  split
  · obtain ⟨calls, permit, waiters, same, woken⟩ :=
      notifyOne_eq { s with waiters := s.waiters.erase t }
    exact ⟨calls, permit, waiters, same, woken⟩
  · exact ⟨s.calls, s.permit, s.waiters.erase t, rfl, fun _ => .inl rfl⟩

@[simp] lemma wakeCall_eq_idle {wake : Wake} {c : ReqCall α} :
    wakeCall wake c = .idle ↔ c = .idle := by
  cases c <;> simp [wakeCall]

lemma wakeCall_eq_self {wake : Wake} {c : ReqCall α}
    (other : ∀ wake rcvtimeo fut, c ≠ .recvSelect wake rcvtimeo fut) : wakeCall wake c = c := by
  cases c with
  | recvSelect wake rcvtimeo fut => exact absurd rfl (other wake rcvtimeo fut)
  | _ => rfl

end Req

/-- With the peer of the last request, whether it was detached since, and the requests taken and
replies returned. -/
structure Watched (α : Type) where
  req : Req α
  target : Option String
  lost : Bool
  accepted : Nat
  answered : Nat

namespace Watched

def start (sndtimeo : Timeout) : Watched α := ⟨.new sndtimeo .infinite, none, false, 0, 0⟩

def endsReply : ReqCall α → Bool
  | .recvReturning (.ok m) _ => !m.isMore
  | .multiPopped (.ok _) => true
  | _ => false

variable (w : Watched α)

def note (s : Req α) : ReqAction α → Watched α
  | .sendAccept _ => { w with req := s, accepted := w.accepted + 1 }
  | .sendExpect t =>
    match w.req.calls t with
    | .sendAccepted _ uri => { w with req := s, target := some uri, lost := false }
    | _ => { w with req := s }
  | .detachBegin p =>
    match w.req.pipeReadToEndpointUri p with
    | some uri => { w with req := s, lost := w.lost || w.target == some uri }
    | none => { w with req := s }
  | .recvReturn t | .multiReturn t =>
    { w with
      req := s
      answered := if endsReply (w.req.calls t) then w.answered + 1 else w.answered }
  | _ => { w with req := s }

def step (f : Replier α) (w : Watched α) (a : ReqAction α) : Option (Watched α) :=
  (w.req.step f a).map fun s => w.note s a

/-- The socket was stopped, its queue closed, or the peer of the last request detached. -/
def Excused : Prop :=
  w.req.running = false ∨ w.req.orchestrator.mainIncomingQueue.closed = true ∨ w.lost = true

def Roused (s : Req α) : Prop :=
  s.permit = true ∨ (∃ p, s.handlers p = .queued) ∨ ∃ p, s.detaches p = .notifying true

def Stocked (s : Req α) : Prop :=
  s.orchestrator.mainIncomingQueue.items ≠ [] ∨ s.orchestrator.currentRecvFramesBuffer ≠ []

/-- Cycles of calls: one call after the other, none cancelled, no receive timeout; a push is given
up only while the queue is full. -/
def Cycle : ReqAction α → Prop
  | .sendBegin _ _ | .recvBegin _ | .multiBegin _ => ∀ t, w.req.calls t = .idle
  | .cancel _ => False
  | .setTimeouts _ rcvtimeo => rcvtimeo = .infinite
  | .queueExpire _ => w.req.orchestrator.mainIncomingQueue.hwm ≤
      w.req.orchestrator.mainIncomingQueue.items.length
  | _ => True

/-- A `recv` starts only if a wake-up that is stored or due comes with something to receive; it is
not woken while it holds a message, and the frame buffer is not cleared under it. -/
def Attentive : ReqAction α → Prop
  | .recvBegin _ => Roused w.req → Stocked w.req
  | .recvWake t => ∀ wake rcvtimeo frames,
      w.req.calls t ≠ .recvSelect wake rcvtimeo (.storing frames)
  | .detachAdvance p => w.req.detaches p = .resetting →
      w.req.orchestrator.currentRecvFramesBuffer = [] ∨ w.Excused
  | _ => True

/-- The peer stays, and no push is given up. -/
def Undisturbed : ReqAction α → Prop
  | .detachBegin _ | .queueExpire _ => False
  | _ => True

def Faithful : Prop :=
  ∀ t e, (w.req.calls t = .recvDone (.error e) ∨
    ∃ shouldNotify, w.req.calls t = .recvReturning (.error e) shouldNotify) → w.Excused

def Sound : ReqCall α → Prop
  | .recvSelect wake rcvtimeo fut => rcvtimeo = .infinite ∧
      (w.Excused ∨ (wake ≠ .pending ∨ Roused w.req →
        Stocked w.req ∨ ∃ frames, fut = .storing frames))
  | .recvNotified => w.Excused ∨ Stocked w.req
  | .recvPoll .locking => w.Excused ∨ Stocked w.req
  | .recvPoll .popping => w.Excused ∨ w.req.orchestrator.mainIncomingQueue.items ≠ []
  | .recvDone (.error _) => w.Excused
  | .recvReturning (.error _) _ => w.Excused
  | .multiRecv rcvtimeo _ => rcvtimeo = .infinite
  | .multiPopped (.error _) => False
  | _ => True

structure Alert : Prop where
  opened : w.req.orchestrator.mainIncomingQueue.closed = false
  room : 0 < w.req.orchestrator.mainIncomingQueue.hwm
  patient : w.req.rcvtimeo = .infinite
  one : ∀ t t', w.req.calls t ≠ .idle → w.req.calls t' ≠ .idle → t = t'
  target : ∀ uri, w.req.state = .expectingReply uri → w.target = some uri
  unrefused : ∀ p, w.req.handlers p ≠ .refused
  sound : ∀ t, w.Sound (w.req.calls t)

variable {f : Replier α} {w w' : Watched α} {t p : Nat}

lemma alert_start (sndtimeo : Timeout) : (start sndtimeo : Watched α).Alert where
  opened := rfl
  room := Nat.one_pos
  patient := rfl
  one _ _ busy := absurd rfl busy
  target _ expecting := by cases expecting
  unrefused _ refused := by cases refused
  sound _ := trivial

lemma Alert.faithful (alert : w.Alert) : w.Faithful := by
  rintro t e (done | ⟨shouldNotify, returning⟩)
  · have sound := alert.sound t
    rwa [done] at sound
  · have sound := alert.sound t
    rwa [returning] at sound

/-! Steps beside the calls -/

/-- What a session or the core announces comes with something to receive or an excuse, and nothing
goes without one. -/
structure Beside (w w' : Watched α) : Prop where
  closed : w'.req.orchestrator.mainIncomingQueue.closed =
    w.req.orchestrator.mainIncomingQueue.closed
  hwm : w'.req.orchestrator.mainIncomingQueue.hwm = w.req.orchestrator.mainIncomingQueue.hwm
  rcvtimeo : w'.req.rcvtimeo = w.req.rcvtimeo ∨ w'.req.rcvtimeo = .infinite
  calls : ∀ t, w'.req.calls t = w.req.calls t ∨
    ∃ wake, w'.req.calls t = wakeCall wake (w.req.calls t) ∧ (Roused w.req ∨ w'.Excused)
  target : ∀ uri, w'.req.state = .expectingReply uri →
    w.req.state = .expectingReply uri ∧ w'.target = w.target
  unrefused : ∀ p, w'.req.handlers p = .refused → w.req.handlers p = .refused
  excused : w.Excused → w'.Excused
  items : w.req.orchestrator.mainIncomingQueue.items ≠ [] →
    w'.req.orchestrator.mainIncomingQueue.items ≠ []
  stocked : Stocked w.req → Stocked w'.req ∨ w'.Excused
  announced : Roused w'.req → Roused w.req ∨ Stocked w'.req ∨ w'.Excused

/-- A call in `select!`: whether it is woken now or not, what announces its reply did so before or
brings a reason. -/
lemma Beside.select (beside : w.Beside w') {wake wake' : Wake} {rcvtimeo fut}
    (same : wake' = wake ∨ Roused w.req ∨ w'.Excused)
    (sound : w.Sound (.recvSelect wake rcvtimeo fut)) :
    w'.Sound (.recvSelect wake' rcvtimeo fut) := by
  obtain ⟨infinite, alerted⟩ := sound
  refine ⟨infinite, ?_⟩
  by_cases excused : w'.Excused
  · exact .inl excused
  · right
    intro woken
    have before : (wake ≠ .pending ∨ Roused w.req) ∨ Stocked w'.req := by
      rcases woken with woken | announced
      · rcases same with rfl | announced | wrong
        · exact .inl (.inl woken)
        · exact .inl (.inr announced)
        · exact absurd wrong excused
      · rcases beside.announced announced with before | stocked | wrong
        · exact .inl (.inr before)
        · exact .inr stocked
        · exact absurd wrong excused
    rcases before with before | stocked
    · rcases alerted with was | alerted
      · exact absurd (beside.excused was) excused
      · exact (alerted before).imp_left fun stocked =>
          (beside.stocked stocked).resolve_right excused
    · exact .inl stocked

lemma Beside.elsewhere (beside : w.Beside w') {c}
    (other : ∀ wake rcvtimeo fut, c ≠ .recvSelect wake rcvtimeo fut) (sound : w.Sound c) :
    w'.Sound c := by
  have stocked : w.Excused ∨ Stocked w.req → w'.Excused ∨ Stocked w'.req := by
    rintro (excused | stocked)
    · exact .inl (beside.excused excused)
    · exact (beside.stocked stocked).symm
  cases c with
  | recvSelect wake rcvtimeo fut => exact absurd rfl (other wake rcvtimeo fut)
  | recvNotified => exact stocked sound
  | recvPoll fut =>
    cases fut with
    | locking => exact stocked sound
    | popping => exact sound.imp beside.excused beside.items
    | storing frames => trivial
  | recvDone result | recvReturning result shouldNotify =>
    cases result with
    | error e => exact beside.excused sound
    | ok m => trivial
  | multiRecv rcvtimeo fut => exact sound
  | multiPopped result =>
    cases result with
    | error e => exact sound
    | ok frames => trivial
  | _ => trivial

lemma Beside.sound (beside : w.Beside w') (sound : w.Sound (w.req.calls t)) :
    w'.Sound (w'.req.calls t) := by
  by_cases selects : ∃ wake rcvtimeo fut, w.req.calls t = .recvSelect wake rcvtimeo fut
  · obtain ⟨wake, rcvtimeo, fut, call⟩ := selects
    rw [call] at sound
    rcases beside.calls t with same | ⟨wake', woken, reason⟩
    · rw [same, call]
      exact beside.select (.inl rfl) sound
    · rw [woken, call]
      exact beside.select (.inr reason) sound
  · have other : ∀ wake rcvtimeo fut, w.req.calls t ≠ .recvSelect wake rcvtimeo fut :=
      fun wake rcvtimeo fut call => selects ⟨wake, rcvtimeo, fut, call⟩
    have same : w'.req.calls t = w.req.calls t := by
      rcases beside.calls t with same | ⟨wake, woken, -⟩
      · exact same
      · exact woken.trans (wakeCall_eq_self other)
    rw [same]
    exact beside.elsewhere other sound

lemma Alert.beside (alert : w.Alert) (beside : w.Beside w') : w'.Alert where
  opened := beside.closed.trans alert.opened
  room := by
    rw [beside.hwm]
    exact alert.room
  patient := by
    rcases beside.rcvtimeo with same | infinite
    · exact same.trans alert.patient
    · exact infinite
  one := by
    have busy : ∀ t, w'.req.calls t ≠ .idle → w.req.calls t ≠ .idle := by
      intro t busy idle
      rcases beside.calls t with same | ⟨wake, woken, -⟩
      · exact busy (same.trans idle)
      · exact busy (woken.trans (wakeCall_eq_idle.mpr idle))
    exact fun t t' first second => alert.one t t' (busy t first) (busy t' second)
  target uri expecting := by
    obtain ⟨before, same⟩ := beside.target uri expecting
    exact same.trans (alert.target uri before)
  unrefused p refused := alert.unrefused p (beside.unrefused p refused)
  sound _ := beside.sound (alert.sound _)

lemma Beside.refl (w : Watched α) : w.Beside w where
  closed := rfl
  hwm := rfl
  rcvtimeo := .inl rfl
  calls _ := .inl rfl
  target _ expecting := ⟨expecting, rfl⟩
  unrefused _ := id
  excused := id
  items := id
  stocked := .inl
  announced := .inl

lemma Beside.of_quieter {handlers detaches}
    (queued : ∀ p, handlers p = .queued → w.req.handlers p = .queued)
    (refused : ∀ p, handlers p = .refused → w.req.handlers p = .refused)
    (notifying : ∀ p, detaches p = .notifying true → w.req.detaches p = .notifying true) :
    w.Beside { w with req := { w.req with handlers, detaches } } := by
  refine { refl w with unrefused := refused, announced := ?_ }
  rintro (stored | ⟨p, told⟩ | ⟨p, told⟩)
  · exact .inl (.inl stored)
  · exact .inl (.inr (.inl ⟨p, queued p told⟩))
  · exact .inl (.inr (.inr ⟨p, notifying p told⟩))

lemma of_update_eq {β : Type} {m} {v d : β} (new : v ≠ d) (q : Nat)
    (eq : update m p v q = d) : m q = d := by
  by_cases mine : q = p
  · rw [mine, update_self] at eq
    exact absurd eq new
  · rwa [update_of_ne mine] at eq

lemma Beside.setHandler {h} (queued : h ≠ .queued) (refused : h ≠ .refused) :
    w.Beside { w with req := w.req.setHandler p h } :=
  .of_quieter (of_update_eq queued) (of_update_eq refused) fun _ => id

lemma Beside.setDetach {d} (silent : d ≠ .notifying true) :
    w.Beside { w with req := { w.req with detaches := update w.req.detaches p d } } :=
  .of_quieter (fun _ => id) (fun _ => id) (of_update_eq silent)

lemma Beside.of_notifyOne {s} (before : w.Beside { w with req := s })
    (announced : Roused w.req) (calls : s.calls = w.req.calls) :
    w.Beside { w with req := s.notifyOne } := by
  obtain ⟨calls', permit, waiters, same, woken⟩ := s.notifyOne_eq
  rw [same]
  refine { before with calls := ?_, announced := fun _ => .inl announced }
  intro t
  rw [calls] at woken
  exact (woken t).imp_right fun woken => ⟨.one, woken, .inl announced⟩

lemma Beside.of_queued {o}
    (closed : o.mainIncomingQueue.closed = w.req.orchestrator.mainIncomingQueue.closed)
    (hwm : o.mainIncomingQueue.hwm = w.req.orchestrator.mainIncomingQueue.hwm)
    (there : o.mainIncomingQueue.items ≠ []) :
    w.Beside { w with req := { w.req.setHandler p .queued with orchestrator := o } } where
  __ := refl w
  closed := closed
  hwm := hwm
  calls _ := .inl rfl
  unrefused := of_update_eq (by simp)
  excused := by
    unfold Excused
    rw [closed]
    exact id
  items _ := there
  stocked _ := .inl (.inl there)
  announced _ := .inr (.inl (.inl there))

lemma Alert.detachTarget (alert : w.Alert) {uri} (expecting : w.req.state = .expectingReply uri) :
    Alert { w with
      req := { w.req with
        pipeReadToEndpointUri := update w.req.pipeReadToEndpointUri p none
        loadBalancer := w.req.loadBalancer.removeConnection uri
        state := .readyToSend
        detaches := update w.req.detaches p (.notifying true) }
      lost := w.lost || w.target == some uri } := by
  have lost : (w.lost || w.target == some uri) = true := by simp [alert.target uri expecting]
  exact alert.beside { Beside.refl w with
    calls := fun _ => .inl rfl
    target := fun _ wrong => by cases wrong
    excused := fun _ => .inr (.inr lost)
    stocked := .inl
    announced := fun _ => .inr (.inr (.inr (.inr lost))) }

lemma Alert.lose (alert : w.Alert) (lost : Bool) : Alert { w with lost := w.lost || lost } :=
  have excused : w.Excused → Excused { w with lost := w.lost || lost } :=
    .imp_right (.imp_right fun gone => by
      show (w.lost || lost) = true
      rw [gone, Bool.true_or])
  alert.beside { Beside.refl w with
    calls := fun _ => .inl rfl
    excused := excused
    stocked := .inl
    announced := .inl }

lemma Alert.reset (alert : w.Alert)
    (empty : w.req.orchestrator.currentRecvFramesBuffer = [] ∨ w.Excused) :
    Alert { w with req := { w.req with
      detaches := update w.req.detaches p .idle
      orchestrator := w.req.orchestrator.resetRecvMessageBuffer } } := by
  have silent :
      w.Beside { w with req := { w.req with detaches := update w.req.detaches p .idle } } :=
    .setDetach (by simp)
  refine alert.beside { silent with stocked := ?_, announced := ?_ }
  · rintro (items | buffer)
    · exact .inl (.inl items)
    · exact .inr (empty.resolve_left buffer)
  · rintro (stored | told | ⟨q, told⟩)
    · exact .inl (.inl stored)
    · exact .inl (.inr (.inl told))
    · exact .inl (.inr (.inr ⟨q, of_update_eq (by simp) q told⟩))

lemma Alert.stop (alert : w.Alert) :
    Alert { w with req := { w.req with running := false }.notifyWaiters } := by
  have stopped : Excused { w with req := { w.req with running := false }.notifyWaiters } :=
    .inl rfl
  refine alert.beside { Beside.refl w with
    calls := ?_
    excused := fun _ => stopped
    stocked := .inl
    announced := fun _ => .inr (.inr stopped) }
  intro t
  by_cases waits : t ∈ w.req.waiters
  · exact .inr ⟨.all, if_pos waits, .inr stopped⟩
  · exact .inl (if_neg waits)

/-! Steps of the calls -/

lemma Alert.idle_of_ne (alert : w.Alert)
    (mine : w.req.calls t ≠ .idle ∨ ∀ u, w.req.calls u = .idle) {u : Nat} (ne : u ≠ t) :
    w.req.calls u = .idle := by
  rcases mine with busy | idle
  · by_contra other
    exact ne (alert.one u t other busy)
  · exact idle u

lemma Alert.of_call (alert : w.Alert) {c} (call : w.req.calls t = c) : w.Sound c := by
  rw [← call]
  exact alert.sound t

structure Same (w w' : Watched α) : Prop where
  closed : w'.req.orchestrator.mainIncomingQueue.closed =
    w.req.orchestrator.mainIncomingQueue.closed
  hwm : w'.req.orchestrator.mainIncomingQueue.hwm = w.req.orchestrator.mainIncomingQueue.hwm
  rcvtimeo : w'.req.rcvtimeo = w.req.rcvtimeo
  handlers : w'.req.handlers = w.req.handlers

lemma Alert.lone (alert : w.Alert) (mine : w.req.calls t ≠ .idle ∨ ∀ u, w.req.calls u = .idle)
    (same : w.Same w')
    (others : ∀ u, u ≠ t → w.req.calls u = .idle → w'.req.calls u = .idle)
    (target : ∀ uri, w'.req.state = .expectingReply uri → w'.target = some uri)
    (sound : w'.Sound (w'.req.calls t)) : w'.Alert where
  opened := same.closed.trans alert.opened
  room := by
    rw [same.hwm]
    exact alert.room
  patient := same.rcvtimeo.trans alert.patient
  one := by
    have only : ∀ u, w'.req.calls u ≠ .idle → u = t := by
      intro u busy
      by_contra ne
      exact busy (others u ne (alert.idle_of_ne mine ne))
    intro u u' busy busy'
    rw [only u busy, only u' busy']
  target := target
  unrefused := by
    rw [same.handlers]
    exact alert.unrefused
  sound u := by
    by_cases here : u = t
    · rw [here]
      exact sound
    · rw [others u here (alert.idle_of_ne mine here)]
      trivial

lemma others_setCall {c} (calls : w'.req.calls = update w.req.calls t c) (u : Nat)
    (ne : u ≠ t) (idle : w.req.calls u = .idle) : w'.req.calls u = .idle := by
  rw [calls, update_of_ne ne, idle]

lemma others_dropNotified {s : Req α} (wake : Wake) (c)
    (calls : s.calls = w.req.calls) (u : Nat) (ne : u ≠ t) (idle : w.req.calls u = .idle) :
    ((s.dropNotified t wake).setCall t c).calls u = .idle := by
  obtain ⟨calls', permit, waiters, dropped, woken⟩ := s.dropNotified_eq t wake
  rw [dropped]
  refine (update_of_ne ne _ _).trans ?_
  show calls' u = .idle
  rcases woken u with unchanged | changed
  · rw [unchanged, calls, idle]
  · rw [changed, calls, idle]
    rfl

lemma others_notifyWaiters {s : Req α} {r} (calls : s.calls = w.req.calls) (u : Nat)
    (ne : u ≠ t) (idle : w.req.calls u = .idle) :
    (s.notifyWaiters.finish t r).calls u = .idle := by
  refine (update_of_ne ne _ _).trans ?_
  show (if u ∈ s.waiters then wakeCall .all (s.calls u) else s.calls u) = .idle
  rw [calls, idle]
  split <;> rfl

section

variable (alert : w.Alert)
include alert

lemma Alert.target_kept (state : w'.req.state = w.req.state ∨ w'.req.state = .readyToSend)
    (target : w'.target = w.target) (uri : String)
    (expecting : w'.req.state = .expectingReply uri) : w'.target = some uri := by
  rcases state with same | ready
  · rw [same] at expecting
    exact target.trans (alert.target uri expecting)
  · rw [ready] at expecting
    cases expecting

section

variable (mine : w.req.calls t ≠ .idle ∨ ∀ u, w.req.calls u = .idle)
include mine

lemma Alert.move {c} (calls : w'.req.calls = update w.req.calls t c) (sound : w'.Sound c)
    (same : w.Same w') (state : w'.req.state = w.req.state ∨ w'.req.state = .readyToSend)
    (target : w'.target = w.target) : w'.Alert := by
  refine alert.lone mine same (others_setCall calls) (alert.target_kept state target) ?_
  rw [calls, update_self]
  exact sound

lemma Alert.setCall {c} (sound : w.Sound c) : Alert { w with req := w.req.setCall t c } :=
  alert.move mine rfl sound ⟨rfl, rfl, rfl, rfl⟩ (.inl rfl) rfl

lemma Alert.returns : Alert { w with req := w.req.setCall t .idle } :=
  alert.setCall mine trivial

end

lemma Alert.select (rest : ∀ u, w.req.calls u = .idle)
    (attentive : Roused w.req → Stocked w.req) :
    Alert { w with req := { w.req.setCall t (.recvSelect .pending w.req.rcvtimeo .locking) with
      waiters := w.req.waiters ++ [t] } } := by
  have sound : w.Sound (.recvSelect .pending w.req.rcvtimeo .locking) := by
    refine ⟨alert.patient, .inr ?_⟩
    rintro (woken | announced)
    · exact absurd rfl woken
    · exact .inl (attentive announced)
  exact { alert.setCall (.inr rest) sound with }

lemma Alert.wake {wake : Wake} {rcvtimeo fut} (call : w.req.calls t = .recvSelect wake rcvtimeo fut)
    (woken : wake ≠ .pending ∨ w.req.permit = true) (attentive : w.Attentive (.recvWake t)) :
    w.Sound .recvNotified := by
  rcases (alert.of_call call).2 with excused | alerted
  · exact .inl excused
  · rcases alerted (woken.imp_right .inl) with stocked | ⟨frames, rfl⟩
    · exact .inr stocked
    · exact absurd call (attentive _ _ _)

lemma Alert.dropped (call : w.req.calls t ≠ .idle) {s : Req α} {wake : Wake} {m : Msg α}
    (calls : s.calls = w.req.calls) (same : w.Same { w with req := s })
    (state : s.state = w.req.state) :
    Alert { w with req := (s.dropNotified t wake).setCall t (.recvDone (.ok m)) } := by
  obtain ⟨calls', permit, waiters, dropped, -⟩ := s.dropNotified_eq t wake
  have others := others_dropNotified (t := t) wake (.recvDone (.ok m)) calls
  rw [dropped] at others ⊢
  refine alert.lone (t := t) (.inl call) ⟨same.closed, same.hwm, same.rcvtimeo, same.handlers⟩
    others (alert.target_kept (.inl state) rfl) ?_
  show Sound _ (update calls' t (.recvDone (.ok m)) t)
  rw [update_self]
  trivial

lemma Alert.selectOn {wake : Wake} {rcvtimeo fut fut'}
    (call : w.req.calls t = .recvSelect wake rcvtimeo fut) {o}
    (polled : fut.poll id rcvtimeo w.req.orchestrator = some (.inl fut', o)) :
    Alert { w with req := { w.req.setCall t (.recvSelect wake rcvtimeo fut') with
      orchestrator := o } } := by
  have busy : w.req.calls t ≠ .idle := by simp [call]
  obtain ⟨rfl, alerted⟩ := alert.of_call call
  cases poll_cases polled with
  | unbuffered =>
    refine alert.setCall (.inl busy) ⟨rfl, alerted.imp_right fun alerted woken => .inl ?_⟩
    rcases alerted woken with stocked | ⟨frames, wrong⟩
    · exact stocked
    · cases wrong
  | popped =>
    exact alert.move (.inl busy) rfl ⟨rfl, .inr fun _ => .inr ⟨_, rfl⟩⟩ ⟨rfl, rfl, rfl, rfl⟩
      (.inl rfl) rfl

lemma Alert.selected {wake : Wake} {rcvtimeo fut}
    (call : w.req.calls t = .recvSelect wake rcvtimeo fut) {result o}
    (polled : fut.poll id rcvtimeo w.req.orchestrator = some (.inr result, o)) :
    Alert { w with
      req := ({ w.req with orchestrator := o }.dropNotified t wake).setCall t
        (.recvDone result) } := by
  have busy : w.req.calls t ≠ .idle := by simp [call]
  obtain ⟨rfl, -⟩ := alert.of_call call
  cases poll_cases polled with
  | buffered | nothing | stored => exact alert.dropped busy rfl ⟨rfl, rfl, rfl, rfl⟩ rfl
  | failed items why =>
    rw [alert.opened] at why
    cases why <;> contradiction

lemma Alert.pollOn {fut fut'} (call : w.req.calls t = .recvPoll fut) {o}
    (polled : fut.poll id .zero w.req.orchestrator = some (.inl fut', o)) :
    Alert { w with req := { w.req.setCall t (.recvPoll fut') with orchestrator := o } } := by
  have busy : w.req.calls t ≠ .idle := by simp [call]
  have sound := alert.of_call call
  cases poll_cases polled with
  | unbuffered empty =>
    refine alert.setCall (.inl busy) ?_
    exact sound.imp_right fun stocked => stocked.resolve_right (fun full => full empty)
  | popped => exact alert.move (.inl busy) rfl trivial ⟨rfl, rfl, rfl, rfl⟩ (.inl rfl) rfl

lemma Alert.polled {fut} (call : w.req.calls t = .recvPoll fut) {result o}
    (polled : fut.poll id .zero w.req.orchestrator = some (.inr result, o)) :
    Alert { w with req := { w.req.setCall t (.recvDone (w.req.pollResult result)) with
      orchestrator := o } } := by
  have busy : w.req.calls t ≠ .idle := by simp [call]
  have sound := alert.of_call call
  cases poll_cases polled with
  | buffered | nothing | stored =>
    exact alert.move (.inl busy) rfl trivial ⟨rfl, rfl, rfl, rfl⟩ (.inl rfl) rfl
  | @failed e none why =>
    have excused : w.Excused := sound.resolve_right fun some => some none
    obtain ⟨e', failed⟩ : ∃ e', w.req.pollResult (.error e) = .error e' := by
      unfold pollResult
      split <;> simp_all
    rw [failed]
    exact alert.setCall (.inl busy) excused

lemma Alert.multiPolled {rcvtimeo fut} (call : w.req.calls t = .multiRecv rcvtimeo fut)
    {result o} (polled : fut.poll rcvtimeo w.req.orchestrator = some (.inr result, o)) :
    Alert { w with req := { w.req.setCall t (.multiPopped result) with orchestrator := o } } := by
  obtain rfl : rcvtimeo = .infinite := alert.of_call call
  cases RecvLogicalMessage.poll_cases polled with
  | popped =>
    exact alert.move (.inl (by simp [call])) rfl trivial ⟨rfl, rfl, rfl, rfl⟩ (.inl rfl) rfl
  | failed items why =>
    rw [alert.opened] at why
    cases why <;> contradiction

lemma Alert.returning {result} (shouldNotify : Bool) (call : w.req.calls t = .recvDone result) :
    w.Sound (.recvReturning result shouldNotify) := by
  have sound := alert.of_call call
  cases result with
  | error e => exact sound
  | ok m => trivial

lemma Alert.expect {m uri} (call : w.req.calls t = .sendAccepted m uri) :
    Alert { w with
      req := { w.req.setCall t (.sendReset m) with state := .expectingReply uri }
      target := some uri
      lost := false } := by
  refine alert.lone (t := t) (.inl (by simp [call])) ⟨rfl, rfl, rfl, rfl⟩
    (others_setCall (c := .sendReset m) rfl) ?_ ?_
  · intro uri' expecting
    change ReqState.expectingReply uri = .expectingReply uri' at expecting
    cases expecting
    rfl
  · show Sound _ (update w.req.calls t (.sendReset m) t)
    rw [update_self]
    trivial

lemma Alert.tells (busy : w.req.calls t ≠ .idle) {s : Req α} {r} (calls : s.calls = w.req.calls)
    (same : w.Same { w with req := s }) (state : s.state = w.req.state ∨ s.state = .readyToSend) :
    Alert { w with req := s.notifyWaiters.finish t r } := by
  refine alert.lone (t := t) (.inl busy) ⟨same.closed, same.hwm, same.rcvtimeo, same.handlers⟩
    (others_notifyWaiters calls) (alert.target_kept state rfl) ?_
  show Sound _ (update s.notifyWaiters.calls t .idle t)
  rw [update_self]
  trivial

end

lemma alert_step (f : Replier α) (w : Watched α) (a : ReqAction α) (w' : Watched α)
    (alert : w.Alert) (allowed : w.Cycle a ∧ w.Attentive a) (taken : w.step f a = some w') :
    w'.Alert := by
  obtain ⟨cycle, attentive⟩ := allowed
  obtain ⟨s, moved, rfl⟩ := Option.map_eq_some_iff.mp taken
  cases step_cases moved with
  | sendRejected e call | recvRejected e call | multiRejected e call =>
    exact { alert.returns (.inr cycle) with }
  | pickFailed e call | sendTimeout call | refuse e call | refuseClosed e call
  | resolveFailed e call => exact { alert.returns (.inl (by simp [call])) with }
  | check call running ready => exact alert.setCall (.inr cycle) trivial
  | pick call balanced attached =>
    exact { alert.setCall (c := .sendPicked _ _) (.inl (by simp [call])) trivial with }
  | resolve call found => exact alert.setCall (.inl (by simp [call])) trivial
  | accept call =>
    exact { alert.setCall (c := .sendAccepted _ _) (.inl (by simp [call])) trivial with }
  | expect call =>
    rw [note, call]
    exact alert.expect call
  | sent call =>
    exact alert.move (c := .idle) (.inl (by simp [call])) rfl trivial ⟨rfl, rfl, rfl, rfl⟩
      (.inl rfl) rfl
  | select call running expecting => exact alert.select cycle attentive
  | wakeByPermit call permit =>
    exact alert.move (.inl (by simp [call])) rfl
      (alert.wake call (.inr permit) attentive) ⟨rfl, rfl, rfl, rfl⟩ (.inl rfl) rfl
  | wake call woken =>
    exact alert.setCall (.inl (by simp [call])) (alert.wake call (.inl woken) attentive)
  | selectOn call polled => exact alert.selectOn call polled
  | selected call polled => exact alert.selected call polled
  | recheck call running =>
    have sound := alert.of_call call
    exact alert.setCall (.inl (by simp [call])) sound
  | recheckClosed call stopped => exact alert.setCall (.inl (by simp [call])) (.inl stopped)
  | pollOn call polled => exact alert.pollOn call polled
  | polled call polled => exact alert.polled call polled
  | giveBack call last expecting =>
    exact alert.move (.inl (by simp [call])) rfl (alert.returning true call)
      ⟨rfl, rfl, rfl, rfl⟩ (.inr rfl) rfl
  | keepState call keeps => exact alert.setCall (.inl (by simp [call])) (alert.returning false call)
  | recvTells call =>
    exact { alert.tells (s := w.req) (by simp [call]) rfl ⟨rfl, rfl, rfl, rfl⟩ (.inl rfl) with }
  | recvReturns call => exact { alert.returns (.inl (by simp [call])) with }
  | recvTimeout call => cases (alert.of_call call).1
  | multiStart call running expecting => exact alert.setCall (.inr cycle) alert.patient
  | multiOn call polled =>
    cases RecvLogicalMessage.poll_cases polled
    exact alert.move (.inl (by simp [call])) rfl (alert.of_call call) ⟨rfl, rfl, rfl, rfl⟩
      (.inl rfl) rfl
  | multiPolled call polled => exact alert.multiPolled call polled
  | multiReturns call =>
    exact { alert.tells (s := { w.req with state := .readyToSend }) (by simp [call]) rfl
      ⟨rfl, rfl, rfl, rfl⟩ (.inr rfl) with }
  | multiTimeout call => cases (alert.of_call call : Timeout.finite = .infinite)
  | multiFails call | multiFailsTelling call => exact (alert.of_call call).elim
  | drop | dropSelect => exact cycle.elim
  | locate handler | collect handler | assemble handler =>
    exact { alert.beside (.setHandler (by simp) (by simp)) with }
  | expected handler | unexpected handler => exact alert.beside (.setHandler (by simp) (by simp))
  | @push p parts o handler pushed =>
    have joined := queueItem_ok pushed
    refine alert.beside (.of_queued ?_ ?_ ?_)
    all_goals rw [joined]
    show w.req.orchestrator.mainIncomingQueue.items ++ [parts] ≠ []
    simp
  | pushRefused handler refused =>
    exact absurd refused (queueItem_open alert.opened _ _)
  | pushDropped handler =>
    refine alert.beside (.of_queued (o := w.req.orchestrator) rfl rfl ?_)
    intro empty
    have full : w.req.orchestrator.mainIncomingQueue.hwm ≤
        w.req.orchestrator.mainIncomingQueue.items.length := cycle
    have room := alert.room
    rw [show w.req.orchestrator.mainIncomingQueue.items = [] from empty, List.length_nil] at full
    omega
  | @notify p handler =>
    have idle := Beside.setHandler (w := w) (p := p) (h := .idle) (by simp) (by simp)
    exact alert.beside (idle.of_notifyOne (.inr (.inl ⟨p, handler⟩)) rfl)
  | notifyRefused handler => exact absurd handler (alert.unrefused _)
  | detachUnknown detach unknown =>
    rw [note, unknown]
    exact { alert.beside (.setDetach (by simp)) with }
  | detachTarget detach known expecting =>
    rw [note, known]
    exact alert.detachTarget expecting
  | detachOther detach known other =>
    rw [note, known]
    exact { (alert.lose _).beside (.setDetach (by simp)) with }
  | @detachTells p detach =>
    have clearing := Beside.setDetach (w := w) (p := p) (d := .clearing) (by simp)
    exact alert.beside (clearing.of_notifyOne (.inr (.inr ⟨p, detach⟩)) rfl)
  | detachSilent detach => exact alert.beside (.setDetach (by simp))
  | clear detach => exact { alert.beside (.setDetach (by simp)) with }
  | reset detach => exact alert.reset (attentive detach)
  | setTimeouts => exact { alert with patient := cycle }
  | stop => exact alert.stop
  | skip | discard | attach | attachUnknown | lose | setEndpoint | setPipeUri =>
    exact { alert with }

/-! The results -/

/-- A wake-up that is stored while there is nothing to receive makes the next `recv` fail, and gives
the state back. -/
lemma recv_fails_of_stale (alert : w.Alert) (idle : w.req.calls t = .idle)
    (running : w.req.running = true) {uri} (expecting : w.req.state = .expectingReply uri)
    (permit : w.req.permit = true) (none : ¬ Stocked w.req) (lost : w.lost = false) :
    ∃ w', run (step f) w [.recvBegin t, .recvWake t, .recvAdvance t, .recvAdvance t, .recvAdvance t,
        .recvUpdate t] = some w' ∧ w'.req.state = .readyToSend ∧ ¬ w'.Faithful := by
  obtain ⟨items, buffer⟩ : w.req.orchestrator.mainIncomingQueue.items = [] ∧
      w.req.orchestrator.currentRecvFramesBuffer = [] := by
    simpa [Stocked] using none
  have popped : w.req.orchestrator.recvItemFromMainQueue .zero =
      some (.error .resourceLimitReached, w.req.orchestrator) := by
    simp [IncomingMessageOrchestrator.recvItemFromMainQueue, FairQueue.tryPopItem, items,
      alert.opened]
  generalize ran : run (step f) w _ = result
  simp [run, step, Req.step, Req.recvBegin, Req.receiveBegin, idle, running, expecting,
    Req.setCall, Req.recvWake, permit, note, Req.recvAdvance, RecvMessage.poll, buffer, popped,
    Req.recvUpdate, Req.pollResult, Req.interrupted, Req.concludes] at ran
  subst ran
  refine ⟨_, rfl, rfl, ?_⟩
  intro faithful
  rcases faithful t _ (.inr ⟨true, by simp; rfl⟩) with stopped | closed | gone
  · cases stopped
  · simp [alert.opened] at closed
  · simp [lost] at gone

def exchange : List (ReqAction UInt8) :=
  connecting 1 "a" ++ sending 1 firstRequest ++ delivering 1 ++ receiving 1

/-- A request and its reply, one call after the other. -/
lemma exchange_permitted : Permitted (step echo)
    (fun w a => w.Cycle a ∧ w.Attentive a ∧ Undisturbed a) (start .infinite) exchange := by
  iterate 3 refine ⟨⟨trivial, trivial, trivial⟩, _, rfl, ?_⟩
  refine ⟨⟨fun _ => rfl, trivial, trivial⟩, _, rfl, ?_⟩
  iterate 13 refine ⟨⟨trivial, trivial, trivial⟩, _, rfl, ?_⟩
  refine ⟨⟨?_, ?_, trivial⟩, _, rfl, ⟨trivial, ?_, trivial⟩, _, rfl, by
    iterate 6 refine ⟨⟨trivial, trivial, trivial⟩, _, rfl, ?_⟩
    exact trivial⟩
  · intro u
    by_cases mine : u = 1
    · subst mine
      rfl
    · exact (update_of_ne mine _ _).trans ((update_of_ne mine _ _).trans
        ((update_of_ne mine _ _).trans ((update_of_ne mine _ _).trans
          ((update_of_ne mine _ _).trans (update_of_ne mine _ _)))))
  · exact fun _ => .inl (by intro empty; cases empty)
  · intro wake rcvtimeo frames call
    cases call

/-- In every run of call cycles in which each `recv` is attentive, a `recv` fails only with an
excuse; one that starts on a stored wake-up with nothing to receive fails without one. -/
theorem recv_fails_only_excused {sndtimeo : Timeout}
    (reached : Reaches (step f) (fun w a => w.Cycle a ∧ w.Attentive a) (start sndtimeo) w) :
    w.Faithful ∧ ∀ t uri, w.req.calls t = .idle → w.req.running = true →
      w.req.state = .expectingReply uri → w.req.permit = true → ¬ Stocked w.req →
      w.lost = false →
      ∃ w', run (step f) w [.recvBegin t, .recvWake t, .recvAdvance t, .recvAdvance t,
        .recvAdvance t, .recvUpdate t] = some w' ∧ w'.req.state = .readyToSend ∧
        ¬ w'.Faithful := by
  have alert : w.Alert := reached.invariant (alert_step f) (alert_start sndtimeo)
  exact ⟨alert.faithful, fun t uri idle running expecting permit none lost =>
    recv_fails_of_stale alert idle running expecting permit none lost⟩

theorem recv_fails_only_excused_once : ∃ w : Watched UInt8,
    run (step echo) (start .infinite) exchange = some w ∧
      w.accepted = 1 ∧ w.answered = 1 ∧ w.Faithful :=
  have reached := (reaches_of_permitted exchange_permitted rfl).weaken
    fun _ _ allowed => allowed.imp_right And.left
  ⟨_, rfl, rfl, rfl, (recv_fails_only_excused reached).1⟩

/-- `recv_multipart` takes the first reply and leaves the wake-up; the `recv` after the second
request fails, with the reply on its way. -/
theorem stale_wakeup_fails : ∃ w : Watched UInt8,
      run (step echo) (start .infinite) (connecting 1 "a" ++
        sending 1 firstRequest ++ delivering 1 ++
        [.multiBegin 1, .multiAdvance 1, .multiAdvance 1, .multiReturn 1] ++
        sending 1 firstRequest ++ [.recvBegin 1, .recvWake 1, .recvAdvance 1,
          .recvAdvance 1, .recvAdvance 1, .recvUpdate 1]) = some w ∧
      w.req.running = true ∧ w.lost = false ∧ w.req.state = .readyToSend ∧
      w.req.wire 1 = delimiter :: echo.reply firstRequest ∧ ¬ w.Faithful := by
  refine ⟨_, rfl, rfl, rfl, rfl, rfl, ?_⟩
  intro faithful
  rcases faithful 1 _ (.inr ⟨true, rfl⟩) with stopped | closed | gone
  · cases stopped
  · cases closed
  · cases gone

end Watched

end Rzmq
