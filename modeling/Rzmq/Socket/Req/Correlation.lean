import Rzmq.Socket.Req.Calls

/-! Which request the replies of a REQ socket belong to.  Replies carry no request id, so what is
left of an abandoned request is taken for the answer to the next one. -/

namespace Rzmq.Req

open Function Transition

variable {α : Type}

def lastSent : List (Returned α) → Option (Msg α)
  | [] => none
  | .sent m :: _ => some m
  | _ :: earlier => lastSent earlier

/-- Every reply that a call returned is the reply to the request sent last before it. -/
def Correlated (f : Replier α) : List (Returned α) → Prop
  | [] => True
  | .received frames :: earlier =>
    (∃ m, lastSent earlier = some m ∧
      frames.flatMap Msg.body = (f.reply m).flatMap Msg.body) ∧ Correlated f earlier
  | _ :: earlier => Correlated f earlier

/-- No call is in progress, and no frame of a reply is at a peer, on its way, being handled, partly
assembled or queued. -/
structure Resting (s : Req α) : Prop where
  calls : ∀ t, s.calls t = .idle
  pipe : ∀ p, s.pending p = []
  handler : ∀ p parts, s.handlers p ≠ .queueing parts
  queue : s.orchestrator.mainIncomingQueue.items = []

/-- A `send` starts only when the socket is settled, no receive starts during a `send`, and no
`send` is cancelled after a connection has taken its request. -/
def Careful (s : Req α) : ReqAction α → Prop
  | .sendBegin _ _ => s.running = true → s.state = .readyToSend → s.Resting
  | .recvBegin _ => ∀ t, s.phases t = .idle ∨ s.phases t = .receiving
  | .multiBegin _ => ∀ t, s.phases t = .idle ∨ s.phases t = .receiving
  | .cancel t => ∀ m, s.phases t ≠ .asked m
  | _ => True

/-- Whose reply is outstanding: nobody's, that of the request in hand until its `send` returns, then
that of the request sent last. -/
inductive Situation (f : Replier α) (s : Req α) : Option (Msg α) → Prop where
  | free (calls : ∀ t, s.phases t = .idle ∨ s.phases t = .receiving)
      (owner : ∀ r, o = some r → ∃ m, lastSent s.returned = some m ∧ f.reply m = [r]) :
      Situation f s o
  | asking (t : Nat) (here : s.phases t = .asking) (others : ∀ u ≠ t, s.phases u = .idle) :
      Situation f s none
  | asked (t : Nat) (here : s.phases t = .asked m)
      (others : ∀ u ≠ t, s.phases u = .idle) (reply : f.reply m = [r]) : Situation f s (some r)

structure Inv (f : Replier α) (s : Req α) : Prop where
  correlated : Correlated f s.returned
  holds : ∃ o, Holds o s ∧ Situation f s o

variable {o : Option (Msg α)} {f : Replier α} {s s' : Req α}

lemma Resting.holds {s} (h : s.Resting) (before : Holds o s) : Holds none s where
  last := by simp
  pipe p := by rw [h.pipe p]; exact List.Sublist.refl _
  handler p := by
    have none := h.handler p
    cases eq : s.handlers p with
    | queueing parts => exact absurd eq (none parts)
    | idle | located | expected | queued | refused => trivial
  queue := by rw [h.queue]; simp
  buffer := before.buffer
  call t := by rw [h.calls t]; trivial

/-! ## Runs -/

lemma Situation.congr (h : Situation f s o) (phases : s'.phases = s.phases)
    (last : lastSent s'.returned = lastSent s.returned) : Situation f s' o := by
  cases h with
  | free calls owner =>
    rw [← phases] at calls
    rw [← last] at owner
    exact .free calls owner
  | asking t here others => exact .asking t (phases ▸ here) (phases ▸ others)
  | asked t here others reply => exact .asked t (phases ▸ here) (phases ▸ others) reply

lemma Situation.idle {t : Nat} (h : Situation f s o) (before : ∀ m, s.phases t ≠ .asked m)
    (phases : s'.phases = update s.phases t .idle)
    (last : lastSent s'.returned = lastSent s.returned) : Situation f s' o := by
  have at_t : s'.phases t = .idle := by simp [phases]
  have elsewhere {u : Nat} (ne : u ≠ t) : s'.phases u = s.phases u := by simp [phases, ne]
  cases h with
  | free calls owner =>
    refine .free (fun u => ?_) (last ▸ owner)
    by_cases same : u = t
    · exact .inl (same ▸ at_t)
    · rw [elsewhere same]
      exact calls u
  | asking u here others =>
    by_cases same : u = t
    · subst same
      refine .free (fun v => .inl ?_) (by simp)
      by_cases also : v = u
      · exact also ▸ at_t
      · rw [elsewhere also]
        exact others v also
    · refine .asking u (by rw [elsewhere same]; exact here) (fun v ne => ?_)
      by_cases also : v = t
      · exact also ▸ at_t
      · rw [elsewhere also]
        exact others v ne
  | asked u here others reply =>
    have same : u ≠ t := by
      rintro rfl
      exact before _ here
    refine .asked u (by rw [elsewhere same]; exact here) (fun v ne => ?_) reply
    by_cases also : v = t
    · exact also ▸ at_t
    · rw [elsewhere also]
      exact others v ne

lemma eq_of_busy {s : Req α} {t u : Nat} (others : ∀ v ≠ u, s.phases v = .idle) {ph}
    (here : s.phases t = ph) (busy : ph ≠ .idle) : t = u := by
  by_contra ne
  exact busy (here.symm.trans (others t ne))

lemma Inv.step (single : ∀ m, (f.reply m).length = 1) {a} (h : Inv f s)
    (careful : Careful s a) (taken : step f s a = some s') : Inv f s' := by
  obtain ⟨correlated, o, holds, situation⟩ := h
  cases step_change taken with
  | quiet notAccept phases returned =>
    refine ⟨returned ▸ correlated, o, holds.step notAccept taken, ?_⟩
    exact situation.congr phases (by rw [returned])
  | ask running ready phases returned =>
    rename_i t m
    have settled := careful running ready
    have others (u : Nat) (ne : u ≠ t) : s'.phases u = .idle := by
      rw [phases, update_of_ne ne, Req.phases, settled.calls u]
      rfl
    refine ⟨returned ▸ correlated, none, (settled.holds holds).step (by simp) taken, ?_⟩
    exact .asking t (by simp [phases]) others
  | accept sending phases returned =>
    rename_i t m uri p
    have here : s.phases t = .asking := by rw [Req.phases, sending]; rfl
    obtain ⟨r, reply⟩ := List.length_eq_one_iff.mp (single m)
    cases situation with
    | free calls owner =>
      have := calls t
      simp [here] at this
    | asking u asks others =>
      obtain rfl := eq_of_busy others here (by simp)
      refine ⟨returned ▸ correlated, some r, holds.sendAccept sending reply taken, ?_⟩
      refine .asked t (by simp [phases]) (fun v ne => ?_) reply
      simp [phases, ne, others v ne]
    | asked u asks others reply' =>
      obtain rfl := eq_of_busy others here (by simp)
      simp [here] at asks
  | receive begins phases returned =>
    rename_i t
    have calls : ∀ u, s.phases u = .idle ∨ s.phases u = .receiving := by
      rcases begins with rfl | rfl <;> exact careful
    have notAccept : ∀ u, a ≠ .sendAccept u := by
      rcases begins with rfl | rfl <;> simp
    refine ⟨returned ▸ correlated, o, holds.step notAccept taken, ?_⟩
    cases situation with
    | free _ owner =>
      refine .free (fun u => ?_) (returned ▸ owner)
      by_cases same : u = t
      · exact .inr (by simp [phases, same])
      · simpa [phases, same] using calls u
    | asking u asks others | asked u asks others reply =>
      have := calls u
      simp [asks] at this
  | drop phases returned =>
    refine ⟨returned ▸ correlated, o, holds.step (by simp) taken, ?_⟩
    exact situation.idle careful phases (by rw [returned])
  | fail notAccept before phases returned =>
    refine ⟨returned ▸ correlated, o, holds.step notAccept taken, ?_⟩
    exact situation.idle before phases (by rw [returned]; rfl)
  | sent asked phases returned =>
    rename_i t m
    cases situation with
    | free calls owner =>
      have := calls t
      simp [asked] at this
    | asking u asks others =>
      obtain rfl := eq_of_busy others asked (by simp)
      simp [asked] at asks
    | asked u asks others reply =>
      obtain rfl := eq_of_busy others asked (by simp)
      rw [asked] at asks
      cases asks
      refine ⟨returned ▸ correlated, _, holds.step (by simp) taken, ?_⟩
      refine .free (fun v => .inl ?_) ?_
      · by_cases also : v = t
        · simp [phases, also]
        · simp [phases, also, others v also]
      · rintro _ ⟨⟩
        exact ⟨m, by rw [returned]; rfl, reply⟩
  | received notAccept receiving held phases returned =>
    rename_i t frames
    obtain ⟨r, rfl, body⟩ := held o (holds.call t)
    cases situation with
    | free calls owner =>
      obtain ⟨m, last, reply⟩ := owner r rfl
      refine ⟨?_, some r, holds.step notAccept taken, ?_⟩
      · rw [returned]
        exact ⟨⟨m, last, by rw [body, reply]; simp⟩, correlated⟩
      · refine (Situation.free calls owner).idle (fun m asked => ?_) phases (by rw [returned]; rfl)
        rw [receiving] at asked
        cases asked
    | asked u asks others reply =>
      obtain rfl := eq_of_busy others receiving (by simp)
      simp [receiving] at asks

lemma inv_new (f : Replier α) (sndtimeo rcvtimeo : Timeout) : Inv f (new sndtimeo rcvtimeo) where
  correlated := trivial
  holds := by
    refine ⟨none, ⟨by simp, fun p => ?_, fun p => trivial, by simp [new,
      IncomingMessageOrchestrator.new, FairQueue.new], rfl, fun t => trivial⟩, ?_⟩
    · exact List.Sublist.refl _
    · exact .free (fun t => .inl rfl) (by simp)

/-- In every run whose steps are careful, a reply that is returned is the reply to the request of
the most recent successful `send`. -/
theorem replies_correlated {f : Replier α} (single : ∀ m, (f.reply m).length = 1)
    {sndtimeo rcvtimeo : Timeout} {s : Req α}
    (reached : Reaches (step f) Careful (new sndtimeo rcvtimeo) s) : Correlated f s.returned :=
  (reached.invariant (fun _ _ _ inv careful taken => inv.step single careful taken)
    (inv_new f sndtimeo rcvtimeo)).correlated

/-! ## A late reply -/

def timingOut (t : Nat) : List (ReqAction α) :=
  [.recvBegin t, .recvAdvance t, .recvExpire t, .recvUpdate t, .recvReturn t]

def secondRequest : Msg UInt8 := .fromBytes [2] .empty (by decide)

/-- The reply to a request that timed out comes after the next one is sent, and is taken for the
reply to that. -/
theorem late_reply_taken : ∃ s, run (step echo) (new .infinite .finite)
        (connecting 0 "tcp://peer:1" ++ sending 0 firstRequest ++ timingOut 0 ++
          sending 0 secondRequest ++ delivering 0 ++ receiving 0) = some s ∧
      s.returned = [.received [firstRequest], .sent secondRequest, .failed .timeout,
        .sent firstRequest] ∧
      ¬ Correlated echo s.returned := by
  refine ⟨_, rfl, rfl, ?_⟩
  rintro ⟨⟨m, last, same⟩, -⟩
  cases last
  revert same
  decide

theorem reply_correlated_once : ∃ s, Reaches (step echo) Careful (new .infinite .finite) s ∧
      s.returned = [.received [firstRequest], .sent firstRequest] ∧
      Correlated echo s.returned := by
  have start : Reaches (step (echo (α := UInt8))) Careful (new .infinite .finite) _ := .refl
  have connected := start.trans
    (reaches_of_run (connecting 0 "tcp://peer:1") (by simp [connecting, Careful]) rfl)
  have begun := connected.tail (a := .sendBegin 0 firstRequest)
    (by
      intro _ _
      exact ⟨fun _ => rfl, fun _ => rfl, fun _ _ eq => (by cases eq), rfl⟩) rfl
  have queued := begun.trans
    (reaches_of_run ((sending 0 firstRequest).tail ++ delivering 0)
      (by simp [sending, delivering, Careful]) rfl)
  have receives := queued.tail (a := .recvBegin 0)
    (by
      intro t
      left
      cases t <;> rfl) rfl
  have received := receives.trans
    (reaches_of_run (receiving 0).tail (by simp [receiving, Careful]) rfl)
  exact ⟨_, received, rfl, replies_correlated (fun _ => rfl) received⟩

end Rzmq.Req
