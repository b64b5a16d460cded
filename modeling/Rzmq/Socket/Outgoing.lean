import Rzmq.Lib.Messages
import Rzmq.Socket.Orchestrator

/-! The send side that the socket patterns share: the two calls, and the balancer that PUSH and
DEALER pick their peers with.  The notifier of the balancer only ends waits for a first connection,
and such a wait is over when there is one. -/

namespace Rzmq

open List Function Messages

variable {α : Type}

inductive SendJob (α : Type) where
  | send (m : Msg α)
  | sendMultipart (frames : List (Msg α))

def SendJob.frames : SendJob α → List (Msg α)
  | .send m => [m]
  | .sendMultipart frames => frames

@[simp] lemma SendJob.frames_send (m : Msg α) : (SendJob.send m).frames = [m] := rfl

def SendJob.IsSend (job : SendJob α) : Prop := ∃ m, job = .send m

def SendJob.Whole (job : SendJob α) : Prop := ∀ frames, job = .sendMultipart frames → Framed frames

lemma SendJob.whole_send (m : Msg α) : (SendJob.send m).Whole := nofun

lemma SendJob.whole_linked {frames : List (Msg α)} (some : frames ≠ []) :
    (SendJob.sendMultipart (linked frames)).Whole := by
  rintro _ ⟨⟩
  exact framed_linked some

section Jobs

variable {κ : Type} {jobOf : κ → Option (SendJob α)} {P : SendJob α → Prop} {calls : Nat → κ}
  {t : Nat} {c : κ}

def Jobs (jobOf : κ → Option (SendJob α)) (P : SendJob α → Prop) (calls : Nat → κ) : Prop :=
  ∀ t job, jobOf (calls t) = some job → P job

section

variable (jobs : Jobs jobOf P calls)
include jobs

lemma Jobs.update (fits : ∀ job, jobOf c = some job → P job) :
    Jobs jobOf P (update calls t c) := by
  intro u job has
  by_cases same : u = t
  · rw [same, update_self] at has
    exact fits job has
  · rw [update_of_ne same] at has
    exact jobs u job has

lemma Jobs.move (same : jobOf c = jobOf (calls t)) : Jobs jobOf P (Function.update calls t c) :=
  jobs.update fun job has => jobs t job (same ▸ has)

lemma Jobs.start {job} (has : jobOf c = some job) (holds : P job) :
    Jobs jobOf P (Function.update calls t c) :=
  jobs.update fun _ has' => Option.some.inj (has.symm.trans has') ▸ holds

lemma Jobs.stop (none : jobOf c = none) : Jobs jobOf P (Function.update calls t c) :=
  jobs.update fun job has => by rw [none] at has; cases has

end

end Jobs

structure LoadBalancer where
  connectionUris : List String

namespace LoadBalancer

def new : LoadBalancer := ⟨[]⟩

variable (b : LoadBalancer)

def addConnection (uri : String) : LoadBalancer :=
  if uri ∈ b.connectionUris then b else ⟨b.connectionUris ++ [uri]⟩

def removeConnection (uri : String) : LoadBalancer :=
  ⟨b.connectionUris.erase uri⟩

def getNextConnectionUri : Option (String × LoadBalancer) :=
  match b.connectionUris with
  | [] => none
  | uri :: rest => some (uri, ⟨rest ++ [uri]⟩)

def hasConnections : Bool := !b.connectionUris.isEmpty

def connectionCount : Nat := b.connectionUris.length

lemma getNextConnectionUri_eq_none {b : LoadBalancer} :
    b.getNextConnectionUri = none ↔ b.connectionUris = [] := by
  unfold getNextConnectionUri
  cases b.connectionUris <;> simp

end LoadBalancer

/-! Logs of the calls that have returned, each with its result, and what the results say of the
messages that are sent frame by frame -/

section Log

variable {κ ρ δ : Type}

def sendsOf (fate : ρ → δ) (returned : List (SendJob α × ρ)) : List (Msg α × δ) :=
  returned.filterMap fun
    | (.send m, result) => some (m, fate result)
    | (.sendMultipart _, _) => none

def framesOf (chosen : ρ → Bool) (returned : List (SendJob α × ρ)) : List (Msg α) :=
  (returned.filter fun r => chosen r.2).flatMap fun r => r.1.frames

/-- If the last frame sent leaves its message open, this is what became of it. -/
def Continues (log : List (Msg α × δ)) (d : δ) : Prop :=
  ∀ last ∈ log.getLast?, last.1.isMore = true → last.2 = d

instance [DecidableEq δ] (log : List (Msg α × δ)) (d : δ) : Decidable (Continues log d) :=
  inferInstanceAs (Decidable (∀ last ∈ log.getLast?, last.1.isMore = true → last.2 = d))

variable {jobOf : κ → Option (SendJob α)} {fate : ρ → δ} {nowhere : δ} {steady : Prop}
  {due due' : κ → Option δ} {calls calls' : Nat → κ} {returned returned' : List (SendJob α × ρ)}

/-- What a step does to the calls and to their log: a call begins or is turned away, goes on or
returns.  `due` is what the frame in hand is bound for, once that is settled, and `steady` stands
for the conditions under which it continues the message that is open. -/
inductive Passes (jobOf : κ → Option (SendJob α)) (fate : ρ → δ) (nowhere : δ) (steady : Prop)
    (due : κ → Option δ) (calls : Nat → κ) (returned : List (SendJob α × ρ)) :
    (κ → Option δ) → (Nat → κ) → List (SendJob α × ρ) → Prop where
  | same (due' : κ → Option δ) (keeps : ∀ t d, due' (calls t) = some d →
        due (calls t) = some d ∨ (steady → Continues (sendsOf fate returned) d)) :
      Passes jobOf fate nowhere steady due calls returned due' calls returned
  | begun (t : Nat) (c : κ) (job : SendJob α) (has : jobOf c = some job) (whole : job.Whole)
        (unsettled : due c = none)
        (alone : steady → job.IsSend ∧ ∀ u, jobOf (calls u) = none) :
      Passes jobOf fate nowhere steady due calls returned due (update calls t c) returned
  | away (t : Nat) (c : κ) (job : SendJob α) (result : ρ) (ended : jobOf c = none)
        (fails : fate result = nowhere)
        (alone : steady → job.IsSend ∧ (∀ u, jobOf (calls u) = none) ∧
          Continues (sendsOf fate returned) nowhere) :
      Passes jobOf fate nowhere steady due calls returned due (update calls t c)
        (returned ++ [(job, result)])
  | moved (t : Nat) (c : κ) (same : jobOf c = jobOf (calls t)) (keeps : ∀ d, due c = some d →
        due (calls t) = some d ∨ (steady → Continues (sendsOf fate returned) d)) :
      Passes jobOf fate nowhere steady due calls returned due (update calls t c) returned
  | done (t : Nat) (c : κ) (job : SendJob α) (result : ρ) (has : jobOf (calls t) = some job)
        (ended : jobOf c = none) (goes : due (calls t) = some (fate result) ∨
          (steady → Continues (sendsOf fate returned) (fate result))) :
      Passes jobOf fate nowhere steady due calls returned due (update calls t c)
        (returned ++ [(job, result)])

/-- Every job in hand, and every one whose frames were taken, is one message or one frame of it. -/
structure Wired (jobOf : κ → Option (SendJob α)) (fate : ρ → δ) (nowhere : δ) (calls : Nat → κ)
    (returned : List (SendJob α × ρ)) : Prop where
  jobs : Jobs jobOf SendJob.Whole calls
  whole : ∀ r ∈ returned, fate r.2 ≠ nowhere → r.1.Whole

lemma forall_concat {P : SendJob α × ρ → Prop} {r : SendJob α × ρ} (before : ∀ r ∈ returned, P r)
    (last : P r) : ∀ r' ∈ returned ++ [r], P r' := by
  rw [forall_mem_append]
  exact ⟨before, forall_mem_singleton.mpr last⟩

lemma Passes.wired
    (passes : Passes jobOf fate nowhere steady due calls returned due' calls' returned')
    (wired : Wired jobOf fate nowhere calls returned) :
    Wired jobOf fate nowhere calls' returned' := by
  obtain ⟨jobs, before⟩ := wired
  cases passes with
  | same => exact ⟨jobs, before⟩
  | begun t c job has whole => exact ⟨jobs.start has whole, before⟩
  | away t c job result ended fails =>
    exact ⟨jobs.stop ended, forall_concat before fun went => absurd fails went⟩
  | moved t c same => exact ⟨jobs.move same, before⟩
  | done t c job result has ended =>
    exact ⟨jobs.stop ended, forall_concat before fun _ => jobs t job has⟩

def FramesOnly (returned : List (SendJob α × ρ)) : Prop := ∀ r ∈ returned, r.1.IsSend

/-- One task sends frame by frame; the messages sent are undivided, and so is the one that the frame
in hand belongs to. -/
structure Undivided (jobOf : κ → Option (SendJob α)) (fate : ρ → δ) (due : κ → Option δ)
    (calls : Nat → κ) (returned : List (SendJob α × ρ)) : Prop where
  jobs : Jobs jobOf SendJob.IsSend calls
  alone : ∀ t u, jobOf (calls t) ≠ none → jobOf (calls u) ≠ none → t = u
  sent : FramesOnly returned
  uniform : Uniform Msg.isMore (sendsOf fate returned)
  heading : ∀ t d, jobOf (calls t) ≠ none → due (calls t) = some d →
    Continues (sendsOf fate returned) d

lemma Undivided.nil (idle : ∀ t, jobOf (calls t) = none) : Undivided jobOf fate due calls [] := by
  refine ⟨fun t job has => ?_, fun t _ busy => absurd (idle t) busy, ?_, ?_,
    fun t _ busy => absurd (idle t) busy⟩
  · rw [idle t] at has
    cases has
  · intro r mem
    cases mem
  · intro message mem
    cases mem

lemma alone_update {t : Nat} {c : κ} (others : ∀ u, u ≠ t → jobOf (calls u) = none) {u : Nat}
    (busy : jobOf (update calls t c u) ≠ none) : u = t := by
  by_contra other
  rw [update_of_ne other] at busy
  exact busy (others u other)

/-- Where no call but the one of `t` is under way, that one may return. -/
lemma Undivided.returns (whole : Undivided jobOf fate due calls returned) {t : Nat} {c : κ}
    {job result} (others : ∀ u, u ≠ t → jobOf (calls u) = none) (ended : jobOf c = none)
    (frame : job.IsSend) (continues : Continues (sendsOf fate returned) (fate result)) :
    Undivided jobOf fate due (update calls t c) (returned ++ [(job, result)]) := by
  have idle : ∀ u, jobOf (update calls t c u) ≠ none → False := by
    intro u busy
    obtain rfl := alone_update others busy
    rw [update_self] at busy
    exact busy ended
  obtain ⟨m, rfl⟩ := frame
  have extended : sendsOf fate (returned ++ [(.send m, result)]) =
      sendsOf fate returned ++ [(m, fate result)] := by
    simp [sendsOf]
  refine ⟨whole.jobs.stop ended, fun u _ busy => (idle u busy).elim,
    forall_concat whole.sent ⟨m, rfl⟩, ?_, fun u _ busy => (idle u busy).elim⟩
  rw [extended, uniform_concat]
  exact ⟨whole.uniform, continues⟩

lemma Passes.undivided
    (passes : Passes jobOf fate nowhere steady due calls returned due' calls' returned')
    (whole : Undivided jobOf fate due calls returned) (holds : steady) :
    Undivided jobOf fate due' calls' returned' := by
  cases passes with
  | same due' keeps =>
    refine ⟨whole.jobs, whole.alone, whole.sent, whole.uniform, fun t d busy settled => ?_⟩
    rcases keeps t d settled with known | continues
    · exact whole.heading t d busy known
    · exact continues holds
  | begun t c job has _ unsettled alone =>
    obtain ⟨frame, idle⟩ := alone holds
    refine ⟨whole.jobs.start has frame, fun u v busy busy' => ?_, whole.sent, whole.uniform, ?_⟩
    · rw [alone_update (fun u _ => idle u) busy, alone_update (fun u _ => idle u) busy']
    · intro u d busy settled
      obtain rfl := alone_update (fun u _ => idle u) busy
      rw [update_self, unsettled] at settled
      cases settled
  | away t c job result ended fails alone =>
    obtain ⟨frame, idle, continues⟩ := alone holds
    exact whole.returns (fun u _ => idle u) ended frame (fails ▸ continues)
  | moved t c same keeps =>
    have busy_iff : ∀ u, jobOf (update calls t c u) ≠ none ↔ jobOf (calls u) ≠ none := by
      intro u
      by_cases mine : u = t
      · rw [mine, update_self, same]
      · rw [update_of_ne mine]
    refine ⟨whole.jobs.move same, fun u v busy busy' => whole.alone u v ((busy_iff u).mp busy)
      ((busy_iff v).mp busy'), whole.sent, whole.uniform, fun u d busy settled => ?_⟩
    have before := (busy_iff u).mp busy
    by_cases mine : u = t
    · rw [mine] at before
      rw [mine, update_self] at settled
      rcases keeps d settled with known | continues
      · exact whole.heading t d before known
      · exact continues holds
    · rw [update_of_ne mine] at settled
      exact whole.heading u d before settled
  | done t c job result has ended goes =>
    have busy : jobOf (calls t) ≠ none := by simp [has]
    refine whole.returns (fun u other => ?_) ended (whole.jobs t job has) ?_
    · by_contra also
      exact other (whole.alone u t also busy)
    · rcases goes with known | continues
      · exact whole.heading t _ busy known
      · exact continues holds

lemma framesOf_eq (sent : FramesOnly returned) (chosen : δ → Bool) :
    framesOf (fun r => chosen (fate r)) returned =
      ((sendsOf fate returned).filter fun e => chosen e.2).map Prod.fst := by
  unfold framesOf sendsOf
  induction returned with
  | nil => rfl
  | cons r rest ih =>
    obtain ⟨job, result⟩ := r
    obtain ⟨m, rfl⟩ := sent _ mem_cons_self
    have later := ih fun r mem => sent r (mem_cons_of_mem _ mem)
    by_cases here : chosen (fate result) = true
    · simp [here, later]
    · simp [here, later]

/-- What is chosen by its fate of undivided messages are whole messages. -/
lemma Undivided.framesOf_whole (whole : Undivided jobOf fate due calls returned)
    (chosen : δ → Bool) : ∃ messages' : List (List (Msg α)),
      messages'.Sublist (messages Msg.isMore ((sendsOf fate returned).map Prod.fst)) ∧
        framesOf (fun r => chosen (fate r)) returned = messages'.flatten := by
  rw [framesOf_eq whole.sent]
  exact whole.uniform.received chosen

end Log

end Rzmq
