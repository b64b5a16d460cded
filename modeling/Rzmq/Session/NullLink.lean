import Rzmq.Session.Data
import Rzmq.Session.NullHandshake

/-! Two tokio handlers at the ends of one connection, over two reliable byte channels that deliver
any number of bytes at a time.  Writes may be short, nothing times out and no future is dropped.
Without security the handshake never comes to a stop before both ends are done, both ends learn the
same facts of each other, and the data behind READY arrives.  What one end has received and what is
still on its way is what the other end has written. -/

namespace Rzmq

open Octet Curve Function Transition Incremental ZmtpManualParser NullHandshake
open List (append_assoc append_nil length_append prefix_append prefix_rfl)
open Option (ite_none_right_eq_some map_eq_some_iff map_some)
open ZmtpCodec (encode encodeAll encodeAll_append encodeAll_cons encodeAll_nil header_length)

variable {SK Key H T α : Type}

/-- `sent` are the frames written behind READY, `returned` those that `read_data_frame` has
returned. -/
structure Peer (SK Key H T α : Type) where
  session : Session SK Key H T α
  data : Option (DataSession α)
  sent : List (Msg α)
  returned : List (Msg α)

/-- The two ends, the server at `true`, and what each has written that the other has not read. -/
structure Link (SK Key H T α : Type) where
  peers : Bool → Peer SK Key H T α
  wire : Bool → List α

inductive LinkAction (α : Type) where
  | poll
  | write (count : Nat)
  | flush
  | again
  | read (count : Nat)
  | begin
  | send (batch : List (Msg α))
  | pollData
  | readData (count : Nat)
  | handle

namespace Link

def new (config : Bool → ZmtpEngineConfig SK α) (entropy : Bool → Entropy SK) :
    Link SK Key H T α where
  peers b := ⟨.new (config b) b (entropy b), none, [], []⟩
  wire _ := []

def setPeer (l : Link SK Key H T α) (b : Bool) (p : Peer SK Key H T α) : Link SK Key H T α :=
  { l with peers := update l.peers b p }

def Done (l : Link SK Key H T α) (b : Bool) : Prop := (l.peers b).session.handler.subPhase = .done

/-- What the handshake hands over to `read_data_frame`: the framer and the bytes that it has read
beyond READY. -/
def beginData (h : ZmtpProtocolHandler SK Key H T α) : Option (DataSession α) :=
  match h.framer with
  | .null framer =>
    some ⟨framer, h.networkReadBuffer, h.negotiatedVersion = some .v2, .polling, []⟩
  | .lengthPrefixed _ => none

variable [Octet α] [CryptoBox Key α] [CurveSuite SK Key α] [SnowHandshake H T α] [DecidableEq α]

def own (l : Link SK Key H T α) (b : Bool) (a : SessionAction α) : Option (Link SK Key H T α) :=
  ((l.peers b).session.step a).map fun s =>
    { l.setPeer b { l.peers b with session := s } with
      wire := update l.wire b (l.wire b ++ s.written.drop (l.peers b).session.written.length) }

def step (l : Link SK Key H T α) (b : Bool) : LinkAction α → Option (Link SK Key H T α)
  | .poll => l.own b .poll
  | .write count => l.own b (.write count)
  | .flush => l.own b .flush
  | .again => l.own b .again
  | .read count =>
    if count ≤ (l.wire !b).length then
      ((l.peers b).session.step (.read ((l.wire !b).take count))).map fun s =>
        { l.setPeer b { l.peers b with session := s } with
          wire := update l.wire (!b) ((l.wire !b).drop count) }
    else none
  | .begin =>
    if (l.peers b).session.handler.subPhase = .done ∧ (l.peers b).data.isNone then
      (beginData (l.peers b).session.handler).map fun d =>
        l.setPeer b { l.peers b with data := some d }
    else none
  | .send batch =>
    match (l.peers b).data with
    | some d =>
      match writeDataMsgs d.framer batch with
      | .ok bytes =>
        some { l.setPeer b { l.peers b with sent := (l.peers b).sent ++ batch } with
          wire := update l.wire b (l.wire b ++ bytes) }
      | .error _ => none
    | none => none
  | .pollData =>
    match (l.peers b).data with
    | some d =>
      match d.stage with
      | .polling => some (l.setPeer b { l.peers b with data := some d.readDataFrame })
      | _ => none
    | none => none
  | .readData count =>
    match (l.peers b).data with
    | some d =>
      match d.stage with
      | .reading =>
        if 0 < count ∧ count ≤ (l.wire !b).length then
          some { l.setPeer b { l.peers b with
              data := some { d with
                networkReadBuffer := d.networkReadBuffer ++ (l.wire !b).take count
                stage := .polling } } with
            wire := update l.wire (!b) ((l.wire !b).drop count) }
        else none
      | _ => none
    | none => none
  | .handle =>
    match (l.peers b).data with
    | some d =>
      match d.stage with
      | .handling msg =>
        some (l.setPeer b { l.peers b with
          data := some (d.setStage .polling), returned := (l.peers b).returned ++ [msg] })
      | _ => none
    | none => none

end Link

namespace Session

lemma settle_logs (s : Session SK Key H T α) (p : ZmtpProtocolHandler SK Key H T α × Poll α) :
    (s.settle p).written = s.written ∧ (s.settle p).received = s.received := by
  obtain ⟨handler, poll⟩ := p
  match poll with
  | .pending await | .ready (.error f) => exact ⟨rfl, rfl⟩
  | .ready (.ok progress) =>
    cases progress <;>
      simp only [settle, handleProgress, checkComplete, checkOperational] <;>
      split_ifs <;> exact ⟨rfl, rfl⟩

section Enabled

variable [Octet α] [CryptoBox Key α] [CurveSuite SK Key α] [SnowHandshake H T α] [DecidableEq α]
  {s : Session SK Key H T α}

lemma write_enabled {left what} (await : s.await = some (.write left what)) (more : left ≠ []) :
    ∃ t, s.step (.write 1) = some t := by
  have long : 1 ≤ left.length := List.length_pos_iff.mpr more
  simp only [step, await, long, and_true, Nat.zero_lt_one, if_true]
  split_ifs <;> exact ⟨_, rfl⟩

lemma read_enabled {bytes what} (await : s.await = some (.read what))
    (filled : bytes ≠ []) : ∃ t, s.step (.read bytes) = some t := by
  simp [step, await, filled]

end Enabled

end Session

namespace NullHandshake

variable [Octet α] {me peer : ZmtpProtocolHandler SK Key H T α} {s s' : Session SK Key H T α}

lemma opening_prefix_script (me : ZmtpProtocolHandler SK Key H T α) : opening <+: script me := by
  rw [script, greeting, append_assoc]
  exact prefix_append _ _

lemma greeting_prefix_script (me : ZmtpProtocolHandler SK Key H T α) :
    greeting me.isServer <+: script me := prefix_append _ _

lemma Phase.follows_script (phase : Phase me peer s) : s.written <+: script me := by
  cases phase with
  | start => exact List.nil_prefix
  | hello whole => exact (prefix_append _ _).trans (whole ▸ opening_prefix_script me)
  | helloFlush | revision | awaitRevision => exact opening_prefix_script me
  | tail received whole =>
    exact (prefix_append _ _).trans (whole ▸ greeting_prefix_script me)
  | tailFlush | peerGreeting | awaitGreeting | security | ready | serverAwaits | serverReceived =>
    exact greeting_prefix_script me
  | clientReady buffer client whole | serverReady buffer server whole =>
    exact whole ▸ prefix_append _ _
  | clientSent | clientAwaits | done => exact prefix_rfl

lemma Phase.of_done (phase : Phase me peer s) (done : s.handler.subPhase = .done) :
    ∃ buffer, s = concluded me peer buffer := by
  cases phase with
  | done buffer => exact ⟨buffer, rfl⟩
  | start | hello | helloFlush | revision | awaitRevision | tail | tailFlush | peerGreeting
  | awaitGreeting | security | ready | clientReady | clientSent | clientAwaits | serverAwaits
  | serverReceived | serverReady => cases done

lemma Phase.not_failed (phase : Phase me peer s) : s.currentPhase ≠ .shuttingDownStream := by
  cases phase <;> nofun

inductive Lacks (me peer : ZmtpProtocolHandler SK Key H T α) (written received : List α) :
    Prop where
  | revision (wrote : written = opening) (short : received.length < signatureLength + 1)
  | greeting (wrote : written = greeting me.isServer) (short : received.length < greetingLength)
  | serverReady (client : me.isServer = false) (wrote : written = script me)
      (short : ¬ script peer <+: received)
  | clientReady (server : me.isServer = true) (wrote : written = greeting me.isServer)
      (short : ¬ script peer <+: received)

lemma lacks_ready {seen} (short : ¬ peer.readyFrame <+: seen) :
    ¬ script peer <+: greeting peer.isServer ++ seen := by
  rwa [script, List.prefix_append_right_inj]

lemma script_length (me : ZmtpProtocolHandler SK Key H T α) :
    greetingLength ≤ (script me).length := by
  rw [script, length_append, greeting_length]
  omega

lemma Lacks.not_script {written received} (lacks : Lacks me peer written received) :
    ¬ script peer <+: received := by
  intro all
  have long := Nat.le_trans (script_length peer) all.length_le
  cases lacks with
  | revision _ short =>
    simp only [greetingLength, signatureLength] at *
    omega
  | greeting _ short => omega
  | serverReady _ _ short | clientReady _ _ short => exact short all

lemma Lacks.written_long {written received} (lacks : Lacks me peer written received) :
    signatureLength + 1 ≤ written.length := by
  have long := script_length me
  cases lacks with
  | revision wrote =>
    rw [wrote, opening_length]
    decide
  | greeting wrote | clientReady _ wrote =>
    rw [wrote, greeting_length]
    decide
  | serverReady _ wrote =>
    rw [wrote]
    simp only [greetingLength, signatureLength] at *
    omega

lemma Lacks.not_mutual {written written'} (mine : Lacks me peer written written')
    (theirs : Lacks peer me written' written) (roles : me.isServer = !peer.isServer) : False := by
  have long := mine.written_long
  have long' := theirs.written_long
  have script := script_length me
  have script' := script_length peer
  cases mine with
  | revision _ short => omega
  | greeting wrote short =>
    cases theirs with
    | revision _ short' => omega
    | greeting wrote' | clientReady _ wrote' =>
      rw [wrote', greeting_length] at short
      omega
    | serverReady _ wrote' =>
      rw [wrote'] at short
      omega
  | serverReady client wrote short =>
    cases theirs with
    | revision _ short' => omega
    | greeting _ short' =>
      rw [wrote] at short'
      omega
    | serverReady client' => simp [client, client'] at roles
    | clientReady _ _ short' => exact short' (wrote ▸ prefix_rfl)
  | clientReady server wrote short =>
    cases theirs with
    | revision _ short' => omega
    | greeting _ short' =>
      rw [wrote, greeting_length] at short'
      omega
    | serverReady _ wrote' => exact short (wrote' ▸ prefix_rfl)
    | clientReady server' => simp [server, server'] at roles

variable [CryptoBox Key α] [CurveSuite SK Key α] [SnowHandshake H T α] [DecidableEq α]

lemma Phase.progress (phase : Phase me peer s) :
    s.handler.subPhase = .done ∨ (∃ t, s.step .poll = some t) ∨ (∃ t, s.step (.write 1) = some t) ∨
      (∃ t, s.step .flush = some t) ∨
      (∃ what, s.await = some (.read what)) ∧ Lacks me peer s.written s.received := by
  cases phase with
  | start | revision | peerGreeting | security | ready | clientSent | serverReceived =>
    exact .inr (.inl ⟨_, rfl⟩)
  | hello whole more | tail received whole more
  | clientReady buffer client whole more | serverReady buffer server whole more =>
    exact .inr (.inr (.inl (Session.write_enabled rfl more)))
  | helloFlush | tailFlush => exact .inr (.inr (.inr (.inl ⟨_, rfl⟩)))
  | awaitRevision short => exact .inr (.inr (.inr (.inr ⟨⟨_, rfl⟩, .revision rfl short⟩)))
  | awaitGreeting short => exact .inr (.inr (.inr (.inr ⟨⟨_, rfl⟩, .greeting rfl short⟩)))
  | clientAwaits client reads short =>
    exact .inr (.inr (.inr (.inr ⟨⟨_, rfl⟩, .serverReady client rfl (lacks_ready short)⟩)))
  | serverAwaits server reads short =>
    exact .inr (.inr (.inr (.inr ⟨⟨_, rfl⟩, .clientReady server rfl (lacks_ready short)⟩)))
  | done => exact .inl rfl

def Own : SessionAction α → Prop
  | .poll | .write _ | .flush | .again => True
  | _ => False

lemma Phase.own (fresh : Fresh me) (other : peer.config.Unsecured) (phase : Phase me peer s)
    {tail} (heard : s.received <+: script peer ++ tail) {a} (own : Own a)
    (taken : s.step a = some s') :
    Phase me peer s' ∧ s'.received = s.received ∧ s.written <+: s'.written ∧
      (stage s' < stage s ∨ stage s' ≤ stage s ∧ s.written.length < s'.written.length) := by
  cases a with
  | poll =>
    obtain ⟨later, nearer⟩ := phase.poll fresh other heard taken
    obtain ⟨-, -, rfl⟩ := Session.step_cases taken
    obtain ⟨written, received⟩ := Session.settle_logs s s.handler.advanceHandshake
    exact ⟨later, received, written ▸ prefix_rfl, .inl nearer⟩
  | write count =>
    obtain ⟨later, nearer⟩ := phase.write taken
    refine ⟨later, ?_⟩
    have wrote {left : List α} (some : 0 < left.length) :
        s.written.length < (s.written ++ left).length := by
      rw [length_append]
      omega
    obtain ⟨left, what, -, pos, ⟨short, rfl⟩ | ⟨whole, rfl⟩⟩ := Session.step_cases taken
    · refine ⟨rfl, prefix_append _ _, .inr ⟨nearer, wrote ?_⟩⟩
      rw [List.length_take]
      omega
    · have logs : (Session.wrote { s with written := s.written ++ left } what).written =
            s.written ++ left ∧
          (Session.wrote { s with written := s.written ++ left } what).received = s.received := by
        unfold Session.wrote
        split
        · exact ⟨rfl, rfl⟩
        · exact Session.settle_logs _ _
      rw [logs.1]
      exact ⟨logs.2, prefix_append _ _, .inr ⟨nearer, wrote (whole ▸ pos)⟩⟩
  | flush =>
    obtain ⟨later, nearer⟩ := phase.flush taken
    obtain ⟨what, -, rfl⟩ := Session.step_cases taken
    obtain ⟨written, received⟩ := Session.settle_logs s (s.handler.resumeWrite what)
    exact ⟨later, received, written ▸ prefix_rfl, .inl nearer⟩
  | again =>
    have await := (Session.step_cases taken).1
    cases phase <;> cases await
  | read | fail | cancel | initializePipes | stop => exact own.elim

lemma Phase.not_done (phase : Phase me peer s) {a} (own : Own a)
    (taken : s.step a = some s') : s.handler.subPhase ≠ .done := by
  intro done
  obtain ⟨buffer, rfl⟩ := phase.of_done done
  cases a <;> first | exact own.elim | cases taken

end NullHandshake

/-! ### The data phase -/

def DataSession.inHand (d : DataSession α) : List (Msg α) :=
  match d.stage with
  | .handling msg => [msg]
  | _ => []

section Data

variable [Octet α]

/-- The frames sent are those returned, the one in hand, and those partly with the framer (`seen`)
and partly on their way. -/
structure Arriving (d : DataSession α) (returned sent : List (Msg α)) (wire : List α)
    (past rest : List (Msg α)) (seen : List α) : Prop where
  split : sent = past ++ rest
  returned : returned ++ d.inHand = past.map Msg.received
  reads : Reads (decoder α) (new (-1)) seen d.framer.parser d.networkReadBuffer
  stream : seen ++ wire = encodeAll rest
  stage : d.stage = .polling ∨ d.stage = .reading ∨ ∃ msg, d.stage = .handling msg
  waits : d.stage = .reading → ∀ m later, rest = m :: later → ¬ encode m <+: seen

lemma encode_ne_nil (m : Msg α) : encode m ≠ [] := by
  apply List.ne_nil_of_length_pos
  rw [encode, length_append, header_length]
  split <;> omega

lemma decode_first (m : Msg α) (more : List α) :
    (decoder α).decode (new (-1)) (encode m ++ more) = (.ok (some m.received), new (-1), more) := by
  have admitted : admits (-1) m.size := nofun
  simp only [decoder]
  rw [decode_encode admitted]

variable {d : DataSession α} {returned sent : List (Msg α)} {wire : List α}
  {past rest : List (Msg α)} {seen : List α}

section

variable (flowing : Arriving d returned sent wire past rest seen)
include flowing

lemma Arriving.send (batch) :
    Arriving d returned (sent ++ batch) (wire ++ encodeAll batch) past (rest ++ batch)
      seen where
  split := by rw [flowing.split, append_assoc]
  returned := flowing.returned
  reads := flowing.reads
  stream := by rw [← append_assoc, flowing.stream, encodeAll_append]
  stage := flowing.stage
  waits reading m later first := by
    cases rest with
    | nil =>
      have none : seen = [] := (List.append_eq_nil_iff.mp flowing.stream).1
      rw [none, List.prefix_nil]
      exact encode_ne_nil m
    | cons m' rest =>
      rw [List.cons_append, List.cons.injEq] at first
      exact flowing.waits reading m rest (by rw [first.1])

lemma Arriving.read (reading : d.stage = .reading) (count : Nat) :
    Arriving { d with
        networkReadBuffer := d.networkReadBuffer ++ wire.take count, stage := .polling }
      returned sent (wire.drop count) past rest (seen ++ wire.take count) where
  split := flowing.split
  returned := by
    have idle : d.inHand = [] := by simp [DataSession.inHand, reading]
    rw [← flowing.returned, idle]
    rfl
  reads := flowing.reads.append _
  stream := by rw [append_assoc, List.take_append_drop, flowing.stream]
  stage := .inl rfl
  waits := nofun

lemma Arriving.handle {msg} (handling : d.stage = .handling msg) :
    Arriving (d.setStage .polling) (returned ++ [msg]) sent wire past rest seen where
  split := flowing.split
  returned := by
    have hand : d.inHand = [msg] := by simp [DataSession.inHand, handling]
    rw [← flowing.returned, hand]
    exact append_nil _
  reads := flowing.reads
  stream := flowing.stream
  stage := .inl rfl
  waits := nofun

lemma Arriving.poll (polling : d.stage = .polling)
    (room : d.networkReadBuffer.length ≤ maxBufferSize) :
    ∃ past rest seen, Arriving d.readDataFrame returned sent wire past rest seen := by
  have within := Nat.not_lt.mpr room
  have idle : d.inHand = [] := by simp [DataSession.inHand, polling]
  have before : returned = past.map Msg.received := by
    simpa [idle] using flowing.returned
  unfold DataSession.readDataFrame NullFramer.tryReadMsg
  rw [if_neg within]
  cases rest with
  | nil =>
    have unseen : seen = [] := (List.append_eq_nil_iff.mp flowing.stream).1
    have answer : d.framer.parser.decodeFromBuffer d.networkReadBuffer =
        (.ok none, new (-1), []) := by
      have := flowing.reads []
      rw [unseen, append_nil] at this
      exact this
    rw [answer]
    exact ⟨past, [], [], flowing.split, by simpa [DataSession.inHand] using before, .refl _ _ _,
      unseen ▸ flowing.stream, .inr (.inl rfl), nofun⟩
  | cons m later =>
    have part : seen <+: encode m ++ encodeAll later :=
      ⟨wire, flowing.stream⟩
    obtain ⟨unread, whole, decoded⟩ | ⟨parser, buffer, decoded, reads, short⟩ :=
      flowing.reads.decode decoder_resumable (decode_first m) part
    · change d.framer.parser.decodeFromBuffer d.networkReadBuffer = _ at decoded
      rw [decoded]
      refine ⟨past ++ [m], later, unread, ?_, ?_, .refl _ _ _, ?_, .inr (.inr ⟨_, rfl⟩), nofun⟩
      · rw [flowing.split, append_assoc, List.singleton_append]
      · simp [DataSession.inHand, before]
      · have stream := flowing.stream
        rw [whole, append_assoc, encodeAll_cons] at stream
        exact List.append_cancel_left stream
    · change d.framer.parser.decodeFromBuffer d.networkReadBuffer = _ at decoded
      rw [decoded]
      refine ⟨past, m :: later, seen, flowing.split, ?_, reads, flowing.stream, .inr (.inl rfl),
        fun _ m' later' first => ?_⟩
      · simpa [DataSession.inHand] using before
      · cases first
        exact short

end

lemma Arriving.all_past (arriving : Arriving d returned sent wire past rest seen)
    (reading : d.stage = .reading) (empty : wire = []) : rest = [] := by
  cases rest with
  | nil => rfl
  | cons m later =>
    refine absurd ?_ (arriving.waits reading m later rfl)
    have stream := arriving.stream
    rw [empty, append_nil, encodeAll_cons] at stream
    exact stream ▸ prefix_append _ _

lemma readDataFrame_overfull (excess : maxBufferSize < d.networkReadBuffer.length) :
    d.readDataFrame = d.setStage (.failed .resourceLimitReached) := by
  rw [DataSession.readDataFrame, if_pos excess]

end Data

/-! ### The two ends together -/

namespace Link

section Ends

variable [Octet α]

def output (p : Peer SK Key H T α) : List α := p.session.written ++ encodeAll p.sent

/-- What the end has read and what is on its way to it is what the other end has written. -/
structure End (me other : ZmtpProtocolHandler SK Key H T α) (p q : Peer SK Key H T α)
    (wire : List α) : Prop where
  phase : Phase me other p.session
  quiet : p.data = none → p.sent = [] ∧ p.returned = []
  shaking : p.data = none → p.session.received ++ wire = output q
  flowing : ∀ d, p.data = some d →
    p.session.handler.subPhase = .done ∧ q.session.written = script other ∧
      ∃ past rest seen, Arriving d p.returned q.sent wire past rest seen

variable {me other : ZmtpProtocolHandler SK Key H T α} {p q : Peer SK Key H T α}
  {wire back : List α}

section

variable (mine : End me other p q wire)
include mine

lemma End.shakes (going : p.session.handler.subPhase ≠ .done) : p.data = none := by
  cases data : p.data with
  | none => rfl
  | some d => exact absurd (mine.flowing d data).1 going

lemma End.heard (theirs : End other me q p back) (shaking : p.data = none) :
    ∃ tail, p.session.received ++ wire <+: script other ++ tail := by
  rw [mine.shaking shaking, output]
  cases data : q.data with
  | none =>
    rw [(theirs.quiet data).1]
    exact ⟨[], by simpa using theirs.phase.follows_script⟩
  | some d =>
    obtain ⟨done, -⟩ := theirs.flowing d data
    obtain ⟨buffer, finished⟩ := theirs.phase.of_done done
    rw [finished]
    exact ⟨_, prefix_rfl⟩

lemma End.finished (all : script me <+: output p) : p.session.written = script me := by
  cases data : p.data with
  | none =>
    have follows := mine.phase.follows_script
    rw [output, (mine.quiet data).1, encodeAll_nil, append_nil] at all
    exact follows.eq_of_length_le all.length_le
  | some d =>
    obtain ⟨buffer, finished⟩ := mine.phase.of_done (mine.flowing d data).1
    rw [finished]
    rfl

lemma End.script_goes_on {s added} (written : q.session.written ++ added = s.written)
    (follows : s.written <+: script other) (quiet : q.sent = []) :
    End me other p { q with session := s } (wire ++ added) where
  phase := mine.phase
  quiet := mine.quiet
  shaking data := by
    have before := mine.shaking data
    simp only [output, quiet, encodeAll_nil, append_nil] at before ⊢
    rw [← append_assoc, before, written]
  flowing d data := by
    obtain ⟨done, finished, flow⟩ := mine.flowing d data
    have nothing : added = [] := by
      have length := follows.length_le
      rw [← written, length_append, finished] at length
      exact List.eq_nil_of_length_eq_zero (by omega)
    subst nothing
    rw [append_nil] at written ⊢
    exact ⟨done, written ▸ finished, flow⟩

lemma End.data_goes_on (batch) :
    End me other p { q with sent := q.sent ++ batch }
      (wire ++ encodeAll batch) where
  phase := mine.phase
  quiet := mine.quiet
  shaking data := by
    have before := mine.shaking data
    simp only [output] at before ⊢
    rw [← append_assoc, before, encodeAll_append, append_assoc]
  flowing d data := by
    obtain ⟨done, finished, past, rest, seen, flow⟩ := mine.flowing d data
    exact ⟨done, finished, past, rest ++ batch, seen, flow.send batch⟩

lemma End.congr {q'} (written : q'.session.written = q.session.written) (sent : q'.sent = q.sent) :
    End me other p q' wire where
  phase := mine.phase
  quiet := mine.quiet
  shaking data := by rw [output, written, sent]; exact mine.shaking data
  flowing d data := by rw [written, sent]; exact mine.flowing d data

end

/-- What is ahead of one end: steps, bytes to write, and bytes of its own that are to be read. -/
def sideRank (me : ZmtpProtocolHandler SK Key H T α) (p : Peer SK Key H T α) (wire : List α) :
    Nat :=
  stage p.session + 2 * ((script me).length - p.session.written.length) + wire.length

def Linked (me : Bool → ZmtpProtocolHandler SK Key H T α) (l : Link SK Key H T α) : Prop :=
  ∀ b, End (me b) (me !b) (l.peers b) (l.peers !b) (l.wire !b)

lemma not_ne (b : Bool) : (!b) ≠ b := by cases b <;> decide

def rank (me : Bool → ZmtpProtocolHandler SK Key H T α) (l : Link SK Key H T α) : Nat :=
  sideRank (me false) (l.peers false) (l.wire false) +
    sideRank (me true) (l.peers true) (l.wire true)

lemma rank_eq (me : Bool → ZmtpProtocolHandler SK Key H T α) (l) (b : Bool) :
    rank me l = sideRank (me b) (l.peers b) (l.wire b) +
      sideRank (me !b) (l.peers !b) (l.wire !b) := by
  cases b
  · rfl
  · exact Nat.add_comm _ _

variable {me : Bool → ZmtpProtocolHandler SK Key H T α} {l : Link SK Key H T α}

lemma Linked.set {b : Bool} {p wire} (mine : End (me b) (me !b) p (l.peers !b) (wire !b))
    (theirs : End (me !b) (me b) (l.peers !b) p (wire b)) :
    Linked me { peers := update l.peers b p, wire } := by
  intro c
  obtain rfl | rfl : c = b ∨ c = !b := by cases b <;> cases c <;> simp
  · simpa [not_ne] using mine
  · simpa [not_ne] using theirs

lemma Linked.theirs (linked : Linked me l) (b : Bool) :
    End (me !b) (me b) (l.peers !b) (l.peers b) (l.wire b) := by
  simpa using linked !b

omit [Octet α] in
lemma fresh_new {config} (unsecured : config.Unsecured) (isServer : Bool) (entropy) :
    Fresh (.new config isServer entropy : ZmtpProtocolHandler SK Key H T α) where
  config := unsecured
  mechanism := rfl
  framer := by simp [ZmtpProtocolHandler.new, unsecured.unlimited]
  parser := by simp [ZmtpProtocolHandler.new, unsecured.unlimited]
  identity := rfl

end Ends

section Steps

variable [Octet α] [CryptoBox Key α] [CurveSuite SK Key α] [SnowHandshake H T α] [DecidableEq α]
  {me : Bool → ZmtpProtocolHandler SK Key H T α} {l l' : Link SK Key H T α} {b : Bool}

lemma Linked.own (fresh : ∀ b, Fresh (me b)) (linked : Linked me l) {a}
    (own : Own a) (taken : l.own b a = some l') : Linked me l' ∧ rank me l' < rank me l := by
  obtain ⟨s, step, rfl⟩ := map_eq_some_iff.mp taken
  have mine := linked b
  have theirs := linked.theirs b
  have shaking := mine.shakes (mine.phase.not_done own step)
  obtain ⟨tail, heard⟩ := mine.heard theirs shaking
  obtain ⟨phase, received, ⟨added, written⟩, nearer⟩ := mine.phase.own (fresh b) (fresh !b).config
    ((prefix_append _ _).trans heard) own step
  have new : s.written.drop (l.peers b).session.written.length = added := by
    rw [← written, List.drop_left]
  constructor
  · refine Linked.set ?_ ?_
    · rw [update_of_ne (not_ne b)]
      refine ⟨phase, mine.quiet, fun data => ?_, fun d data => ?_⟩
      · rw [received]
        exact mine.shaking data
      · cases shaking.symm.trans data
    · rw [update_self, new]
      exact theirs.script_goes_on written phase.follows_script (mine.quiet shaking).1
  · have follows := phase.follows_script.length_le
    rw [rank_eq me _ b, rank_eq me l b]
    simp only [setPeer, update_self, update_of_ne (not_ne b), sideRank, ← written,
      length_append, List.drop_left] at nearer follows ⊢
    omega

lemma Linked.read (fresh : ∀ b, Fresh (me b)) (linked : Linked me l) {count : Nat}
    (taken : l.step b (.read count) = some l') : Linked me l' ∧ rank me l' < rank me l := by
  simp only [step] at taken
  obtain ⟨fits, taken⟩ := ite_none_right_eq_some.mp taken
  obtain ⟨s, step, rfl⟩ := map_eq_some_iff.mp taken
  have mine := linked b
  have theirs := linked.theirs b
  obtain ⟨what, await, some, settled⟩ := Session.step_cases step
  have going : (l.peers b).session.handler.subPhase ≠ .done := by
    intro done
    obtain ⟨buffer, finished⟩ := mine.phase.of_done done
    rw [finished] at await
    cases await
  have shaking := mine.shakes going
  obtain ⟨tail, heard⟩ := mine.heard theirs shaking
  have logs := settled ▸ Session.settle_logs _ _
  have part : (l.peers b).session.received ++ (l.wire !b).take count <+: script (me !b) ++ tail :=
    (List.prefix_append_right_inj _).mpr (List.take_prefix ..) |>.trans heard
  obtain ⟨phase, nearer⟩ := mine.phase.read (fresh b) (fresh !b).config part step
  constructor
  · refine Linked.set ?_ ?_
    · rw [update_self]
      refine ⟨phase, mine.quiet, fun data => ?_, fun d data => ?_⟩
      · rw [logs.2, append_assoc, List.take_append_drop]
        exact mine.shaking data
      · cases shaking.symm.trans data
    · rw [update_of_ne (not_ne b).symm]
      exact theirs.congr logs.1 rfl
  · have pos : 0 < count := by
      rw [Nat.pos_iff_ne_zero]
      rintro rfl
      exact some rfl
    rw [rank_eq me _ b, rank_eq me l b]
    simp only [setPeer, update_self, update_of_ne (not_ne b), update_of_ne (not_ne b).symm,
      sideRank, logs.1, List.length_drop] at nearer ⊢
    omega

lemma Linked.begin (fresh : ∀ b, Fresh (me b)) (linked : Linked me l)
    (taken : l.step b .begin = some l') : Linked me l' := by
  simp only [step] at taken
  obtain ⟨⟨done, data⟩, taken⟩ := ite_none_right_eq_some.mp taken
  obtain ⟨d, begun, rfl⟩ := map_eq_some_iff.mp taken
  have mine := linked b
  have theirs := linked.theirs b
  have shaking : (l.peers b).data = none := Option.isNone_iff_eq_none.mp data
  obtain ⟨buffer, finished⟩ := mine.phase.of_done done
  have framer : (l.peers b).session.handler.framer = .null (.new (-1)) := by
    rw [finished]
    exact (fresh b).framer
  have handed : some (⟨.new (-1), buffer, false, .polling, []⟩ : DataSession α) = some d := by
    rw [← begun, beginData, framer, finished]
    rfl
  cases handed
  have received : script (me !b) ++ buffer ++ l.wire (!b) = output (l.peers !b) := by
    rw [← mine.shaking shaking, finished]
    rfl
  have written := theirs.finished ⟨_, (append_assoc ..).symm.trans received⟩
  have stream : buffer ++ l.wire (!b) = encodeAll (l.peers !b).sent := by
    rw [output, written, append_assoc] at received
    exact List.append_cancel_left received
  refine Linked.set ⟨mine.phase, nofun, nofun, fun d data => ?_⟩ (theirs.congr rfl rfl)
  cases data
  refine ⟨done, written, [], (l.peers !b).sent, buffer, rfl, ?_, .refl _ _ _, stream, .inl rfl,
    nofun⟩
  simp [(mine.quiet shaking).2, DataSession.inHand]

lemma step_send {d} (data : (l.peers b).data = some d) (batch) :
    l.step b (.send batch) =
      some { l.setPeer b { l.peers b with sent := (l.peers b).sent ++ batch } with
        wire := update l.wire b (l.wire b ++ encodeAll batch) } := by
  simp only [step]
  split
  · rw [writeDataMsgs_ok]
  · next none => cases data.symm.trans none

lemma Linked.send (linked : Linked me l) {batch}
    (taken : l.step b (.send batch) = some l') : Linked me l' := by
  have mine := linked b
  have theirs := linked.theirs b
  cases data : (l.peers b).data with
  | none => simp [step, data] at taken
  | some d =>
    rw [step_send data] at taken
    cases taken
    refine Linked.set ?_ ?_
    · rw [update_of_ne (not_ne b)]
      refine ⟨mine.phase, fun none => ?_, mine.shaking, mine.flowing⟩
      cases data.symm.trans none
    · rw [update_self]
      exact theirs.data_goes_on batch

def Roomy (l : Link SK Key H T α) : Bool × LinkAction α → Prop
  | (b, .pollData) =>
    ∀ d, (l.peers b).data = some d → d.networkReadBuffer.length ≤ maxBufferSize
  | _ => True

section

variable (linked : Linked me l)
include linked

lemma Linked.pollData (roomy : l.Roomy (b, .pollData)) (taken : l.step b .pollData = some l') :
    Linked me l' := by
  have mine := linked b
  simp only [step] at taken
  split at taken
  case h_2 => cases taken
  next d data =>
  obtain ⟨done, written, past, rest, seen, flowing⟩ := mine.flowing d data
  split at taken <;> cases taken
  next polling =>
  refine Linked.set ⟨mine.phase, nofun, nofun, fun d' data' => ?_⟩
    ((linked.theirs b).congr rfl rfl)
  cases data'
  exact ⟨done, written, flowing.poll polling (roomy d data)⟩

lemma Linked.readData {count : Nat} (taken : l.step b (.readData count) = some l') :
    Linked me l' := by
  have mine := linked b
  simp only [step] at taken
  split at taken
  case h_2 => cases taken
  next d data =>
  obtain ⟨done, written, past, rest, seen, flowing⟩ := mine.flowing d data
  split at taken
  case h_2 => cases taken
  next reading =>
  obtain ⟨-, ⟨⟩⟩ := ite_none_right_eq_some.mp taken
  refine Linked.set ?_ ?_
  · rw [update_self]
    refine ⟨mine.phase, nofun, nofun, fun d' data' => ?_⟩
    cases data'
    exact ⟨done, written, past, rest, _, flowing.read reading count⟩
  · rw [update_of_ne (not_ne b).symm]
    exact (linked.theirs b).congr rfl rfl

lemma Linked.handle (taken : l.step b .handle = some l') : Linked me l' := by
  have mine := linked b
  simp only [step] at taken
  split at taken
  case h_2 => cases taken
  next d data =>
  obtain ⟨done, written, past, rest, seen, flowing⟩ := mine.flowing d data
  split at taken <;> cases taken
  next msg handling =>
  refine Linked.set ⟨mine.phase, nofun, nofun, fun d' data' => ?_⟩
    ((linked.theirs b).congr rfl rfl)
  cases data'
  exact ⟨done, written, past, rest, seen, flowing.handle handling⟩

end

lemma Linked.step (fresh : ∀ b, Fresh (me b)) (linked : Linked me l) {a}
    (roomy : l.Roomy (b, a)) (taken : l.step b a = some l') : Linked me l' := by
  cases a with
  | poll => exact (linked.own fresh (a := .poll) trivial taken).1
  | write count => exact (linked.own fresh (a := .write count) trivial taken).1
  | flush => exact (linked.own fresh (a := .flush) trivial taken).1
  | again => exact (linked.own fresh (a := .again) trivial taken).1
  | read count => exact (linked.read fresh taken).1
  | begin => exact linked.begin fresh taken
  | send batch => exact linked.send taken
  | pollData => exact linked.pollData roomy taken
  | readData count => exact linked.readData taken
  | handle => exact linked.handle taken

/-! ### What two peers can rely on -/

lemma Linked.stuck (linked : Linked me l) (undone : ¬ l.Done b)
    (stuck : ∀ a l', l.step b a ≠ some l') :
    Lacks (me b) (me !b) (l.peers b).session.written (output (l.peers !b)) := by
  have mine := linked b
  have still {a : SessionAction α} {t : Session SK Key H T α}
      (going : (l.peers b).session.step a = some t) : ∃ l', l.own b a = some l' :=
    ⟨_, by rw [Link.own, going, map_some]⟩
  obtain done | ⟨t, going⟩ | ⟨t, going⟩ | ⟨t, going⟩ | ⟨⟨what, await⟩, lacks⟩ := mine.phase.progress
  · exact absurd done undone
  · obtain ⟨l', taken⟩ := still going
    exact absurd taken (stuck .poll l')
  · obtain ⟨l', taken⟩ := still going
    exact absurd taken (stuck (.write 1) l')
  · obtain ⟨l', taken⟩ := still going
    exact absurd taken (stuck .flush l')
  · have empty : l.wire (!b) = [] := by
      by_contra some
      have long : 1 ≤ (l.wire !b).length := List.length_pos_iff.mpr some
      have filled : (l.wire !b).take 1 ≠ [] := by simpa using some
      obtain ⟨t, going⟩ := Session.read_enabled await filled
      obtain ⟨l', taken⟩ : ∃ l', l.step b (.read 1) = .some l' := by
        simp only [Link.step, long, if_true, going, map_some]
        exact ⟨_, rfl⟩
      exact stuck (.read 1) l' taken
    have heard := mine.shaking (mine.shakes undone)
    rw [empty, append_nil] at heard
    rwa [heard] at lacks

lemma Linked.live (roles : ∀ b, (me b).isServer = b) (linked : Linked me l) :
    (∀ b, l.Done b) ∨ ∃ b a l', ¬ l.Done b ∧ l.step b a = some l' := by
  by_contra dead
  push Not at dead
  obtain ⟨⟨b, undone⟩, stuck⟩ := dead
  have lacks := linked.stuck undone fun a l' => stuck b a l' undone
  have theirs := linked.theirs b
  by_cases done : l.Done (!b)
  · obtain ⟨buffer, finished⟩ := theirs.phase.of_done done
    refine lacks.not_script ?_
    rw [output, finished]
    exact prefix_append _ _
  · have each := linked.stuck done fun a l' => stuck (!b) a l' done
    have quiet := (theirs.quiet (theirs.shakes done)).1
    have quiet' := ((linked b).quiet ((linked b).shakes undone)).1
    simp only [output, quiet, quiet', encodeAll_nil, append_nil, Bool.not_not]
      at lacks each
    exact lacks.not_mutual each (by rw [roles, roles, Bool.not_not])

lemma Linked.falls (fresh : ∀ b, Fresh (me b)) (linked : Linked me l) (undone : ¬ l.Done b)
    {a} (taken : l.step b a = some l') : Linked me l' ∧ rank me l' < rank me l := by
  have shaking := (linked b).shakes undone
  cases a with
  | poll => exact linked.own fresh (a := .poll) trivial taken
  | write count => exact linked.own fresh (a := .write count) trivial taken
  | flush => exact linked.own fresh (a := .flush) trivial taken
  | again => exact linked.own fresh (a := .again) trivial taken
  | read count => exact linked.read fresh taken
  | begin =>
    simp only [Link.step] at taken
    exact absurd (ite_none_right_eq_some.mp taken).1.1 undone
  | send | pollData | readData | handle =>
    simp only [Link.step, shaking] at taken
    cases taken

lemma Linked.completes (fresh : ∀ b, Fresh (me b)) (roles : ∀ b, (me b).isServer = b)
    (linked : Linked me l) :
    Inevitable (fun l (a : Bool × LinkAction α) => l.step a.1 a.2) (fun l a => ¬ l.Done a.1)
      (fun l => ∀ b, l.Done b) l := by
  refine Inevitable.of_rank (rank me) (fun l linked => ?_)
    (fun l a l' linked _ undone taken => ?_) linked
  · obtain done | ⟨b, a, l', undone, taken⟩ := Linked.live roles linked
    · exact .inl done
    · exact .inr ⟨(b, a), l', undone, taken⟩
  · obtain ⟨kept, less⟩ := Linked.falls fresh linked undone taken
    exact ⟨kept, .inr less⟩

/-- The handshakes end, no call fails, each end knows its peer, and returns the frames sent to it,
all of them when nothing is on its way. -/
structure Sound (config : Bool → ZmtpEngineConfig SK α) (l : Link SK Key H T α) : Prop where
  live : (∀ b, l.Done b) ∨ ∃ b a l', ¬ l.Done b ∧ l.step b a = some l'
  completes : Inevitable (fun l (a : Bool × LinkAction α) => l.step a.1 a.2)
    (fun l a => ¬ l.Done a.1) (fun l => ∀ b, l.Done b) l
  safe : ∀ b, (l.peers b).session.currentPhase ≠ .shuttingDownStream ∧
    ∀ d e, (l.peers b).data = some d → d.stage ≠ .failed e
  agreed : ∀ b, l.Done b →
    (l.peers b).session.handler.negotiatedVersion = some (.v3 0) ∧
    (l.peers b).session.handler.peerSocketType = some (config !b).socketTypeName ∧
    (l.peers b).session.pendingPeerIdentity = (config !b).announcedId
  delivered : ∀ b, (l.peers b).returned <+: (l.peers !b).sent.map Msg.received ∧
    ∀ d, (l.peers b).data = some d → d.stage = .reading → l.wire (!b) = [] →
      (l.peers b).returned = (l.peers !b).sent.map Msg.received

lemma Linked.sound {config : Bool → ZmtpEngineConfig SK α} {entropy : Bool → Entropy SK}
    (fresh : ∀ b, Fresh (.new (config b) b (entropy b) : ZmtpProtocolHandler SK Key H T α))
    (linked : Linked (fun b => .new (config b) b (entropy b)) l) : l.Sound config where
  live := linked.live fun b => rfl
  completes := linked.completes fresh fun b => rfl
  safe b := by
    refine ⟨(linked b).phase.not_failed, fun d e data failed => ?_⟩
    obtain ⟨-, -, past, rest, seen, arriving⟩ := (linked b).flowing d data
    have stage := arriving.stage
    simp [failed] at stage
  agreed b done := by
    obtain ⟨buffer, finished⟩ := (linked b).phase.of_done done
    rw [finished]
    exact ⟨rfl, rfl, rfl⟩
  delivered b := by
    cases data : (l.peers b).data with
    | none =>
      rw [((linked b).quiet data).2]
      exact ⟨List.nil_prefix, nofun⟩
    | some d =>
      obtain ⟨-, -, past, rest, seen, arriving⟩ := (linked b).flowing d data
      have taken := arriving.returned ▸ prefix_append _ _
      rw [arriving.split, List.map_append]
      refine ⟨taken.trans (prefix_append _ _), fun d' same reading empty => ?_⟩
      cases same
      have all := arriving.all_past reading empty
      have idle : d.inHand = [] := by simp [DataSession.inHand, reading]
      rw [all, List.map_nil, append_nil, ← arriving.returned, idle, append_nil]

lemma fails_overfull {d} (data : (l.peers b).data = some d)
    (reading : d.stage = .reading) (excess : maxBufferSize < (l.wire !b).length) :
    ∃ l', run (fun l a => l.step a.1 a.2) l
        [(b, .readData (l.wire !b).length), (b, .pollData)] = some l' ∧
      (l'.peers !b) = (l.peers !b) ∧ (l'.peers b).returned = (l.peers b).returned ∧
      ∃ d', (l'.peers b).data = some d' ∧ d'.stage = .failed .resourceLimitReached := by
  have long : 0 < (l.wire !b).length ∧ (l.wire !b).length ≤ (l.wire !b).length :=
    ⟨Nat.zero_lt_of_lt excess, Nat.le_refl _⟩
  have full : maxBufferSize < (d.networkReadBuffer ++ l.wire !b).length := by
    rw [length_append]
    omega
  simp only [run, step, data, reading, if_pos long, Option.bind_some, setPeer, update_self,
    update_idem, List.take_length]
  refine ⟨_, rfl, update_of_ne (not_ne b) .., ?_⟩
  simp only [update_self]
  refine ⟨trivial, _, rfl, ?_⟩
  rw [readDataFrame_overfull full]
  rfl

end Steps

section Runs

open Noise

def routerDealer (isServer : Bool) : ZmtpEngineConfig NoKey Symbol :=
  if isServer then clearConfig SocketType.router.name none
  else clearConfig SocketType.dealer.name (some (bytes [7]))

def connect : Link NoKey NoKey Handshake Transport Symbol := .new routerDealer fun _ => ⟨⟨⟩, 6⟩

lemma unsecured_routerDealer (b : Bool) : (routerDealer b).Unsecured := by
  cases b
  · exact ⟨rfl, rfl, rfl, rfl, rfl, .dealer, rfl⟩
  · exact ⟨rfl, rfl, rfl, rfl, rfl, .router, rfl⟩

def greetEachOther : List (Bool × LinkAction Symbol) :=
  [(false, .poll), (false, .write 11), (false, .flush), (false, .poll),
    (true, .poll), (true, .write 11), (true, .flush), (true, .poll),
    (true, .read 11), (true, .write 53), (true, .flush),
    (false, .read 64), (false, .write 53), (false, .flush), (false, .poll), (false, .poll),
    (false, .poll), (true, .poll), (true, .read 53), (true, .poll), (true, .poll),
    (false, .write 44), (false, .poll), (true, .read 44), (true, .poll), (true, .write 43),
    (true, .begin)]

def blank (size : UInt64) : Msg Symbol :=
  ⟨some (List.replicate size.toNat (.byte 0)), .empty, by
    simp only [Option.getD_some, List.length_replicate]
    exact size.toNat_lt⟩

def isReading (d : DataSession Symbol) : Bool := d.stage matches .reading

end Runs

end Link

end Rzmq
