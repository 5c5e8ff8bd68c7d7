import TrafficLimitd.HandlerLedger
import TrafficLimitd.HandlerScope
import TrafficLimitd.ClientOptions

set_option autoImplicit false

/- What becomes of the client's request. The handler reads one datagram, and its tests
on it decide between a second limit for the scope and a message that blames the
client. -/
namespace TrafficLimitd.Handler

open Coroutine
open Limiter (CgroupId)

/-- The limits that a run has asked for with their return codes, the answers to its
reads, and the buffers of its writes, the latest first. -/
structure Transcript where
  limits : List (CgroupId × RateLimit × Int)
  reads : List (Awaited (Int × List UInt8))
  writes : List (List UInt8)
deriving DecidableEq

namespace Transcript

def blank : Transcript := ⟨[], [], []⟩

def after (transcript : Transcript) : (effect : Effect) → Response effect → Transcript
  | .rateLimitSet cgroup limit, (rc : Int) =>
      { transcript with limits := (cgroup, limit, rc) :: transcript.limits }
  | .streamIo .read _ _, answer => { transcript with reads := answer :: transcript.reads }
  | .streamIo .write buf _, _ => { transcript with writes := buf :: transcript.writes }
  | _, _ => transcript

def rules : Discipline Effect Response Transcript where
  may _ _ := True
  after := after

def of (history : List (Event Effect Response)) : Transcript := rules.reached blank history

end Transcript

/-- The tests that the handler makes on what it has read. -/
def Accepted (count : Int) (buf : List UInt8) : Prop :=
  expectedMsgLen ≤ count ∧ expectedMsgLen ≤ Protocol.msgLength buf

instance (count : Int) (buf : List UInt8) : Decidable (Accepted count buf) :=
  inferInstanceAs (Decidable (_ ∧ _))

/-- A read that neither was interrupted nor failed. -/
theorem decodeRequest_value (scopeObj : CString) {count : Int} (buf : List UInt8)
    (read : 0 ≤ count) :
    if Accepted count buf then
      decodeRequest scopeObj (.value (count, buf)) = .ok (Protocol.reqLimit buf)
    else ∃ rc, decodeRequest scopeObj (.value (count, buf)) = .error (.errCloseStream rc true) := by
  have inTime : count ≠ -Errno.etimedout := by
    have : (0 : Int) < Errno.etimedout := by decide
    omega
  have size : (expectedMsgLen : Int) = 32 := rfl
  simp only [decodeRequest, if_neg inTime, if_neg (Int.not_lt.mpr read)]
  split
  · rename_i accepted
    obtain ⟨whole, long⟩ := accepted
    rw [if_neg (by omega), if_neg (by omega), if_neg (by omega)]
  · rename_i rejected
    split
    · exact ⟨_, rfl⟩
    split
    · exact ⟨_, rfl⟩
    split
    · exact ⟨_, rfl⟩
    · rename_i nonempty whole long
      exact absurd ⟨by omega, by omega⟩ rejected

theorem accepted_of_decoded {scopeObj : CString} {answer : Awaited (Int × List UInt8)}
    {limit : RateLimit} (decoded : decodeRequest scopeObj answer = .ok limit) :
    ∃ count buf, answer = .value (count, buf) ∧ Accepted count buf ∧
      limit = Protocol.reqLimit buf := by
  rcases answer with _ | ⟨count, buf⟩
  · cases decoded
  refine ⟨count, buf, rfl, ?_⟩
  have read : 0 ≤ count := by
    by_contra failed
    simp only [decodeRequest] at decoded
    split at decoded
    · cases decoded
    · rw [if_pos (Int.not_le.mp failed)] at decoded
      cases decoded
  have value := decodeRequest_value scopeObj buf read
  rw [decoded] at value
  split at value
  · rename_i accepted
    exact ⟨accepted, Except.ok.inj value⟩
  · obtain ⟨rc, failed⟩ := value
    cases failed

namespace Transcript

/-- The client was told to proceed. -/
def proceeds (transcript : Transcript) : Bool := transcript.writes.any isProceed

/-- The limits that a run sets and what it tells its client, after an answer to its read.
`told` stands for the message that blames the client. -/
def Answers (transcript : Transcript) (told : Prop) (cgroup : CgroupId) (blocked : Int) :
    Awaited (Int × List UInt8) → Prop
  | .cancelled => True
  | .value (count, buf) =>
      0 ≤ count →
        if Accepted count buf then
          ∃ rc, transcript.limits =
              [(cgroup, Protocol.reqLimit buf, rc), (cgroup, ⟨0, 0⟩, blocked)] ∧
            (transcript.proceeds = true ↔ 0 ≤ rc)
        else
          transcript.limits = [(cgroup, ⟨0, 0⟩, blocked)] ∧ transcript.proceeds = false ∧ told

/-- The run reads at most once, with all traffic blocked, and goes by the answer. -/
def Decides (transcript : Transcript) (told : Prop) : Prop :=
  transcript.reads = [] ∨
    ∃ answer cgroup blocked, transcript.reads = [answer] ∧ 0 ≤ blocked ∧
      transcript.Answers told cgroup blocked answer

/-- Nothing but writes was added, and none that tells the client to proceed. -/
structure Grows (earlier later : Transcript) : Prop where
  limits : later.limits = earlier.limits
  reads : later.reads = earlier.reads
  writes : earlier.writes ⊆ later.writes
  proceeds : later.proceeds = earlier.proceeds

theorem Grows.refl (transcript : Transcript) : Grows transcript transcript :=
  ⟨rfl, rfl, fun _ => id, rfl⟩

theorem Grows.trans {first second third : Transcript} (left : Grows first second)
    (right : Grows second third) : Grows first third :=
  ⟨right.limits.trans left.limits, right.reads.trans left.reads,
    fun _ member => right.writes (left.writes member), right.proceeds.trans left.proceeds⟩

theorem Grows.decides {earlier later : Transcript} {told still : Prop}
    (grows : Grows earlier later) (decides : earlier.Decides told) (keeps : told → still) :
    later.Decides still := by
  rcases decides with unread | ⟨answer, cgroup, blocked, read, passed, answers⟩
  · exact .inl (grows.reads.trans unread)
  refine .inr ⟨answer, cgroup, blocked, grows.reads.trans read, passed, ?_⟩
  rcases answer with _ | ⟨count, buf⟩
  · trivial
  intro complete
  have answered := answers complete
  rw [grows.limits, grows.proceeds]
  split at answered
  · rename_i accepted
    rw [if_pos accepted]
    exact answered
  · rename_i rejected
    rw [if_neg rejected]
    exact ⟨answered.1, answered.2.1, keeps answered.2.2⟩

/-- The calls that neither set a limit nor read, nor tell the client to proceed. -/
def Aside : Effect → Prop
  | .rateLimitSet _ _ | .streamIo .read _ _ => False
  | .streamIo .write buf _ => isProceed buf = false
  | _ => True

/-- A write that does not tell the client to proceed. -/
theorem grows_write (transcript : Transcript) {buf : List UInt8} (silent : isProceed buf = false) :
    Grows transcript { transcript with writes := buf :: transcript.writes } :=
  ⟨rfl, rfl, fun _ => List.mem_cons_of_mem buf, by simp only [proceeds, List.any_cons, silent,
    Bool.false_or]⟩

theorem aside_grows (transcript : Transcript) (effect : Effect) (aside : Aside effect)
    (answer : Response effect) : Grows transcript (transcript.after effect answer) := by
  cases effect with
  | streamIo direction buf usec =>
      cases direction with
      | read => exact aside.elim
      | write => exact grows_write transcript aside
  | _ => first | exact Grows.refl transcript | exact aside.elim

theorem aside_follows {α : Type} {program : Prog α} (aside : Only Aside program)
    (transcript : Transcript) :
    rules.Follows transcript program fun final _ => Grows transcript final := by
  refine aside.follows (Grows transcript) ?_ (Grows.refl transcript)
  intro state effect grows is
  exact ⟨trivial, fun answer => grows.trans (aside_grows state effect is answer)⟩

theorem isProceed_failMsg (reason : Protocol.FailReason) : isProceed (failMsg reason) = false :=
  isProceed_header _ _ _ nofun

theorem aside_ordinary : Ordinary Aside where
  toAsking := .of_questions fun effect question => by
    cases effect <;> first | exact trivial | exact question.elim
  log _ := isProceed_header _ _ _ nofun
  fail reason := isProceed_failMsg reason
  empty := (by decide : isProceed [] = false)
  drain := trivial
  tail := trivial

/-- The last message and the shutdown after it. -/
theorem tell_follows (transcript : Transcript) (msg : List UInt8) :
    rules.Follows transcript (do
      let _ ← writeRateLimitMsg msg
      let _ ← shutdownMsgStream) fun final _ =>
        Grows { transcript with writes := msg :: transcript.writes } final := by
  have writes : rules.Follows transcript (writeRateLimitMsg msg) fun final _ =>
      final = { transcript with writes := msg :: transcript.writes } := ⟨trivial, fun _ => rfl⟩
  refine writes.bind ?_
  rintro _ _ rfl
  exact (aside_follows aside_ordinary.shutdownMsgStream _).bind fun final _ grows => grows

/-- The handler leaves its main path to blame the client. -/
def Blaming (exit : Exit) : Prop := ∃ rc, exit = .errCloseStream rc true

def Leaves (transcript : Transcript) (exit : Exit) : Prop := transcript.Decides (Blaming exit)

/-- Code that neither limits, reads nor tells the client to proceed keeps what does not
depend on other writes. -/
theorem aside_triple {α : Type} {before : Transcript → Prop} {code : Body α}
    (stable : ∀ earlier later, Grows earlier later → before earlier → before later)
    (leaves : ∀ transcript exit, before transcript → transcript.Leaves exit)
    (aside : Only Aside code.run) : rules.Triple Leaves before code fun _ => before :=
  aside.triple (fun transcript effect holds is =>
    ⟨trivial, fun answer => stable _ _ (aside_grows transcript effect is answer) holds⟩) leaves

/-- Nothing was read or limited so far, and the client was not told to proceed. -/
structure Early (transcript : Transcript) : Prop where
  limits : transcript.limits = []
  reads : transcript.reads = []
  proceeds : transcript.proceeds = false

theorem Early.grows {earlier later : Transcript} (grows : Grows earlier later)
    (early : earlier.Early) : later.Early :=
  ⟨grows.limits.trans early.limits, grows.reads.trans early.reads,
    grows.proceeds.trans early.proceeds⟩

theorem early_triple {α : Type} {code : Body α} (aside : Only Aside code.run) :
    rules.Triple Leaves Early code fun _ => Early :=
  aside_triple (fun _ _ => Early.grows) (fun _ _ early => .inl early.reads) aside

/-- All traffic of the scope is blocked. -/
structure Blocked (transcript : Transcript) (cgroup : CgroupId) (rc : Int) : Prop where
  limits : transcript.limits = [(cgroup, ⟨0, 0⟩, rc)]
  success : 0 ≤ rc
  proceeds : transcript.proceeds = false

/-- All traffic is blocked, and the request is still to be read. -/
def Unheard (cgroup : CgroupId) (transcript : Transcript) : Prop :=
  transcript.reads = [] ∧ ∃ rc, transcript.Blocked cgroup rc

theorem blockTraffic_triple (scopeObj : CString) :
    rules.Triple Leaves Early (blockTraffic scopeObj) Unheard := by
  apply (early_triple (only_orLeave (some scopeObj)
    (aside_ordinary.getUnitCgroupId scopeObj))).bind
  intro cgroup transcript early
  refine follows_ask.mpr ⟨trivial, fun (rc : Int) => ?_⟩
  split
  · exact .inl early.reads
  · rename_i succeeded
    refine ⟨trivial, fun _ => ⟨early.reads, rc, ?_⟩⟩
    exact ⟨congrArg _ early.limits, Int.not_lt.mp succeeded, early.proceeds⟩

/-- The request that was read is accepted and asks for this limit. -/
def Asked (transcript : Transcript) (limit : RateLimit) : Prop :=
  ∃ count buf, transcript.reads = [.value (count, buf)] ∧ Accepted count buf ∧
    limit = Protocol.reqLimit buf

/-- All traffic is blocked, and a request for this limit is accepted. -/
def Heard (cgroup : CgroupId) (limit : RateLimit) (transcript : Transcript) : Prop :=
  transcript.Asked limit ∧ ∃ rc, transcript.Blocked cgroup rc

theorem readRequest_triple (scopeObj : CString) (cgroup : CgroupId) :
    rules.Triple Leaves (Unheard cgroup) (readRequest scopeObj) (Heard cgroup) := by
  rintro transcript ⟨unread, blocked, blocks⟩
  refine ⟨trivial, fun answer => ?_⟩
  change Discipline.Onward _ _ { transcript with reads := answer :: transcript.reads }
    (decodeRequest scopeObj answer)
  cases decoded : decodeRequest scopeObj answer with
  | ok limit =>
      obtain ⟨count, buf, rfl, accepted, same⟩ := accepted_of_decoded decoded
      exact ⟨⟨count, buf, congrArg _ unread, accepted, same⟩, blocked, blocks.limits,
        blocks.success, blocks.proceeds⟩
  | error exit =>
      refine .inr ⟨answer, cgroup, blocked, congrArg _ unread, blocks.success, ?_⟩
      rcases answer with _ | ⟨count, buf⟩
      · trivial
      intro complete
      have value := decodeRequest_value scopeObj buf complete
      rw [decoded] at value
      split at value
      · cases value
      · rename_i rejected
        obtain ⟨rc, same⟩ := value
        rw [if_neg rejected]
        exact ⟨blocks.limits, blocks.proceeds, rc, Except.error.inj same⟩

/-- The second limit is the one that was asked for, and the client was told to proceed or
not. -/
structure Granted (transcript : Transcript) (cgroup : CgroupId) (limit : RateLimit) (rc : Int)
    (told : Bool) : Prop where
  asked : transcript.Asked limit
  limits : ∃ blocked, 0 ≤ blocked ∧
    transcript.limits = [(cgroup, limit, rc), (cgroup, ⟨0, 0⟩, blocked)]
  told : transcript.proceeds = told

theorem Granted.grows {earlier later : Transcript} {cgroup : CgroupId} {limit : RateLimit}
    {rc : Int} {told : Bool} (grows : Grows earlier later) (granted : earlier.Granted cgroup limit rc told) :
    later.Granted cgroup limit rc told where
  asked := by
    obtain ⟨count, buf, read, accepted, same⟩ := granted.asked
    exact ⟨count, buf, grows.reads.trans read, accepted, same⟩
  limits := by
    obtain ⟨blocked, success, limits⟩ := granted.limits
    exact ⟨blocked, success, grows.limits.trans limits⟩
  told := grows.proceeds.trans granted.told

/-- The client is told to proceed exactly if its limit could be set. -/
theorem Granted.decides {transcript : Transcript} {cgroup : CgroupId} {limit : RateLimit} {rc : Int}
    {told : Bool} (granted : transcript.Granted cgroup limit rc told)
    (truly : told = true ↔ 0 ≤ rc) (blames : Prop) : transcript.Decides blames := by
  obtain ⟨count, buf, read, accepted, rfl⟩ := granted.asked
  obtain ⟨blocked, success, limits⟩ := granted.limits
  refine .inr ⟨_, cgroup, blocked, read, success, fun _ => ?_⟩
  rw [if_pos accepted, granted.told]
  exact ⟨rc, limits, truly⟩

theorem setLimit_triple (cgroup : CgroupId) (limit : RateLimit) :
    rules.Triple Leaves (Heard cgroup limit) (setLimit cgroup limit) fun _ transcript =>
      ∃ rc, 0 ≤ rc ∧ transcript.Granted cgroup limit rc false := by
  rintro transcript ⟨asked, blocked, blocks⟩
  refine follows_ask.mpr ⟨trivial, fun _ => follows_ask.mpr ⟨trivial, fun (rc : Int) => ?_⟩⟩
  have granted : Granted { transcript with limits := (cgroup, limit, rc) :: transcript.limits }
      cgroup limit rc false :=
    ⟨asked, ⟨blocked, blocks.success, congrArg _ blocks.limits⟩, blocks.proceeds⟩
  split
  · rename_i failed
    exact granted.decides ⟨nofun, fun success => absurd failed (Int.not_lt.mpr success)⟩ _
  · rename_i succeeded
    exact ⟨rc, Int.not_lt.mp succeeded, granted⟩

/-- The limit that was asked for is set, and the client was told to proceed. -/
def Launched (transcript : Transcript) : Prop :=
  ∃ cgroup limit rc, 0 ≤ rc ∧ transcript.Granted cgroup limit rc true

theorem Launched.grows {earlier later : Transcript} (grows : Grows earlier later)
    (launched : earlier.Launched) : later.Launched := by
  obtain ⟨cgroup, limit, rc, success, granted⟩ := launched
  exact ⟨cgroup, limit, rc, success, granted.grows grows⟩

theorem Launched.decides {transcript : Transcript} (launched : transcript.Launched)
    (blames : Prop) : transcript.Decides blames := by
  obtain ⟨cgroup, limit, rc, success, granted⟩ := launched
  exact granted.decides (iff_of_true rfl success) blames

theorem launched_triple {code : Body Unit} (aside : Only Aside code.run) :
    rules.Triple Leaves Launched code fun _ => Launched :=
  aside_triple (fun _ _ => Launched.grows) (fun _ _ launched => launched.decides _) aside

theorem proceed_follows {transcript : Transcript} {cgroup : CgroupId} {limit : RateLimit} {rc : Int}
    (success : 0 ≤ rc) (granted : transcript.Granted cgroup limit rc false) :
    rules.Follows transcript (proceed limit) fun final _ => final.Launched := by
  apply (aside_follows (aside_ordinary.writeRateLimitLog _) transcript).bind
  intro logged _ grown
  apply (tell_follows logged proceedMsg).mono
  intro final _ grows
  have still := granted.grows grown
  have told : Granted { logged with writes := proceedMsg :: logged.writes } cgroup limit rc true :=
    ⟨still.asked, still.limits, rfl⟩
  exact ⟨cgroup, limit, rc, success, told.grows grows⟩

def stages : Stages Transcript where
  early := Early
  blocked _ := Unheard
  heard _ := Heard
  limited _ cgroup limit transcript := ∃ rc, 0 ≤ rc ∧ transcript.Granted cgroup limit rc false
  launched _ := Launched
  ended := Launched
  leaves := Leaves

theorem stages_passed (host : Host) (pid : Pid) : stages.Passed rules host pid where
  names := early_triple (aside_ordinary.nameThisUnit host)
  checks := early_triple (aside_ordinary.checkOrigin aside_ordinary.toWriting pid trivial
    fun _ => trivial)
  starts := early_triple (aside_ordinary.startScope pid (fun _ => trivial) (fun _ => trivial)
    (fun _ => trivial) trivial)
  watches _ := early_triple (only_watchProcess pid trivial trivial trivial)
  blocks := blockTraffic_triple
  hears := readRequest_triple
  limits _ := setLimit_triple
  proceeds _ _ _ := Discipline.triple_lift fun _ ⟨_, success, granted⟩ =>
    proceed_follows success granted
  awaits scopeObj := launched_triple (only_awaitExit scopeObj trivial)
  kills _ := launched_triple (only_killScope trivial).except_lift

/-- The client is blamed at `err_close_stream`. -/
theorem atLabel_follows (host : Host) {transcript : Transcript} {exit : Exit}
    (leaves : transcript.Leaves exit) :
    rules.Follows transcript (atLabel host (.error exit)) fun final _ =>
      final.Decides (failMsg .yourError ∈ final.writes) := by
  by_cases blaming : Blaming exit
  · obtain ⟨rc, rfl⟩ := blaming
    apply (aside_follows (aside_ordinary.writeRateLimitLog _) transcript).bind
    intro logged _ grown
    apply (tell_follows logged (failMsg .yourError)).mono
    intro final _ grows
    have further := (grows_write logged (isProceed_failMsg .yourError)).trans grows
    exact (grown.trans further).decides leaves fun _ => grows.writes (List.mem_cons_self ..)
  · have aside := aside_ordinary.atLabel host (.error exit) (fun _ => trivial) trivial
      fun _ => trivial
    apply (aside_follows aside transcript).mono
    intro final _ grows
    exact grows.decides leaves fun blames => absurd blames blaming

theorem clientHandlerAsync_follows (host : Host) (pid : Pid) :
    rules.Follows blank (clientHandlerAsync host pid) fun final _ =>
      final.Decides (failMsg .yourError ∈ final.writes) := by
  apply (stages_passed host pid).handler_follows
  · apply opens_of_neutral _ ⟨rfl, rfl, rfl⟩ (.inl rfl)
    · apply (aside_follows aside_ordinary.reject blank).mono
      exact fun final _ grows => .inl grows.reads
    · intro effect opening
      cases effect <;> first | exact ⟨trivial, fun _ => rfl⟩ | exact opening.elim
  · intro transcript exit leaves
    exact atLabel_follows host leaves
  · exact fun _ launched => launched.decides _

end Transcript

/-- What a read leaves in the buffer: as much of the datagram as fits, and zeros. -/
def received (datagram : List UInt8) : List UInt8 :=
  let data := datagram.take expectedMsgLen
  data ++ (List.replicate expectedMsgLen 0).drop data.length

/-- The read of the request returns with the client's datagram. -/
def requestRead (datagram : List UInt8) : Event Effect Response :=
  ⟨.streamIo .read (List.replicate expectedMsgLen 0) maxIoUsec,
    Awaited.value (((datagram.take expectedMsgLen).length : Int), received datagram)⟩

/-- That is the answer which the stream gives when its handler reads the datagram. -/
theorem read_received {stream : Stream.MsgStream} (datagram : List UInt8)
    {revents : Stream.Revents} {answers : Stream.HandlerAnswers} (setEvents : Int)
    (reading : stream.state = .read) (buf : stream.buf = List.replicate expectedMsgLen 0)
    (len : stream.len = expectedMsgLen) (readable : revents.epollin = true)
    (read : answers.io = .done (datagram.take expectedMsgLen)) (masked : 0 ≤ answers.setEvents) :
    let handled := Stream.msgStreamHandler stream revents answers
    let finished := Stream.msgStreamDoIoFinish handled.stream false setEvents
    handled.eventSet = true ∧
      (requestRead datagram).answer = Awaited.value (finished.2, finished.1.buf) := by
  have nonempty : ¬ stream.len = 0 := by
    rw [len]
    decide
  simp only [Stream.msgStreamHandler, readable, Stream.cancelTimer_state, reading, if_true,
    Stream.transfer, Stream.cancelTimer_len, nonempty, if_false, read, Stream.finishTransfer,
    if_neg (Int.not_lt.mpr masked), Stream.msgStreamDoIoFinish, Stream.MsgStream.fill,
    Stream.cancelTimer_buf, buf]
  exact ⟨trivial, rfl⟩

/-- A datagram that is a `RATE_LIMIT_REQ`. -/
def Genuine (datagram : List UInt8) : Prop :=
  expectedMsgLen ≤ datagram.length ∧ expectedMsgLen ≤ Protocol.msgLength datagram ∧
    Protocol.msgType datagram = Protocol.MsgType.req.code.toNat

instance (datagram : List UInt8) : Decidable (Genuine datagram) :=
  inferInstanceAs (Decidable (_ ∧ _ ∧ _))

/-- The request is granted exactly if it is one, with the limit that it has, and the
client is told to proceed exactly if that limit could be set. On anything else the
client is blamed and its scope stays blocked. -/
def ProceedsOnRequest (datagram : List UInt8) (transcript : Transcript) : Prop :=
  ∃ cgroup blocked, 0 ≤ blocked ∧
    if Genuine datagram then
      ∃ rc, transcript.limits =
          [(cgroup, Protocol.reqLimit datagram, rc), (cgroup, ⟨0, 0⟩, blocked)] ∧
        (transcript.proceeds = true ↔ 0 ≤ rc)
    else
      transcript.limits = [(cgroup, ⟨0, 0⟩, blocked)] ∧ transcript.proceeds = false ∧
        failMsg .yourError ∈ transcript.writes

section Received

variable {datagram : List UInt8}

theorem received_of_long (long : expectedMsgLen ≤ datagram.length) :
    received datagram = datagram.take expectedMsgLen := by
  have taken : (datagram.take expectedMsgLen).length = expectedMsgLen :=
    List.length_take_of_le long
  rw [received, taken, List.drop_eq_nil_of_le (by rw [List.length_replicate]), List.append_nil]

theorem msgLength_take (datagram : List UInt8) :
    Protocol.msgLength (datagram.take expectedMsgLen) = Protocol.msgLength datagram := by
  rw [Protocol.msgLength, List.take_take]
  rfl

theorem reqLimit_take (datagram : List UInt8) :
    Protocol.reqLimit (datagram.take expectedMsgLen) = Protocol.reqLimit datagram := by
  simp only [Protocol.reqLimit, List.drop_take, List.take_take]
  rfl

theorem accepted_received :
    Accepted (datagram.take expectedMsgLen).length (received datagram) ↔
      expectedMsgLen ≤ datagram.length ∧ expectedMsgLen ≤ Protocol.msgLength datagram := by
  by_cases long : expectedMsgLen ≤ datagram.length
  · rw [Accepted, received_of_long long, msgLength_take, List.length_take_of_le long]
    simp [long]
  · have short : (datagram.take expectedMsgLen).length < expectedMsgLen := by
      rw [List.length_take]
      omega
    rw [Accepted]
    constructor
    · rintro ⟨whole, -⟩
      omega
    · rintro ⟨whole, -⟩
      exact absurd whole long

end Received

theorem answer_mem_reads {history : List (Event Effect Response)} {buf : List UInt8} {usec : Nat}
    {answer : Awaited (Int × List UInt8)}
    (read : ⟨.streamIo .read buf usec, answer⟩ ∈ history) :
    answer ∈ (Transcript.of history).reads := by
  induction history with
  | nil => cases read
  | cons event earlier ih =>
      have grown : (Transcript.of earlier).reads ⊆ (Transcript.of (event :: earlier)).reads := by
        obtain ⟨effect, _⟩ := event
        cases effect with
        | streamIo direction buf usec =>
            cases direction with
            | read => exact fun _ => List.mem_cons_of_mem _
            | write => exact fun _ => id
        | _ => exact fun _ => id
      rcases List.mem_cons.mp read with rfl | before
      · exact List.mem_cons_self ..
      · exact grown (ih before)

/-- In every complete run of the handler that reads a datagram, the request is granted
exactly as it should be if and only if the datagram is too short, or its header says so,
or its type is `RATE_LIMIT_REQ`. -/
theorem proceeds_on_request_iff (host : Host) (pid : Pid) (datagram : List UInt8)
    (events : List (Event Effect Response)) (final : Execution Effect Response Unit)
    (ran : Run.exec Execution.step (.start (clientHandlerAsync host pid)) events = some final)
    (ended : final.program.pending = none) (read : requestRead datagram ∈ events) :
    ProceedsOnRequest datagram (Transcript.of final.history) ↔
      datagram.length < expectedMsgLen ∨ Protocol.msgLength datagram < expectedMsgLen ∨
        Protocol.msgType datagram = Protocol.MsgType.req.code.toNat := by
  obtain ⟨_, decides⟩ : ∃ _ : Unit, (Transcript.of final.history).Decides
      (failMsg .yourError ∈ (Transcript.of final.history).writes) :=
    Execution.post_of_exec (Transcript.clientHandlerAsync_follows host pid) ran ended
  have present : requestRead datagram ∈ final.history := by
    rw [Execution.history_of_exec ran]
    exact List.mem_append_left _ (List.mem_reverse.mpr read)
  have heard := answer_mem_reads present
  generalize Transcript.of final.history = transcript at decides heard ⊢
  rcases decides with unread | ⟨answer, cgroup, blocked, once, passed, answers⟩
  · rw [unread] at heard
    cases heard
  rw [once] at heard
  obtain rfl := List.mem_singleton.mp heard
  have answered := answers (Int.natCast_nonneg _)
  split at answered
  · rename_i accepted
    obtain ⟨long, fits⟩ := accepted_received.mp accepted
    obtain ⟨rc, limits, proceeds⟩ := answered
    rw [received_of_long long, reqLimit_take] at limits
    constructor
    · rintro ⟨_, _, -, granted⟩
      by_contra other
      have spurious : ¬ Genuine datagram := fun genuine => other (.inr (.inr genuine.2.2))
      rw [if_neg spurious, limits] at granted
      have same := congrArg List.length granted.1
      simp at same
    · intro allowed
      have genuine : Genuine datagram := ⟨long, fits, by omega⟩
      refine ⟨cgroup, blocked, passed, ?_⟩
      rw [if_pos genuine]
      exact ⟨rc, limits, proceeds⟩
  · rename_i rejected
    have short := mt accepted_received.mpr rejected
    constructor
    · intro _
      omega
    · intro _
      have spurious : ¬ Genuine datagram := fun genuine => short ⟨genuine.1, genuine.2.1⟩
      refine ⟨cgroup, blocked, passed, ?_⟩
      rw [if_neg spurious]
      exact answered

/-- What the client sends is a request. -/
theorem genuine_sendBuf (options : Client.Options) : Genuine (Client.sendBuf options) := by
  refine ⟨?_, ?_, Protocol.msgType_header _ _ _⟩
  · simp only [Client.sendBuf, List.length_append, Protocol.header_length, Protocol.leBytes_length]
    decide
  · rw [Client.sendBuf, Protocol.msgLength_header (by decide)]
    exact Nat.le_refl _

/-- Up to the read, for process 7 and a scope with cgroup 6. -/
def untilRead : List (Event Effect Response) :=
  admitted ++ originChecked 7 [1] [2] 5 ++ scopePrepared 7 [1] [49] ++
    scopeStarted 7 [49] [103] ++ processWatched 7 ++
    reported [103] "Unit" "Id" (ascii "s.scope") ++ reported [103] "Scope" "ControlGroup" [3] ++
    [⟨.cgPathGetCgroupid [3], Except.ok 6⟩, ⟨.rateLimitSet 6 ⟨0, 0⟩, (0 : Int)⟩,
      ⟨.registerCleanup (.clearRateLimit 6), ()⟩]

/-- The limit is set, the client is told, and its process ends. -/
def granted (limit : RateLimit) : List (Event Effect Response) :=
  [⟨.regStreamInterrupt none, ()⟩, ⟨.rateLimitSet 6 limit, (0 : Int)⟩, ⟨.library, (0 : Int)⟩,
    ⟨.streamIo .write (logMsg (startText limit)) maxIoUsec, Awaited.value ((1 : Int), [])⟩,
    ⟨.streamIo .write proceedMsg maxIoUsec, Awaited.value ((8 : Int), [])⟩,
    ⟨.drainStream, (0 : Int)⟩, ⟨.streamIo .write [] 0, Awaited.value ((0 : Int), [])⟩,
    ⟨.shutdownTail, (0 : Int)⟩, ⟨.waitForExit, Awaited.value ()⟩, replied (.kill [103]) []]

/-- Eight thousand bytes and ten packets a second. -/
def someOptions : Client.Options := ⟨10, 8000, 0⟩

theorem proceeds_on_request_iff_client :
    ∃ final ∈ Run.exec Execution.step (.start (clientHandlerAsync scopeHost 7))
        (untilRead ++ requestRead (Client.sendBuf someOptions) :: granted ⟨8000, 10⟩),
      ProceedsOnRequest (Client.sendBuf someOptions) (Transcript.of final.history) := by
  obtain ⟨final, ran, ended⟩ : ∃ final ∈ Run.exec Execution.step
      (.start (clientHandlerAsync scopeHost 7))
      (untilRead ++ requestRead (Client.sendBuf someOptions) :: granted ⟨8000, 10⟩),
      final.program.pending = none := by decide +kernel
  exact ⟨final, ran, (proceeds_on_request_iff scopeHost 7 _ _ final ran ended
    (List.mem_append_right _ (List.mem_cons_self ..))).mpr (.inr (.inr (genuine_sendBuf _).2.2))⟩

/-- A datagram of the right length whose type is `RATE_LIMIT_PROCEED`. -/
def disguised : List UInt8 :=
  Protocol.header expectedMsgLen .proceed ++ List.replicate Protocol.sizeofReqAttr 255

/-- It is taken for a request, and the client may proceed without a limit. -/
theorem proceeds_on_disguised :
    ∃ final ∈ Run.exec Execution.step (.start (clientHandlerAsync scopeHost 7))
        (untilRead ++ requestRead disguised :: granted ⟨rateUnlimited, rateUnlimited⟩),
      final.program.pending = none ∧
      (Transcript.of final.history).limits =
        [(6, ⟨rateUnlimited, rateUnlimited⟩, 0), (6, ⟨0, 0⟩, 0)] ∧
      (Transcript.of final.history).proceeds = true ∧ ¬ Genuine disguised ∧
      ¬ ProceedsOnRequest disguised (Transcript.of final.history) := by
  obtain ⟨final, ran, ended, limits, proceeds⟩ : ∃ final ∈ Run.exec Execution.step
      (.start (clientHandlerAsync scopeHost 7))
      (untilRead ++ requestRead disguised :: granted ⟨rateUnlimited, rateUnlimited⟩),
      final.program.pending = none ∧
      (Transcript.of final.history).limits =
        [(6, ⟨rateUnlimited, rateUnlimited⟩, 0), (6, ⟨0, 0⟩, 0)] ∧
      (Transcript.of final.history).proceeds = true := by decide +kernel
  have spurious : ¬ Genuine disguised := by decide
  refine ⟨final, ran, ended, limits, proceeds, spurious, ?_⟩
  rintro ⟨cgroup, blocked, -, granted⟩
  rw [if_neg spurious, proceeds] at granted
  cases granted.2.1

end TrafficLimitd.Handler
