import TrafficLimitd.SystemProgram

set_option autoImplicit false

/- From the command line to the map. The request that the client makes of its options is
the one that the daemon reads, and the client runs its command only after the daemon has
set the limit that it asks for. -/
namespace TrafficLimitd

namespace Client

/-- The request says what the options say. -/
theorem reqLimit_sendBuf (options : Options) :
    Protocol.reqLimit (sendBuf options) = reqAttrLimit options := by
  have word (rate : UInt64) : UInt64.ofNat (Protocol.leWord (Protocol.leBytes 8 rate.toNat)) =
      rate := by
    rw [Protocol.leWord_leBytes rate.toNat_lt, UInt64.ofNat_toNat]
  have attr : (sendBuf options).drop 8 =
      Protocol.leBytes 8 (reqAttrLimit options).byteRate.toNat ++
        (Protocol.leBytes 8 (reqAttrLimit options).packetRate.toNat ++
          Protocol.leBytes 8 (reqAttrFlags options).toNat) :=
    List.drop_left' (Protocol.header_length _ _)
  have rest : (sendBuf options).drop 16 =
      Protocol.leBytes 8 (reqAttrLimit options).packetRate.toNat ++
        Protocol.leBytes 8 (reqAttrFlags options).toNat := by
    rw [show 16 = 8 + 8 from rfl, ← List.drop_drop, attr,
      List.drop_left' (Protocol.leBytes_length 8 _)]
  simp only [Protocol.reqLimit, attr, rest, List.take_left' (Protocol.leBytes_length 8 _), word]

theorem sendBuf_length (options : Options) :
    (sendBuf options).length = Handler.expectedMsgLen := by
  simp only [sendBuf, List.length_append, Protocol.header_length, Protocol.leBytes_length]
  decide

/-- A response that lets the client go ahead. -/
def Goes (buf : List UInt8) : Prop :=
  Protocol.sizeofMsg ≤ buf.length ∧ Handler.isProceed buf = true

theorem goes_of_decode {buf : List UInt8} (decoded : decode buf = some .proceed) : Goes buf := by
  by_cases long : Protocol.sizeofMsg ≤ buf.length
  · apply And.intro long
    rw [decode_eq long] at decoded
    dsimp only at decoded
    split at decoded
    · split at decoded <;> cases decoded
    split at decoded
    · cases decoded
    split at decoded
    · exact decide_eq_true ‹_›
    · cases decoded
  · unfold decode at decoded
    rw [if_pos (Nat.not_le.mp long)] at decoded
    cases decoded

/-- A datagram of which a part lets the client go ahead does so itself. -/
theorem Goes.of_take {datagram : List UInt8} {len : Nat} (goes : Goes (datagram.take len)) :
    Goes datagram := by
  obtain ⟨long, proceeds⟩ := goes
  have size : Protocol.sizeofMsg = 8 := rfl
  rw [List.length_take] at long
  apply And.intro (by omega)
  rw [Handler.isProceed, Protocol.msgType, List.drop_take, List.take_take,
    Nat.min_eq_left (by omega)] at proceeds
  exact proceeds

variable {options : Options} {client next : State} {label : Label}

/-- What a step can put into a phase: a response at hand that was there or has just been
received, and the go-ahead of such a response. -/
structure Turns (client : State) (label : Label) (phase : Phase) : Prop where
  atHand : ∀ buf ∈ phase.atHand, buf ∈ client.phase.atHand ∨ label.datagram = some buf
  ahead : phase.goesAhead = true →
    client.phase.goesAhead = true ∨ ∃ buf ∈ client.phase.atHand, Goes buf

theorem turns_idle {phase : Phase} (nothing : phase.atHand = []) (stays : phase.goesAhead = false) :
    Turns client label phase where
  atHand := by simp [nothing]
  ahead := by simp [stays]

theorem run_turns (taken : client.run options = some next) : Turns client .run next.phase := by
  unfold State.run at taken
  split at taken
  · cases taken
    exact turns_idle rfl rfl
  · rename_i buf phase
    obtain ⟨outcome, decoded, rfl⟩ := Option.map_eq_some_iff.mp taken
    cases outcome with
    | proceed =>
        constructor
        · simp [State.handle, Phase.atHand]
        · intro _
          refine Or.inr ⟨buf, ?_, goes_of_decode decoded⟩
          simp [phase, Phase.atHand]
    | _ => exact turns_idle rfl rfl
  · split at taken
    all_goals
      cases taken
      exact turns_idle rfl rfl
  · cases taken

theorem read_turns {len : Nat} {result : Except Int (List UInt8)}
    (taken : client.read len result = some next) : Turns client (.read result) next.phase := by
  cases result with
  | error errno =>
      simp only [State.read] at taken
      repeat' split at taken
      all_goals
        cases taken
        exact turns_idle rfl rfl
  | ok buf =>
      simp only [State.read] at taken
      split at taken
      · cases taken
      split at taken
      · cases taken
        exact turns_idle rfl rfl
      · rename_i nonempty
        cases taken
        constructor
        · simp [Phase.atHand, Label.datagram, nonempty]
        · simp [Phase.goesAhead]

theorem step_turns (taken : step options client label = some next) :
    Turns client label next.phase := by
  cases label with
  | run => exact run_turns taken
  | peeked result =>
      simp only [step] at taken
      split at taken
      · unfold State.peeked at taken
        repeat' split at taken
        all_goals
          cases taken
          exact turns_idle rfl rfl
      · cases taken
  | read result =>
      simp only [step] at taken
      split at taken
      · exact read_turns taken
      · cases taken
  | restored result =>
      simp only [step] at taken
      split at taken
      · rename_i phase
        split at taken
        · cases taken
          exact turns_idle rfl rfl
        · cases taken
          constructor
          · simp [Phase.atHand]
          · simp [phase, Phase.goesAhead]
      · cases taken
  | sigalrm =>
      obtain ⟨_, taken⟩ := Option.ite_none_right_eq_some.mp taken
      unfold State.sigalrm at taken
      split at taken
      · cases taken
        exact turns_idle rfl rfl
      · cases taken
      · cases taken
      · cases taken
        exact ⟨fun buf present => Or.inl present, Or.inl⟩

end Client

namespace Daemon.Job

open Coroutine Handler
open Limiter (CgroupId)

variable {job : Job} {event : Event Effect Response} {rest : Prog Unit}

theorem proceeded_after (ledger : Ledger) (effect : Effect) (answer : Response effect) :
    (ledger.after effect answer).proceeded = (ledger.proceeded || writesProceed effect) :=
  (Hearing.recorded_after ledger effect answer).proceeded

theorem ledger_perform (job : Job) (event : Event Effect Response) (rest : Prog Unit) :
    (job.perform event rest).ledger = job.ledger.after event.effect event.answer := rfl

/-- What was said is not taken back. -/
theorem told_perform (told : job.told = true) (advanced : job.program.advance event = some rest) :
    (job.perform event rest).told = true := by
  rw [Job.told, Coro.advance_pending advanced] at told
  rw [Job.told, ledger_perform, proceeded_after, Bool.or_eq_true_iff]
  exact Or.inl (by simpa using told)

/-- A task that goes by the request of its client: it keeps to the rules, it has told its
client to proceed only if the request was accepted, and the limit that it has set last
blocks all traffic or is the one that was asked for. -/
structure Heedful (job : Job) : Prop where
  follows : Hearing.rules.Follows (Hearing.of job.history) job.program fun _ _ => True
  asked : job.told = true → ∃ limit, Hearing.Asks (Hearing.of job.history) limit
  granted : ∀ cgroup limit, job.ledger.installed = some (cgroup, limit) →
    limit = ⟨0, 0⟩ ∨ Hearing.Asks (Hearing.of job.history) limit

theorem newJob_heedful (host : Host) (pid : Pid) : (newJob host pid).Heedful where
  follows := Hearing.clientHandlerAsync_follows host pid
  asked := nofun
  granted := nofun

theorem asked_perform (heedful : job.Heedful) (advanced : job.program.advance event = some rest)
    (told : (job.perform event rest).told = true) :
    ∃ limit, Hearing.Asks (Hearing.of (job.perform event rest).history) limit := by
  obtain ⟨allowed, follows⟩ := heedful.follows.advance advanced
  by_cases before : job.told = true
  · obtain ⟨limit, asks⟩ := heedful.asked before
    exact ⟨limit, asks.after event.effect allowed event.answer⟩
  · -- The call that tells the client is the one that comes next.
    rw [Job.told, Coro.advance_pending advanced] at before
    rw [Job.told, ledger_perform, proceeded_after] at told
    have next : (job.perform event rest).program.pending.any writesProceed = true := by
      simp only [Option.any_some] at before
      simpa [before] using told
    obtain ⟨effect, pending, proceeds⟩ := (Option.any_eq_true _ _).mp next
    have may := Discipline.Follows.may_pending follows pending
    unfold writesProceed at proceeds
    split at proceeds
    · exact may proceeds
    · cases proceeds

theorem granted_perform (heedful : job.Heedful) (advanced : job.program.advance event = some rest)
    (cgroup : CgroupId) (limit : RateLimit)
    (installed : (job.perform event rest).ledger.installed = some (cgroup, limit)) :
    limit = ⟨0, 0⟩ ∨ Hearing.Asks (Hearing.of (job.perform event rest).history) limit := by
  obtain ⟨allowed, _⟩ := heedful.follows.advance advanced
  have before (same : job.ledger.installed = some (cgroup, limit)) :
      limit = ⟨0, 0⟩ ∨ Hearing.Asks (Hearing.of (job.perform event rest).history) limit :=
    (heedful.granted cgroup limit same).imp id fun asks =>
      asks.after event.effect allowed event.answer
  rw [ledger_perform] at installed
  obtain ⟨effect, answer⟩ := event
  by_cases accounting : Ledger.Accounting effect = true
  · cases effect with
    | rateLimitSet other set =>
        simp only [Ledger.after, Ledger.install] at installed
        split at installed
        · exact before installed
        · cases installed
          exact allowed
    | increaseNrTasks => exact before installed
    | registerCleanup cleanup => exact before installed
    | _ => cases accounting
  · have other := Bool.eq_false_of_not_eq_true accounting
    exact before ((Ledger.same_after job.ledger effect other answer).installed ▸ installed)

theorem Heedful.perform (heedful : job.Heedful)
    (advanced : job.program.advance event = some rest) : (job.perform event rest).Heedful where
  follows := (heedful.follows.advance advanced).2
  asked := asked_perform heedful advanced
  granted := granted_perform heedful advanced

theorem Heedful.clean (heedful : job.Heedful) (cleanup : Cleanup) (rest : List Cleanup) :
    (job.clean cleanup rest).Heedful :=
  ⟨heedful.follows, heedful.asked, heedful.granted⟩

end Daemon.Job

namespace System

open Coroutine Handler
open Daemon (TaskId Job newJob Roster)
open Limiter (CgroupId)

/-- The datagrams from the daemon that the client has not handled. -/
def Peer.waiting (peer : Peer) : List (List UInt8) :=
  peer.inbox ++ peer.client.elim [] fun client => client.phase.atHand

/-- A peer and its task: the client goes ahead only on the task's word, and the task has
read nothing but the request of the client. -/
structure Attached (peer : Peer) (job : Job) : Prop where
  wire : ∀ datagram ∈ peer.waiting, Client.Goes datagram → job.told = true
  ahead : ∀ client ∈ peer.client, client.phase.goesAhead = true → job.told = true
  outbox : ∀ options ∈ peer.options, ∀ datagram ∈ peer.outbox,
    datagram = Client.sendBuf options
  heard : ∀ options ∈ peer.options, ∀ result ∈ Hearing.of job.history, 0 < result.1 →
    ∃ buf, result = Peer.received buf (Client.sendBuf options)

section Attached

variable {peer : Peer} {job : Job} {event : Event Effect Response} {rest : Prog Unit}

theorem attached_connected (host : Host) (pid : Pid) (options : Option Client.Options) :
    Attached (.connected options) (newJob host pid) where
  wire := by simp [Peer.waiting, Peer.connected]
  ahead := by simp [Peer.connected]
  outbox := by simp [Peer.connected]
  heard := by simp [newJob, Hearing.of, Discipline.reached]

/-- The answer to a read, as far as the peer has determined it. -/
theorem received_of_answers {options : Client.Options} {result : Int × List UInt8}
    {buf : List UInt8} {usec : Nat} (attached : Attached peer job) (runs : peer.options = some options)
    (answers : peer.answers (.streamIo .read buf usec) (Awaited.value result) = true)
    (read : 0 < result.1) : ∃ buf, result = Peer.received buf (Client.sendBuf options) := by
  simp only [Peer.answers, runs, Option.isNone_some, Bool.false_or, Bool.or_eq_true,
    decide_eq_true_eq] at answers
  rcases answers with failed | given
  · omega
  obtain ⟨datagram, first, same⟩ := (Option.any_eq_true _ _).mp given
  have sent := attached.outbox options runs datagram (List.mem_of_head? first)
  exact ⟨buf, sent ▸ of_decide_eq_true same⟩

theorem after_cases (peer : Peer) (effect : Effect) (answer : Response effect) :
    peer.after effect answer = peer ∨
      peer.after effect answer = { peer with outbox := peer.outbox.tail } := by
  unfold Peer.after
  split
  · split
    · exact Or.inl rfl
    · split
      · exact Or.inr rfl
      · exact Or.inl rfl
  · exact Or.inl rfl

/-- What is heard is heard already, or it has just been read. -/
theorem heard_cases {heard : Hearing.Heard} {effect : Effect} {answer : Response effect}
    {result : Int × List UInt8} (now : result ∈ Hearing.after heard effect answer) :
    result ∈ heard ∨ ∃ buf usec, effect = .streamIo .read buf usec ∧
      answer ≍ (Awaited.value result : Awaited (Int × List UInt8)) := by
  cases effect with
  | streamIo direction buf usec =>
      cases direction with
      | write => exact Or.inl now
      | read =>
          cases answer with
          | cancelled => exact Or.inl now
          | value other =>
              cases now
              exact Or.inr ⟨buf, usec, rfl, HEq.rfl⟩
  | _ => exact Or.inl now

theorem Attached.perform (attached : Attached peer job)
    (advanced : job.program.advance event = some rest)
    (answers : peer.answers event.effect event.answer = true) :
    Attached (peer.after event.effect event.answer) (job.perform event rest) := by
  have told := fun told : job.told = true => Job.told_perform told advanced
  have heard : ∀ options ∈ peer.options,
      ∀ result ∈ Hearing.of (job.perform event rest).history, 0 < result.1 →
        ∃ buf, result = Peer.received buf (Client.sendBuf options) := by
    intro options runs result now read
    obtain ⟨effect, answer⟩ := event
    rcases heard_cases now with before | ⟨buf, usec, rfl, same⟩
    · exact attached.heard options runs result before read
    · cases same
      exact received_of_answers attached runs answers read
  rcases after_cases peer event.effect event.answer with same | same
  · rw [same]
    exact ⟨fun datagram waits goes => told (attached.wire datagram waits goes),
      fun client runs ahead => told (attached.ahead client runs ahead), attached.outbox, heard⟩
  · rw [same]
    exact ⟨fun datagram waits goes => told (attached.wire datagram waits goes),
      fun client runs ahead => told (attached.ahead client runs ahead),
      fun options runs datagram sent =>
        attached.outbox options runs datagram (List.mem_of_mem_tail sent), heard⟩

/-- Cleanups say nothing and read nothing. -/
theorem Attached.clean (attached : Attached peer job) (cleanup : Cleanup)
    (rest : List Cleanup) : Attached peer (job.clean cleanup rest) :=
  ⟨attached.wire, attached.ahead, attached.outbox, attached.heard⟩

theorem Attached.send {sent : Peer} (attached : Attached peer job) (sends : peer.send = some sent) :
    Attached sent job := by
  unfold Peer.send at sends
  split at sends
  · rename_i options runs idle
    cases sends
    constructor
    · intro datagram waits
      apply attached.wire datagram
      simpa [Peer.waiting, Client.State.start, Client.Phase.atHand, idle] using waits
    · intro client same ahead
      cases same
      cases ahead
    · intro other same datagram present
      cases runs.symm.trans same
      rcases List.mem_append.mp present with before | last
      · exact attached.outbox options runs datagram before
      · exact List.mem_singleton.mp last
    · exact attached.heard
  · cases sends

theorem Attached.write {buf : List UInt8} {usec : Nat} (attached : Attached peer job)
    (pending : job.program.pending = some (.streamIo .write buf usec)) :
    Attached { peer with inbox := peer.inbox ++ [buf] } job := by
  refine ⟨?_, attached.ahead, attached.outbox, attached.heard⟩
  intro datagram waits goes
  simp only [Peer.waiting, List.mem_append, List.mem_singleton] at waits
  rcases waits with (before | rfl) | atHand
  · exact attached.wire datagram (List.mem_append_left _ before) goes
  · rw [Job.told, pending, Bool.or_eq_true_iff]
    exact Or.inr goes.2
  · exact attached.wire datagram (List.mem_append_right _ atHand) goes

/-- The datagram that a `recv` of the client returns is in the socket. -/
theorem goes_of_gives {client : Client.State} {label : Client.Label} {buf : List UInt8}
    (gives : peer.gives client label = true) (given : label.datagram = some buf)
    (goes : Client.Goes buf) : ∃ datagram ∈ peer.inbox, Client.Goes datagram := by
  cases label with
  | read result =>
      cases result with
      | error errno => cases given
      | ok data =>
          simp only [Client.Label.datagram, Option.ite_none_left_eq_some] at given
          obtain ⟨nonempty, same⟩ := given
          cases same
          simp only [Peer.gives] at gives
          split at gives
          · simp only [nonempty, decide_false, Bool.false_or] at gives
            obtain ⟨datagram, first, part⟩ := (Option.any_eq_true _ _).mp gives
            refine ⟨datagram, List.mem_of_head? first, ?_⟩
            rw [← of_decide_eq_true part] at goes
            exact goes.of_take
          · cases gives
  | _ => cases given

theorem Attached.run {label : Client.Label} {moved : Peer} (attached : Attached peer job)
    (ran : peer.run label = some moved) : Attached moved job := by
  unfold Peer.run at ran
  split at ran
  · rename_i options client runs here
    obtain ⟨gives, taken⟩ := Option.ite_none_right_eq_some.mp ran
    obtain ⟨next, stepped, rfl⟩ := Option.map_eq_some_iff.mp taken
    have turns := Client.step_turns stepped
    have known : ∀ datagram ∈ client.phase.atHand, Client.Goes datagram → job.told = true := by
      intro datagram atHand
      apply attached.wire datagram
      simp [Peer.waiting, here, atHand]
    constructor
    · intro datagram waits goes
      simp only [Peer.waiting, List.mem_append, Option.elim_some] at waits
      rcases waits with present | atHand
      · apply attached.wire datagram _ goes
        apply List.mem_append_left
        split at present
        · exact List.mem_of_mem_tail present
        · exact present
      · rcases turns.atHand datagram atHand with before | given
        · exact known datagram before goes
        · obtain ⟨source, present, goes⟩ := goes_of_gives gives given goes
          exact attached.wire source (List.mem_append_left _ present) goes
    · intro other same ahead
      cases same
      rcases turns.ahead ahead with before | ⟨buf, atHand, goes⟩
      · exact attached.ahead client here before
      · exact known buf atHand goes
    · exact attached.outbox
    · exact attached.heard
  · cases ran

end Attached

/-- Systemd reports distinct cgroups. -/
def State.DistinctScopes (state : State) : Label → Prop
  | .daemon label => state.daemon.DistinctScopes label
  | _ => True

instance (state : State) : DecidablePred state.DistinctScopes
  | .daemon label => inferInstanceAs (Decidable (state.daemon.DistinctScopes label))
  | .connect _ _ | .send _ | .transmit _ | .client _ _ | .packet _ => isTrue trivial

/-- Every task has its peer, and what the one has said the other has meant. -/
structure Linked (state : State) : Prop where
  aligned : state.peers.length = state.daemon.roster.jobs.length
  attached : ∀ (id : TaskId) peer job, state.peers[id]? = some peer →
    state.daemon.roster.jobs[id]? = some job → Attached peer job
  heedful : ∀ job ∈ state.daemon.roster.jobs, job.Heedful
  kept : state.daemon.roster.Kept

theorem start_linked : Linked start where
  aligned := rfl
  attached := by simp [start]
  heedful := by simp [start, Daemon.start, Roster.empty]
  kept := Roster.empty_kept

section Linked

variable {host : Host} {state : State} {id : TaskId} {peer moved : Peer}

/-- A step of one peer, or of its task as well. -/
theorem Linked.set {daemon : Daemon.State} {job next : Job} (linked : Linked state)
    (kept : daemon.roster.Kept) (here : state.peers[id]? = some peer)
    (present : state.daemon.roster.jobs[id]? = some job)
    (jobs : daemon.roster.jobs = state.daemon.roster.jobs.set id next)
    (attached : Attached moved next) (heedful : next.Heedful) :
    Linked { state.setPeer id moved with daemon := daemon } := by
  have inside := (List.getElem?_eq_some_iff.mp here).1
  have bound := (List.getElem?_eq_some_iff.mp present).1
  constructor
  · simp only [State.setPeer, jobs, List.length_set, linked.aligned]
  · intro other otherPeer otherJob found held
    simp only [State.setPeer] at found
    rw [jobs] at held
    by_cases same : other = id
    · rw [same, List.getElem?_set_self inside] at found
      rw [same, List.getElem?_set_self bound] at held
      cases found
      cases held
      exact attached
    · rw [List.getElem?_set_ne (Ne.symm same)] at found held
      exact linked.attached other otherPeer otherJob found held
  · intro other member
    rw [jobs] at member
    rcases List.mem_or_eq_of_mem_set member with before | rfl
    · exact linked.heedful other before
    · exact heedful
  · exact kept

/-- The task of a peer. -/
theorem Linked.job (linked : Linked state) (here : state.peers[id]? = some peer) :
    ∃ job, state.daemon.roster.jobs[id]? = some job := by
  have inside := (List.getElem?_eq_some_iff.mp here).1
  rw [linked.aligned] at inside
  exact ⟨_, List.getElem?_eq_getElem inside⟩

/-- A step of a peer on its own. -/
theorem Linked.setPeer (linked : Linked state) (here : state.peers[id]? = some peer)
    (attached : ∀ job, Attached peer job → Attached moved job) :
    Linked (state.setPeer id moved) := by
  obtain ⟨job, present⟩ := linked.job here
  have same : state.daemon.roster.jobs = state.daemon.roster.jobs.set id job := by
    obtain ⟨inside, rfl⟩ := List.getElem?_eq_some_iff.mp present
    exact (List.set_getElem_self inside).symm
  exact linked.set linked.kept here present same
    (attached job (linked.attached id peer job here present))
    (linked.heedful job (List.mem_of_getElem? present))

/-- The roster does not change. -/
theorem Linked.stay {daemon : Daemon.State} (linked : Linked state)
    (same : daemon.roster = state.daemon.roster) : Linked { state with daemon := daemon } := by
  obtain ⟨aligned, attached, heedful, kept⟩ := linked
  rw [← same] at aligned attached heedful kept
  exact ⟨aligned, attached, heedful, kept⟩

/-- A task runs one of its cleanups. -/
theorem Linked.cleanup {daemon : Daemon.State} {deleted : Bool} (linked : Linked state)
    (kept : daemon.roster.Kept) (taken : state.daemon.roster.cleanup id deleted = some daemon.roster) :
    Linked { state with daemon := daemon } := by
  obtain ⟨job, cleanup, rest, present, _, _, same⟩ := Roster.cleanup_eq_some.mp taken
  have jobs : daemon.roster.jobs = state.daemon.roster.jobs.set id (job.clean cleanup rest) := by
    rw [← same]
    exact congrArg (List.set · id _) (Roster.clean_jobs _ _ _)
  have inside := (List.getElem?_eq_some_iff.mp present).1
  rw [← linked.aligned] at inside
  have here : state.peers[id]? = some state.peers[id] := List.getElem?_eq_getElem inside
  have linked := linked.set kept here present jobs
    ((linked.attached id _ job here present).clean cleanup rest)
    ((linked.heedful job (List.mem_of_getElem? present)).clean cleanup rest)
  simpa [State.setPeer] using linked

theorem Linked.perform {event : Event Effect Response} {next : State} (linked : Linked state)
    (distinct : state.DistinctScopes (.daemon (.perform event)))
    (taken : state.perform host event = some next) : Linked next := by
  obtain ⟨id, current, taken⟩ := Option.bind_eq_some_iff.mp taken
  obtain ⟨peer, here, taken⟩ := Option.bind_eq_some_iff.mp taken
  obtain ⟨answers, taken⟩ := Option.ite_none_right_eq_some.mp taken
  obtain ⟨daemon, performed, rfl⟩ := Option.map_eq_some_iff.mp taken
  have refines := Daemon.step_refines performed
  have kept := linked.kept.step distinct refines
  rw [Daemon.State.move, current] at refines
  obtain ⟨job, rest, present, advanced, _, same⟩ := Roster.perform_eq_some.mp refines
  have jobs : daemon.roster.jobs = state.daemon.roster.jobs.set id (job.perform event rest) := by
    rw [← same]
    exact congrArg (List.set · id _) (Roster.observe_jobs _ _ _)
  apply linked.set kept here present jobs
  · exact (linked.attached id peer job here present).perform advanced answers
  · exact (linked.heedful job (List.mem_of_getElem? present)).perform advanced

theorem Linked.connect {pid : Pid} {options : Option Client.Options} {next : State}
    (linked : Linked state) (taken : state.connect host pid options = some next) :
    Linked next := by
  obtain ⟨daemon, accepted, rfl⟩ := Option.map_eq_some_iff.mp taken
  have refines := Daemon.step_refines accepted
  have distinct : state.daemon.roster.DistinctScopes (state.daemon.move (.accept pid)) := trivial
  have kept := linked.kept.step distinct refines
  have same : state.daemon.roster.create host pid = daemon.roster := Option.some.inj refines
  have jobs : daemon.roster.jobs = state.daemon.roster.jobs ++ [newJob host pid] := by
    rw [← same]
    rfl
  constructor
  · simp only [jobs, List.length_append, linked.aligned, List.length_singleton]
  · intro id peer job found held
    rw [jobs] at held
    rcases Daemon.getElem?_snoc found with before | ⟨last, rfl⟩
    · have inside := (List.getElem?_eq_some_iff.mp before).1
      rw [List.getElem?_append_left (linked.aligned ▸ inside)] at held
      exact linked.attached id peer job before held
    · rw [last, linked.aligned, List.getElem?_concat_length] at held
      cases held
      exact attached_connected host pid options
  · intro job member
    rw [jobs] at member
    rcases List.mem_append.mp member with before | last
    · exact linked.heedful job before
    · rw [List.mem_singleton.mp last]
      exact Job.newJob_heedful host pid
  · exact kept

theorem Linked.transmit {next : State} (linked : Linked state)
    (taken : state.transmit host id = some next) : Linked next := by
  unfold State.transmit at taken
  split at taken
  · rename_i buf usec peer pending here
    obtain ⟨_, taken⟩ := Option.ite_none_left_eq_some.mp taken
    obtain ⟨daemon, replied, rfl⟩ := Option.map_eq_some_iff.mp taken
    have same : state.daemon.roster = daemon.roster :=
      Option.some.inj (Daemon.step_refines replied)
    obtain ⟨job, present, pending⟩ := Option.bind_eq_some_iff.mp pending
    have jobs : daemon.roster.jobs = state.daemon.roster.jobs.set id job := by
      rw [← same]
      exact Daemon.State.jobs_set_same present
    exact linked.set (same ▸ linked.kept) here present jobs
      ((linked.attached id peer job here present).write pending)
      (linked.heedful job (List.mem_of_getElem? present))
  · cases taken

theorem Linked.step {label : Label} {next : State} (linked : Linked state)
    (distinct : state.DistinctScopes label) (taken : step host state label = some next) :
    Linked next := by
  cases label with
  | daemon label =>
      cases label with
      | perform event => exact linked.perform distinct taken
      | accept pid => cases taken
      | cleanup deleted =>
          obtain ⟨daemon, stepped, rfl⟩ := Option.map_eq_some_iff.mp taken
          have refines := Daemon.step_refines stepped
          have kept := linked.kept.step distinct refines
          cases current : state.daemon.current with
          | none =>
              rw [Daemon.State.move, current] at refines
              exact linked.stay (Option.some.inj refines).symm
          | some id =>
              rw [Daemon.State.move, current] at refines
              exact linked.cleanup kept refines
      | _ =>
          obtain ⟨daemon, stepped, rfl⟩ := Option.map_eq_some_iff.mp taken
          exact linked.stay (Option.some.inj (Daemon.step_refines stepped)).symm
  | connect pid options => exact linked.connect taken
  | send id =>
      obtain ⟨peer, here, taken⟩ := Option.bind_eq_some_iff.mp taken
      obtain ⟨sent, sends, rfl⟩ := Option.map_eq_some_iff.mp taken
      exact linked.setPeer here fun job attached => attached.send sends
  | transmit id => exact linked.transmit taken
  | client id label =>
      obtain ⟨peer, here, taken⟩ := Option.bind_eq_some_iff.mp taken
      obtain ⟨moved, ran, rfl⟩ := Option.map_eq_some_iff.mp taken
      exact linked.setPeer here fun job attached => attached.run ran
  | packet arrival =>
      cases taken
      exact ⟨linked.aligned, linked.attached, linked.heedful, linked.kept⟩

end Linked

theorem linked_of_exec {host : Host} {labels : List Label} {state : State}
    (distinct : Run.Meets (step host) State.DistinctScopes start labels)
    (ran : Run.exec (step host) start labels = some state) : Linked state :=
  distinct.invariant Linked (fun _ _ _ linked apart taken => linked.step apart taken)
    start_linked ran

/-- An accepted request of the client asks for what its options say. -/
theorem reqLimit_received {buf : List UInt8} {options : Client.Options}
    (whole : (Handler.expectedMsgLen : Int) ≤ (Peer.received buf (Client.sendBuf options)).1) :
    Protocol.reqLimit (Peer.received buf (Client.sendBuf options)).2 =
      Client.reqAttrLimit options := by
  have length := Client.sendBuf_length options
  have all : (Client.sendBuf options).take buf.length = Client.sendBuf options := by
    apply List.take_of_length_le
    simp only [Peer.received, List.length_take] at whole
    omega
  rw [← Client.reqLimit_sendBuf, ← reqLimit_take, Peer.received]
  dsimp only
  rw [all, List.take_left' length]

section Linked

variable {state : State} {id : TaskId} {peer : Peer} {job : Job} {options : Client.Options}

/-- The request of a task that has told its client is what the options say. -/
theorem Linked.request (linked : Linked state) (here : state.peers[id]? = some peer)
    (present : state.daemon.roster.jobs[id]? = some job) (runs : peer.options = some options)
    {limit : RateLimit} (asks : Hearing.Asks (Hearing.of job.history) limit) :
    limit = Client.reqAttrLimit options ∧ job.ledger.request = some limit := by
  obtain ⟨count, buf, heard, accepted, rfl⟩ := asks
  have request : job.ledger.request = some (Protocol.reqLimit buf) := by
    rw [Job.ledger, Hearing.request_of, heard]
    rfl
  have positive : (0 : Int) < count := by
    have := accepted.1
    have : (Handler.expectedMsgLen : Int) = 32 := rfl
    omega
  obtain ⟨room, same⟩ := (linked.attached id peer job here present).heard options runs
    (count, buf) heard positive
  obtain ⟨rfl, rfl⟩ := Prod.mk.inj same
  exact ⟨reqLimit_received accepted.1, request⟩

/-- The map has what the options say until the scope is killed. -/
theorem Linked.limited (linked : Linked state) (here : state.peers[id]? = some peer)
    (present : state.daemon.roster.jobs[id]? = some job) (runs : peer.options = some options)
    (told : job.told = true) (alive : job.ledger.killed = false) :
    ∃ cgroup, job.ledger.cgroup = some cgroup ∧
      state.daemon.roster.limits.lookup cgroup = some (Client.reqAttrLimit options) := by
  obtain ⟨cgroup, limit, resolved, requested, found⟩ := linked.kept.limited present told alive
  obtain ⟨asked, asks⟩ := (linked.heedful job (List.mem_of_getElem? present)).asked told
  obtain ⟨rfl, request⟩ := linked.request here present runs asks
  cases requested.symm.trans request
  exact ⟨cgroup, resolved, found⟩

end Linked

/-- From the command line to the map: whatever else is connected and in whatever order
everything happens, once a client is at its `execvp` its task has told it so, and as long
as the task has not killed the scope, the map limits the cgroup of the scope to exactly
what the options of this client say. -/
theorem executing_client_limited (host : Host) (labels : List Label) (state : State)
    (distinct : Run.Meets (step host) State.DistinctScopes start labels)
    (ran : Run.exec (step host) start labels = some state) (id : TaskId) (peer : Peer)
    (options : Client.Options) (client : Client.State) (here : state.peers[id]? = some peer)
    (runs : peer.options = some options) (reached : peer.client = some client)
    (executing : client.phase = .executing) :
    ∃ job, state.daemon.roster.jobs[id]? = some job ∧ job.told = true ∧
      (job.ledger.killed = false → ∃ cgroup, job.ledger.cgroup = some cgroup ∧
        state.daemon.roster.limits.lookup cgroup = some (Client.reqAttrLimit options)) := by
  have linked := linked_of_exec distinct ran
  obtain ⟨job, present⟩ := linked.job here
  have ahead : client.phase.goesAhead = true := by
    rw [executing]
    rfl
  have told : job.told = true :=
    (linked.attached id peer job here present).ahead client reached ahead
  exact ⟨job, present, told, linked.limited here present runs told⟩

/-- One thousand bytes and ten packets a second. -/
def fewOptions : Client.Options := ⟨10, 1000, 0⟩

/-- A task writes this to its client. -/
def said (id : TaskId) (buf : List UInt8) : List Label :=
  [.daemon .block, .transmit id, .daemon .resume, .daemon (.perform (Daemon.written buf maxIoUsec))]

/-- The first client sends its request, is let in and limited, and runs its command while
the task has not yet returned from the call that told it to. -/
def admittedClient : List Label :=
  [.connect 7 (some fewOptions), .send 0] ++
    (.resume :: Daemon.script 0 (Daemon.limitedClient ++ libraryOk 1)).map .daemon ++
    said 0 (logMsg (startText ⟨1000, 10⟩)) ++ [.daemon .block, .transmit 0] ++
    (Client.listen [logMsg (startText ⟨1000, 10⟩), proceedMsg] ++
      [Client.Label.restored true]).map (.client 0)

theorem executing_client_limited_once :
    ∃ state ∈ Run.exec (step scopeHost) start admittedClient,
      state.daemon.roster.limits.lookup 6 = some (Client.reqAttrLimit fewOptions) := by
  have distinct : Run.Meets (step scopeHost) State.DistinctScopes start admittedClient := by
    decide +kernel
  have ends : ∃ state ∈ Run.exec (step scopeHost) start admittedClient,
      ∃ peer ∈ state.peers[0]?, peer.options = some fewOptions ∧
        (∃ client ∈ peer.client, client.phase = .executing) ∧
        ∃ job ∈ state.daemon.roster.jobs[0]?, job.ledger.killed = false ∧
          job.ledger.cgroup = some 6 := by
    decide +kernel
  obtain ⟨state, ran, peer, here, runs, ⟨client, reached, executing⟩, job, present, alive,
    resolved⟩ := ends
  obtain ⟨other, same, _, limited⟩ := executing_client_limited scopeHost admittedClient state
    distinct ran 0 peer fewOptions client here runs reached executing
  cases present.symm.trans same
  obtain ⟨cgroup, known, found⟩ := limited alive
  cases known.symm.trans resolved
  exact ⟨state, ran, found⟩

end System

end TrafficLimitd
