import TrafficLimitd.ConnectionProgram
import TrafficLimitd.HandlerDescriptor

set_option autoImplicit false

/- The descriptor of a connection over the connection's whole life. -/
namespace TrafficLimitd.Stream

section Source

variable {stream : MsgStream}

theorem cancelTimer_source (stream : MsgStream) : stream.cancelTimer.source = stream.source := by
  unfold MsgStream.cancelTimer
  split <;> rfl

theorem transfer_source (direction : Direction) (stream : MsgStream) (answers : HandlerAnswers) :
    (transfer direction stream answers).stream.source = stream.source := by
  have filled (data : List UInt8) : (stream.fill direction data).source = stream.source := by
    cases direction <;> rfl
  have finished {moved : Option (List UInt8)} {rc error : Int} (given : MsgStream) :
      (finishTransfer given moved rc error answers.setEvents).stream.source = given.source := by
    unfold finishTransfer
    dsimp only
    split <;> rfl
  unfold transfer
  split
  · exact finished stream
  · split
    · exact (finished _).trans (filled _)
    · split
      · rfl
      · exact finished stream

theorem msgStreamHandler_source (stream : MsgStream) (revents : Revents)
    (answers : HandlerAnswers) :
    (msgStreamHandler stream revents answers).stream.source = stream.source := by
  have cancelled := cancelTimer_source stream
  have hung : (hangUp stream.cancelTimer revents.epollhup answers.setEnabled).source =
      stream.cancelTimer.source := by
    unfold hangUp
    dsimp only
    repeat' split
    all_goals rfl
  unfold msgStreamHandler
  dsimp only
  split
  · split
    · exact (transfer_source _ _ _).trans cancelled
    · exact cancelled
  split
  · split
    · exact (transfer_source _ _ _).trans cancelled
    · exact cancelled
  · exact hung.trans cancelled

theorem ioTimerHandler_source (stream : MsgStream) (id : TimerId) (setEvents : Int) :
    (ioTimerHandler stream id setEvents).stream.source = stream.source := by
  refine (cancelTimer_source _).trans ?_
  split <;> rfl

/-- The handlers run on a stream that has its source, and leave it. -/
theorem dispatch_source {disabled : Bool} {event : Event} {dispatched : Dispatched}
    (taken : dispatch disabled stream event = some dispatched) :
    dispatched.stream.source = stream.source ∧ (event ≠ .interrupt → stream.source = true) := by
  cases event with
  | handler revents answers =>
      obtain ⟨⟨present, -⟩, run⟩ := Option.ite_none_right_eq_some.mp taken
      cases run
      exact ⟨msgStreamHandler_source stream revents answers, fun _ => present⟩
  | timer id setEvents =>
      obtain ⟨⟨present, -⟩, run⟩ := Option.ite_none_right_eq_some.mp taken
      cases run
      exact ⟨ioTimerHandler_source stream id setEvents, fun _ => present⟩
  | interrupt =>
      cases taken
      exact ⟨rfl, fun other => absurd rfl other⟩

theorem begin_source {direction : Direction} {buf : List UInt8} {usec : Nat} {fresh : TimerId}
    {answers : BeginAnswers} {begun : MsgStream} {outcome : Begun}
    (run : msgStreamDoIoBegin stream direction buf usec fresh answers = (begun, outcome)) :
    begun.source = stream.source := by
  have armed (given : MsgStream) : (given.armTimer usec fresh).source = given.source := by
    unfold MsgStream.armTimer
    split <;> rfl
  unfold msgStreamDoIoBegin at run
  dsimp only at run
  split at run
  · cases run
    rfl
  split at run
  · cases run
    rfl
  split at run
  · cases run
    rfl
  split at run
  · cases run
    exact armed _
  · cases run
    exact armed _

theorem finish_source (stream : MsgStream) (cancelled : Bool) (setEvents : Int) :
    (msgStreamDoIoFinish stream cancelled setEvents).1.source = stream.source := by
  have masked (given : MsgStream) :
      (given.setIoEvents none setEvents).source = given.source := by
    unfold MsgStream.setIoEvents
    split <;> rfl
  unfold msgStreamDoIoFinish
  split
  · exact (masked _).trans (cancelTimer_source stream)
  · rfl

/-- `shutdown_msg_stream` returns zero exactly if it has released the source. -/
theorem shutdownTail_source (stream : MsgStream) (answers : TailAnswers) :
    (shutdownTail stream answers).1.source =
      if (shutdownTail stream answers).2 < 0 then stream.source else false := by
  have cancelled := cancelTimer_source { stream with enabled := false }
  unfold shutdownTail
  split
  · rfl
  dsimp only
  split
  · exact cancelled
  split
  · exact cancelled
  · change _ = false
    split <;> rfl

end Source

end TrafficLimitd.Stream

namespace TrafficLimitd.Connection

open Coroutine
open Handler (Effect Response Awaited Host Pid Fd clientHandlerAsync)
open TrafficLimitd.Stream (MsgStream)

/-- What the handler's account of the descriptor says of the connection. -/
def State.fd (state : State) : Fd :=
  ⟨state.stream.map MsgStream.source, state.registered, state.closes⟩

/-- The call that the task makes next has a time limit. -/
def State.timed (state : State) : Bool :=
  match state.pending with
  | some (.streamIo _ _ usec) => usec != 0
  | _ => false

/-- `se_task_create` succeeds, and `sd_event_source_set_io_events` does not fail once a
call has armed its timer. -/
def Sound (state : State) : Label → Prop
  | .create rc => 0 ≤ rc
  | .io answers => state.timed = true → 0 ≤ answers.addTime → 0 ≤ answers.setEvents
  | _ => True

instance (state : State) : DecidablePred (Sound state)
  | .create rc => inferInstanceAs (Decidable (0 ≤ rc))
  | .io answers => inferInstanceAs
      (Decidable (state.timed = true → 0 ≤ answers.addTime → 0 ≤ answers.setEvents))
  | .init _ | .close | .drain _ | .tail _ | .call _ | .event _ _ | .finish | .late _ =>
      isTrue trivial

/-- An open descriptor was not closed, and no descriptor is closed twice or used after
that; every armed timer is the stream's, and has an end with the call that armed it. -/
structure Intact (state : State) : Prop where
  opened : state.fd.source = some true → state.closes = 0
  bounded : state.closes ≤ 1
  strays : state.strays = 0
  leftover : state.leftover = []
  timers : ∀ stream ∈ state.stream, stream.TimerKnown ∧ (state.blocked = false → stream.NoTimer)

/-- The connection does what the handler's account says, until the task ends. -/
structure Tracked (state : State) : Prop where
  follows : Fd.rules.Follows (Fd.rules.reached .accepted state.execution.history)
    state.execution.program fun final _ => final.Settled
  refines : state.task ≠ .gone → state.fd = Fd.rules.reached .accepted state.execution.history
  gone : state.task = .gone → state.closes = 1 ∧ state.stream = none

section Step

variable {state middle next : State} {event : Event Effect Response}

/-- An answer after which the connection is where the account says it is. -/
theorem Answered.tracked (answered : Answered middle event next) (tracked : Tracked state)
    (alive : state.task ≠ .gone) (task : middle.task = state.task)
    (execution : middle.execution = state.execution)
    (fd : middle.fd = state.fd.after event.effect event.answer) : Tracked next := by
  obtain ⟨executed, advanced, rfl⟩ := answered
  rw [execution] at advanced
  obtain ⟨rest, moved, rfl⟩ := Option.map_eq_some_iff.mp advanced
  refine ⟨(tracked.follows.advance moved).2, fun _ => ?_, fun gone => ?_⟩
  · rw [tracked.refines alive] at fd
    exact fd
  · exact absurd (task.symm.trans gone) alive

/-- A step without an answer after which the descriptor is where it was. -/
theorem Tracked.stays (tracked : Tracked state) (alive : state.task ≠ .gone)
    (task : next.task = state.task) (execution : next.execution = state.execution)
    (fd : next.fd = state.fd) : Tracked next := by
  refine ⟨?_, fun _ => ?_, fun gone => absurd (task.symm.trans gone) alive⟩
  · rw [execution]
    exact tracked.follows
  · rw [fd, execution]
    exact tracked.refines alive

theorem Answered.intact (answered : Answered middle event next) (intact : Intact middle) :
    Intact next := by
  obtain ⟨_, _, rfl⟩ := answered
  exact ⟨intact.opened, intact.bounded, intact.strays, intact.leftover, intact.timers⟩

theorem intact_of_bare (bare : state.stream = none) (bounded : state.closes ≤ 1)
    (strays : state.strays = 0) (leftover : state.leftover = []) : Intact state := by
  refine ⟨fun owned => ?_, bounded, strays, leftover, fun stream held => ?_⟩
  · rw [State.fd, bare] at owned
    cases owned
  · cases bare.symm.trans held

/-- The call that is answered is one that the account allows. -/
theorem Answered.may (answered : Answered middle event next) (tracked : Tracked state)
    (alive : state.task ≠ .gone) (execution : middle.execution = state.execution) :
    state.fd.may event.effect := by
  obtain ⟨executed, advanced, rfl⟩ := answered
  rw [execution] at advanced
  obtain ⟨rest, moved, rfl⟩ := Option.map_eq_some_iff.mp advanced
  rw [tracked.refines alive]
  exact (tracked.follows.advance moved).1

theorem use_strays (intact : Intact state) (opened : state.closes = 0) : state.use.strays = 0 := by
  rw [State.use, if_pos opened]
  exact intact.strays

/-- Each failure of `init_msg_stream` leaves the descriptor open and without a stream. -/
theorem init_kept {calls : InitCalls} (intact : Intact state) (tracked : Tracked state)
    (taken : step state (.init calls) = some next) : Intact next ∧ Tracked next := by
  obtain ⟨⟨acts, possible⟩, replied⟩ := Option.ite_none_right_eq_some.mp taken
  have alive := alive_of_acts acts
  have answered := reply_eq_some.mp replied
  obtain ⟨bare, opened⟩ : state.fd.source = none ∧ state.closes = 0 :=
    answered.may tracked alive rfl
  have strays := use_strays intact opened
  refine ⟨answered.intact ⟨fun _ => opened, intact.bounded, strays, intact.leftover, ?_⟩,
    answered.tracked tracked alive rfl rfl ?_⟩
  · intro stream made
    rcases initMsgStream_cases possible with ⟨-, nothing⟩ | ⟨-, something⟩
    · cases nothing.symm.trans made
    · cases something.symm.trans made
      have fresh : Stream.initMsgStream.NoTimer := ⟨rfl, rfl⟩
      exact ⟨fresh.known, fun _ => fresh⟩
  · rcases initMsgStream_cases possible with ⟨failed, nothing⟩ | ⟨succeeded, something⟩
    · have unchanged : state.fd = ⟨none, state.registered, state.closes⟩ := by
        rw [← bare]
        rfl
      change Fd.mk _ _ _ = if (initMsgStream calls).1 < 0 then state.fd else _
      rw [if_pos failed, nothing, unchanged]
      rfl
    · change Fd.mk _ _ _ = if (initMsgStream calls).1 < 0 then state.fd else _
      rw [if_neg succeeded, something]
      rfl

theorem close_kept (intact : Intact state) (tracked : Tracked state)
    (taken : step state .close = some next) : Intact next ∧ Tracked next := by
  obtain ⟨acts, replied⟩ := Option.ite_none_right_eq_some.mp taken
  have alive := alive_of_acts acts
  have answered := reply_eq_some.mp replied
  obtain ⟨bare, opened⟩ : state.fd.source = none ∧ state.closes = 0 :=
    answered.may tracked alive rfl
  refine ⟨answered.intact ⟨fun owned => ?_, ?_, intact.strays, intact.leftover, intact.timers⟩,
    answered.tracked tracked alive rfl rfl rfl⟩
  · cases bare.symm.trans owned
  · change state.closes + 1 ≤ 1
    omega

/-- The stream of a transfer has its source. -/
theorem owned_of_pending {direction : Stream.Direction} {buf : List UInt8} {usec : Nat}
    (intact : Intact state) (tracked : Tracked state) (alive : state.task ≠ .gone)
    (pending : state.pending = some (.streamIo direction buf usec)) :
    state.fd.source = some true ∧ state.closes = 0 := by
  have may := tracked.follows.may_pending pending
  rw [← tracked.refines alive] at may
  exact ⟨may, intact.opened may⟩

theorem io_kept {answers : Stream.BeginAnswers} (intact : Intact state) (tracked : Tracked state)
    (sound : Sound state (.io answers))
    (taken : step state (.io answers) = some next) : Intact next ∧ Tracked next := by
  obtain ⟨direction, buf, usec, stream, begun, acts, pending, held, outcome⟩ := io_cases taken
  have alive := alive_of_acts acts
  have idle := idle_of_acts acts
  obtain ⟨owned, opened⟩ := owned_of_pending intact tracked alive pending
  have strays := use_strays intact opened
  have kept : usec ≠ 0 → 0 ≤ answers.addTime → 0 ≤ answers.setEvents := by
    intro limited
    apply sound
    rw [State.timed, pending]
    exact bne_iff_ne.mpr limited
  have noTimer := (intact.timers stream held).2 idle
  have unchanged (run : (Stream.msgStreamDoIoBegin stream direction buf usec state.fresh
      answers).1 = begun) : Fd.mk (some begun.source) state.registered state.closes = state.fd := by
    rw [Stream.begin_source (Prod.ext run rfl), State.fd, held]
    rfl
  rcases outcome with ⟨rc, run, answered⟩ | ⟨run, rfl⟩
  · have none := (Stream.begin_timers noTimer kept run).2 nofun
    refine ⟨answered.intact ⟨fun _ => opened, intact.bounded, strays, intact.leftover, ?_⟩,
      answered.tracked tracked alive rfl rfl (unchanged (by rw [run]))⟩
    rintro _ ⟨⟩
    exact ⟨none.known, fun _ => none⟩
  · have known := (Stream.begin_timers noTimer kept run).1
    refine ⟨⟨fun _ => opened, intact.bounded, strays, intact.leftover, ?_⟩,
      tracked.stays alive rfl rfl (unchanged (by rw [run]))⟩
    rintro _ ⟨⟩
    exact ⟨known, nofun⟩

theorem drain_kept {recvs : List Stream.Recv} (intact : Intact state) (tracked : Tracked state)
    (taken : step state (.drain recvs) = some next) : Intact next ∧ Tracked next := by
  obtain ⟨acts, drained⟩ := Option.ite_none_right_eq_some.mp taken
  obtain ⟨rc, -, replied⟩ := Option.bind_eq_some_iff.mp drained
  have alive := alive_of_acts acts
  have answered := reply_eq_some.mp replied
  have opened : state.closes = 0 := intact.opened (answered.may tracked alive rfl)
  have strays := use_strays intact opened
  exact ⟨answered.intact ⟨intact.opened, intact.bounded, strays, intact.leftover, intact.timers⟩,
    answered.tracked tracked alive rfl rfl rfl⟩

/-- A source that `shutdown_msg_stream` releases closes the descriptor. -/
theorem tail_kept {answers : Stream.TailAnswers} (intact : Intact state) (tracked : Tracked state)
    (taken : step state (.tail answers) = some next) : Intact next ∧ Tracked next := by
  obtain ⟨stream, acts, held, answered⟩ := tail_cases taken
  have alive := alive_of_acts acts
  have owned : state.fd.source = some true := answered.may tracked alive rfl
  have opened := intact.opened owned
  have source : stream.source = true := by
    rw [State.fd, held] at owned
    exact Option.some.inj owned
  have strays := use_strays intact opened
  have noTimer := Stream.shutdownTail_noTimer answers
    ((intact.timers stream held).2 (idle_of_acts acts))
  have released := Stream.shutdownTail_source stream answers
  generalize Stream.shutdownTail stream answers = ended at answered noTimer released
  obtain ⟨after, rc⟩ := ended
  dsimp only at answered noTimer released
  have timers : ∀ stream ∈ some after,
      stream.TimerKnown ∧ (state.blocked = false → stream.NoTimer) := by
    rintro _ ⟨⟩
    exact ⟨noTimer.known, fun _ => noTimer⟩
  by_cases failed : rc < 0
  · have kept : after.source = true := by rwa [if_pos failed, source] at released
    rw [if_neg (by simp [kept])] at answered
    refine ⟨answered.intact ⟨fun _ => opened, intact.bounded, strays, intact.leftover, timers⟩,
      answered.tracked tracked alive rfl rfl ?_⟩
    change Fd.mk (some after.source) _ _ = if rc < 0 then state.fd else _
    rw [if_pos failed, kept, State.fd, held, ← source]
    rfl
  · have gone : after.source = false := by rwa [if_neg failed] at released
    rw [if_pos ⟨source, gone⟩] at answered
    refine ⟨answered.intact ⟨?_, ?_, strays, intact.leftover, timers⟩,
      answered.tracked tracked alive rfl rfl ?_⟩
    · intro still
      change some after.source = some true at still
      rw [gone] at still
      cases still
    · change state.closes + 1 ≤ 1
      omega
    · change Fd.mk (some after.source) _ _ = if rc < 0 then state.fd else _
      rw [if_neg failed, gone]
      rfl

/-- The calls that do not concern the descriptor. -/
theorem call_kept {event : Event Effect Response} (intact : Intact state)
    (tracked : Tracked state) (taken : step state (.call event) = some next) :
    Intact next ∧ Tracked next := by
  obtain ⟨⟨acts, free⟩, replied⟩ := Option.ite_none_right_eq_some.mp taken
  have alive := alive_of_acts acts
  have answered := reply_eq_some.mp replied
  obtain ⟨effect, answer⟩ := event
  have registering (reason : Option InterruptReason) :
      (state.stream.map fun stream => Stream.regInterrupt stream reason).map MsgStream.source =
        state.stream.map MsgStream.source := by
    rw [Option.map_map]
    rfl
  cases effect with
  | regStreamInterrupt reason =>
      refine ⟨answered.intact ⟨?_, intact.bounded, intact.strays, intact.leftover, ?_⟩,
        answered.tracked tracked alive rfl rfl ?_⟩
      · intro owned
        apply intact.opened
        exact (registering reason).symm.trans owned
      · intro stream registered
        obtain ⟨before, held, rfl⟩ := Option.map_eq_some_iff.mp registered
        exact intact.timers before held
      · exact congrArg (fun source => Fd.mk source state.registered state.closes)
          (registering reason)
  | registerCleanup cleanup =>
      cases cleanup <;>
        exact ⟨answered.intact ⟨intact.opened, intact.bounded, intact.strays, intact.leftover,
          intact.timers⟩, answered.tracked tracked alive rfl rfl rfl⟩
  | _ =>
      first
      | exact ⟨answered.intact ⟨intact.opened, intact.bounded, intact.strays, intact.leftover,
          intact.timers⟩, answered.tracked tracked alive rfl rfl rfl⟩
      | cases free

theorem event_kept {event : Stream.Event} {setEvents : Int} (intact : Intact state)
    (tracked : Tracked state) (taken : step state (.event event setEvents) = some next) :
    Intact next ∧ Tracked next := by
  obtain ⟨stream, dispatched, held, -, delivered, outcome⟩ := event_cases taken
  have alive : state.task ≠ .gone := by
    intro gone
    cases (tracked.gone gone).2.symm.trans held
  obtain ⟨same, present⟩ := Stream.dispatch_source delivered
  have fd (after : MsgStream) (source : after.source = dispatched.stream.source) :
      Fd.mk (some after.source) state.registered state.closes = state.fd := by
    rw [source, same, State.fd, held]
    rfl
  have opened (after : MsgStream) (source : after.source = dispatched.stream.source)
      (owned : some after.source = some true) : state.closes = 0 := by
    apply intact.opened
    rw [← fd after source]
    exact owned
  have strays : (state.dispatched stream event dispatched).strays = 0 := by
    change (if event = .interrupt then state.strays else state.use.strays) = 0
    split
    · exact intact.strays
    · rename_i handler
      apply use_strays intact
      apply opened dispatched.stream rfl
      rw [same, present handler]
  have timers := Stream.dispatch_timers (intact.timers stream held).1 delivered
  have known : dispatched.stream.TimerKnown := by
    rcases timers with none | ⟨unchanged, -⟩
    · exact none.known
    · rw [unchanged]
      exact (intact.timers stream held).1
  rcases outcome with ⟨-, rfl⟩ | ⟨direction, buf, usec, waiting, pending, awake, answered⟩
  · refine ⟨⟨opened dispatched.stream rfl, intact.bounded, strays, intact.leftover, ?_⟩,
      tracked.stays alive rfl rfl (fd dispatched.stream rfl)⟩
    rintro _ ⟨⟩
    refine ⟨known, fun idle => ?_⟩
    rcases timers with none | ⟨unchanged, -⟩
    · exact none
    · rw [unchanged]
      exact (intact.timers stream held).2 idle
  · have source := Stream.finish_source dispatched.stream (dispatched.wake == .cancelled) setEvents
    have none : (Stream.msgStreamDoIoFinish dispatched.stream (dispatched.wake == .cancelled)
        setEvents).1.NoTimer := by
      apply Stream.finish_noTimer known
      intro set
      rcases timers with none | ⟨-, unset⟩
      · exact none
      · cases woken : dispatched.wake with
        | asleep => exact absurd woken awake
        | set => exact absurd woken unset
        | cancelled => simp [woken] at set
    refine ⟨answered.intact ⟨opened _ source, intact.bounded, strays, intact.leftover, ?_⟩,
      answered.tracked tracked alive rfl rfl (fd _ source)⟩
    rintro _ ⟨⟩
    exact ⟨none.known, fun _ => none⟩

theorem create_kept {rc : Int} (intact : Intact state) (tracked : Tracked state)
    (sound : Sound state (.create rc)) (taken : step state (.create rc) = some next) :
    Intact next ∧ Tracked next := by
  obtain ⟨fresh, created⟩ := Option.ite_none_right_eq_some.mp taken
  cases created
  have running : (state.create rc).task = .running := if_neg (Int.not_lt.mpr sound)
  have alive : state.task ≠ .gone := by
    rw [fresh]
    nofun
  refine ⟨⟨intact.opened, intact.bounded, intact.strays, intact.leftover, intact.timers⟩,
    tracked.follows, fun _ => tracked.refines alive, fun gone => ?_⟩
  cases running.symm.trans gone

/-- The cleanup closes a descriptor that is still open, and cancels the timer. -/
theorem finish_kept (intact : Intact state) (tracked : Tracked state)
    (taken : step state .finish = some next) : Intact next ∧ Tracked next := by
  obtain ⟨⟨acts, ended⟩, finished⟩ := Option.ite_none_right_eq_some.mp taken
  cases finished
  have alive := alive_of_acts acts
  have settled : state.fd.Settled := by
    rw [tracked.refines alive]
    have follows := tracked.follows
    cases program : state.execution.program with
    | pure value =>
        rw [program] at follows
        exact follows
    | call effect next =>
        rw [State.pending, program] at ended
        cases ended
  have follows : Fd.rules.Follows (Fd.rules.reached .accepted state.finish.execution.history)
      state.finish.execution.program fun final _ => final.Settled := by
    rw [finish_execution]
    exact tracked.follows
  unfold State.finish at follows ⊢
  split at follows
  · rename_i stream registered held
    have timers : Stream.destroyMsgStream stream = [] := by
      have known : { stream with source := false }.TimerKnown := (intact.timers stream held).1
      exact (Stream.cancelTimer_noTimer known).2
    have closed : state.closes + (if stream.source = true then 1 else 0) = 1 := by
      rw [State.fd, held] at settled
      rcases settled with none | held | released
      · cases none
      · obtain ⟨source, -, closes⟩ := Fd.mk.inj held
        rw [closes, Option.some.inj source]
        rfl
      · obtain ⟨source, -, closes⟩ := Fd.mk.inj released
        rw [closes, Option.some.inj source]
        rfl
    exact ⟨intact_of_bare rfl closed.le intact.strays timers, follows,
      fun alive => absurd rfl alive, fun _ => ⟨closed, rfl⟩⟩
  · rename_i unregistered
    obtain ⟨nothing, closed⟩ : state.stream = none ∧ state.closes = 1 := by
      rcases settled with bare | held | released
      · obtain ⟨source, -, closes⟩ := Fd.mk.inj bare
        exact ⟨Option.map_eq_none_iff.mp source, closes⟩
      · obtain ⟨source, registered, -⟩ := Fd.mk.inj held
        obtain ⟨stream, present, -⟩ := Option.map_eq_some_iff.mp source
        exact absurd present (unregistered stream registered)
      · obtain ⟨source, registered, -⟩ := Fd.mk.inj released
        obtain ⟨stream, present, -⟩ := Option.map_eq_some_iff.mp source
        exact absurd present (unregistered stream registered)
    exact ⟨⟨intact.opened, intact.bounded, intact.strays, intact.leftover, intact.timers⟩, follows,
      fun alive => absurd rfl alive, fun _ => ⟨closed, nothing⟩⟩

/-- One step keeps the descriptor safe. -/
theorem step_kept (state : State) (label : Label) (next : State)
    (kept : Intact state ∧ Tracked state) (sound : Sound state label)
    (taken : step state label = some next) : Intact next ∧ Tracked next := by
  obtain ⟨intact, tracked⟩ := kept
  cases label with
  | create rc => exact create_kept intact tracked sound taken
  | init calls => exact init_kept intact tracked taken
  | close => exact close_kept intact tracked taken
  | io answers => exact io_kept intact tracked sound taken
  | drain recvs => exact drain_kept intact tracked taken
  | tail answers => exact tail_kept intact tracked taken
  | call event => exact call_kept intact tracked taken
  | event event setEvents => exact event_kept intact tracked taken
  | finish => exact finish_kept intact tracked taken
  | late id =>
      obtain ⟨armed, -⟩ := Option.ite_none_right_eq_some.mp taken
      rw [intact.leftover] at armed
      cases armed

end Step

/-- In every run in which the task can be created and no call leaves its timer behind,
the descriptor is closed at most once and never used after that, and once there is no
task for it it is closed. -/
theorem descriptor_closed_once (host : Host) (pid : Pid) (labels : List Label) (state : State)
    (sound : Run.Meets step Sound (start host pid) labels)
    (ran : Run.exec step (start host pid) labels = some state) :
    state.closes ≤ 1 ∧ state.strays = 0 ∧ state.leftover = [] ∧
      (state.task = .gone → state.closes = 1) := by
  have fresh : (start host pid).task ≠ .gone := Task.noConfusion
  have started : Intact (start host pid) ∧ Tracked (start host pid) :=
    ⟨intact_of_bare rfl (Nat.zero_le 1) rfl rfl, Fd.clientHandlerAsync_follows host pid,
      fun _ => rfl, fun gone => absurd gone fresh⟩
  obtain ⟨intact, tracked⟩ :=
    sound.invariant (fun state => Intact state ∧ Tracked state) step_kept started ran
  exact ⟨intact.bounded, intact.strays, intact.leftover, fun gone => (tracked.gone gone).1⟩

/-- A connection that is turned away: the message is written, and the shutdown releases
the descriptor. -/
def turnedAway : List Label :=
  [.create 0, .init ⟨none, 0, true, 0, 0⟩, .call ⟨.registerCleanup .destroyMsgStream, ()⟩,
    .call ⟨.regStreamInterrupt (some .ioErr), ()⟩, .call ⟨.increaseNrTasks, false⟩,
    .io ⟨0, 0⟩,
    .event (.handler ⟨false, true, false⟩ ⟨.done (Handler.failMsg .noResource), 0, 0⟩) 0,
    .drain [.failed Errno.eagain], .io ⟨0, 0⟩,
    .event (.handler ⟨false, true, false⟩ ⟨.done [], 0, 0⟩) 0, .tail ⟨0, 5, 0⟩, .finish]

/-- A host for examples. -/
def someHost : Host := ⟨1, fun _ => [69]⟩

theorem descriptor_closed_once_turnedAway :
    ∃ state ∈ Run.exec step (start someHost 7) turnedAway,
      state.task = .gone ∧ state.closes = 1 ∧ state.strays = 0 := by
  obtain ⟨state, ran, gone⟩ : ∃ state ∈ Run.exec step (start someHost 7) turnedAway,
      state.task = .gone := by decide +kernel
  have closed := descriptor_closed_once someHost 7 turnedAway state (by decide +kernel) ran
  exact ⟨state, ran, gone, closed.2.2.2 gone, closed.2.1⟩

/-- The task cannot find out the name of its unit. The mask cannot be set for the message
about that, whose timer is left armed when the next message replaces it. -/
def timerLeft : List Label :=
  [.create 0, .init ⟨none, 0, true, 0, 0⟩, .call ⟨.registerCleanup .destroyMsgStream, ()⟩,
    .call ⟨.regStreamInterrupt (some .ioErr), ()⟩, .call ⟨.increaseNrTasks, true⟩,
    .call ⟨.registerCleanup .decreaseNrTasks, ()⟩, .call ⟨.thisUnitName, none⟩,
    .call ⟨.busCall (.getUnitByPID 1), Awaited.value (.notSent (-5))⟩, .call ⟨.library, (0 : Int)⟩,
    .io ⟨0, -22⟩, .io ⟨0, 0⟩,
    .event (.handler ⟨false, true, false⟩ ⟨.done (Handler.failMsg .internal), 0, 0⟩) 0,
    .drain [.failed Errno.eagain], .io ⟨0, 0⟩,
    .event (.handler ⟨false, true, false⟩ ⟨.done [], 0, 0⟩) 0, .tail ⟨0, 5, 0⟩, .finish, .late 0]

/-- If the task cannot be allocated, nothing closes the descriptor; and a timer that was
left behind fires when the descriptor is closed and its stream freed. -/
theorem descriptor_lost :
    (∃ state ∈ Run.exec step (start someHost 7) [.create (-Errno.enomem)],
      state.task = .gone ∧ state.closes = 0) ∧
    ∃ state ∈ Run.exec step (start someHost 7) timerLeft,
      state.task = .gone ∧ state.closes = 1 ∧ state.strays = 1 := by
  decide +kernel

end TrafficLimitd.Connection
