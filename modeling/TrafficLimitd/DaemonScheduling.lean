import Mathlib.Data.Nat.Pairing
import TrafficLimitd.DaemonOrder
import TrafficLimitd.HandlerSources
import TrafficLimitd.SchedulerSimulation

set_option autoImplicit false

/- A task of the daemon and its entry in the scheduler. The two agree on its life, on its
event sources and on how its wait ends, and whatever happens to the task keeps this so. -/
namespace TrafficLimitd.Daemon

open Coroutine Handler
open Scheduler (EventId Queues TaskState Flags)

/-- The event that a call waits for: the stream's, the one on the stack of `sb_bus_call`,
those of the subscription and of the job, and the process's. -/
def channel : Effect → Nat
  | .streamIo _ _ _ => 0
  | .busCall _ => 1
  | .matchJobRemoved => 2
  | .waitForJob _ => 3
  | _ => 4

/-- The events of different tasks differ. -/
def waitEvent (id : TaskId) (channel : Nat) : EventId := .other (Nat.pair id channel)

@[simp] theorem waitEvent_inj {id other : TaskId} {first second : Nat} :
    waitEvent id first = waitEvent other second ↔ id = other ∧ first = second := by
  simp [waitEvent, Nat.pair_eq_pair]

@[simp] theorem waitEvent_ne_join (id other : TaskId) (channel : Nat) :
    waitEvent id channel ≠ .join other := nofun

/-- The task waits for this event. -/
def blockedAt (task : Task) (at_ : Nat) : Bool :=
  decide (task.2.wait = .blocked) && task.1.program.pending.any fun effect => channel effect == at_

theorem blockedAt_of_awake {task : Task} (awake : task.2.wait ≠ .blocked) (at_ : Nat) :
    blockedAt task at_ = false := by
  simp [blockedAt, awake]

def Job.owed (job : Job) : Owed := Owed.of job.history

/-- The source that this cleanup destroys does not outlive the task. -/
def Job.Destroys (job : Job) (cleanup : Cleanup) : Prop :=
  cleanup ∈ job.cleanups ∨ job.owed = some cleanup

theorem Job.Destroys.perform {job : Job} {cleanup : Cleanup} {event : Event Effect Response}
    (destroys : job.Destroys cleanup) (may : Owed.may job.owed event.effect) (rest : Prog Unit) :
    (job.perform event rest).Destroys cleanup := by
  apply Or.inl
  rcases destroys with registered | owed
  · change cleanup ∈ job.registers event.effect
    unfold Job.registers
    split
    · exact List.mem_cons_of_mem _ registered
    · exact registered
  · change cleanup ∈ job.registers event.effect
    rw [may cleanup owed]
    exact List.mem_cons_self

/-- What ties a task to its entry and to its `waiting_cancelled`. A process that is waited
for is waited for by this call, which is not over unless it was interrupted. -/
structure Tied (task : Task) (entry : TaskState) (cancelled : Bool) : Prop where
  closed : entry.closed = task.2.closed
  interruptDisabled : entry.interruptDisabled = task.2.interruptDisabled
  deferred : entry.deferred = (task.2.closed && !task.2.freed)
  sources : task.2.stream.isSome = true ∨ task.2.pidfd.isSome = true → entry.sources = true
  blocked : task.2.wait = .blocked → cancelled = false
  woken : ∀ interrupted, task.2.wait = .woken interrupted → cancelled = interrupted
  follows : Owed.rules.Follows task.1.owed task.1.program fun final _ => final = none
  stream : task.2.stream.isSome = true → task.1.Destroys .destroyMsgStream
  pidfd : task.2.pidfd.isSome = true → task.1.Destroys .destroyPidfdEvent
  awaited : ∀ event, task.2.pidfd = some event → event.armed = true → event.waitForExit = true →
    task.1.program.pending = some .waitForExit ∧
      (task.2.wait = .blocked ∨ task.2.wait = .woken true)

theorem tied_new (host : Host) (pid : Pid) (cancelled : Bool) :
    Tied (newJob host pid, newThread) Scheduler.newTask cancelled where
  closed := rfl
  interruptDisabled := rfl
  deferred := rfl
  sources := by simp [newThread]
  blocked := nofun
  woken := nofun
  follows := Owed.clientHandlerAsync_follows host pid
  stream := nofun
  pidfd := nofun
  awaited := nofun

namespace Thread

variable {thread : Thread} {effect : Effect} {answer : Response effect}

theorem observe_initMsgStream (thread : Thread) (rc : Int) :
    thread.observe .initMsgStream rc =
      if rc < 0 then thread else { thread with stream := some ⟨true, none⟩ } := rfl

theorem observe_initPidfdEvent (thread : Thread) (pid : Pid) (rc : Int) :
    thread.observe (.initPidfdEvent pid) rc =
      if rc < 0 then thread else { thread with pidfd := some ⟨true, false, false, none⟩ } := rfl

theorem observe_waitForExit (thread : Thread) (answer : Awaited Unit) :
    thread.observe .waitForExit answer =
      if answer.isCancelled then
        { thread with pidfd := thread.pidfd.map fun event => { event with armed := false } }
      else thread := rfl

/-- A stream that was not there before has just been made. -/
theorem observe_stream (opened : (thread.observe effect answer).stream.isSome = true) :
    thread.stream.isSome = true ∨
      ∀ job rest, (Job.perform job ⟨effect, answer⟩ rest).Destroys .destroyMsgStream := by
  cases effect with
  | initMsgStream =>
      rw [observe_initMsgStream thread answer] at opened
      split at opened
      · exact Or.inl opened
      · rename_i made
        exact Or.inr fun job rest => Or.inr (if_neg made)
  | regStreamInterrupt reason =>
      rw [show (thread.observe _ _).stream = thread.stream.map _ from rfl] at opened
      simp only [Option.isSome_map] at opened
      exact Or.inl opened
  | initPidfdEvent pid =>
      rw [observe_initPidfdEvent thread pid answer] at opened
      split at opened <;> exact Or.inl opened
  | waitForExit =>
      rw [observe_waitForExit thread answer] at opened
      split at opened <;> exact Or.inl opened
  | _ => exact Or.inl opened

theorem observe_pidfd (opened : (thread.observe effect answer).pidfd.isSome = true) :
    thread.pidfd.isSome = true ∨
      ∀ job rest, (Job.perform job ⟨effect, answer⟩ rest).Destroys .destroyPidfdEvent := by
  cases effect with
  | initMsgStream =>
      rw [observe_initMsgStream thread answer] at opened
      split at opened <;> exact Or.inl opened
  | regPidfdInterrupt reason =>
      rw [show (thread.observe _ _).pidfd = thread.pidfd.map _ from rfl] at opened
      simp only [Option.isSome_map] at opened
      exact Or.inl opened
  | initPidfdEvent pid =>
      rw [observe_initPidfdEvent thread pid answer] at opened
      split at opened
      · exact Or.inl opened
      · rename_i made
        exact Or.inr fun job rest => Or.inr (if_neg made)
  | waitForExit =>
      rw [observe_waitForExit thread answer] at opened
      split at opened
      · simp only [Option.isSome_map] at opened
        exact Or.inl opened
      · exact Or.inl opened
  | _ => exact Or.inl opened

end Thread

namespace Tied

variable {job : Job} {thread later : Thread} {entry : TaskState} {cancelled flag : Bool}

/-- Between its calls a task is not known to wait for its process. -/
theorem unawaited (tied : Tied (job, thread) entry cancelled) {event : PidfdEvent}
    (opened : thread.pidfd = some event) (armed : event.armed = true)
    (running : thread.wait = .running) : event.waitForExit = false := by
  refine Bool.eq_false_iff.mpr fun waits => ?_
  rcases (tied.awaited event opened armed waits).2 with blocked | woken
  · rw [running] at blocked
    cases blocked
  · rw [running] at woken
    cases woken

/-- An answered call is no longer one that the process can end. -/
theorem perform_awaited (tied : Tied (job, thread) entry cancelled)
    {event : Event Effect Response} {rest : Prog Unit} (accepts : thread.accepts event = true)
    (advanced : job.program.advance event = some rest) {process : PidfdEvent}
    (opened : (thread.perform event).pidfd = some process) (armed : process.armed = true) :
    process.waitForExit = false := by
  have pending : job.program.pending = some event.effect := Coro.advance_pending advanced
  obtain ⟨effect, answer⟩ := event
  -- The source is as before, up to its reason, and the call is another one.
  have same {old : PidfdEvent} (was : thread.pidfd = some old) (on : old.armed = true)
      (other : effect ≠ .waitForExit) : old.waitForExit = false := by
    refine Bool.eq_false_iff.mpr fun waits => other ?_
    exact Option.some.inj (pending.symm.trans (tied.awaited old was on waits).1)
  cases effect with
  | initMsgStream =>
      change (thread.observe .initMsgStream answer).pidfd = some process at opened
      rw [Thread.observe_initMsgStream thread answer] at opened
      split at opened <;> exact same opened armed nofun
  | initPidfdEvent pid =>
      change (thread.observe (.initPidfdEvent pid) answer).pidfd = some process at opened
      rw [Thread.observe_initPidfdEvent thread pid answer] at opened
      split at opened
      · exact same opened armed nofun
      · cases opened
        rfl
  | regPidfdInterrupt reason =>
      obtain ⟨old, was, rfl⟩ := Option.map_eq_some_iff.mp opened
      have unawaited : old.waitForExit = false := same was armed nofun
      exact unawaited
  | waitForExit =>
      change (thread.observe .waitForExit answer).pidfd = some process at opened
      rw [Thread.observe_waitForExit thread answer] at opened
      split at opened
      · obtain ⟨old, was, rfl⟩ := Option.map_eq_some_iff.mp opened
        cases armed
      · rename_i answered
        refine Bool.eq_false_iff.mpr fun waits => ?_
        unfold Thread.accepts at accepts
        rcases (tied.awaited process opened armed waits).2 with blocked | woken
        · simp only [show thread.wait = .blocked from blocked] at accepts
          cases accepts
        · simp only [show thread.wait = .woken true from woken] at accepts
          cases answer with
          | cancelled => exact answered rfl
          | value ended => exact absurd accepts (by cases ended; decide)
  | _ => exact same opened armed nofun

theorem perform {after : TaskState} (tied : Tied (job, thread) entry cancelled)
    {event : Event Effect Response} {rest : Prog Unit} (accepts : thread.accepts event = true)
    (advanced : job.program.advance event = some rest) (closed : after.closed = entry.closed)
    (deferred : after.deferred = entry.deferred)
    (disabled : after.interruptDisabled = (thread.perform event).interruptDisabled)
    (sources : (thread.perform event).stream.isSome = true ∨
      (thread.perform event).pidfd.isSome = true → after.sources = true) :
    Tied (job.perform event rest, thread.perform event) after cancelled := by
  obtain ⟨may, follows⟩ := Discipline.Follows.advance tied.follows advanced
  obtain ⟨life, freed⟩ := thread.observe_life event.effect event.answer
  refine ⟨?_, disabled, ?_, sources, nofun, nofun, follows, ?_, ?_, ?_⟩
  · rw [closed, tied.closed]
    exact life.symm
  · rw [deferred, tied.deferred]
    exact congrArg₂ (fun first second => first && !second) life.symm freed.symm
  · intro opened
    rcases Thread.observe_stream opened with before | made
    · exact (tied.stream before).perform may rest
    · exact made job rest
  · intro opened
    rcases Thread.observe_pidfd opened with before | made
    · exact (tied.pidfd before).perform may rest
    · exact made job rest
  · intro process opened armed waits
    rw [tied.perform_awaited accepts advanced opened armed] at waits
    cases waits

/-- What leaves the job and the sources alone. -/
theorem moved (tied : Tied (job, thread) entry cancelled) (closed : later.closed = thread.closed)
    (freed : later.freed = thread.freed)
    (disabled : later.interruptDisabled = thread.interruptDisabled)
    (stream : later.stream.isSome = thread.stream.isSome)
    (pidfd : later.pidfd.isSome = thread.pidfd.isSome)
    (blocked : later.wait = .blocked → flag = false)
    (woken : ∀ interrupted, later.wait = .woken interrupted → flag = interrupted)
    (awaited : ∀ event, later.pidfd = some event → event.armed = true → event.waitForExit = true →
      job.program.pending = some .waitForExit ∧
        (later.wait = .blocked ∨ later.wait = .woken true)) :
    Tied (job, later) entry flag where
  closed := tied.closed.trans closed.symm
  interruptDisabled := tied.interruptDisabled.trans disabled.symm
  deferred := by
    change _ = (later.closed && !later.freed)
    rw [closed, freed]
    exact tied.deferred
  sources opened := by
    apply tied.sources
    rwa [stream, pidfd] at opened
  blocked := blocked
  woken := woken
  follows := tied.follows
  stream opened := tied.stream (stream ▸ opened)
  pidfd opened := tied.pidfd (pidfd ▸ opened)
  awaited := awaited

theorem block (tied : Tied (job, thread) entry cancelled) {effect : Effect}
    (pending : job.program.pending = some effect) (running : thread.wait = .running) :
    Tied (job, thread.block effect) entry false := by
  obtain ⟨closed, freed⟩ := thread.block_life effect
  have woken : ∀ interrupted, (thread.block effect).wait = .woken interrupted →
      false = interrupted := by
    intro interrupted woken
    rw [thread.block_wait] at woken
    cases woken
  by_cases exiting : effect = .waitForExit
  · subst exiting
    refine tied.moved closed freed rfl rfl ?_ (fun _ => rfl) woken ?_
    · exact Option.isSome_map
    · intro event opened armed waits
      exact ⟨pending, Or.inl rfl⟩
  · have plain : thread.block effect = { thread with wait := .blocked } := by
      cases effect <;> first | rfl | exact absurd rfl exiting
    rw [plain] at woken ⊢
    refine tied.moved rfl rfl rfl rfl rfl (fun _ => rfl) woken ?_
    intro event opened armed waits
    rw [tied.unawaited opened armed running] at waits
    cases waits

/-- When its program is over, a task owes no cleanup. -/
theorem settled (tied : Tied (job, thread) entry cancelled) (ended : job.program = .pure ()) :
    job.owed = none := by
  have follows := tied.follows
  rw [show (job, thread).1.program = .pure () from ended] at follows
  exact follows

theorem clean (tied : Tied (job, thread) entry cancelled) {cleanup : Cleanup}
    {rest : List Cleanup} (ended : job.program = .pure ())
    (next : job.cleanups = cleanup :: rest) :
    Tied (job.clean cleanup rest, thread.clean cleanup) entry cancelled := by
  obtain ⟨closed, freed, wait⟩ := thread.clean_life cleanup
  have settled := tied.settled ended
  have remains {other : Cleanup} (destroys : job.Destroys other) (different : other ≠ cleanup) :
      (job.clean cleanup rest).Destroys other := by
    rcases destroys with registered | owed
    · rw [next] at registered
      exact Or.inl (List.mem_of_ne_of_mem different registered)
    · rw [settled] at owed
      cases owed
  have stream (opened : (thread.clean cleanup).stream.isSome = true) :
      thread.stream.isSome = true ∧ Cleanup.destroyMsgStream ≠ cleanup := by
    cases cleanup <;> first | exact ⟨opened, nofun⟩ | cases opened
  have pidfd (opened : (thread.clean cleanup).pidfd.isSome = true) :
      thread.pidfd.isSome = true ∧ Cleanup.destroyPidfdEvent ≠ cleanup := by
    cases cleanup <;> first | exact ⟨opened, nofun⟩ | cases opened
  have disabled : (thread.clean cleanup).interruptDisabled = thread.interruptDisabled := by
    cases cleanup <;> rfl
  refine ⟨tied.closed.trans closed.symm, tied.interruptDisabled.trans disabled.symm, ?_, ?_, ?_,
    ?_, tied.follows, ?_, ?_, ?_⟩
  · change _ = ((thread.clean cleanup).closed && !(thread.clean cleanup).freed)
    rw [closed, freed]
    exact tied.deferred
  · intro opened
    exact tied.sources (opened.imp (fun opened => (stream opened).1) fun opened => (pidfd opened).1)
  · intro blocked
    exact tied.blocked (wait.symm.trans blocked)
  · intro interrupted woken
    exact tied.woken interrupted (wait.symm.trans woken)
  · intro opened
    exact remains (tied.stream (stream opened).1) (stream opened).2
  · intro opened
    exact remains (tied.pidfd (pidfd opened).1) (pidfd opened).2
  · intro event opened armed waits
    have before : thread.pidfd = some event := by
      cases cleanup <;> first | exact opened | cases opened
    have exiting := (tied.awaited event before armed waits).1
    rw [show (job, thread).1.program = .pure () from ended] at exiting
    cases exiting

/-- The end of `se_task_entry`: all sources of the task are gone. -/
theorem finish (tied : Tied (job, thread) entry cancelled) (fits : Fits (job, thread))
    (ended : job.program.pending = none) (done : job.cleanups = []) (running : thread.closed = false) :
    Tied (job, { thread with closed := true })
      { entry with deferred := true, sources := false, closed := true } false := by
  have returned := pure_of_pending ended
  have none_left {cleanup : Cleanup} (destroys : job.Destroys cleanup) : False := by
    rcases destroys with registered | owed
    · rw [done] at registered
      cases registered
    · rw [tied.settled returned] at owed
      cases owed
  have unfreed : thread.freed = false := by
    refine Bool.eq_false_iff.mpr fun freed => ?_
    rw [show thread.closed = true from fits.freed freed] at running
    cases running
  have awake : thread.wait = .running := by
    by_contra waits
    obtain ⟨effect, pending, _⟩ := fits.waiting waits
    rw [show (job, thread).1.program.pending = none from ended] at pending
    cases pending
  refine ⟨rfl, tied.interruptDisabled, ?_, ?_, fun _ => rfl, ?_, tied.follows, tied.stream,
    tied.pidfd, ?_⟩
  · change true = (true && !thread.freed)
    rw [unfreed]
    rfl
  · intro opened
    rcases opened with opened | opened
    · exact (none_left (tied.stream opened)).elim
    · exact (none_left (tied.pidfd opened)).elim
  · intro interrupted woken
    rw [show thread.wait = .running from awake] at woken
    cases woken
  · intro event opened armed waits
    exact (none_left (tied.pidfd (by rw [show thread.pidfd = some event from opened]; rfl))).elim

/-- `s_event_set`, but for the process only once its source is off. -/
theorem wake (tied : Tied (job, thread) entry cancelled)
    (elsewhere : ∀ event, thread.pidfd = some event → event.armed = true →
      job.program.pending ≠ some .waitForExit) : Tied (job, thread.wake) entry cancelled := by
  unfold Thread.wake
  split
  · rename_i blocked
    refine tied.moved rfl rfl rfl rfl rfl nofun ?_ ?_
    · intro interrupted same
      cases same
      exact tied.blocked blocked
    · intro event opened armed waits
      exact absurd (tied.awaited event opened armed waits).1 (elsewhere event opened armed)
  · exact tied

theorem interrupt (tied : Tied (job, thread) entry cancelled) (reason : InterruptReason) :
    Tied (job, thread.interrupt reason) entry true := by
  have waits : (thread.interrupt reason).wait =
      if thread.wait = .running then .running else .woken true := rfl
  refine tied.moved rfl rfl rfl rfl rfl ?_ ?_ ?_
  · intro blocked
    rw [waits] at blocked
    split at blocked <;> cases blocked
  · intro interrupted woken
    rw [waits] at woken
    split at woken
    · cases woken
    · cases woken
      rfl
  · intro event opened armed waited
    obtain ⟨exiting, stands⟩ := tied.awaited event opened armed waited
    refine ⟨exiting, Or.inr ?_⟩
    rw [waits, if_neg]
    intro running
    rw [show (job, thread).2.wait = .running from running] at stands
    simp at stands

/-- `msg_stream_handler` switches the stream's source off. -/
theorem disarm (tied : Tied (job, thread) entry cancelled) {source off : StreamSource}
    (opened : thread.stream = some source) :
    Tied (job, { thread with stream := some off }) entry cancelled := by
  refine tied.moved rfl rfl rfl ?_ rfl tied.blocked tied.woken tied.awaited
  rw [opened]
  rfl

/-- `pidfd_event_handler` runs once. -/
theorem exit (tied : Tied (job, thread) entry cancelled) {event off : PidfdEvent}
    (opened : thread.pidfd = some event) (once : off.armed = false) :
    Tied (job, { thread with pidfd := some off }) entry cancelled := by
  refine tied.moved rfl rfl rfl rfl ?_ tied.blocked tied.woken ?_
  · rw [opened]
    rfl
  · intro other same armed waits
    cases same
    rw [once] at armed
    cases armed

theorem free (tied : Tied (job, thread) entry cancelled) (closed : thread.closed = true) :
    Tied (job, { thread with freed := true })
      { entry with deferred := false, freed := entry.freed + 1 } cancelled :=
  { tied with
    deferred := by
      change false = (thread.closed && !true)
      rw [closed]
      rfl }

end Tied

end TrafficLimitd.Daemon
