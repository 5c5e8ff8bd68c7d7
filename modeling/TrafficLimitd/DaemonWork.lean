import TrafficLimitd.DaemonSimulation
import TrafficLimitd.HandlerLength

set_option autoImplicit false

/- The daemon's work. Every step of it is paid for by the connection that caused it: a
task has a number of calls, waits, events and cleanups ahead of it, and each step of the
daemon uses one of them up. -/
namespace TrafficLimitd.Daemon

open Coroutine Handler
open Scheduler (Queues)

/-- What a wait may still cost: a task that runs may block, be woken and be resumed. -/
def Wait.work : Wait → Nat
  | .running => 3
  | .blocked => 2
  | .woken _ => 0

/-- What the event sources of a task may still cause, each one event and one resumption. -/
def Thread.events (thread : Thread) : Nat :=
  2 * (thread.stream.any StreamSource.armed).toNat + 2 * (thread.pidfd.any PidfdEvent.armed).toNat

def Thread.work (thread : Thread) : Nat :=
  thread.wait.work + thread.events + (!thread.closed).toNat + (!thread.freed).toNat

/-- Each call may be waited for, and it may register a cleanup or open a source. -/
def Job.work (job : Job) : Nat := 7 * (maxCalls - job.history.length) + job.cleanups.length

/-- The first exit signal may make every task ready once more. -/
def exitWork (requested : Bool) (tasks : Nat) : Nat := if requested then 0 else tasks

/-- The work ahead. -/
def State.work (state : State) : Nat :=
  (state.roster.jobs.map Job.work).sum + (state.threads.map Thread.work).sum + state.ready.length +
    exitWork state.exitRequested state.threads.length

/-- What a step brings in: a connection all of its work, and the exit signal itself. -/
def Label.brings : Label → Nat
  | .accept _ => 7 * maxCalls + 8
  | .exitSignal => 1
  | _ => 0

theorem sum_map_set {α : Type} (weight : α → Nat) {list : List α} {index : Nat} {old : α}
    (there : list[index]? = some old) (new : α) :
    ((list.set index new).map weight).sum + weight old = (list.map weight).sum + weight new := by
  induction list generalizing index with
  | nil => cases there
  | cons first rest ih =>
      cases index with
      | zero =>
          cases there
          simp only [List.set_cons_zero, List.map_cons, List.sum_cons]
          omega
      | succ index =>
          have later := ih there
          simp only [List.set_cons_succ, List.map_cons, List.sum_cons]
          omega

/-- The task can still make the calls that it has left. -/
def Job.Short (job : Job) : Prop :=
  job.history.length ≤ maxCalls ∧ Within (maxCalls - job.history.length) job.program

theorem Job.Short.perform {job : Job} {event : Event Effect Response} {rest : Prog Unit}
    (short : job.Short) (advanced : job.program.advance event = some rest) :
    job.history.length < maxCalls ∧ (job.perform event rest).Short := by
  obtain ⟨next, program, same⟩ := Coro.advance_eq_some.mp advanced
  obtain ⟨_, within⟩ := short
  rw [program] at within
  have left : 1 ≤ maxCalls - job.history.length := within.1
  refine ⟨by omega, ?_, ?_⟩
  · change job.history.length + 1 ≤ maxCalls
    omega
  · have later := within.2 event.answer
    rw [← same, Nat.sub_sub] at later
    exact later

theorem newJob_short (host : Host) (pid : Pid) : (newJob host pid).Short :=
  ⟨Nat.zero_le _, clientHandlerAsync_within host pid⟩

theorem Thread.observe_events (thread : Thread) (effect : Effect) (answer : Response effect) :
    (thread.observe effect answer).events ≤ thread.events + 2 := by
  unfold Thread.observe
  split
  · split
    · omega
    · simp only [Thread.events, Option.any_some, Bool.toNat_true]
      omega
  · simp [Thread.events, Option.any_map]
  · split
    · omega
    · simp only [Thread.events, Option.any_some, Bool.toNat_true]
      omega
  · simp [Thread.events, Option.any_map]
  · split
    · simp only [Thread.events, Option.any_map]
      simp
      omega
    · omega
  · simp [Thread.events]
  · omega

theorem Job.registers_length (job : Job) (effect : Effect) :
    (job.registers effect).length ≤ job.cleanups.length + 1 := by
  unfold Job.registers
  split
  · exact Nat.le_refl _
  · exact Nat.le_succ _

section Steps

variable {host : Host} {state next : State} {id : TaskId} {job : Job}
variable {thread moved : Thread}

/-- Only the task that changes has to be looked at. -/
theorem work_drops (newJob : Job) (present : state.task id = some (job, thread))
    (jobs : next.roster.jobs = state.roster.jobs.set id newJob)
    (threads : next.threads = state.threads.set id moved)
    (requested : next.exitRequested = state.exitRequested)
    (drops : newJob.work + moved.work + next.ready.length + 1 ≤
      job.work + thread.work + state.ready.length) : next.work + 1 ≤ state.work := by
  obtain ⟨here, there⟩ := State.task_eq_some.mp present
  have onJobs := sum_map_set Job.work here newJob
  have onThreads := sum_map_set Thread.work there moved
  unfold State.work
  rw [jobs, threads, requested, List.length_set]
  omega

/-- The same when the job stays as it is. -/
theorem work_setThread (there : state.threads[id]? = some thread) (moved : Thread) :
    (state.setThread id moved).work + thread.work = state.work + moved.work := by
  have onThreads := sum_map_set Thread.work there moved
  simp only [State.work, State.setThread, List.length_set]
  omega

theorem enqueue_work (state : State) (id : TaskId) :
    (state.enqueue id).work ≤ state.work + 1 := by
  have shorter : (state.ready.erase id).length ≤ state.ready.length := List.length_erase_le
  simp only [State.work, State.enqueue, List.length_append, List.length_singleton]
  omega

theorem resume_work (taken : state.resume = some next) : next.work + 1 ≤ state.work := by
  obtain ⟨id, rest, _, ready, _, rfl⟩ := State.resume_eq_some taken
  simp only [State.work, ready, List.length_cons]
  omega

theorem Thread.perform_work (thread : Thread) (event : Event Effect Response) :
    (thread.perform event).work ≤ thread.work + 5 := by
  have events := thread.observe_events event.effect event.answer
  obtain ⟨closed, freed⟩ := thread.observe_life event.effect event.answer
  have after : (thread.perform event).work = 3 + (thread.observe event.effect event.answer).events +
      (!thread.closed).toNat + (!thread.freed).toNat := by
    rw [← closed, ← freed]
    rfl
  unfold Thread.work at after ⊢
  omega

theorem Job.perform_work {job : Job} (event : Event Effect Response) (rest : Prog Unit)
    (left : job.history.length < maxCalls) : (job.perform event rest).work + 6 ≤ job.work := by
  have cleanups := job.registers_length event.effect
  have after : (job.perform event rest).work =
      7 * (maxCalls - (job.history.length + 1)) + (job.registers event.effect).length := rfl
  unfold Job.work at after ⊢
  omega

theorem perform_work {event : Event Effect Response}
    (short : ∀ id task, state.task id = some task → task.1.Short)
    (taken : state.perform host event = some next) : next.work + 1 ≤ state.work := by
  obtain ⟨id, thread, roster, _, there, _, _, performed, rfl⟩ := State.perform_eq_some taken
  obtain ⟨job, rest, here, advanced, _, rfl⟩ := Roster.perform_eq_some.mp performed
  have present := State.task_eq_some.mpr ⟨here, there⟩
  have left : job.history.length < maxCalls := ((short id _ present).perform advanced).1
  have onJob := Job.perform_work event rest left
  have onThread := thread.perform_work event
  refine work_drops (job.perform event rest) present ?_ rfl rfl ?_
  · exact congrArg (List.set · id _) (Roster.observe_jobs _ _ _)
  · dsimp only [State.setThread]
    omega

theorem Thread.block_events (thread : Thread) (effect : Effect) :
    (thread.block effect).events = thread.events := by
  unfold Thread.block
  split
  · simp [Thread.events, Option.any_map]
  · rfl

theorem block_work (taken : state.block = some next) : next.work + 1 ≤ state.work := by
  obtain ⟨id, thread, job, effect, _, there, here, _, running, _, rfl⟩ := State.block_eq_some taken
  refine work_drops job (State.task_eq_some.mpr ⟨here, there⟩) (State.jobs_set_same here) rfl rfl ?_
  obtain ⟨closed, freed⟩ := thread.block_life effect
  simp only [Thread.work, thread.block_wait, thread.block_events, closed, freed, running, Wait.work,
    State.setThread]
  omega

theorem Thread.clean_events (thread : Thread) (cleanup : Cleanup) :
    (thread.clean cleanup).events ≤ thread.events := by
  cases cleanup <;> simp [Thread.clean, Thread.events]

theorem cleanup_work {deleted : Bool} (taken : state.cleanup host deleted = some next) :
    next.work + 1 ≤ state.work := by
  obtain ⟨id, thread, job, first, rest, _, there, here, _, pending, _, rfl⟩ :=
    State.cleanup_eq_some taken
  obtain ⟨closed, freed, wait⟩ := thread.clean_life first
  have events := thread.clean_events first
  refine work_drops (job.clean first rest) (State.task_eq_some.mpr ⟨here, there⟩) ?_ rfl rfl ?_
  · exact congrArg (List.set · id _) (Roster.clean_jobs _ _ _)
  · simp only [Job.work, Job.clean, pending, List.length_cons, Thread.work, closed, freed, wait,
      State.setThread]
    omega

theorem finish_work {queues : Queues} (turns : Turns state queues)
    (taken : state.finish = some next) :
    next.work + 1 ≤ state.work := by
  obtain ⟨id, thread, job, current, there, here, _, _, rfl⟩ := State.finish_eq_some taken
  obtain ⟨unfinished, _, _⟩ := turns.current current there
  refine work_drops job (State.task_eq_some.mpr ⟨here, there⟩) (State.jobs_set_same here) rfl rfl ?_
  simp only [Thread.work, Thread.events, unfinished, Bool.not_true, Bool.not_false, Bool.toNat_true,
    Bool.toNat_false, State.setThread]
  omega

theorem accept_work {pid : Pid} (taken : state.accept host pid = some next) :
    next.work + 1 ≤ state.work + (7 * maxCalls + 8) := by
  obtain ⟨jobs, threads, ready, _⟩ := accept_appends taken
  have requested : next.exitRequested = state.exitRequested := by
    obtain ⟨roster, _, rfl⟩ := Option.map_eq_some_iff.mp taken
    rfl
  have exits : exitWork state.exitRequested (state.threads.length + 1) ≤
      exitWork state.exitRequested state.threads.length + 1 := by
    unfold exitWork
    split <;> omega
  have job : (Daemon.newJob host pid).work = 7 * maxCalls := rfl
  have thread : newThread.work = 5 := rfl
  simp only [State.work, jobs, threads, ready, requested, List.map_append, List.sum_append,
    List.map_cons, List.map_nil, List.sum_cons, List.sum_nil, List.length_append,
    List.length_singleton, job, thread]
  omega

/-- An interrupt makes a task ready at most once more. -/
theorem interruptTask_work (state : State) (id : TaskId) (reason : InterruptReason) :
    (state.interruptTask id reason).work ≤ state.work + 1 := by
  unfold State.interruptTask
  split
  · omega
  · rename_i thread there
    split
    · omega
    · have less : (thread.interrupt reason).work ≤ thread.work := by
        simp only [Thread.work, Thread.interrupt, Thread.events]
        cases thread.wait <;> simp [Wait.work]
      have moved := work_setThread there (thread.interrupt reason)
      have queued := enqueue_work (state.setThread id (thread.interrupt reason)) id
      omega

theorem interruptSource_work (state : State) (id : TaskId) (reason : Option InterruptReason) :
    (state.interruptSource id reason).work ≤ state.work + 1 := by
  cases reason with
  | none => exact Nat.le_succ _
  | some reason => exact interruptTask_work state id reason

/-- To wake a task pays for its next turn. -/
theorem wakeTask_work (there : state.threads[id]? = some thread) (moved : Thread) :
    (state.wakeTask id moved).work + thread.work + (decide (moved.wait = .blocked)).toNat ≤
      state.work + moved.work := by
  unfold State.wakeTask
  split
  · rename_i blocked
    have woken : moved.wake.work + 2 = moved.work := by
      simp [Thread.wake, Thread.work, Thread.events, blocked, Wait.work]
      omega
    have set := work_setThread there moved.wake
    have queued := enqueue_work (state.setThread id moved.wake) id
    simp only [blocked, decide_true, Bool.toNat_true]
    omega
  · rename_i awake
    have set := work_setThread there moved
    simp only [awake, decide_false, Bool.toNat_false]
    omega

theorem reply_work (taken : state.dispatch id (.reply id) = some next) :
    next.work + 1 ≤ state.work := by
  obtain ⟨thread, there, taken⟩ := Option.bind_eq_some_iff.mp taken
  obtain ⟨⟨blocked, _⟩, ⟨⟩⟩ := Option.ite_none_right_eq_some.mp taken
  have woken := wakeTask_work there thread
  simp only [blocked, decide_true, Bool.toNat_true] at woken
  omega

/-- A source that goes off pays for the turn that it causes. -/
theorem hung_work {source : StreamSource} (there : state.threads[id]? = some thread)
    (opened : thread.stream = some source) (armed : source.armed = true) :
    (state.hung id thread source).work + 2 ≤ state.work := by
  have off : { thread with stream := some { source with armed := false } : Thread }.work + 2 =
      thread.work := by
    simp only [Thread.work, Thread.events, opened, Option.any_some, armed, Bool.toNat_true,
      Bool.toNat_false]
    omega
  unfold State.hung
  dsimp only
  split
  · have woken := wakeTask_work there { thread with stream := some { source with armed := false } }
    omega
  · have set := work_setThread there { thread with stream := some { source with armed := false } }
    omega

theorem hangUp_work (taken : state.dispatch id (.hangUp id) = some next) :
    next.work + 1 ≤ state.work := by
  obtain ⟨thread, there, taken⟩ := Option.bind_eq_some_iff.mp taken
  obtain ⟨source, opened, taken⟩ := Option.bind_eq_some_iff.mp taken
  obtain ⟨armed, ⟨⟩⟩ := Option.ite_none_right_eq_some.mp taken
  have hung := hung_work there opened armed
  have interrupted := interruptSource_work (state.hung id thread source) id source.reason
  rw [State.hangUp_eq_hung]
  omega

theorem processExit_work (taken : state.dispatch id (.processExit id) = some next) :
    next.work + 1 ≤ state.work := by
  obtain ⟨thread, there, taken⟩ := Option.bind_eq_some_iff.mp taken
  obtain ⟨event, opened, taken⟩ := Option.bind_eq_some_iff.mp taken
  obtain ⟨armed, ⟨⟩⟩ := Option.ite_none_right_eq_some.mp taken
  have off (ended : PidfdEvent) (once : ended.armed = false) :
      { thread with pidfd := some ended : Thread }.work + 2 = thread.work := by
    simp only [Thread.work, Thread.events, opened, Option.any_some, armed, once, Bool.toNat_true,
      Bool.toNat_false]
    omega
  unfold State.processExit
  split
  · have paid := off { event with armed := false, terminated := true, waitForExit := false } rfl
    have woken := wakeTask_work there { thread with
      pidfd := some { event with armed := false, terminated := true, waitForExit := false } }
    omega
  · have paid := off { event with armed := false, terminated := true } rfl
    have set := work_setThread there { thread with
      pidfd := some { event with armed := false, terminated := true } }
    have interrupted := interruptSource_work (state.setThread id { thread with
      pidfd := some { event with armed := false, terminated := true } }) id event.reason
    omega

theorem endHandler_work (taken : state.dispatch id (.endHandler id) = some next) :
    next.work + 1 ≤ state.work := by
  obtain ⟨thread, there, taken⟩ := Option.bind_eq_some_iff.mp taken
  obtain ⟨⟨_, unfreed⟩, ⟨⟩⟩ := Option.ite_none_right_eq_some.mp taken
  have set := work_setThread there { thread with freed := true }
  have less : { thread with freed := true : Thread }.work + 1 = thread.work := by
    simp only [Thread.work, Thread.events, unfreed, Bool.not_true, Bool.not_false, Bool.toNat_true,
      Bool.toNat_false]
  omega

theorem interrupts_work (ids : List TaskId) (state : State) :
    (ids.foldl State.interruptLive state).work ≤ state.work + ids.length := by
  induction ids generalizing state with
  | nil => exact Nat.le_refl _
  | cons id rest ih =>
      have later := ih (state.interruptLive id)
      have first : (state.interruptLive id).work ≤ state.work + 1 := by
        unfold State.interruptLive
        split
        · exact interruptTask_work state id _
        · omega
      rw [List.foldl_cons, List.length_cons]
      omega

theorem exitReqHandler_work (state : State) : state.exitReqHandler.work ≤ state.work := by
  unfold State.exitReqHandler
  split
  · exact Nat.le_refl _
  · rename_i first
    have walked := interrupts_work (List.range state.threads.length)
      { state with exitRequested := true }
    have requested : { state with exitRequested := true }.work + state.threads.length =
        state.work := by
      simp [State.work, exitWork, first]
    rw [List.length_range] at walked
    unfold State.interruptAllTasks
    dsimp only
    omega

/-- Every step is paid for. -/
theorem step_work {label : Label} {queues : Queues}
    (short : ∀ id task, state.task id = some task → task.1.Short) (turns : Turns state queues)
    (taken : step host state label = some next) : next.work + 1 ≤ state.work + label.brings := by
  obtain ⟨_, taken⟩ := Option.ite_none_left_eq_some.mp taken
  cases label with
  | resume => exact resume_work taken
  | perform event => exact perform_work short taken
  | block => exact block_work taken
  | cleanup deleted => exact cleanup_work taken
  | finish => exact finish_work turns taken
  | accept pid =>
      obtain ⟨_, taken⟩ := Option.ite_none_right_eq_some.mp taken
      exact accept_work taken
  | exitSignal =>
      obtain ⟨_, ⟨⟩⟩ := Option.ite_none_right_eq_some.mp taken
      exact Nat.succ_le_succ (exitReqHandler_work state)
  | reply id =>
      obtain ⟨_, taken⟩ := Option.ite_none_right_eq_some.mp taken
      exact reply_work taken
  | hangUp id =>
      obtain ⟨_, taken⟩ := Option.ite_none_right_eq_some.mp taken
      exact hangUp_work taken
  | processExit id =>
      obtain ⟨_, taken⟩ := Option.ite_none_right_eq_some.mp taken
      exact processExit_work taken
  | endHandler id =>
      obtain ⟨_, taken⟩ := Option.ite_none_right_eq_some.mp taken
      exact endHandler_work taken

theorem short_acts (before after : Task) (short : before.1.Short) (acts : Acts before after) :
    after.1.Short := by
  cases acts with
  | perform _ advanced => exact (short.perform advanced).2
  | _ => exact short

end Steps

/-- What holds of every state that the daemon reaches. -/
structure Laboring (state : State) : Prop where
  short : ∀ id task, state.task id = some task → task.1.Short
  simulated : ∃ rings queues, Simulated state rings queues

theorem Laboring.step {host : Host} {state next : State} {label : Label}
    (laboring : Laboring state) (taken : Daemon.step host state label = some next) :
    Laboring next := by
  obtain ⟨rings, queues, simulated⟩ := laboring.simulated
  obtain ⟨_, rings, queues, _, still⟩ := simulated.step taken
  exact ⟨State.tasks_step (fun task => task.1.Short) (newJob_short host) short_acts
    simulated.orderly.aligned laboring.short taken, rings, queues, still⟩

theorem start_laboring : Laboring start where
  short := by
    intro id task present
    obtain ⟨job, thread⟩ := task
    obtain ⟨here, _⟩ := State.task_eq_some.mp present
    simp [start, Roster.empty] at here
  simulated := ⟨_, _, start_simulated⟩

def Label.arrives : Label → Bool
  | .accept _ => true
  | _ => false

def Label.signals : Label → Bool
  | .exitSignal => true
  | _ => false

/-- The daemon's work is paid for by its connections: whatever happens in whatever order, a
run takes at most 624 steps for each connection that it accepts, and one for each exit
signal. To drain a stream is one step, and dispatches that end no wait are none. -/
theorem work_bounded_by_arrivals {host : Host} {labels : List Label} {state : State}
    (ran : Run.exec (step host) start labels = some state) :
    labels.length ≤ 624 * labels.countP Label.arrives + labels.countP Label.signals := by
  have bound := Run.exec_potential Laboring State.work Label.brings
    (fun _ _ _ laboring taken => laboring.step taken)
    (fun state label next laboring taken => by
      obtain ⟨rings, queues, simulated⟩ := laboring.simulated
      exact step_work laboring.short simulated.turns taken) start_laboring ran
  have brought : (labels.map Label.brings).sum =
      624 * labels.countP Label.arrives + labels.countP Label.signals := by
    clear ran bound
    induction labels with
    | nil => rfl
    | cons label rest ih =>
        rw [List.map_cons, List.sum_cons, ih, List.countP_cons, List.countP_cons]
        cases label <;> simp [Label.brings, Label.arrives, Label.signals, maxCalls] <;> omega
  have idle : start.work = 0 := rfl
  omega

/-- A client from its connection to the end of its task. -/
def servedClient : List Label := [.accept 7, .resume] ++ script 0 limitedClient ++ clientDone

theorem work_bounded_by_arrivals_once : servedClient.length ≤ 624 := by
  have ends : ∃ state ∈ Run.exec (step scopeHost) start servedClient,
      state.threads.map Thread.freed = [true] := by decide +kernel
  obtain ⟨state, ran, _⟩ := ends
  have arrivals : servedClient.countP Label.arrives = 1 := by decide +kernel
  have signals : servedClient.countP Label.signals = 0 := by decide +kernel
  have bound := work_bounded_by_arrivals ran
  rwa [arrivals, signals] at bound

end TrafficLimitd.Daemon
