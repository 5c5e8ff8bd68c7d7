import TrafficLimitd.DaemonConfinement
import TrafficLimitd.DaemonScheduling

set_option autoImplicit false

/- The daemon runs on the scheduler. Its list of ready tasks, its waits and its interrupts
are what the rings of `s_task.c` and `s_event.c` and the list `all_tasks` hold. -/
namespace TrafficLimitd.Daemon

open Coroutine Handler
open Scheduler (EventId Node Runner Queues TaskState Flags Implements)

namespace State

def waitsAt (state : State) (id : TaskId) (at_ : Nat) : Bool :=
  (state.task id).any fun task => blockedAt task at_

/-- The first half of `msg_stream_handler`: the source goes off and a transfer is woken. -/
def hung (state : State) (id : TaskId) (thread : Thread) (source : StreamSource) : State :=
  let thread := { thread with stream := some { source with armed := false } }
  if (state.pending id).any Effect.isStreamIo then state.wakeTask id thread
  else state.setThread id thread

theorem hangUp_eq_hung (state : State) (id : TaskId) (thread : Thread) (source : StreamSource) :
    state.hangUp id thread source =
      (state.hung id thread source).interruptSource id source.reason := rfl

/-- The tasks on `all_tasks`: those that have not been freed. -/
def live (state : State) : List TaskId :=
  (List.range state.threads.length).filter fun id =>
    state.threads[id]?.any fun thread => !thread.freed

end State

/-- The tasks of the daemon are those of the queues, with the same waits. -/
structure Scheduled (state : State) (queues : Queues) (flags : Flags) : Prop where
  aligned : state.threads.length = state.roster.jobs.length
  length : queues.tasks.length = state.threads.length
  tied : ∀ id task entry, state.task id = some task → queues.tasks[id]? = some entry →
    Tied task entry (flags id)
  all : queues.all = state.live
  exitRequested : queues.exitRequested = state.exitRequested
  waiting : ∀ id at_, queues.waiting (waitEvent id at_) = if state.waitsAt id at_ then [id] else []
  joins : ∀ id, queues.waiting (.join id) = []

/-- The main loop looks for events. -/
structure Looping (state : State) (queues : Queues) : Prop where
  free : state.current = none
  main : queues.current = .main
  active : queues.active = state.ready.map .task

/-- Whose turn it is. A task that hands over switches to the next one at once, which the
daemon counts as a step of its own. -/
inductive Turns (state : State) (queues : Queues) : Prop
  | running (id : TaskId) (thread : Thread) (current : state.current = some id)
      (there : state.threads[id]? = some thread) (unfinished : thread.closed = false)
      (runs : queues.current = .task id) (active : queues.active = state.ready.map .task ++ [.main])
  | looping (loops : Looping state queues)
  | switched (id : TaskId) (rest : List TaskId) (free : state.current = none)
      (ready : state.ready = id :: rest) (runs : queues.current = .task id)
      (active : queues.active = rest.map .task ++ [.main])

section Change

variable {state next : State} {queues after : Queues} {flags later : Flags} {id : TaskId}
variable {job newJob : Job} {thread moved : Thread}

theorem task_set (present : state.task id = some (job, thread))
    (jobs : next.roster.jobs = state.roster.jobs.set id newJob)
    (threads : next.threads = state.threads.set id moved) (other : TaskId) :
    next.task other = if other = id then some (newJob, moved) else state.task other := by
  obtain ⟨here, there⟩ := State.task_eq_some.mp present
  unfold State.task
  rw [jobs, threads]
  split
  · rename_i same
    rw [same, List.getElem?_set_self (List.getElem?_eq_some_iff.mp here).1,
      List.getElem?_set_self (List.getElem?_eq_some_iff.mp there).1]
    rfl
  · rename_i different
    rw [List.getElem?_set_ne (Ne.symm different), List.getElem?_set_ne (Ne.symm different)]

theorem live_set (there : state.threads[id]? = some thread)
    (threads : next.threads = state.threads.set id moved) (freed : moved.freed = thread.freed) :
    next.live = state.live := by
  unfold State.live
  rw [threads, List.length_set]
  apply List.filter_congr
  intro other _
  rw [List.getElem?_set]
  split
  · rename_i same
    rw [← same, there, if_pos (List.getElem?_eq_some_iff.mp there).1]
    simp [freed]
  · rfl

theorem live_free (there : state.threads[id]? = some thread)
    (threads : next.threads = state.threads.set id moved) (freed : moved.freed = true) :
    next.live = state.live.erase id := by
  have nodup : state.live.Nodup := List.nodup_range.filter _
  rw [nodup.erase_eq_filter, State.live, State.live, threads, List.length_set, List.filter_filter]
  apply List.filter_congr
  intro other _
  rw [List.getElem?_set]
  split
  · rename_i same
    simp [← same, (List.getElem?_eq_some_iff.mp there).1, freed]
  · rename_i different
    simp [Ne.symm different]

/-- The queues change only in what concerns this task. -/
structure Elsewhere (id : TaskId) (queues after : Queues) (flags later : Flags) : Prop where
  length : after.tasks.length = queues.tasks.length
  tasks : ∀ other, other ≠ id → after.tasks[other]? = queues.tasks[other]?
  exitRequested : after.exitRequested = queues.exitRequested
  waiting : ∀ other at_, other ≠ id →
    after.waiting (waitEvent other at_) = queues.waiting (waitEvent other at_)
  joins : ∀ other, queues.waiting (.join other) = [] → after.waiting (.join other) = []
  flags : ∀ other, other ≠ id → later other = flags other

theorem Elsewhere.refl (id : TaskId) (queues : Queues) (flags : Flags) :
    Elsewhere id queues queues flags flags :=
  ⟨rfl, fun _ _ => rfl, rfl, fun _ _ _ => rfl, fun _ empty => empty, fun _ _ => rfl⟩

theorem Elsewhere.switch {middle : Queues} (elsewhere : Elsewhere id queues middle flags later)
    (switched : middle.switch = some after) : Elsewhere id queues after flags later := by
  obtain ⟨_, _, _, rfl⟩ := Queues.switch_eq_some switched
  exact ⟨elsewhere.length, elsewhere.tasks, elsewhere.exitRequested, elsewhere.waiting,
    elsewhere.joins, elsewhere.flags⟩

theorem elsewhere_modifyTask (change : TaskState → TaskState)
    (same : ∀ other, other ≠ id → later other = flags other) :
    Elsewhere id queues (queues.modifyTask id change) flags later := by
  refine ⟨by simp [Queues.modifyTask], fun other different => ?_, rfl, fun _ _ _ => rfl,
    fun _ empty => empty, same⟩
  simp [Queues.modifyTask, Ne.symm different]

theorem elsewhere_enqueue (at_ : Nat) :
    Elsewhere id queues (queues.enqueue (waitEvent id at_) id) flags
      (Function.update flags id false) := by
  refine ⟨rfl, fun _ _ => rfl, rfl, fun other channel different => ?_, fun other empty => ?_,
    fun other different => Function.update_of_ne different _ _⟩
  · apply Function.update_of_ne
    simp [different]
  · dsimp only [Queues.enqueue]
    rwa [Function.update_of_ne (waitEvent_ne_join id other at_).symm]

theorem elsewhere_wake (at_ : Nat) :
    Elsewhere id queues (queues.wake (waitEvent id at_)) flags flags := by
  refine ⟨rfl, fun _ _ => rfl, rfl, fun other channel different => ?_, fun other empty => ?_,
    fun _ _ => rfl⟩
  · apply Function.update_of_ne
    simp [different]
  · dsimp only [Queues.wake]
    rwa [Function.update_of_ne (waitEvent_ne_join id other at_).symm]

/-- Only the task that changes has to be looked at. -/
theorem Scheduled.change (scheduled : Scheduled state queues flags)
    (present : state.task id = some (job, thread))
    (jobs : next.roster.jobs = state.roster.jobs.set id newJob)
    (threads : next.threads = state.threads.set id moved)
    (requested : next.exitRequested = state.exitRequested) (all : after.all = next.live)
    (elsewhere : Elsewhere id queues after flags later)
    (tied : ∀ entry, after.tasks[id]? = some entry → Tied (newJob, moved) entry (later id))
    (waits : ∀ at_, after.waiting (waitEvent id at_) =
      if blockedAt (newJob, moved) at_ then [id] else []) : Scheduled next after later where
  aligned := by rw [jobs, threads, List.length_set, List.length_set, scheduled.aligned]
  length := by rw [elsewhere.length, threads, List.length_set, scheduled.length]
  tied other task entry here listed := by
    rw [task_set present jobs threads] at here
    split at here
    · rename_i same
      subst same
      cases here
      exact tied entry listed
    · rename_i different
      rw [elsewhere.flags other different]
      rw [elsewhere.tasks other different] at listed
      exact scheduled.tied other task entry here listed
  all := all
  exitRequested := by rw [elsewhere.exitRequested, requested, scheduled.exitRequested]
  waiting other at_ := by
    unfold State.waitsAt
    rw [task_set present jobs threads]
    split
    · rename_i same
      subst same
      exact waits at_
    · rename_i different
      rw [elsewhere.waiting other at_ different]
      exact scheduled.waiting other at_
  joins other := elsewhere.joins other (scheduled.joins other)

/-- The same for a task that stays on `all_tasks`, or off it. -/
theorem Scheduled.set (scheduled : Scheduled state queues flags)
    (present : state.task id = some (job, thread))
    (jobs : next.roster.jobs = state.roster.jobs.set id newJob)
    (threads : next.threads = state.threads.set id moved)
    (requested : next.exitRequested = state.exitRequested) (freed : moved.freed = thread.freed)
    (all : after.all = queues.all) (elsewhere : Elsewhere id queues after flags later)
    (tied : ∀ entry, after.tasks[id]? = some entry → Tied (newJob, moved) entry (later id))
    (waits : ∀ at_, after.waiting (waitEvent id at_) =
      if blockedAt (newJob, moved) at_ then [id] else []) : Scheduled next after later := by
  have same := live_set (State.task_eq_some.mp present).2 threads freed
  exact scheduled.change present jobs threads requested (by rw [all, same, scheduled.all])
    elsewhere tied waits

end Change

section Steps

variable {host : Host} {state next : State} {queues : Queues} {flags : Flags} {id : TaskId}
variable {job : Job} {thread moved : Thread}

theorem Scheduled.task (scheduled : Scheduled state queues flags)
    (there : state.threads[id]? = some thread) : ∃ job, state.task id = some (job, thread) := by
  have inside : id < state.roster.jobs.length :=
    scheduled.aligned ▸ (List.getElem?_eq_some_iff.mp there).1
  exact ⟨_, State.task_eq_some.mpr ⟨List.getElem?_eq_getElem inside, there⟩⟩

theorem Scheduled.entry (scheduled : Scheduled state queues flags)
    (present : state.task id = some (job, thread)) :
    ∃ entry, queues.tasks[id]? = some entry ∧ Tied (job, thread) entry (flags id) := by
  have inside : id < queues.tasks.length := by
    rw [scheduled.length]
    exact (List.getElem?_eq_some_iff.mp (State.task_eq_some.mp present).2).1
  have listed := List.getElem?_eq_getElem inside
  exact ⟨_, listed, scheduled.tied id _ _ present listed⟩

theorem Scheduled.waits (scheduled : Scheduled state queues flags)
    (present : state.task id = some (job, thread)) (at_ : Nat) :
    queues.waiting (waitEvent id at_) = if blockedAt (job, thread) at_ then [id] else [] := by
  rw [scheduled.waiting, State.waitsAt, present, Option.any_some]

/-- A task that does not wait is in no event's queue. -/
theorem Scheduled.awake (scheduled : Scheduled state queues flags)
    (present : state.task id = some (job, thread)) (awake : thread.wait ≠ .blocked) (at_ : Nat) :
    queues.waiting (waitEvent id at_) = [] := by
  rw [scheduled.waits present, blockedAt_of_awake (show (job, thread).2.wait ≠ .blocked from awake)]
  rfl

theorem Scheduled.running (scheduled : Scheduled state queues flags)
    (present : state.task id = some (job, thread)) (unfinished : thread.closed = false)
    (runs : queues.current = .task id) : queues.running = some id := by
  obtain ⟨entry, listed, tied⟩ := scheduled.entry present
  have closed : entry.closed = false := tied.closed.trans unfinished
  simp [Queues.running, runs, listed, closed]

/-- What the queues do when the daemon takes a step: nothing, or one step. -/
def Followed (queues : Queues) (flags : Flags) (next : State) : Prop :=
  Scheduled next queues flags ∧ Turns next queues ∨
    ∃ label after, queues.step label = some after ∧
      Scheduled next after (queues.flagsAfter flags label) ∧ Turns next after

theorem resume_followed (scheduled : Scheduled state queues flags) (turns : Turns state queues)
    (taken : state.resume = some next) : Followed queues flags next := by
  obtain ⟨id, rest, free, ready, alive, rfl⟩ := State.resume_eq_some taken
  have same {after : Queues} (kept : Scheduled state after flags) :
      Scheduled { state with ready := rest, current := some id } after flags :=
    ⟨kept.aligned, kept.length, kept.tied, kept.all, kept.exitRequested, kept.waiting, kept.joins⟩
  obtain ⟨thread, there, unfinished⟩ :
      ∃ thread, state.threads[id]? = some thread ∧ thread.closed = false := by
    cases found : state.threads[id]? with
    | none => simp [found] at alive
    | some thread => exact ⟨thread, rfl, by simpa [found] using alive⟩
  cases turns with
  | running other _ current =>
      rw [free] at current
      cases current
  | switched other others _ listed runs active =>
      obtain ⟨rfl, rfl⟩ := List.cons.inj (ready.symm.trans listed)
      exact Or.inl ⟨same scheduled, .running id thread rfl there unfinished runs active⟩
  | looping loops =>
      have active : queues.active = .task id :: rest.map .task := by
        rw [loops.active, ready]
        rfl
      refine Or.inr ⟨.turn,
        { queues with current := .task id, active := rest.map .task ++ [.main] }, ?_, ?_, ?_⟩
      · simp [Queues.step, loops.main, active, Queues.ready, Queues.switch]
      · exact same ⟨scheduled.aligned, scheduled.length, scheduled.tied, scheduled.all,
          scheduled.exitRequested, scheduled.waiting, scheduled.joins⟩
      · exact .running id thread rfl there unfinished rfl rfl

/-- The running task, its thread and its entry. -/
theorem Turns.current (turns : Turns state queues) (current : state.current = some id)
    (there : state.threads[id]? = some thread) :
    thread.closed = false ∧ queues.current = .task id ∧
      queues.active = state.ready.map .task ++ [.main] := by
  cases turns with
  | running other found runs_ there_ unfinished runs active =>
      obtain rfl : other = id := Option.some.inj (runs_.symm.trans current)
      obtain rfl : found = thread := Option.some.inj (there_.symm.trans there)
      exact ⟨unfinished, runs, active⟩
  | looping loops =>
      rw [loops.free] at current
      cases current
  | switched _ _ free =>
      rw [free] at current
      cases current

theorem observe_interruptDisabled {effect : Effect}
    (other : ∀ disabled, effect ≠ .setInterruptDisabled disabled) (answer : Response effect) :
    (thread.observe effect answer).interruptDisabled = thread.interruptDisabled := by
  unfold Thread.observe
  split
  · split <;> rfl
  · rfl
  · split <;> rfl
  · rfl
  · split <;> rfl
  · rename_i disabled _
    exact absurd rfl (other disabled)
  · rfl

theorem wait_of_accepts {event : Event Effect Response} (accepts : thread.accepts event = true) :
    thread.wait ≠ .blocked := by
  intro blocked
  simp [Thread.accepts, blocked] at accepts

/-- A task that works goes on running, whatever it does to its entry. -/
theorem Scheduled.works {newJob : Job} (scheduled : Scheduled state queues flags)
    (turns : Turns state queues) (next : State) (change : TaskState → TaskState)
    (current : state.current = some id) (present : state.task id = some (job, thread))
    (jobs : next.roster.jobs = state.roster.jobs.set id newJob)
    (threads : next.threads = state.threads.set id moved)
    (requested : next.exitRequested = state.exitRequested) (ready : next.ready = state.ready)
    (runs : next.current = state.current) (closed : moved.closed = thread.closed)
    (freed : moved.freed = thread.freed) (before : thread.wait ≠ .blocked)
    (after : moved.wait ≠ .blocked)
    (own : ∀ entry, queues.tasks[id]? = some entry → Tied (newJob, moved) (change entry) (flags id)) :
    Scheduled next (queues.modifyTask id change) flags ∧
      Turns next (queues.modifyTask id change) := by
  have there := (State.task_eq_some.mp present).2
  obtain ⟨unfinished, runner, active⟩ := turns.current current there
  constructor
  · refine scheduled.set present jobs threads requested freed rfl
      (elsewhere_modifyTask change fun _ _ => rfl) ?_ ?_
    · intro found same
      simp only [Queues.modifyTask, List.getElem?_modify_eq] at same
      obtain ⟨entry, listed, rfl⟩ := Option.map_eq_some_iff.mp same
      exact own entry listed
    · intro at_
      rw [blockedAt_of_awake after]
      exact scheduled.awake present before at_
  · refine .running id moved (runs.trans current) ?_ (closed.trans unfinished) runner ?_
    · rw [threads]
      exact List.getElem?_set_self (List.getElem?_eq_some_iff.mp there).1
    · rw [ready]
      exact active

theorem modifyTask_same (queues : Queues) (id : TaskId) :
    queues.modifyTask id (fun entry => entry) = queues := by
  have same : queues.tasks.modify id (fun entry => entry) = queues.tasks := List.modify_id id _
  rw [Queues.modifyTask, same]

theorem perform_followed {event : Event Effect Response}
    (scheduled : Scheduled state queues flags) (turns : Turns state queues)
    (taken : state.perform host event = some next) : Followed queues flags next := by
  obtain ⟨id, thread, roster, current, there, accepts, _, performed, rfl⟩ :=
    State.perform_eq_some taken
  obtain ⟨job, rest, here, advanced, _, rfl⟩ := Roster.perform_eq_some.mp performed
  have present := State.task_eq_some.mpr ⟨here, there⟩
  obtain ⟨unfinished, runs, active⟩ := turns.current current there
  obtain ⟨entry, listed, tied⟩ := scheduled.entry present
  have running := scheduled.running present unfinished runs
  obtain ⟨closed, freed⟩ := thread.observe_life event.effect event.answer
  have goes (change : TaskState → TaskState)
      (own : Tied (job.perform event rest, thread.perform event) (change entry) (flags id)) :=
    scheduled.works turns
      { state.setThread id (thread.perform event) with
        roster := (state.roster.observe event.effect event.answer).setJob id (job.perform event rest)
        thisUnitName := state.nameAfter event.effect } change current present
      (congrArg (List.set · id _) (Roster.observe_jobs _ _ _)) rfl rfl rfl rfl closed freed
      (wait_of_accepts accepts) nofun fun found same => by
        cases listed.symm.trans same
        exact own
  by_cases sets : ∃ disabled, event.effect = .setInterruptDisabled disabled
  · obtain ⟨disabled, same⟩ := sets
    obtain ⟨effect, answer⟩ := event
    subst same
    refine Or.inr ⟨.setInterruptDisabled disabled, _, ?_,
      goes (fun task => { task with interruptDisabled := disabled }) ?_⟩
    · simp only [Queues.step, running, Option.map_some]
    · exact tied.perform accepts advanced rfl rfl rfl tied.sources
  have disabled : entry.interruptDisabled = (thread.perform event).interruptDisabled :=
    tied.interruptDisabled.trans (observe_interruptDisabled
      (fun disabled same => sets ⟨disabled, same⟩) event.answer).symm
  by_cases known : (thread.perform event).stream.isSome = true ∨
      (thread.perform event).pidfd.isSome = true → entry.sources = true
  · have same := goes (fun entry => entry)
      (tied.perform accepts advanced rfl rfl disabled known)
    rw [modifyTask_same] at same
    exact Or.inl same
  · refine Or.inr ⟨.openSource, _, ?_, goes (fun task => { task with sources := true }) ?_⟩
    · simp only [Queues.step, running, Option.map_some]
    · exact tied.perform accepts advanced rfl rfl disabled fun _ => rfl

/-- The running task hands over to the next ready one, or to the main loop. -/
theorem turns_switch (next : State) (middle : Queues) (free : next.current = none)
    (active : middle.active = next.ready.map .task ++ [.main]) :
    ∃ after, middle.switch = some after ∧ Turns next after := by
  cases ready : next.ready with
  | nil =>
      rw [ready] at active
      refine ⟨{ middle with current := .main, active := [] }, ?_, .looping ⟨free, rfl, ?_⟩⟩
      · simp [Queues.switch, active]
      · simp [ready]
  | cons first rest =>
      rw [ready] at active
      refine ⟨{ middle with current := .task first, active := rest.map .task ++ [.main] }, ?_, ?_⟩
      · simp [Queues.switch, active]
      · exact .switched first rest free ready rfl rfl

theorem block_followed (scheduled : Scheduled state queues flags) (turns : Turns state queues)
    (taken : state.block = some next) : Followed queues flags next := by
  obtain ⟨id, thread, job, effect, current, there, here, pending, waits, may, rfl⟩ :=
    State.block_eq_some taken
  have present := State.task_eq_some.mpr ⟨here, there⟩
  obtain ⟨unfinished, runs, active⟩ := turns.current current there
  obtain ⟨entry, listed, tied⟩ := scheduled.entry present
  have running := scheduled.running present unfinished runs
  obtain ⟨after, switched, turned⟩ := turns_switch
    { state.setThread id (thread.block effect) with current := none }
    (queues.enqueue (waitEvent id (channel effect)) id) rfl active
  refine Or.inr ⟨.wait (waitEvent id (channel effect)), after, ?_, ?_, turned⟩
  · simp only [Queues.step, running, Option.bind_some, switched]
  · simp only [Queues.flagsAfter, runs]
    obtain ⟨tasks, all, waiting⟩ := Scheduler.switch_keeps switched
    refine scheduled.set present (State.jobs_set_same here) rfl rfl (thread.block_life effect).2 all
      ((elsewhere_enqueue (channel effect)).switch switched) ?_ ?_
    · intro found same
      rw [tasks] at same
      cases listed.symm.trans same
      rw [Function.update_self]
      exact tied.block pending waits
    · intro at_
      have off : thread.wait ≠ .blocked := by simp [waits]
      have blocked : blockedAt (job, thread.block effect) at_ = (channel effect == at_) := by
        simp [blockedAt, thread.block_wait, pending]
      rw [waiting, blocked]
      dsimp only [Queues.enqueue]
      by_cases same : channel effect = at_
      · subst same
        rw [Function.update_self, scheduled.awake present off]
        simp
      · rw [Function.update_of_ne (by simp [Ne.symm same]), scheduled.awake present off]
        simp [same]

/-- A task whose program is over does not wait. -/
theorem awake_of_ended (orderly : state.Orderly) (present : state.task id = some (job, thread))
    (ended : job.program.pending = none) : thread.wait ≠ .blocked := by
  intro blocked
  have waits : (job, thread).2.wait ≠ .running := by
    rw [show (job, thread).2.wait = .blocked from blocked]
    nofun
  obtain ⟨effect, pending, _⟩ := (orderly.fits id _ present).waiting waits
  rw [show (job, thread).1.program.pending = none from ended] at pending
  cases pending

theorem cleanup_followed {deleted : Bool} (orderly : state.Orderly)
    (scheduled : Scheduled state queues flags) (turns : Turns state queues)
    (taken : state.cleanup host deleted = some next) : Followed queues flags next := by
  obtain ⟨id, thread, job, first, rest, current, there, here, ended, pending, _, rfl⟩ :=
    State.cleanup_eq_some taken
  have present := State.task_eq_some.mpr ⟨here, there⟩
  obtain ⟨entry, listed, tied⟩ := scheduled.entry present
  obtain ⟨closed, freed, wait⟩ := thread.clean_life first
  have awake : thread.wait ≠ .blocked := awake_of_ended orderly present (by rw [ended]; rfl)
  have worked := scheduled.works turns
    { state.setThread id (thread.clean first) with
      roster := (state.roster.clean deleted first).setJob id (job.clean first rest) }
    (fun entry => entry) current present
    (congrArg (List.set · id _) (Roster.clean_jobs _ _ _)) rfl rfl rfl rfl closed freed awake
    (wait ▸ awake) fun found same => by
      cases listed.symm.trans same
      exact tied.clean ended pending
  rw [modifyTask_same] at worked
  exact Or.inl worked

theorem wake_empty {event : EventId} (empty : queues.waiting event = []) :
    queues.wake event = queues := by
  simp only [Queues.wake, empty, List.map_nil, List.append_nil]
  rw [← empty, Function.update_eq_self]

theorem finish_followed (orderly : state.Orderly) (scheduled : Scheduled state queues flags)
    (turns : Turns state queues) (taken : state.finish = some next) :
    Followed queues flags next := by
  obtain ⟨id, thread, job, current, there, here, ended, done, rfl⟩ := State.finish_eq_some taken
  have present := State.task_eq_some.mpr ⟨here, there⟩
  obtain ⟨unfinished, runs, active⟩ := turns.current current there
  obtain ⟨entry, listed, tied⟩ := scheduled.entry present
  have running := scheduled.running present unfinished runs
  have fits := orderly.fits id _ present
  have awake := awake_of_ended orderly present ended
  obtain ⟨after, switched, turned⟩ := turns_switch
    { state.setThread id { thread with closed := true } with current := none }
    (queues.modifyTask id fun task =>
      { task with deferred := true, sources := false, closed := true }) rfl active
  refine Or.inr ⟨.finish, after, ?_, ?_, turned⟩
  · rw [Queues.step, running, Option.bind_some, wake_empty]
    · exact switched
    · exact scheduled.joins id
  · simp only [Queues.flagsAfter, runs]
    obtain ⟨tasks, all, waiting⟩ := Scheduler.switch_keeps switched
    refine scheduled.set present (State.jobs_set_same here) rfl rfl rfl all
      ((elsewhere_modifyTask _ fun other different => Function.update_of_ne different _ _).switch
        switched) ?_ ?_
    · intro found same
      rw [tasks] at same
      simp only [Queues.modifyTask, List.getElem?_modify_eq, listed] at same
      cases same
      rw [Function.update_self]
      exact tied.finish fits ended done unfinished
    · intro at_
      rw [waiting, blockedAt_of_awake awake]
      exact scheduled.awake present awake at_

/-- Nothing is ready and nothing runs, so the main loop looks for events. -/
theorem Turns.loops (turns : Turns state queues) (idle : state.idle = true) :
    Looping state queues ∧ queues.idle = true := by
  obtain ⟨free, empty⟩ := Bool.and_eq_true_iff.mp idle
  have free : state.current = none := by simpa using free
  have empty : state.ready = [] := by simpa using empty
  cases turns with
  | running other _ current =>
      rw [free] at current
      cases current
  | switched other rest _ ready =>
      rw [empty] at ready
      cases ready
  | looping loops =>
      refine ⟨loops, ?_⟩
      simp [Queues.idle, loops.main, loops.active, empty]

theorem accept_followed {pid : Pid} (scheduled : Scheduled state queues flags)
    (turns : Turns state queues) (idle : state.idle = true)
    (taken : state.accept host pid = some next) : Followed queues flags next := by
  obtain ⟨loops, quiescent⟩ := turns.loops idle
  obtain ⟨jobs, threads, ready, current⟩ := accept_appends taken
  have requested : next.exitRequested = state.exitRequested := by
    obtain ⟨roster, _, rfl⟩ := Option.map_eq_some_iff.mp taken
    rfl
  have absent : state.task state.threads.length = none := by
    simp [State.task]
  have tasks (other : Nat) : next.task other =
      if other = state.threads.length then some (newJob host pid, newThread)
      else state.task other := by
    unfold State.task
    rw [jobs, threads, List.getElem?_append, List.getElem?_append, ← scheduled.aligned]
    by_cases inside : other < state.threads.length
    · rw [if_pos inside, if_pos inside, if_neg (by omega)]
    · rw [if_neg inside, if_neg inside]
      by_cases last : other = state.threads.length
      · simp [last]
      · have beyond : other - state.threads.length ≠ 0 := by omega
        simp [last, List.getElem?_eq_none (Nat.le_of_not_lt inside), beyond]
  refine Or.inr ⟨.create, queues.create, ?_, ?_, .looping ⟨?_, loops.main, ?_⟩⟩
  · simp only [Queues.step, quiescent, if_true]
  · refine ⟨?_, ?_, ?_, ?_, ?_, ?_, scheduled.joins⟩
    · rw [jobs, threads, List.length_append, List.length_append, scheduled.aligned]
      rfl
    · simp [Queues.create, threads, scheduled.length]
    · intro other task entry here listed
      rw [tasks] at here
      rcases Scheduler.create_lookup listed with old | ⟨last, rfl⟩
      · have inside := (List.getElem?_eq_some_iff.mp old).1
        rw [scheduled.length] at inside
        rw [if_neg (Nat.ne_of_lt inside)] at here
        exact scheduled.tied other task entry here old
      · rw [if_pos (last.trans scheduled.length)] at here
        cases here
        exact tied_new host pid _
    · have older : ∀ other ∈ List.range state.threads.length,
          ((state.threads ++ [newThread])[other]?.any fun thread => !thread.freed) =
            (state.threads[other]?.any fun thread => !thread.freed) := by
        intro other inside
        rw [List.getElem?_append_left (List.mem_range.mp inside)]
      have created : queues.create.all = state.live ++ [state.threads.length] := by
        simp [Queues.create, scheduled.all, scheduled.length]
      rw [created, State.live, State.live, threads, List.length_append, List.length_singleton,
        List.range_succ, List.filter_append, List.filter_congr older]
      simp [newThread]
    · exact scheduled.exitRequested.trans requested.symm
    · intro other at_
      have before := scheduled.waiting other at_
      unfold State.waitsAt at before ⊢
      rw [tasks]
      split
      · rename_i last
        rw [last, absent] at before
        rw [last]
        exact before
      · exact before
  · exact current.trans loops.free
  · simp [Queues.create, loops.active, ready, scheduled.length]

/-- `s_event_set` of an event for which at most this task waits. -/
theorem Scheduled.wakeTask (scheduled : Scheduled state queues flags) (loops : Looping state queues)
    (moved : Thread) (present : state.task id = some (job, thread)) (wait : moved.wait = thread.wait)
    (freed : moved.freed = thread.freed) {at_ : Nat}
    (apart : ∀ id, .task id ∈ queues.active → ∀ event, id ∉ queues.waiting event)
    (waits : thread.wait = .blocked → ∀ other, blockedAt (job, thread) other = (at_ == other))
    (own : ∀ entry, Tied (job, thread) entry (flags id) → Tied (job, moved.wake) entry (flags id)) :
    Scheduled (state.wakeTask id moved) (queues.wake (waitEvent id at_)) flags ∧
      Looping (state.wakeTask id moved) (queues.wake (waitEvent id at_)) := by
  obtain ⟨here, there⟩ := State.task_eq_some.mp present
  obtain ⟨_, unfreed, awake, _⟩ := moved.wake_life
  obtain ⟨entry, listed, tied⟩ := scheduled.entry present
  have queued : queues.waiting (waitEvent id at_) = if thread.wait = .blocked then [id] else [] := by
    rw [scheduled.waits present]
    by_cases blocked : thread.wait = .blocked
    · simp [waits blocked, blocked]
    · simp [blockedAt_of_awake (show (job, thread).2.wait ≠ .blocked from blocked), blocked]
  have emptied (other : Nat) : (queues.wake (waitEvent id at_)).waiting (waitEvent id other) =
      if blockedAt (job, moved.wake) other then [id] else [] := by
    rw [blockedAt_of_awake awake]
    dsimp only [Queues.wake]
    by_cases same : other = at_
    · rw [same, Function.update_self]
      rfl
    · rw [Function.update_of_ne (by simp [same]), scheduled.waits present]
      by_cases blocked : thread.wait = .blocked
      · simp [waits blocked, Ne.symm same]
      · rw [blockedAt_of_awake blocked]
  have woken : Scheduled (state.setThread id moved.wake) (queues.wake (waitEvent id at_)) flags := by
    refine scheduled.set present (State.jobs_set_same here) rfl rfl (unfreed.trans freed) rfl
      (elsewhere_wake at_) ?_ emptied
    intro found same
    cases listed.symm.trans same
    exact own entry tied
  unfold State.wakeTask
  rw [wait]
  split
  · rename_i blocked
    rw [if_pos blocked] at queued
    refine ⟨⟨woken.aligned, woken.length, woken.tied, woken.all, woken.exitRequested,
      woken.waiting, woken.joins⟩, loops.free, loops.main, ?_⟩
    have rests : id ∉ state.ready := by
      intro ready
      apply apart id _ (waitEvent id at_)
      · rw [queued]
        exact List.mem_singleton.mpr rfl
      · rw [loops.active]
        exact List.mem_map_of_mem ready
    dsimp only [Queues.wake, State.enqueue, State.setThread]
    rw [queued, loops.active, List.erase_of_not_mem rests]
    simp
  · rename_i running
    rw [if_neg running] at queued
    have same : moved.wake = moved := if_neg (by rwa [wait])
    rw [same] at woken
    refine ⟨woken, loops.free, loops.main, ?_⟩
    dsimp only [Queues.wake, State.setThread]
    rw [queued, loops.active]
    simp

theorem Scheduled.interruptTask (scheduled : Scheduled state queues flags)
    (loops : Looping state queues) (id : TaskId) (reason : InterruptReason) :
    Scheduled (state.interruptTask id reason) (queues.interrupt id) (queues.interruptFlag flags id) ∧
      Looping (state.interruptTask id reason) (queues.interrupt id) := by
  unfold State.interruptTask Queues.interrupt Queues.interruptFlag Queues.enabled
  cases there : state.threads[id]? with
  | none =>
      have absent : queues.tasks[id]? = none := by
        rw [List.getElem?_eq_none_iff] at there ⊢
        rwa [scheduled.length]
      rw [absent]
      exact ⟨scheduled, loops⟩
  | some thread =>
      obtain ⟨job, present⟩ := scheduled.task there
      obtain ⟨entry, listed, tied⟩ := scheduled.entry present
      have disabled : entry.interruptDisabled = thread.interruptDisabled := tied.interruptDisabled
      rw [listed]
      dsimp only
      rw [disabled, Option.any_some, disabled]
      cases thread.interruptDisabled with
      | true => exact ⟨scheduled, loops⟩
      | false =>
          have awake : (thread.interrupt reason).wait ≠ .blocked := by
            dsimp only [Thread.interrupt]
            split <;> nofun
          have elsewhere : Elsewhere id queues (queues.cancel id) flags
              (Function.update flags id true) := by
            refine ⟨rfl, fun _ _ => rfl, rfl, fun other at_ different => ?_, fun other empty => ?_,
              fun other different => Function.update_of_ne different _ _⟩
            · change (queues.waiting (waitEvent other at_)).erase id = _
              rw [scheduled.waiting]
              split
              · rw [List.erase_of_not_mem (by simpa using Ne.symm different)]
              · rfl
            · change (queues.waiting (.join other)).erase id = _
              rw [empty]
              rfl
          simp only [Bool.false_eq_true, if_false, Bool.not_false, if_true]
          refine ⟨scheduled.set present (State.jobs_set_same (State.task_eq_some.mp present).1) rfl
            rfl rfl rfl elsewhere ?_ ?_, loops.free, loops.main, ?_⟩
          · intro found same
            cases listed.symm.trans same
            rw [Function.update_self]
            exact tied.interrupt reason
          · intro at_
            rw [blockedAt_of_awake awake]
            change (queues.waiting (waitEvent id at_)).erase id = _
            rw [scheduled.waiting]
            split <;> simp
          · change queues.active.erase (.task id) ++ [.task id] = _
            rw [loops.active, ← List.map_erase (fun _ _ => Runner.task.inj)]
            simp [State.enqueue, State.setThread]

theorem blockedAt_of_pending {effect : Effect} (pending : job.program.pending = some effect)
    (blocked : thread.wait = .blocked) (at_ : Nat) :
    blockedAt (job, thread) at_ = (channel effect == at_) := by
  simp [blockedAt, pending, blocked]

theorem channel_eq_zero {effect : Effect} : channel effect = 0 ↔ effect.isStreamIo = true := by
  cases effect <;> simp [channel, Effect.isStreamIo]

section Events

variable (scheduled : Scheduled state queues flags) (turns : Turns state queues)
  (idle : state.idle = true)
  (apart : ∀ id, .task id ∈ queues.active → ∀ event, id ∉ queues.waiting event)

include scheduled turns idle apart

theorem reply_followed (orderly : state.Orderly) (taken : state.dispatch id (.reply id) = some next) :
    Followed queues flags next := by
  obtain ⟨thread, there, taken⟩ := Option.bind_eq_some_iff.mp taken
  obtain ⟨⟨blocked, elsewhere⟩, ⟨⟩⟩ := Option.ite_none_right_eq_some.mp taken
  obtain ⟨job, present⟩ := scheduled.task there
  obtain ⟨loops, quiescent⟩ := turns.loops idle
  have waits : (job, thread).2.wait ≠ .running := by
    rw [show (job, thread).2.wait = .blocked from blocked]
    nofun
  obtain ⟨effect, pending, _⟩ := (orderly.fits id _ present).waiting waits
  have elsewhere : job.program.pending ≠ some .waitForExit := by
    rwa [State.pending, (State.task_eq_some.mp present).1] at elsewhere
  obtain ⟨woken, looping⟩ := scheduled.wakeTask loops thread present rfl rfl apart
    (fun _ => blockedAt_of_pending pending blocked)
    fun entry tied => tied.wake fun _ _ _ => elsewhere
  refine Or.inr ⟨.set (waitEvent id (channel effect)), _, ?_, woken, .looping looping⟩
  simp only [Queues.step, quiescent, if_true]

theorem hung_scheduled {source : StreamSource} (present : state.task id = some (job, thread))
    (opened : thread.stream = some source) :
    Scheduled (state.hung id thread source) (queues.wake (waitEvent id 0)) flags ∧
      Looping (state.hung id thread source) (queues.wake (waitEvent id 0)) := by
  obtain ⟨here, there⟩ := State.task_eq_some.mp present
  obtain ⟨loops, _⟩ := turns.loops idle
  have pends : state.pending id = job.program.pending := by rw [State.pending, here]; rfl
  unfold State.hung
  dsimp only
  rw [pends]
  split
  · rename_i transfers
    obtain ⟨effect, pending, transfer⟩ : ∃ effect, job.program.pending = some effect ∧
        effect.isStreamIo = true := by
      cases pending : job.program.pending with
      | none => simp [pending] at transfers
      | some effect => exact ⟨effect, rfl, by simpa [pending] using transfers⟩
    refine scheduled.wakeTask loops { thread with stream := some { source with armed := false } }
      present rfl rfl apart ?_ ?_
    · intro blocked at_
      rw [blockedAt_of_pending pending blocked, channel_eq_zero.mpr transfer]
    · intro entry tied
      refine (tied.disarm opened).wake fun _ _ _ exiting => ?_
      cases pending.symm.trans exiting
      cases transfer
  · rename_i other
    have empty : queues.waiting (waitEvent id 0) = [] := by
      by_cases blocked : thread.wait = .blocked
      · rw [scheduled.waits present]
        cases pending : job.program.pending with
        | none => simp [blockedAt, pending]
        | some effect =>
            have apart : channel effect ≠ 0 := fun zero => by
              rw [pending] at other
              exact other (channel_eq_zero.mp zero)
            rw [blockedAt_of_pending pending blocked]
            simp [apart]
      · exact scheduled.awake present blocked 0
    have waits := scheduled.waits present
    rw [wake_empty empty]
    refine ⟨scheduled.set present (State.jobs_set_same here) rfl rfl rfl rfl
      (.refl id queues flags) ?_ waits, loops.free, loops.main, loops.active⟩
    intro entry listed
    exact (scheduled.tied id _ entry present listed).disarm opened

theorem hangUp_followed (taken : state.dispatch id (.hangUp id) = some next) :
    Followed queues flags next := by
  obtain ⟨thread, there, taken⟩ := Option.bind_eq_some_iff.mp taken
  obtain ⟨source, opened, taken⟩ := Option.bind_eq_some_iff.mp taken
  obtain ⟨_, ⟨⟩⟩ := Option.ite_none_right_eq_some.mp taken
  obtain ⟨job, present⟩ := scheduled.task there
  obtain ⟨_, quiescent⟩ := turns.loops idle
  obtain ⟨hung, looping⟩ := hung_scheduled scheduled turns idle apart present opened
  rw [State.hangUp_eq_hung]
  cases source.reason with
  | none =>
      refine Or.inr ⟨.set (waitEvent id 0), _, ?_, hung, .looping looping⟩
      simp only [Queues.step, quiescent, if_true]
  | some reason =>
      obtain ⟨entry, listed, tied⟩ := scheduled.entry present
      have sources : entry.sources = true := tied.sources (Or.inl (by rw [opened]; rfl))
      obtain ⟨interrupted, again⟩ := hung.interruptTask looping id reason
      refine Or.inr ⟨.hangUp (waitEvent id 0) id, _, ?_, interrupted, .looping again⟩
      simp [Queues.step, quiescent, Queues.watched, listed, sources]

theorem processExit_followed (taken : state.dispatch id (.processExit id) = some next) :
    Followed queues flags next := by
  obtain ⟨thread, there, taken⟩ := Option.bind_eq_some_iff.mp taken
  obtain ⟨event, opened, taken⟩ := Option.bind_eq_some_iff.mp taken
  obtain ⟨armed, ⟨⟩⟩ := Option.ite_none_right_eq_some.mp taken
  obtain ⟨job, present⟩ := scheduled.task there
  obtain ⟨here, _⟩ := State.task_eq_some.mp present
  obtain ⟨loops, quiescent⟩ := turns.loops idle
  obtain ⟨entry, listed, tied⟩ := scheduled.entry present
  have waits := scheduled.waits present
  unfold State.processExit
  split
  · rename_i awaited
    have exiting := (tied.awaited event opened armed awaited).1
    obtain ⟨woken, looping⟩ := scheduled.wakeTask loops
      { thread with
        pidfd := some { event with armed := false, terminated := true, waitForExit := false } }
      present rfl rfl apart (fun blocked => blockedAt_of_pending exiting blocked) fun entry tied =>
        (tied.exit opened rfl).wake fun other same on => by
          cases same
          cases on
    refine Or.inr ⟨.set (waitEvent id (channel .waitForExit)), _, ?_, woken, .looping looping⟩
    simp only [Queues.step, quiescent, if_true]
  · have set : Scheduled (state.setThread id { thread with
        pidfd := some { event with armed := false, terminated := true } }) queues flags := by
      refine scheduled.set present (State.jobs_set_same here) rfl rfl rfl rfl
        (.refl id queues flags) ?_ waits
      intro entry listed
      exact (scheduled.tied id _ entry present listed).exit opened rfl
    have looping : Looping (state.setThread id { thread with
        pidfd := some { event with armed := false, terminated := true } }) queues :=
      ⟨loops.free, loops.main, loops.active⟩
    generalize state.setThread id _ = exited at set looping ⊢
    cases event.reason with
    | none => exact Or.inl ⟨set, .looping looping⟩
    | some reason =>
        have sources : entry.sources = true := tied.sources (Or.inr (by rw [opened]; rfl))
        obtain ⟨interrupted, again⟩ := set.interruptTask looping id reason
        refine Or.inr ⟨.interrupt id, _, ?_, interrupted, .looping again⟩
        simp [Queues.step, quiescent, Queues.watched, listed, sources]

end Events

theorem endHandler_followed (scheduled : Scheduled state queues flags) (turns : Turns state queues)
    (idle : state.idle = true) (taken : state.dispatch id (.endHandler id) = some next) :
    Followed queues flags next := by
  obtain ⟨thread, there, taken⟩ := Option.bind_eq_some_iff.mp taken
  obtain ⟨⟨closed, unfreed⟩, ⟨⟩⟩ := Option.ite_none_right_eq_some.mp taken
  obtain ⟨job, present⟩ := scheduled.task there
  obtain ⟨here, _⟩ := State.task_eq_some.mp present
  obtain ⟨loops, quiescent⟩ := turns.loops idle
  obtain ⟨entry, listed, tied⟩ := scheduled.entry present
  have deferred : entry.deferred = true := by
    rw [tied.deferred, closed, unfreed]
    rfl
  have waits := scheduled.waits present
  have changed : Elsewhere id queues (queues.modifyTask id fun task =>
      { task with deferred := false, freed := task.freed + 1 }) flags flags :=
    elsewhere_modifyTask _ fun _ _ => rfl
  refine Or.inr ⟨.endHandler id, { queues with all := queues.all.erase id }.modifyTask id fun task =>
    { task with deferred := false, freed := task.freed + 1 }, ?_, ?_,
    .looping ⟨loops.free, loops.main, loops.active⟩⟩
  · simp only [Queues.step, quiescent, listed, Option.any_some, deferred, and_self, if_true]
  · refine scheduled.change present (State.jobs_set_same here) rfl rfl ?_
      ⟨changed.length, changed.tasks, changed.exitRequested, changed.waiting, changed.joins,
        changed.flags⟩ ?_ waits
    · rw [live_free there rfl rfl, ← scheduled.all]
      rfl
    · intro found same
      simp only [Queues.modifyTask, List.getElem?_modify_eq, listed] at same
      cases same
      exact tied.free closed

theorem alive_interruptTask (state : State) (id other : TaskId) (reason : InterruptReason) :
    ((state.interruptTask id reason).threads[other]?.any fun thread => !thread.freed) =
      (state.threads[other]?.any fun thread => !thread.freed) := by
  unfold State.interruptTask
  split
  · rfl
  · rename_i thread there
    split
    · rfl
    · dsimp only [State.enqueue, State.setThread]
      rw [List.getElem?_set]
      split
      · rename_i same
        rw [← same, there, if_pos (List.getElem?_eq_some_iff.mp there).1]
        rfl
      · rfl

/-- The exit signal reaches the tasks in the order in which they were created. -/
theorem Scheduled.interrupts (ids : List TaskId) (alive : TaskId → Bool)
    (scheduled : Scheduled state queues flags) (loops : Looping state queues)
    (same : ∀ id, (state.threads[id]?.any fun thread => !thread.freed) = alive id) :
    Scheduled (ids.foldl State.interruptLive state) ((ids.filter alive).foldl Queues.interrupt queues)
        ((ids.filter alive).foldl queues.interruptFlag flags) ∧
      Looping (ids.foldl State.interruptLive state)
        ((ids.filter alive).foldl Queues.interrupt queues) := by
  induction ids generalizing state queues flags with
  | nil => exact ⟨scheduled, loops⟩
  | cons id rest ih =>
      rw [List.foldl_cons, List.filter_cons, State.interruptLive, same]
      split
      · obtain ⟨interrupted, looping⟩ := scheduled.interruptTask loops id .sysWillExit
        have later := ih interrupted looping fun other =>
          (alive_interruptTask state id other .sysWillExit).trans (same other)
        rwa [Scheduler.interruptFlag_interrupt] at later
      · exact ih scheduled loops same

theorem exitSignal_followed (scheduled : Scheduled state queues flags) (turns : Turns state queues)
    (idle : state.idle = true) : Followed queues flags state.exitReqHandler := by
  obtain ⟨loops, quiescent⟩ := turns.loops idle
  refine Or.inr ⟨.exitSignal, _, by simp only [Queues.step, quiescent, if_true]; rfl, ?_⟩
  unfold State.exitReqHandler
  simp only [Queues.flagsAfter, scheduled.exitRequested]
  split
  · exact ⟨scheduled, .looping loops⟩
  · have requested : Scheduled { state with exitRequested := true }
        { queues with exitRequested := true } flags :=
      ⟨scheduled.aligned, scheduled.length, scheduled.tied, scheduled.all, rfl, scheduled.waiting,
        scheduled.joins⟩
    obtain ⟨interrupted, looping⟩ := requested.interrupts (List.range state.threads.length)
      (fun id => state.threads[id]?.any fun thread => !thread.freed)
      ⟨loops.free, loops.main, loops.active⟩ fun _ => rfl
    rw [show List.filter _ _ = queues.all from scheduled.all.symm] at interrupted looping
    exact ⟨interrupted, .looping looping⟩

/-- A step of the daemon is at most one step of the scheduler. -/
theorem step_followed {label : Label} (orderly : state.Orderly)
    (scheduled : Scheduled state queues flags) (turns : Turns state queues)
    (apart : ∀ id, .task id ∈ queues.active → ∀ event, id ∉ queues.waiting event)
    (taken : step host state label = some next) : Followed queues flags next := by
  obtain ⟨_, taken⟩ := Option.ite_none_left_eq_some.mp taken
  cases label with
  | resume => exact resume_followed scheduled turns taken
  | perform event => exact perform_followed scheduled turns taken
  | block => exact block_followed scheduled turns taken
  | cleanup deleted => exact cleanup_followed orderly scheduled turns taken
  | finish => exact finish_followed orderly scheduled turns taken
  | accept pid =>
      obtain ⟨idle, taken⟩ := Option.ite_none_right_eq_some.mp taken
      exact accept_followed scheduled turns idle taken
  | exitSignal =>
      obtain ⟨idle, ⟨⟩⟩ := Option.ite_none_right_eq_some.mp taken
      exact exitSignal_followed scheduled turns idle
  | reply id =>
      obtain ⟨idle, taken⟩ := Option.ite_none_right_eq_some.mp taken
      exact reply_followed scheduled turns idle apart orderly taken
  | hangUp id =>
      obtain ⟨idle, taken⟩ := Option.ite_none_right_eq_some.mp taken
      exact hangUp_followed scheduled turns idle apart taken
  | processExit id =>
      obtain ⟨idle, taken⟩ := Option.ite_none_right_eq_some.mp taken
      exact processExit_followed scheduled turns idle apart taken
  | endHandler id =>
      obtain ⟨idle, taken⟩ := Option.ite_none_right_eq_some.mp taken
      exact endHandler_followed scheduled turns idle taken

end Steps

/-- The rings hold what the daemon's lists say: who runs and who is ready, who waits for
what, which tasks exist, and how each wait ends. -/
structure Carries (state : State) (rings : Scheduler.State) : Prop where
  running : ∀ id, state.current = some id → rings.current = .task id ∧
    rings.links.Reads .activeTasks (state.ready.map .task ++ [.mainTask])
  resting : state.current = none →
    rings.current = .main ∧ rings.links.Reads .activeTasks (state.ready.map .task) ∨
      ∃ id rest, state.ready = id :: rest ∧ rings.current = .task id ∧
        rings.links.Reads .activeTasks (rest.map .task ++ [.mainTask])
  waiting : ∀ id at_, rings.links.Reads (.waitList (waitEvent id at_))
    (if state.waitsAt id at_ then [.task id] else [])
  tasks : rings.links.Reads .allTasks (state.live.map .listNode)
  interrupted : ∀ id thread cancelled, state.threads[id]? = some thread →
    thread.wait = .woken cancelled → (rings.waits id).cancelled = cancelled
  exitRequested : rings.exitRequested = state.exitRequested

/-- What relates a state of the daemon to the rings that carry it. -/
structure Simulated (state : State) (rings : Scheduler.State) (queues : Queues) : Prop where
  orderly : state.Orderly
  implements : Implements rings queues
  valid : queues.Valid
  scheduled : Scheduled state queues rings.flags
  turns : Turns state queues

theorem Simulated.carries {state : State} {rings : Scheduler.State} {queues : Queues}
    (simulated : Simulated state rings queues) : Carries state rings := by
  obtain ⟨_, implements, _, scheduled, turns⟩ := simulated
  have nodes (ids : List TaskId) : (ids.map Runner.task).map Runner.node = ids.map Node.task := by
    simp [Function.comp_def, Runner.node]
  have active := implements.active
  refine ⟨?_, ?_, ?_, ?_, ?_, ?_⟩
  · intro id current
    cases turns with
    | running other _ same _ _ runs ready =>
        cases same.symm.trans current
        rw [ready, List.map_append, nodes] at active
        exact ⟨implements.current.trans runs, active⟩
    | looping loops => cases loops.free.symm.trans current
    | switched _ _ free => cases free.symm.trans current
  · intro free
    cases turns with
    | running _ _ current => cases free.symm.trans current
    | looping loops =>
        rw [loops.active, nodes] at active
        exact Or.inl ⟨implements.current.trans loops.main, active⟩
    | switched id rest _ ready runs waits =>
        rw [waits, List.map_append, nodes] at active
        exact Or.inr ⟨id, rest, ready, implements.current.trans runs, active⟩
  · intro id at_
    have waiting := implements.waiting (waitEvent id at_)
    rw [scheduled.waiting] at waiting
    split at waiting
    · rename_i waits
      rwa [if_pos waits]
    · rename_i rests
      rwa [if_neg rests]
  · rw [← scheduled.all]
    exact implements.all
  · intro id thread cancelled there woken
    obtain ⟨job, present⟩ := scheduled.task there
    obtain ⟨entry, _, tied⟩ := scheduled.entry present
    exact tied.woken cancelled woken
  · rw [implements.exitRequested, scheduled.exitRequested]

theorem start_simulated : Simulated start Scheduler.start .start where
  orderly := start_orderly
  implements := Scheduler.start_implements
  valid := by refine ⟨⟨?_, ?_, ?_⟩, ?_, ?_, ?_⟩ <;> simp [Queues.start]
  scheduled :=
    { aligned := rfl
      length := rfl
      tied := by
        intro id task entry present listed
        simp [Queues.start] at listed
      all := rfl
      exitRequested := rfl
      waiting := fun _ _ => rfl
      joins := fun _ => rfl }
  turns := .looping ⟨rfl, rfl, rfl⟩

theorem Simulated.step {host : Host} {state next : State} {label : Label} {rings : Scheduler.State}
    {queues : Queues} (simulated : Simulated state rings queues)
    (taken : Daemon.step host state label = some next) :
    ∃ labels after queues, Run.exec Scheduler.step rings labels = some after ∧
      Simulated next after queues := by
  have orderly := simulated.orderly.step taken
  have followed := step_followed simulated.orderly simulated.scheduled simulated.turns
    (fun _ queued event => simulated.implements.not_waiting queued event) taken
  rcases followed with ⟨scheduled, turns⟩ | ⟨label, after, stepped, scheduled, turns⟩
  · exact ⟨[], rings, queues, rfl, orderly, simulated.implements, simulated.valid, scheduled, turns⟩
  · obtain ⟨moved, ran, implements, valid, flags⟩ :=
      Scheduler.step_implemented simulated.implements simulated.valid stepped
    rw [← flags] at scheduled
    exact ⟨[label], moved, after, by simp [ran], orderly, implements, valid, scheduled, turns⟩

/-- Every state that the daemon reaches is one that some rings carry. -/
theorem simulated_of_exec {host : Host} {labels : List Label} {state : State}
    (reached : Run.exec (step host) start labels = some state) :
    ∃ moves rings queues, Run.exec Scheduler.step Scheduler.start moves = some rings ∧
      Simulated state rings queues := by
  let related := fun (state : State) (rings : Scheduler.State) => ∃ queues, Simulated state rings queues
  have simulated : ∀ state label next rings, related state rings →
      step host state label = some next →
      ∃ moves after, Run.exec Scheduler.step rings moves = some after ∧ related next after := by
    intro state label next rings ⟨queues, holds⟩ taken
    obtain ⟨moves, after, queues, ran, still⟩ := holds.step taken
    exact ⟨moves, after, ran, queues, still⟩
  obtain ⟨moves, rings, ran, queues, holds⟩ :=
    Run.exec_simulates related simulated ⟨_, start_simulated⟩ reached
  exact ⟨moves, rings, queues, ran, holds⟩

/-- The daemon runs on the coroutine scheduler: whatever its tasks do, whichever events
arrive and in whatever order, some run of `s_task.c` and `s_event.c` from their start leads
to rings that hold the ready tasks in their order, the tasks that wait at each event, the
tasks that exist, and the result of each wait that is over. -/
theorem daemon_runs_on_rings {host : Host} {labels : List Label} {state : State}
    (reached : Run.exec (step host) start labels = some state) :
    ∃ moves rings, Run.exec Scheduler.step Scheduler.start moves = some rings ∧
      Carries state rings := by
  obtain ⟨moves, rings, queues, ran, simulated⟩ := simulated_of_exec reached
  exact ⟨moves, rings, ran, simulated.carries⟩

/-- The client hangs up while its task waits to write: the task runs again, and its wait
was not interrupted. -/
theorem daemon_runs_on_rings_once :
    ∃ moves rings, Run.exec Scheduler.step Scheduler.start moves = some rings ∧
      rings.current = .task 0 ∧ rings.links.Reads .activeTasks [.mainTask] ∧
      (rings.waits 0).cancelled = false := by
  let labels := [.accept 7, .resume] ++ script 0 (limitedClient ++ libraryOk 1) ++
    [.block, .hangUp 0, .resume]
  have ends : ∃ state ∈ Run.exec (step scopeHost) start labels, state.ready = [] ∧
      state.current = some 0 ∧ ∃ thread ∈ state.threads[0]?, thread.wait = .woken false := by
    decide +kernel
  obtain ⟨state, ran, ready, current, thread, there, woken⟩ := ends
  obtain ⟨moves, rings, scheduled, carries⟩ := daemon_runs_on_rings ran
  obtain ⟨runs, active⟩ := carries.running 0 current
  rw [ready] at active
  exact ⟨moves, rings, scheduled, runs, active, carries.interrupted 0 thread false there woken⟩

end TrafficLimitd.Daemon
