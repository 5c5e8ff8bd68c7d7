import Mathlib.Logic.Relation
import TrafficLimitd.DaemonProgram

set_option autoImplicit false

/- What one step of the daemon can do to a task, said once: the scheduler, the
event handlers and the exit signal all act on a task in a few ways. -/
namespace TrafficLimitd.Daemon

open Coroutine Handler

abbrev Task := Job × Thread

/-- What can happen to a task. -/
inductive Acts : Task → Task → Prop
  | perform {job : Job} {thread : Thread} {event : Event Effect Response} {rest : Prog Unit}
      (accepts : thread.accepts event = true) (advanced : job.program.advance event = some rest) :
      Acts (job, thread) (job.perform event rest, thread.perform event)
  | block {job : Job} {thread : Thread} {effect : Effect}
      (pending : job.program.pending = some effect) (running : thread.wait = .running)
      (may : thread.mayBlock effect = true) : Acts (job, thread) (job, thread.block effect)
  | clean {job : Job} {thread : Thread} {cleanup : Cleanup} {rest : List Cleanup}
      (ended : job.program = .pure ()) (next : job.cleanups = cleanup :: rest) :
      Acts (job, thread) (job.clean cleanup rest, thread.clean cleanup)
  | finish {job : Job} {thread : Thread} (ended : job.program.pending = none)
      (done : job.cleanups = []) : Acts (job, thread) (job, { thread with closed := true })
  | wake {job : Job} (thread : Thread) (elsewhere : job.program.pending ≠ some .waitForExit) :
      Acts (job, thread) (job, thread.wake)
  | interrupt (job : Job) {thread : Thread} (enabled : thread.interruptDisabled = false)
      (reason : InterruptReason) : Acts (job, thread) (job, thread.interrupt reason)
  | hangUp (job : Job) (thread : Thread) (source : Option StreamSource) :
      Acts (job, thread) (job, { thread with stream := source })
  | exit (job : Job) {thread : Thread} {event : PidfdEvent} (opened : thread.pidfd = some event)
      (unawaited : event.waitForExit = false) :
      Acts (job, thread)
        (job, { thread with pidfd := some { event with armed := false, terminated := true } })
  | exitAwaited (job : Job) {thread : Thread} {event : PidfdEvent}
      (opened : thread.pidfd = some event) :
      Acts (job, thread)
        (job, { thread with
          pidfd := some { event with
            armed := false
            terminated := true
            waitForExit := false } : Thread }.wake)
  | free (job : Job) {thread : Thread} (closed : thread.closed = true) :
      Acts (job, thread) (job, { thread with freed := true })

theorem Thread.block_wait (thread : Thread) (effect : Effect) :
    (thread.block effect).wait = .blocked := by
  unfold Thread.block
  split <;> rfl

open Relation (ReflTransGen)

namespace State

/-- The task with this number. -/
def task (state : State) (id : TaskId) : Option Task :=
  state.roster.jobs[id]?.bind fun job => state.threads[id]?.map fun thread => (job, thread)

theorem task_eq_some {state : State} {id : TaskId} {job : Job} {thread : Thread} :
    state.task id = some (job, thread) ↔
      state.roster.jobs[id]? = some job ∧ state.threads[id]? = some thread := by
  simp only [task, Option.bind_eq_some_iff, Option.map_eq_some_iff, Prod.mk.injEq,
    exists_eq_right_right]

/-- Every task of the new state is one of the old state to which something has
happened. -/
def Evolves (state next : State) : Prop :=
  ∀ id after, next.task id = some after →
    ∃ before, state.task id = some before ∧ ReflTransGen Acts before after

variable {state next : State} {id : TaskId} {job : Job} {thread : Thread}

theorem Evolves.refl (state : State) : Evolves state state :=
  fun _ after present => ⟨after, present, .refl⟩

theorem Evolves.trans {middle : State} (first : Evolves state middle)
    (second : Evolves middle next) : Evolves state next := by
  intro id after present
  obtain ⟨between, present, later⟩ := second id after present
  obtain ⟨before, present, earlier⟩ := first id between present
  exact ⟨before, present, earlier.trans later⟩

theorem evolves_of_set {newJob : Job} {newThread : Thread}
    (present : state.task id = some (job, thread))
    (jobs : next.roster.jobs = state.roster.jobs.set id newJob)
    (threads : next.threads = state.threads.set id newThread)
    (acts : ReflTransGen Acts (job, thread) (newJob, newThread)) : Evolves state next := by
  obtain ⟨here, there⟩ := task_eq_some.mp present
  rintro other ⟨otherJob, otherThread⟩ found
  obtain ⟨foundJob, foundThread⟩ := task_eq_some.mp found
  by_cases same : other = id
  · rw [same, jobs, List.getElem?_set_self (List.getElem?_eq_some_iff.mp here).1] at foundJob
    rw [same, threads, List.getElem?_set_self (List.getElem?_eq_some_iff.mp there).1] at foundThread
    cases foundJob
    cases foundThread
    exact ⟨(job, thread), same ▸ present, acts⟩
  · rw [jobs, List.getElem?_set_ne (Ne.symm same)] at foundJob
    rw [threads, List.getElem?_set_ne (Ne.symm same)] at foundThread
    exact ⟨_, task_eq_some.mpr ⟨foundJob, foundThread⟩, .refl⟩

/-- Only the scheduling side of one task changes. -/
theorem evolves_setThread (there : state.threads[id]? = some thread) {moved : Thread}
    (acts : ∀ job, state.roster.jobs[id]? = some job →
      ReflTransGen Acts (job, thread) (job, moved)) :
    Evolves state (state.setThread id moved) := by
  rintro other ⟨otherJob, otherThread⟩ found
  obtain ⟨foundJob, foundThread⟩ := task_eq_some.mp found
  have foundThread : (state.threads.set id moved)[other]? = some otherThread := foundThread
  by_cases same : other = id
  · rw [same, List.getElem?_set_self (List.getElem?_eq_some_iff.mp there).1] at foundThread
    cases foundThread
    exact ⟨(otherJob, thread), task_eq_some.mpr ⟨foundJob, same ▸ there⟩,
      acts otherJob (same ▸ foundJob)⟩
  · rw [List.getElem?_set_ne (Ne.symm same)] at foundThread
    exact ⟨_, task_eq_some.mpr ⟨foundJob, foundThread⟩, .refl⟩

/-- What an event handler does, one task at a time. -/
inductive Handles : State → State → Prop
  | touch {state : State} {id : TaskId} {thread moved : Thread}
      (there : state.threads[id]? = some thread)
      (acts : ∀ job, state.roster.jobs[id]? = some job →
        ReflTransGen Acts (job, thread) (job, moved))
      (wait : moved.wait = thread.wait) (closed : moved.closed = thread.closed) :
      Handles state (state.setThread id moved)
  | schedule {state : State} {id : TaskId} {thread moved : Thread}
      (there : state.threads[id]? = some thread)
      (acts : ∀ job, state.roster.jobs[id]? = some job →
        ReflTransGen Acts (job, thread) (job, moved)) :
      Handles state ((state.setThread id moved).enqueue id)
  | request (state : State) : Handles state { state with exitRequested := true }

abbrev Handled : State → State → Prop := ReflTransGen Handles

theorem handled_wakeTask (there : state.threads[id]? = some thread) {moved : Thread}
    (acts : ∀ job, state.roster.jobs[id]? = some job →
      ReflTransGen Acts (job, thread) (job, moved.wake))
    (wait : moved.wait = thread.wait) (closed : moved.closed = thread.closed) :
    Handled state (state.wakeTask id moved) := by
  unfold wakeTask
  split
  · exact .single (.schedule there acts)
  · rename_i awake
    have same : moved.wake = moved := if_neg awake
    exact .single (.touch there (fun job here => same ▸ acts job here) wait closed)

theorem handled_interruptTask (state : State) (id : TaskId) (reason : InterruptReason) :
    Handled state (state.interruptTask id reason) := by
  unfold interruptTask
  split
  · exact .refl
  · rename_i thread there
    split
    · exact .refl
    · rename_i enabled
      refine .single (.schedule there fun job _ => ?_)
      exact .single (.interrupt job (Bool.eq_false_of_not_eq_true enabled) reason)

theorem handled_interruptSource (state : State) (id : TaskId) (reason : Option InterruptReason) :
    Handled state (state.interruptSource id reason) := by
  cases reason with
  | none => exact .refl
  | some reason => exact handled_interruptTask state id reason

theorem handled_exitReqHandler (state : State) : Handled state state.exitReqHandler := by
  unfold exitReqHandler interruptAllTasks
  split
  · exact .refl
  · refine .head (.request state) ?_
    generalize List.range _ = ids
    generalize { state with exitRequested := true } = begin
    induction ids generalizing begin with
    | nil => exact .refl
    | cons id rest ih =>
        rw [List.foldl_cons]
        refine .trans ?_ (ih _)
        unfold interruptLive
        split
        · exact handled_interruptTask begin id _
        · exact .refl

theorem handled_hangUp (there : state.threads[id]? = some thread) (source : StreamSource) :
    Handled state (state.hangUp id thread source) := by
  unfold hangUp
  have disarmed : ∀ job, Acts (job, thread)
      (job, { thread with stream := some { source with armed := false } }) :=
    fun job => .hangUp job thread _
  refine .trans ?_ (handled_interruptSource _ id source.reason)
  split
  · rename_i writes
    refine handled_wakeTask there (fun job here => .tail (.single (disarmed job)) ?_) rfl rfl
    refine .wake _ fun exiting => ?_
    rw [pending, here, Option.bind_some, exiting] at writes
    cases writes
  · exact .single (.touch there (fun job _ => .single (disarmed job)) rfl rfl)

theorem handled_processExit (there : state.threads[id]? = some thread) {event : PidfdEvent}
    (opened : thread.pidfd = some event) :
    Handled state (state.processExit id thread event) := by
  unfold processExit
  split
  · exact handled_wakeTask there (fun job _ => .single (.exitAwaited job opened)) rfl rfl
  · rename_i unawaited
    refine .trans (.single ?_) (handled_interruptSource _ id event.reason)
    refine .touch there (fun job _ => ?_) rfl rfl
    exact .single (.exit job opened (Bool.eq_false_of_not_eq_true unawaited))

theorem handled_dispatch {label : Label} (taken : state.dispatch id label = some next) :
    Handled state next := by
  cases label with
  | reply _ =>
      obtain ⟨thread, there, taken⟩ := Option.bind_eq_some_iff.mp taken
      obtain ⟨⟨_, elsewhere⟩, ⟨⟩⟩ := Option.ite_none_right_eq_some.mp taken
      refine handled_wakeTask there (fun job here => .single (.wake thread fun exiting => ?_)) rfl rfl
      rw [pending, here, Option.bind_some] at elsewhere
      exact elsewhere exiting
  | hangUp _ =>
      obtain ⟨thread, there, taken⟩ := Option.bind_eq_some_iff.mp taken
      obtain ⟨source, _, taken⟩ := Option.bind_eq_some_iff.mp taken
      obtain ⟨_, ⟨⟩⟩ := Option.ite_none_right_eq_some.mp taken
      exact handled_hangUp there source
  | processExit _ =>
      obtain ⟨thread, there, taken⟩ := Option.bind_eq_some_iff.mp taken
      obtain ⟨event, opened, taken⟩ := Option.bind_eq_some_iff.mp taken
      obtain ⟨_, ⟨⟩⟩ := Option.ite_none_right_eq_some.mp taken
      exact handled_processExit there opened
  | endHandler _ =>
      obtain ⟨thread, there, taken⟩ := Option.bind_eq_some_iff.mp taken
      obtain ⟨closed, ⟨⟩⟩ := Option.ite_none_right_eq_some.mp taken
      exact .single (.touch there (fun job _ => .single (.free job closed.1)) rfl rfl)
  | _ => cases taken

theorem Handled.evolves (handled : Handled state next) : Evolves state next := by
  induction handled with
  | refl => exact Evolves.refl state
  | tail _ last ih =>
      refine ih.trans ?_
      cases last with
      | touch there acts => exact evolves_setThread there acts
      | schedule there acts =>
          intro id after present
          exact evolves_setThread there acts id after present
      | request => exact Evolves.refl _

/-- Event handlers leave the work of the tasks alone. -/
structure SameWork (state next : State) : Prop where
  roster : next.roster = state.roster
  threads : next.threads.length = state.threads.length
  current : next.current = state.current

theorem Handled.sameWork (handled : Handled state next) : SameWork state next := by
  induction handled with
  | refl => exact ⟨rfl, rfl, rfl⟩
  | tail _ last ih =>
      cases last with
      | touch there acts => exact ⟨ih.roster, List.length_set.trans ih.threads, ih.current⟩
      | schedule there acts => exact ⟨ih.roster, List.length_set.trans ih.threads, ih.current⟩
      | request => exact ⟨ih.roster, ih.threads, ih.current⟩

theorem running_eq_some (running : state.running = some (id, thread)) :
    state.current = some id ∧ state.threads[id]? = some thread := by
  obtain ⟨other, current, found⟩ := Option.bind_eq_some_iff.mp running
  obtain ⟨found, there, same⟩ := Option.map_eq_some_iff.mp found
  cases same
  exact ⟨current, there⟩

theorem resume_eq_some (taken : state.resume = some next) :
    ∃ id rest, state.current = none ∧ state.ready = id :: rest ∧
      state.threads[id]?.any (fun thread => !thread.closed) = true ∧
      next = { state with ready := rest, current := some id } := by
  unfold resume at taken
  split at taken
  · rename_i id rest free ready
    obtain ⟨alive, ⟨⟩⟩ := Option.ite_none_right_eq_some.mp taken
    exact ⟨id, rest, free, ready, alive, rfl⟩
  · cases taken

theorem perform_eq_some {host : Host} {event : Event Effect Response}
    (taken : state.perform host event = some next) :
    ∃ id thread roster, state.current = some id ∧ state.threads[id]? = some thread ∧
      thread.accepts event = true ∧ state.answers thread event.effect event.answer = true ∧
      state.roster.perform id event = some roster ∧
      next = { state.setThread id (thread.perform event) with
        roster := roster
        thisUnitName := state.nameAfter event.effect } := by
  obtain ⟨⟨id, thread⟩, running, taken⟩ := Option.bind_eq_some_iff.mp taken
  obtain ⟨allowed, taken⟩ := Option.ite_none_right_eq_some.mp taken
  obtain ⟨roster, moved, rfl⟩ := Option.map_eq_some_iff.mp taken
  obtain ⟨current, there⟩ := running_eq_some running
  obtain ⟨accepts, answers⟩ := Bool.and_eq_true_iff.mp allowed
  exact ⟨id, thread, roster, current, there, accepts, answers, moved, rfl⟩

theorem block_eq_some (taken : state.block = some next) :
    ∃ id thread job effect, state.current = some id ∧ state.threads[id]? = some thread ∧
      state.roster.jobs[id]? = some job ∧ job.program.pending = some effect ∧
      thread.wait = .running ∧ thread.mayBlock effect = true ∧
      next = { state.setThread id (thread.block effect) with current := none } := by
  obtain ⟨⟨id, thread⟩, running, taken⟩ := Option.bind_eq_some_iff.mp taken
  obtain ⟨effect, pending, taken⟩ := Option.bind_eq_some_iff.mp taken
  obtain ⟨⟨free, may⟩, ⟨⟩⟩ := Option.ite_none_right_eq_some.mp taken
  obtain ⟨current, there⟩ := running_eq_some running
  obtain ⟨job, here, pending⟩ := Option.bind_eq_some_iff.mp pending
  exact ⟨id, thread, job, effect, current, there, here, pending, free, may, rfl⟩

theorem cleanup_eq_some {host : Host} {deleted : Bool}
    (taken : state.cleanup host deleted = some next) :
    ∃ id thread job first rest, state.current = some id ∧ state.threads[id]? = some thread ∧
      state.roster.jobs[id]? = some job ∧ job.program = .pure () ∧ job.cleanups = first :: rest ∧
      state.roster.cleanup id deleted = some next.roster ∧
      next = { state.setThread id (thread.clean first) with
        roster := (state.roster.clean deleted first).setJob id (job.clean first rest) } := by
  obtain ⟨⟨id, thread⟩, running, taken⟩ := Option.bind_eq_some_iff.mp taken
  obtain ⟨cleanup, head, taken⟩ := Option.bind_eq_some_iff.mp taken
  obtain ⟨roster, moved, rfl⟩ := Option.map_eq_some_iff.mp taken
  obtain ⟨current, there⟩ := running_eq_some running
  obtain ⟨job, first, rest, here, ended, pending, rfl⟩ := Roster.cleanup_eq_some.mp moved
  rw [here, Option.bind_some, pending] at head
  cases head
  exact ⟨id, thread, job, cleanup, rest, current, there, here, ended, pending, moved, rfl⟩

theorem finish_eq_some (taken : state.finish = some next) :
    ∃ id thread job, state.current = some id ∧ state.threads[id]? = some thread ∧
      state.roster.jobs[id]? = some job ∧ job.program.pending = none ∧ job.cleanups = [] ∧
      next = { state.setThread id { thread with closed := true } with current := none } := by
  obtain ⟨⟨id, thread⟩, running, taken⟩ := Option.bind_eq_some_iff.mp taken
  obtain ⟨job, here, taken⟩ := Option.bind_eq_some_iff.mp taken
  obtain ⟨⟨ended, done⟩, ⟨⟩⟩ := Option.ite_none_right_eq_some.mp taken
  obtain ⟨current, there⟩ := running_eq_some running
  exact ⟨id, thread, job, current, there, here, ended, done, rfl⟩

/-- The jobs are as before although one of them is written back. -/
theorem jobs_set_same (here : state.roster.jobs[id]? = some job) :
    state.roster.jobs = state.roster.jobs.set id job := by
  obtain ⟨inside, same⟩ := List.getElem?_eq_some_iff.mp here
  exact same ▸ (List.set_getElem_self inside).symm

/-- The part of a step that is the roster's. -/
def move (state : State) : Label → Move
  | .perform event => (state.current.map fun id => Move.perform id event).getD .stay
  | .cleanup deleted => (state.current.map fun id => Move.cleanup id deleted).getD .stay
  | .accept pid => .create pid
  | _ => .stay

end State

open State in
/-- The daemon refines its roster: a step of the daemon is a move of the roster. -/
theorem step_refines {host : Host} {state next : State} {label : Label}
    (taken : step host state label = some next) :
    state.roster.step host (state.move label) = some next.roster := by
  obtain ⟨_, taken⟩ := Option.ite_none_left_eq_some.mp taken
  cases label with
  | resume =>
      obtain ⟨_, _, _, _, _, rfl⟩ := resume_eq_some taken
      rfl
  | perform event =>
      obtain ⟨id, thread, roster, current, _, _, _, moved, rfl⟩ := perform_eq_some taken
      rw [State.move, current]
      exact moved
  | block =>
      obtain ⟨_, _, _, _, _, _, _, _, _, _, rfl⟩ := block_eq_some taken
      rfl
  | cleanup deleted =>
      obtain ⟨id, _, _, _, _, current, _, _, _, _, moved, _⟩ := cleanup_eq_some taken
      rw [State.move, current]
      exact moved
  | finish =>
      obtain ⟨_, _, _, _, _, _, _, _, rfl⟩ := finish_eq_some taken
      rfl
  | accept pid =>
      obtain ⟨_, taken⟩ := Option.ite_none_right_eq_some.mp taken
      obtain ⟨roster, moved, rfl⟩ := Option.map_eq_some_iff.mp taken
      exact moved
  | exitSignal =>
      obtain ⟨_, ⟨⟩⟩ := Option.ite_none_right_eq_some.mp taken
      exact congrArg some (handled_exitReqHandler state).sameWork.roster.symm
  | _ =>
      obtain ⟨_, taken⟩ := Option.ite_none_right_eq_some.mp taken
      exact congrArg some (handled_dispatch taken).sameWork.roster.symm

/-- What a step of the daemon does: the next ready task gets the processor, the
running task does something, a client arrives, or an event is handled. -/
inductive Advances (host : Host) (state next : State) : Prop
  | resume (id : TaskId) (rest : List TaskId) (free : state.current = none)
      (ready : state.ready = id :: rest)
      (same : next = { state with ready := rest, current := some id })
  | work {id : TaskId} {job newJob : Job} {thread newThread : Thread}
      (current : state.current = some id) (present : state.task id = some (job, thread))
      (acts : Acts (job, thread) (newJob, newThread))
      (jobs : next.roster.jobs = state.roster.jobs.set id newJob)
      (threads : next.threads = state.threads.set id newThread) (ready : next.ready = state.ready)
      (left : next.current = some id ∨ newThread.wait = .blocked ∨ newThread.closed = true)
  | arrive (pid : Pid) (accepted : state.accept host pid = some next)
  | handle (handled : State.Handled state next)

open State in
theorem step_advances {host : Host} {state next : State} {label : Label}
    (taken : step host state label = some next) : Advances host state next := by
  obtain ⟨_, taken⟩ := Option.ite_none_left_eq_some.mp taken
  cases label with
  | resume =>
      obtain ⟨id, rest, free, ready, _, same⟩ := resume_eq_some taken
      exact .resume id rest free ready same
  | perform event =>
      obtain ⟨id, thread, roster, current, there, accepts, _, moved, rfl⟩ := perform_eq_some taken
      obtain ⟨job, rest, here, advanced, _, rfl⟩ := Roster.perform_eq_some.mp moved
      refine .work current (task_eq_some.mpr ⟨here, there⟩) (.perform accepts advanced) ?_ rfl rfl
        (Or.inl current)
      exact congrArg (List.set · id _) (Roster.observe_jobs _ _ _)
  | block =>
      obtain ⟨id, thread, job, effect, current, there, here, pending, free, may, rfl⟩ :=
        block_eq_some taken
      exact .work current (task_eq_some.mpr ⟨here, there⟩) (.block pending free may)
        (jobs_set_same here) rfl rfl (Or.inr (Or.inl (thread.block_wait effect)))
  | cleanup deleted =>
      obtain ⟨id, thread, job, first, rest, current, there, here, ended, pending, _, rfl⟩ :=
        cleanup_eq_some taken
      refine .work current (task_eq_some.mpr ⟨here, there⟩) (.clean ended pending) ?_ rfl rfl
        (Or.inl current)
      exact congrArg (List.set · id _) (Roster.clean_jobs _ _ _)
  | finish =>
      obtain ⟨id, thread, job, current, there, here, ended, done, rfl⟩ := finish_eq_some taken
      exact .work current (task_eq_some.mpr ⟨here, there⟩) (.finish ended done)
        (jobs_set_same here) rfl rfl (Or.inr (Or.inr rfl))
  | accept pid => exact .arrive pid (Option.ite_none_right_eq_some.mp taken).2
  | exitSignal =>
      obtain ⟨_, ⟨⟩⟩ := Option.ite_none_right_eq_some.mp taken
      exact .handle (handled_exitReqHandler state)
  | _ => exact .handle (handled_dispatch (Option.ite_none_right_eq_some.mp taken).2)

/-- In a step other than the arrival of a client the tasks evolve; on an arrival
one is added. -/
theorem Advances.evolves {host : Host} {state next : State} (advances : Advances host state next) :
    State.Evolves state next ∨ ∃ pid, state.accept host pid = some next := by
  cases advances with
  | resume id rest free ready same =>
      subst same
      exact Or.inl (State.Evolves.refl state)
  | work current present acts jobs threads =>
      exact Or.inl (State.evolves_of_set present jobs threads (.single acts))
  | arrive pid accepted => exact Or.inr ⟨pid, accepted⟩
  | handle handled => exact Or.inl handled.evolves

end TrafficLimitd.Daemon
