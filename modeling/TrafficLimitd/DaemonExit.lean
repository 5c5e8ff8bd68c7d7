import TrafficLimitd.DaemonConfinement
import TrafficLimitd.HandlerExit

set_option autoImplicit false

/- The exit of the daemon. `exit_req_handler` interrupts every task once, at the
call where it waits; whether the task then ends without waiting for its process
depends on which call that is. -/
namespace TrafficLimitd.Daemon

open Coroutine Handler

def Job.course (job : Job) : Course := Course.of job.history

/-- The task is in one of the writes that come after its second limit. -/
def Job.launching (job : Job) : Bool := job.program.pending.any job.course.launching

/-- The event source of the process has seen its end. -/
def Thread.orphaned (thread : Thread) : Bool := thread.pidfd.any PidfdEvent.terminated

/-- The task waits for its process to end. -/
def AwaitsExit (task : Task) : Prop :=
  task.2.wait = .blocked ∧ task.1.program.pending = some .waitForExit

instance (task : Task) : Decidable (AwaitsExit task) := inferInstanceAs (Decidable (_ ∧ _))

/-- The rest of the handler heeds interrupts. -/
def Heeds (task : Task) : Prop :=
  Course.rules.Follows task.1.course task.1.program fun _ _ => True

theorem Heeds.acts {before after : Task} (heeds : Heeds before) (acts : Acts before after) :
    Heeds after := by
  cases acts with
  | perform accepts advanced => exact (Discipline.Follows.advance heeds advanced).2
  | _ => exact heeds

/-- The task will end without waiting for its process: it has ended, it was cut
short, it is about to be, or there is nothing to wait for. -/
inductive Dismissed (task : Task) : Prop
  | ended (ended : task.1.program.pending = none)
  | cut (cut : task.1.course.cut = true)
  | woken (woken : task.2.wait = .woken true) (heeded : task.1.launching = false)
  | orphaned (limited : 0 < task.1.course.limits) (orphaned : task.2.orphaned = true)

namespace Thread

variable {thread : Thread}

theorem orphaned_observe (orphaned : thread.orphaned = true) {effect : Effect}
    (opened : ∀ pid, effect ≠ .initPidfdEvent pid) (answer : Response effect) :
    (thread.observe effect answer).orphaned = true := by
  obtain ⟨event, here, terminated⟩ := (Option.any_eq_true _ _).mp orphaned
  unfold Thread.observe
  split
  · split <;> exact orphaned
  · exact orphaned
  · exact absurd rfl (opened _)
  · simpa [Thread.orphaned, here] using terminated
  · split
    · simpa [Thread.orphaned, here] using terminated
    · exact orphaned
  · exact orphaned
  · exact orphaned

theorem orphaned_block (orphaned : thread.orphaned = true) (effect : Effect) :
    (thread.block effect).orphaned = true := by
  obtain ⟨event, here, terminated⟩ := (Option.any_eq_true _ _).mp orphaned
  unfold Thread.block
  split
  · simpa [Thread.orphaned, here] using terminated
  · exact orphaned

theorem wake_wait (woken : thread.wait = .woken true) : thread.wake.wait = .woken true := by
  unfold Thread.wake
  rw [woken]
  exact woken

theorem orphaned_wake (thread : Thread) : thread.wake.orphaned = thread.orphaned := by
  unfold Thread.wake
  split <;> rfl

theorem interrupt_wait (waiting : thread.wait ≠ .running) (reason : InterruptReason) :
    (thread.interrupt reason).wait = .woken true := if_neg waiting

end Thread

/-- A wait that ends cancelled cuts the run short. -/
theorem Job.cut_of_cancelled {job : Job} {event : Event Effect Response} {rest : Prog Unit}
    (advanced : job.program.advance event = some rest) (heeded : job.launching = false)
    (cancelled : outcome event.effect event.answer = some true) :
    (job.perform event rest).course.cut = true := by
  rw [Job.launching, Coro.advance_pending advanced, Option.any_some] at heeded
  have other : ∀ cgroup limit, event.effect ≠ .rateLimitSet cgroup limit := by
    obtain ⟨effect, answer⟩ := event
    rintro cgroup limit rfl
    cases cancelled
  change (job.course.after event.effect event.answer).cut = true
  simp only [Course.after_eq job.course other, cancelled, heeded, decide_true, Bool.not_false,
    Bool.and_true, Bool.or_true]

theorem Dismissed.perform {job : Job} {thread : Thread} {event : Event Effect Response}
    {rest : Prog Unit} (dismissed : Dismissed (job, thread)) (heeds : Heeds (job, thread))
    (accepts : thread.accepts event = true) (advanced : job.program.advance event = some rest) :
    Dismissed (job.perform event rest, thread.perform event) := by
  cases dismissed with
  | ended ended =>
      have pending := Coro.advance_pending advanced
      rw [show job.program.pending = none from ended] at pending
      cases pending
  | cut cut => exact .cut (Course.cut_after cut event.effect event.answer)
  | woken woken heeded =>
      have cancelled : outcome event.effect event.answer = some true := by
        rw [Thread.accepts, show thread.wait = .woken true from woken] at accepts
        exact eq_of_beq accepts
      exact .cut (Job.cut_of_cancelled advanced heeded cancelled)
  | orphaned limited orphaned =>
      have may := (Discipline.Follows.advance heeds advanced).1
      refine .orphaned (limited.trans_le (Course.limits_le_after _ event.effect event.answer)) ?_
      have orphaned : thread.orphaned = true := orphaned
      refine Thread.orphaned_observe orphaned (fun pid same => ?_) event.answer
      rw [same] at may
      exact Nat.lt_irrefl 0 (may ▸ limited)

/-- What the scheduler and the event handlers do to a task. -/
theorem Dismissed.handled {job : Job} {thread moved : Thread} (dismissed : Dismissed (job, thread))
    (woken : thread.wait = .woken true → moved.wait = .woken true)
    (orphaned : thread.orphaned = true → moved.orphaned = true) : Dismissed (job, moved) := by
  cases dismissed with
  | ended ended => exact .ended ended
  | cut cut => exact .cut cut
  | woken now heeded => exact .woken (woken now) heeded
  | orphaned limited now => exact .orphaned limited (orphaned now)

theorem Dismissed.acts {before after : Task} (dismissed : Dismissed before) (heeds : Heeds before)
    (acts : Acts before after) : Dismissed after := by
  cases acts with
  | perform accepts advanced => exact dismissed.perform heeds accepts advanced
  | @block job thread effect pending running may =>
      refine dismissed.handled (fun woken => ?_) fun orphaned => Thread.orphaned_block orphaned effect
      rw [running] at woken
      cases woken
  | @clean job thread cleanup rest ended next =>
      refine .ended ?_
      change job.program.pending = none
      rw [ended]
      rfl
  | finish ended done => exact .ended ended
  | wake thread elsewhere =>
      exact dismissed.handled Thread.wake_wait fun orphaned =>
        (Thread.orphaned_wake thread).trans orphaned
  | @interrupt job thread enabled reason =>
      refine dismissed.handled (fun woken => Thread.interrupt_wait ?_ reason) id
      rw [woken]
      nofun
  | hangUp job thread source => exact dismissed.handled id id
  | exit job opened unawaited => exact dismissed.handled id fun _ => rfl
  | exitAwaited job opened =>
      exact dismissed.handled (fun woken => Thread.wake_wait woken) fun _ => Thread.orphaned_wake _
  | free job closed => exact dismissed.handled id id

theorem Dismissed.not_awaits {task : Task} (dismissed : Dismissed task) (heeds : Heeds task)
    (fits : Fits task) : ¬AwaitsExit task := by
  rintro ⟨blocked, pending⟩
  cases dismissed with
  | ended ended =>
      rw [ended] at pending
      cases pending
  | cut cut =>
      have may := heeds.may_pending pending
      rw [show task.1.course.cut = false from may] at cut
      cases cut
  | woken woken =>
      rw [blocked] at woken
      cases woken
  | orphaned limited orphaned =>
      obtain ⟨event, opened, terminated⟩ := (Option.any_eq_true _ _).mp orphaned
      rw [(fits.exiting blocked pending event opened).2] at terminated
      cases terminated

variable {host : Host} {state next : State} {id : TaskId} {job : Job} {thread : Thread}

namespace State

theorem interruptLive_ne (state : State) {other : TaskId} (different : other ≠ id) :
    (state.interruptLive other).threads[id]? = state.threads[id]? := by
  unfold interruptLive interruptTask
  split
  · split
    · rfl
    · split
      · rfl
      · exact List.getElem?_set_ne different
  · rfl

theorem interruptLive_self (there : state.threads[id]? = some thread)
    (live : thread.freed = false) (enabled : thread.interruptDisabled = false) :
    (state.interruptLive id).threads[id]? = some (thread.interrupt .sysWillExit) := by
  have inside := (List.getElem?_eq_some_iff.mp there).1
  simp only [interruptLive, interruptTask, there, Option.any_some, live, enabled, Bool.not_false,
    ↓reduceIte, Bool.false_eq_true]
  exact List.getElem?_set_self inside

theorem interruptLive_foldl_ne (state : State) {ids : List TaskId} (outside : id ∉ ids) :
    (ids.foldl interruptLive state).threads[id]? = state.threads[id]? := by
  induction ids generalizing state with
  | nil => rfl
  | cons other rest ih =>
      obtain ⟨different, outside⟩ := not_or.mp (outside ∘ List.mem_cons.mpr)
      rw [List.foldl_cons, ih _ outside, interruptLive_ne state (Ne.symm different)]

/-- The interrupt reaches every task once. -/
theorem interruptLive_foldl (there : state.threads[id]? = some thread)
    (live : thread.freed = false) (enabled : thread.interruptDisabled = false) {ids : List TaskId}
    (once : ids.Nodup) (inside : id ∈ ids) :
    (ids.foldl interruptLive state).threads[id]? = some (thread.interrupt .sysWillExit) := by
  induction ids generalizing state with
  | nil => cases inside
  | cons other rest ih =>
      obtain ⟨outside, once⟩ := List.nodup_cons.mp once
      rw [List.foldl_cons]
      by_cases same : other = id
      · subst same
        rw [interruptLive_foldl_ne _ outside, interruptLive_self there live enabled]
      · refine ih ((interruptLive_ne state same).trans there) once ?_
        exact (List.mem_cons.mp inside).resolve_left (Ne.symm same)

theorem exitReqHandler_threads (first : state.exitRequested = false)
    (there : state.threads[id]? = some thread) (live : thread.freed = false)
    (enabled : thread.interruptDisabled = false) :
    state.exitReqHandler.threads[id]? = some (thread.interrupt .sysWillExit) := by
  simp only [exitReqHandler, first, Bool.false_eq_true, ↓reduceIte]
  have inside := (List.getElem?_eq_some_iff.mp there).1
  have started : { state with exitRequested := true }.threads[id]? = some thread := there
  exact interruptLive_foldl started live enabled List.nodup_range (List.mem_range.mpr inside)

/-- The daemon after it has dismissed a task. -/
structure Dismisses (id : TaskId) (state : State) : Prop where
  orderly : state.Orderly
  heeds : ∀ id task, state.task id = some task → Heeds task
  known : id < state.threads.length
  dismissed : ∀ task, state.task id = some task → Dismissed task

theorem heeds_step {label : Label} (aligned : state.threads.length = state.roster.jobs.length)
    (heeds : ∀ id task, state.task id = some task → Heeds task)
    (taken : step host state label = some next) : ∀ id task, next.task id = some task → Heeds task :=
  tasks_step Heeds (fun pid => Course.clientHandlerAsync_follows host pid)
    (fun _ _ heeds acts => heeds.acts acts) aligned heeds taken

theorem Dismisses.step {label : Label} (dismisses : Dismisses id state)
    (taken : Daemon.step host state label = some next) : Dismisses id next where
  orderly := dismisses.orderly.step taken
  heeds := heeds_step dismisses.orderly.aligned dismisses.heeds taken
  known := dismisses.known.trans_le (length_le_step (step_advances taken))
  dismissed := by
    intro task present
    rcases (step_advances taken).evolves with evolves | ⟨pid, arrived⟩
    · obtain ⟨before, old, acts⟩ := evolves id task present
      have begun := dismisses.dismissed before old
      have heeds := dismisses.heeds id before old
      clear present evolves
      suffices both : Dismissed task ∧ Heeds task from both.1
      induction acts with
      | refl => exact ⟨begun, heeds⟩
      | tail _ last ih => exact ⟨ih.1.acts ih.2 last, ih.2.acts last⟩
    · rcases accept_task dismisses.orderly.aligned arrived present with old | ⟨last, _⟩
      · exact dismisses.dismissed task old
      · exact absurd last dismisses.known.ne

/-- At the signal all tasks that are not over wait, and all of them are woken. -/
theorem dismisses_exit (orderly : state.Orderly)
    (heeds : ∀ id task, state.task id = some task → Heeds task)
    (first : state.exitRequested = false) (present : state.task id = some (job, thread))
    (alive : thread.closed = false) (enabled : thread.interruptDisabled = false)
    (outside : job.launching = false ∨ thread.orphaned = true)
    (taken : Daemon.step host state .exitSignal = some next) : Dismisses id next := by
  have orderlyNext := orderly.step taken
  have heedsNext := heeds_step orderly.aligned heeds taken
  have longer := length_le_step (step_advances taken)
  obtain ⟨_, taken⟩ := Option.ite_none_left_eq_some.mp taken
  obtain ⟨idle, ⟨⟩⟩ := Option.ite_none_right_eq_some.mp taken
  obtain ⟨here, there⟩ := task_eq_some.mp present
  refine ⟨orderlyNext, heedsNext, (List.getElem?_eq_some_iff.mp there).1.trans_le longer, ?_⟩
  rintro ⟨newJob, newThread⟩ found
  obtain ⟨foundJob, foundThread⟩ := task_eq_some.mp found
  have fits := orderly.fits id _ present
  have live : thread.freed = false := by
    refine Bool.eq_false_iff.mpr fun freed => ?_
    have closed := fits.freed freed
    rw [alive] at closed
    cases closed
  rw [exitReqHandler_threads first there live enabled] at foundThread
  rw [(handled_exitReqHandler state).sameWork.roster, here] at foundJob
  cases foundJob
  cases foundThread
  have blocked : thread.wait = .blocked := by
    obtain ⟨free, bare⟩ := Bool.and_eq_true_iff.mp idle
    rcases orderly.attended id thread there with closed | waits | ready | runs
    · rw [alive] at closed
      cases closed
    · exact waits
    · rw [List.isEmpty_iff.mp bare] at ready
      cases ready
    · rw [Option.isNone_iff_eq_none.mp free] at runs
      cases runs
  cases launching : job.launching with
  | false =>
      refine .woken (Thread.interrupt_wait ?_ _) launching
      rw [blocked]
      nofun
  | true =>
      obtain ⟨effect, pending, writes⟩ := (Option.any_eq_true _ _).mp launching
      have limited := of_decide_eq_true (Bool.and_eq_true_iff.mp writes).1
      refine .orphaned (Nat.two_pos.trans_le limited) (outside.resolve_left ?_)
      rw [launching]
      nofun

end State

theorem heeds_of_exec {labels : List Label} (ran : Run.exec (step host) start labels = some state) :
    state.Orderly ∧ ∀ id task, state.task id = some task → Heeds task := by
  let inv := fun state : State =>
    state.Orderly ∧ ∀ id task, state.task id = some task → Heeds task
  have starts : inv start := by
    refine ⟨start_orderly, ?_⟩
    rintro id ⟨job, thread⟩ present
    exact absurd (State.task_eq_some.mp present).1 (by simp [start, Roster.empty])
  refine Run.exec_invariant inv ?_ starts ran
  intro state label next kept taken
  obtain ⟨orderly, heeds⟩ := kept
  exact ⟨orderly.step taken, State.heeds_step orderly.aligned heeds taken⟩

/-- A task that is not over and not yet interrupted for good when the daemon is
told to exit never waits for its process afterwards, unless it was in one of the
writes between its second limit and that wait while its process was running. -/
theorem exit_interrupt_heeded (host : Host) (before after : List Label) (state next final : State)
    (id : TaskId) (job : Job) (thread : Thread)
    (reached : Run.exec (step host) start before = some state)
    (first : state.exitRequested = false) (present : state.task id = some (job, thread))
    (alive : thread.closed = false) (enabled : thread.interruptDisabled = false)
    (outside : job.launching = false ∨ thread.orphaned = true)
    (signalled : step host state .exitSignal = some next)
    (ran : Run.exec (step host) next after = some final) :
    ∀ task, final.task id = some task → ¬AwaitsExit task := by
  obtain ⟨orderly, heeds⟩ := heeds_of_exec reached
  have dismisses := State.dismisses_exit orderly heeds first present alive enabled outside signalled
  have holds := Run.exec_invariant (State.Dismisses id) (fun _ _ _ kept taken => kept.step taken)
    dismisses ran
  intro task found
  exact (holds.dismissed task found).not_awaits (holds.heeds id task found)
    (holds.orderly.fits id task found)

/-- The daemon is told to exit while a task logs the limit to its client: the
cancelled write is ignored, and the task goes on to wait for the process. -/
theorem exit_interrupt_lost :
    ∃ state ∈ Run.exec (step scopeHost) start
        ([.accept 7, .resume] ++ script 0 (limitedClient ++ libraryOk 1) ++ [.block]),
      state.exitRequested = false ∧
      (∃ task ∈ state.task 0, task.2.closed = false ∧ task.2.interruptDisabled = false) ∧
      ∃ final ∈ Run.exec (step scopeHost) state
          ([.exitSignal, .resume,
            .perform ⟨.streamIo .write (logMsg (startText ⟨1000, 10⟩)) maxIoUsec,
              Awaited.cancelled⟩] ++
            script 0 [written proceedMsg maxIoUsec, ⟨.drainStream, (0 : Int)⟩, written [] 0,
              ⟨.shutdownTail, (0 : Int)⟩] ++ [.block]),
        ∃ task ∈ final.task 0, AwaitsExit task := by
  decide +kernel

/-- A task up to the first question about the cgroup of its scope. -/
def scopedClient : List Label :=
  [.accept 7, .resume] ++
    script 0 (admittedFirst ++ originChecked 7 [1] [2] 5 ++ scopePrepared 7 [1] [49] ++
      scopeStarted 7 [49] [103] ++ processWatched 7) ++ [.block]

/-- It is interrupted there, tells its client, and kills its scope. -/
def scopeLeft : List Label :=
  [.resume, .perform ⟨.busCall (.property [103] (sdInterfaceName ++ ascii "Unit") (ascii "Id")),
    Awaited.cancelled⟩] ++
  script 0 (labelled .sysWillExit ++ [written (failMsg .internal) maxIoUsec,
    ⟨.drainStream, (0 : Int)⟩, written [] 0, ⟨.shutdownTail, (0 : Int)⟩, replied (.kill [103]) []])

theorem exit_interrupt_heeded_once :
    ∃ state ∈ Run.exec (step scopeHost) start scopedClient,
      ∃ next ∈ step scopeHost state .exitSignal,
        ∃ final ∈ Run.exec (step scopeHost) next scopeLeft,
          ∃ task ∈ final.task 0, ¬AwaitsExit task := by
  have ends : ∃ state ∈ Run.exec (step scopeHost) start scopedClient,
      state.exitRequested = false ∧
      (∃ task ∈ state.task 0, task.2.closed = false ∧ task.2.interruptDisabled = false ∧
        (task.1.launching = false ∨ task.2.orphaned = true)) ∧
      ∃ next ∈ step scopeHost state .exitSignal,
        ∃ final ∈ Run.exec (step scopeHost) next scopeLeft,
          ∃ task ∈ final.task 0, task.1.program.pending = none := by decide +kernel
  obtain ⟨state, reached, first, ⟨⟨job, thread⟩, present, alive, enabled, outside⟩,
    next, signalled, final, ran, task, found, _⟩ := ends
  refine ⟨state, reached, next, signalled, final, ran, task, found, ?_⟩
  exact exit_interrupt_heeded scopeHost scopedClient scopeLeft state next final 0 job thread reached
    first present alive enabled outside signalled ran task found

end TrafficLimitd.Daemon
