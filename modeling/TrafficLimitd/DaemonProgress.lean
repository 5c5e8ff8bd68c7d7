import TrafficLimitd.DaemonVigil
import TrafficLimitd.DaemonWork

set_option autoImplicit false

/- When the daemon gets stuck. As long as a task is left, the task that runs can go on, or
the next one can run, or what some task waits for can happen. There are two exceptions: a
task that the exit signal has made ready after its end, and one that waits without a
timeout on a stream whose source is off. -/
namespace TrafficLimitd.Daemon

open Coroutine Custody Handler
open Scheduler (Queues)

/-- A step of a task or of an event that a task waits for. -/
def Label.own (label : Label) : Bool := !label.arrives && !label.signals

/-- A transfer that no timer ends; `shutdown_msg_stream` makes one. -/
def untimed : Effect → Bool
  | .streamIo _ _ usec => usec == 0
  | _ => false

/-- The task waits in a transfer that no timer ends, and `msg_stream_handler` will not end
it either, because the source of the stream is off. -/
def State.stranded (state : State) (id : TaskId) : Bool :=
  (state.pending id).any untimed &&
    state.threads[id]?.any fun thread =>
      decide (thread.wait = .blocked) && !thread.stream.any StreamSource.armed

/-- What can happen without a new connection and without an exit signal. -/
def State.possible (state : State) : Label → Bool
  | .reply id => !state.stranded id
  | label => label.own

/-- The task with this number has ended. -/
def State.ended (state : State) (id : TaskId) : Bool := state.threads[id]?.any Thread.closed

section Ended

variable {state : State} {id other : TaskId} {thread moved : Thread}

theorem ended_set (there : state.threads[id]? = some thread)
    (closed : moved.closed = thread.closed) :
    (state.setThread id moved).ended other = state.ended other := by
  unfold State.ended State.setThread
  dsimp only
  rw [List.getElem?_set]
  split
  · rename_i same
    rw [← same, there, if_pos (List.getElem?_eq_some_iff.mp there).1, Option.any_some,
      Option.any_some, closed]
  · rfl

theorem ended_wakeTask (there : state.threads[id]? = some thread)
    (closed : moved.closed = thread.closed) :
    (state.wakeTask id moved).ended other = state.ended other := by
  unfold State.wakeTask
  split
  · exact ended_set there (moved.wake_life.1.trans closed)
  · exact ended_set there closed

theorem ended_interruptSource (state : State) (id other : TaskId)
    (reason : Option InterruptReason) :
    (state.interruptSource id reason).ended other = state.ended other := by
  cases reason with
  | none => rfl
  | some reason =>
      unfold State.interruptSource State.interruptTask
      dsimp only
      split
      · rfl
      · rename_i thread there
        split
        · rfl
        · exact ended_set there (show (thread.interrupt reason).closed = thread.closed from rfl)

theorem mem_enqueue_iff {ids : State} (member : other ∈ (ids.enqueue id).ready) :
    other ∈ ids.ready ∨ other = id := by
  rcases List.mem_append.mp member with before | last
  · exact Or.inl (List.mem_of_mem_erase before)
  · exact Or.inr (List.mem_singleton.mp last)

theorem mem_wakeTask (member : other ∈ (state.wakeTask id moved).ready) :
    other ∈ state.ready ∨ other = id := by
  unfold State.wakeTask at member
  split at member
  · exact mem_enqueue_iff member
  · exact Or.inl member

theorem mem_interruptSource {reason : Option InterruptReason}
    (member : other ∈ (state.interruptSource id reason).ready) :
    other ∈ state.ready ∨ other = id := by
  cases reason with
  | none => exact Or.inl member
  | some reason =>
      unfold State.interruptSource State.interruptTask at member
      dsimp only at member
      split at member
      · exact Or.inl member
      · split at member
        · exact Or.inl member
        · exact mem_enqueue_iff member

/-- Whatever is ready is a task. -/
def State.Known (state : State) : Prop := ∀ id ∈ state.ready, id < state.threads.length

theorem State.Known.handled {next : State} (known : state.Known) (handled : Handled state next) :
    next.Known := by
  induction handled with
  | refl => exact known
  | tail _ last ih =>
      cases last with
      | touch there acts =>
          intro other member
          exact (ih other member).trans_eq List.length_set.symm
      | @schedule id thread moved there acts =>
          intro other member
          apply Nat.lt_of_lt_of_eq _ List.length_set.symm
          rcases mem_enqueue_iff member with before | rfl
          · exact ih other before
          · exact (List.getElem?_eq_some_iff.mp there).1
      | request => exact ih

theorem State.Known.step {host : Host} {next : State} {label : Label} (known : state.Known)
    (taken : Daemon.step host state label = some next) : next.Known := by
  cases step_advances taken with
  | resume id rest _ ready same =>
      subst same
      exact fun other member => known other (ready ▸ List.mem_cons_of_mem id member)
  | work _ _ _ _ threads ready =>
      intro other member
      rw [threads, List.length_set]
      exact known other (ready ▸ member)
  | arrive pid accepted =>
      obtain ⟨_, threads, ready, _⟩ := accept_appends accepted
      intro other member
      rw [threads, List.length_append]
      rw [ready] at member
      rcases List.mem_append.mp member with before | last
      · exact Nat.lt_add_right 1 (known other before)
      · exact List.mem_singleton.mp last ▸ Nat.lt_succ_self _
  | handle handled => exact known.handled handled

end Ended

/-- Unless the daemon is to exit, no task that has ended is ready. -/
def State.Alert (state : State) : Prop :=
  state.exitRequested = false → ∀ id ∈ state.ready, state.ended id = false

section Alert

variable {host : Host} {state next : State} {id : TaskId} {job : Job} {thread : Thread}

/-- The ready tasks are the old ones and perhaps one that has not ended. -/
theorem State.Alert.keep (alert : state.Alert)
    (requested : next.exitRequested = state.exitRequested)
    (ended : ∀ other, next.ended other = state.ended other)
    (ready : ∀ other ∈ next.ready, other ∈ state.ready ∨ state.ended other = false) :
    next.Alert := by
  intro calm other member
  rw [ended]
  rcases ready other member with old | unfinished
  · exact alert (requested.symm.trans calm) other old
  · exact unfinished

theorem ended_eq_closed (there : state.threads[id]? = some thread) :
    state.ended id = thread.closed := by
  rw [State.ended, there, Option.any_some]

theorem exitRequested_interruptTask (state : State) (id : TaskId) (reason : InterruptReason) :
    (state.interruptTask id reason).exitRequested = state.exitRequested := by
  unfold State.interruptTask
  split
  · rfl
  · split <;> rfl

theorem exitRequested_interruptSource (state : State) (id : TaskId)
    (reason : Option InterruptReason) :
    (state.interruptSource id reason).exitRequested = state.exitRequested := by
  cases reason with
  | none => rfl
  | some reason => exact exitRequested_interruptTask state id reason

theorem exitRequested_interrupts (ids : List TaskId) (state : State) :
    (ids.foldl State.interruptLive state).exitRequested = state.exitRequested := by
  induction ids generalizing state with
  | nil => rfl
  | cons id rest ih =>
      rw [List.foldl_cons, ih]
      unfold State.interruptLive
      split
      · exact exitRequested_interruptTask state id _
      · rfl

theorem exitRequested_wakeTask (state : State) (id : TaskId) (moved : Thread) :
    (state.wakeTask id moved).exitRequested = state.exitRequested := by
  unfold State.wakeTask
  split <;> rfl

/-- A task with an event source has not ended. -/
theorem unfinished_of_source {entry : Scheduler.TaskState} {cancelled : Bool}
    (fits : Fits (job, thread)) (tied : Tied (job, thread) entry cancelled)
    (source : thread.stream.isSome = true ∨ thread.pidfd.isSome = true) :
    thread.closed = false := by
  apply Bool.eq_false_iff.mpr
  intro closed
  obtain ⟨ended, done⟩ := fits.closed closed
  have ended : job.program = .pure () := ended
  have done : job.cleanups = [] := done
  have follows : Owed.rules.Follows job.owed job.program fun final _ => final = none := tied.follows
  rw [ended] at follows
  have settled : job.owed = none := follows
  have destroys : ∀ cleanup, ¬job.Destroys cleanup := by
    intro cleanup destroys
    simp [Job.Destroys, done, settled] at destroys
  rcases source with stream | pidfd
  · exact destroys _ (tied.stream stream)
  · exact destroys _ (tied.pidfd pidfd)

theorem unfinished_of_blocked (fits : Fits (job, thread)) (blocked : thread.wait = .blocked) :
    thread.closed = false := by
  have waits : thread.wait ≠ .running := by simp [blocked]
  obtain ⟨effect, pending, _⟩ := fits.waiting waits
  exact fits.not_closed pending

/-- An event that only concerns the task with this number, which has not ended. -/
theorem State.Alert.wakes (alert : state.Alert) (unfinished : state.ended id = false)
    (requested : next.exitRequested = state.exitRequested)
    (ended : ∀ other, next.ended other = state.ended other)
    (ready : ∀ other ∈ next.ready, other ∈ state.ready ∨ other = id) : next.Alert := by
  apply alert.keep requested ended
  intro other member
  rcases ready other member with old | rfl
  · exact Or.inl old
  · exact Or.inr unfinished

theorem finish_alert {rings : Scheduler.State} {queues : Queues} (alert : state.Alert)
    (simulated : Simulated state rings queues) (taken : state.finish = some next) :
    next.Alert := by
  obtain ⟨id, thread, job, current, there, _, _, _, rfl⟩ := State.finish_eq_some taken
  obtain ⟨_, runs, active⟩ := simulated.turns.current current there
  have rests : id ∉ state.ready := by
    intro member
    apply simulated.valid.currentInactive id runs
    rw [active]
    exact List.mem_append_left _ (List.mem_map_of_mem member)
  intro calm other member
  have elsewhere : id ≠ other := fun same => rests (same ▸ member)
  have before := alert calm other member
  unfold State.ended at before ⊢
  dsimp only [State.setThread]
  rw [List.getElem?_set_ne elsewhere]
  exact before

theorem accept_alert {pid : Pid} (alert : state.Alert)
    (taken : state.accept host pid = some next) : next.Alert := by
  obtain ⟨roster, _, rfl⟩ := Option.map_eq_some_iff.mp taken
  have last : state.ended state.threads.length = false := by simp [State.ended]
  refine alert.wakes last rfl ?_ ?_
  · intro other
    unfold State.ended
    dsimp only
    rcases Nat.lt_trichotomy other state.threads.length with before | here | after
    · rw [List.getElem?_append_left before]
    · simp [here, newThread]
    · have beyond : (state.threads ++ [newThread]).length ≤ other := by
        rw [List.length_append]
        exact after
      rw [List.getElem?_eq_none beyond, List.getElem?_eq_none (Nat.le_of_lt after)]
  · intro other member
    simpa using member

theorem reply_alert {rings : Scheduler.State} {queues : Queues} (alert : state.Alert)
    (simulated : Simulated state rings queues)
    (taken : state.dispatch id (.reply id) = some next) : next.Alert := by
  obtain ⟨thread, there, taken⟩ := Option.bind_eq_some_iff.mp taken
  obtain ⟨⟨blocked, _⟩, ⟨⟩⟩ := Option.ite_none_right_eq_some.mp taken
  obtain ⟨job, present⟩ := simulated.scheduled.task there
  have unfinished := unfinished_of_blocked (simulated.orderly.fits id _ present) blocked
  exact alert.wakes ((ended_eq_closed there).trans unfinished)
    (exitRequested_wakeTask state id thread) (fun other => ended_wakeTask there rfl)
    (fun other => mem_wakeTask)

theorem hangUp_alert {rings : Scheduler.State} {queues : Queues} (alert : state.Alert)
    (simulated : Simulated state rings queues)
    (taken : state.dispatch id (.hangUp id) = some next) : next.Alert := by
  obtain ⟨thread, there, taken⟩ := Option.bind_eq_some_iff.mp taken
  obtain ⟨source, opened, taken⟩ := Option.bind_eq_some_iff.mp taken
  obtain ⟨_, ⟨⟩⟩ := Option.ite_none_right_eq_some.mp taken
  obtain ⟨job, present⟩ := simulated.scheduled.task there
  obtain ⟨entry, _, tied⟩ := simulated.scheduled.entry present
  have unfinished := unfinished_of_source (simulated.orderly.fits id _ present) tied
    (Or.inl (by rw [opened]; rfl))
  unfold State.hangUp
  apply alert.wakes ((ended_eq_closed there).trans unfinished)
  · rw [exitRequested_interruptSource]
    split
    · exact exitRequested_wakeTask _ _ _
    · rfl
  · intro other
    rw [ended_interruptSource]
    split
    · exact ended_wakeTask there rfl
    · exact ended_set there rfl
  · intro other member
    rcases mem_interruptSource member with before | same
    · split at before
      · exact mem_wakeTask before
      · exact Or.inl before
    · exact Or.inr same

theorem processExit_alert {rings : Scheduler.State} {queues : Queues} (alert : state.Alert)
    (simulated : Simulated state rings queues)
    (taken : state.dispatch id (.processExit id) = some next) : next.Alert := by
  obtain ⟨thread, there, taken⟩ := Option.bind_eq_some_iff.mp taken
  obtain ⟨event, opened, taken⟩ := Option.bind_eq_some_iff.mp taken
  obtain ⟨_, ⟨⟩⟩ := Option.ite_none_right_eq_some.mp taken
  obtain ⟨job, present⟩ := simulated.scheduled.task there
  obtain ⟨entry, _, tied⟩ := simulated.scheduled.entry present
  have unfinished := unfinished_of_source (simulated.orderly.fits id _ present) tied
    (Or.inr (by rw [opened]; rfl))
  unfold State.processExit
  split
  · exact alert.wakes ((ended_eq_closed there).trans unfinished) (exitRequested_wakeTask _ _ _)
      (fun other => ended_wakeTask there rfl) (fun other => mem_wakeTask)
  · apply alert.wakes ((ended_eq_closed there).trans unfinished)
    · exact exitRequested_interruptSource _ _ _
    · intro other
      rw [ended_interruptSource]
      exact ended_set there rfl
    · exact fun other => mem_interruptSource

theorem step_alert {rings : Scheduler.State} {queues : Queues} {label : Label}
    (alert : state.Alert) (simulated : Simulated state rings queues)
    (taken : step host state label = some next) : next.Alert := by
  obtain ⟨_, taken⟩ := Option.ite_none_left_eq_some.mp taken
  cases label with
  | resume =>
      obtain ⟨id, rest, _, ready, _, rfl⟩ := State.resume_eq_some taken
      refine alert.keep rfl (fun _ => rfl) fun other member => Or.inl ?_
      rw [ready]
      exact List.mem_cons_of_mem id member
  | perform event =>
      obtain ⟨id, thread, roster, _, there, _, _, _, rfl⟩ := State.perform_eq_some taken
      exact alert.keep rfl (fun other => ended_set there (thread.observe_life _ _).1)
        (fun other => Or.inl)
  | block =>
      obtain ⟨id, thread, job, effect, _, there, _, _, _, _, rfl⟩ := State.block_eq_some taken
      exact alert.keep rfl (fun other => ended_set there (thread.block_life effect).1)
        (fun other => Or.inl)
  | cleanup deleted =>
      obtain ⟨id, thread, job, first, rest, _, there, _, _, _, _, same⟩ :=
        State.cleanup_eq_some taken
      rw [same]
      exact alert.keep rfl (fun other => ended_set there (thread.clean_life first).1)
        (fun other => Or.inl)
  | finish => exact finish_alert alert simulated taken
  | accept pid =>
      obtain ⟨_, taken⟩ := Option.ite_none_right_eq_some.mp taken
      exact accept_alert alert taken
  | exitSignal =>
      obtain ⟨_, ⟨⟩⟩ := Option.ite_none_right_eq_some.mp taken
      unfold State.exitReqHandler
      split
      · exact alert
      · intro calm
        rw [State.interruptAllTasks, exitRequested_interrupts] at calm
        cases calm
  | reply id =>
      obtain ⟨_, taken⟩ := Option.ite_none_right_eq_some.mp taken
      exact reply_alert alert simulated taken
  | hangUp id =>
      obtain ⟨_, taken⟩ := Option.ite_none_right_eq_some.mp taken
      exact hangUp_alert alert simulated taken
  | processExit id =>
      obtain ⟨_, taken⟩ := Option.ite_none_right_eq_some.mp taken
      exact processExit_alert alert simulated taken
  | endHandler id =>
      obtain ⟨_, taken⟩ := Option.ite_none_right_eq_some.mp taken
      obtain ⟨thread, there, taken⟩ := Option.bind_eq_some_iff.mp taken
      obtain ⟨_, ⟨⟩⟩ := Option.ite_none_right_eq_some.mp taken
      exact alert.keep rfl (fun other => ended_set there rfl) (fun other => Or.inl)

end Alert

section Progress

variable {host : Host} {state next : State} {id : TaskId} {job : Job} {thread : Thread}
variable {rings : Scheduler.State} {queues : Queues}

/-- The task that runs does not wait. -/
theorem Simulated.awake (simulated : Simulated state rings queues)
    (current : state.current = some id) (present : state.task id = some (job, thread)) :
    thread.wait ≠ .blocked := by
  intro blocked
  have waits : thread.wait ≠ .running := by simp [blocked]
  obtain ⟨effect, pending, _⟩ := (simulated.orderly.fits id _ present).waiting waits
  obtain ⟨_, runs, _⟩ := simulated.turns.current current (State.task_eq_some.mp present).2
  apply simulated.valid.currentAwake id runs (waitEvent id (channel effect))
  have pending : job.program.pending = some effect := pending
  have here : blockedAt (job, thread) (channel effect) = true := by
    simp [blockedAt, blocked, pending]
  rw [simulated.scheduled.waits present, here]
  exact List.mem_singleton.mpr rfl

/-- A wait that is over has a result. -/
theorem answerable_of_woken {effect : Effect} {cancelled : Bool} (state : State)
    (woken : thread.wait = .woken cancelled) (waits : effect.waits = true) :
    ∃ answer : Response effect, thread.accepts ⟨effect, answer⟩ = true ∧
      state.answers thread effect answer = true ∧ state.roster.answers effect answer = true := by
  have accepts (answer : Response effect) (ends : outcome effect answer = some cancelled) :
      thread.accepts ⟨effect, answer⟩ = true := by
    simp [Thread.accepts, woken, ends]
  have result {α : Type} (value : α) : ∃ answer : Awaited α, answer.isCancelled = cancelled := by
    cases cancelled with
    | true => exact ⟨.cancelled, rfl⟩
    | false => exact ⟨.value value, rfl⟩
  cases effect with
  | streamIo direction buf usec =>
      obtain ⟨answer, ends⟩ := result ((0 : Int), buf)
      exact ⟨answer, accepts answer (congrArg some ends), rfl, rfl⟩
  | busCall call =>
      obtain ⟨answer, ends⟩ := result (BusReply.failed 0)
      exact ⟨answer, accepts answer (congrArg some ends), rfl, rfl⟩
  | matchJobRemoved | waitForJob job =>
      obtain ⟨answer, ends⟩ := result (0 : Int)
      exact ⟨answer, accepts answer (congrArg some ends), rfl, rfl⟩
  | waitForExit =>
      obtain ⟨answer, ends⟩ := result ()
      exact ⟨answer, accepts answer (congrArg some ends), rfl, rfl⟩
  | _ => cases waits

/-- A call that does not have to wait returns. -/
theorem answerable_of_running {effect : Effect} (state : State) (running : thread.wait = .running)
    (goes : thread.mayBlock effect = false) :
    ∃ answer : Response effect, thread.accepts ⟨effect, answer⟩ = true ∧
      state.answers thread effect answer = true ∧ state.roster.answers effect answer = true := by
  have accepts (answer : Response effect) (ends : thread.returnsAtOnce effect answer = true) :
      thread.accepts ⟨effect, answer⟩ = true := by
    simp [Thread.accepts, running, ends]
  cases effect with
  | streamIo direction buf usec => cases goes
  | busCall call => cases goes
  | matchJobRemoved => cases goes
  | waitForJob job => cases goes
  | waitForExit =>
      have ended : thread.pidfd.any PidfdEvent.terminated = true := by
        simpa [Thread.mayBlock] using goes
      exact ⟨Awaited.value (), accepts (Awaited.value ()) ended, rfl, rfl⟩
  | increaseNrTasks =>
      let taken : Bool := decide (state.roster.nrTasks < maxNrTasks)
      exact ⟨taken, accepts taken rfl, rfl, beq_self_eq_true taken⟩
  | thisUnitName =>
      exact ⟨state.thisUnitName, accepts state.thisUnitName rfl, beq_self_eq_true _, rfl⟩
  | interruptReason =>
      exact ⟨thread.interruptReason, accepts thread.interruptReason rfl, beq_self_eq_true _, rfl⟩
  | initMsgStream | drainStream | shutdownTail | matchDisconnected | library
  | rateLimitCheck _ | rateLimitSet _ _ | initPidfdEvent _ =>
      exact ⟨(-1 : Int), accepts (-1 : Int) rfl, rfl, rfl⟩
  | randomize => exact ⟨Except.error 0, accepts (Except.error 0) rfl, rfl, rfl⟩
  | cgPathGetCgroupid _ => exact ⟨Except.error 0, accepts (Except.error 0) rfl, rfl, rfl⟩
  | closeFd | regStreamInterrupt _ | registerCleanup _ | setThisUnitName _ | regPidfdInterrupt _
  | setInterruptDisabled _ => exact ⟨(), accepts () rfl, rfl, rfl⟩

theorem running_of_current (current : state.current = some id)
    (there : state.threads[id]? = some thread) : state.running = some (id, thread) := by
  rw [State.running, current, Option.bind_some, there, Option.map_some]

theorem perform_enabled {effect : Effect} {answer : Response effect}
    (current : state.current = some id) (present : state.task id = some (job, thread))
    (pending : job.program.pending = some effect)
    (accepts : thread.accepts ⟨effect, answer⟩ = true)
    (answers : state.answers thread effect answer = true)
    (known : state.roster.answers effect answer = true) :
    (state.perform host ⟨effect, answer⟩).isSome = true := by
  obtain ⟨here, there⟩ := State.task_eq_some.mp present
  obtain ⟨rest, advanced⟩ : ∃ rest, job.program.advance ⟨effect, answer⟩ = some rest := by
    cases program : job.program with
    | pure value => simp [program] at pending
    | call made rest =>
        obtain rfl : made = effect := by simpa [program] using pending
        exact ⟨rest answer, Coro.advance_eq_some.mpr ⟨rest, rfl, rfl⟩⟩
  have moved := Roster.perform_eq_some.mpr ⟨job, rest, here, advanced, known, rfl⟩
  unfold State.perform
  rw [running_of_current current there, Option.bind_some]
  dsimp only
  rw [accepts, answers, Roster.step, moved]
  rfl

theorem cleanup_enabled {first : Cleanup} {rest : List Cleanup} (deleted : Bool)
    (current : state.current = some id) (present : state.task id = some (job, thread))
    (ended : job.program = .pure ()) (cleanups : job.cleanups = first :: rest) :
    (state.cleanup host deleted).isSome = true := by
  obtain ⟨here, there⟩ := State.task_eq_some.mp present
  have cleaned : ∃ next, state.roster.cleanup id deleted = some next :=
    ⟨_, Roster.cleanup_eq_some.mpr ⟨job, first, rest, here, ended, cleanups, rfl⟩⟩
  obtain ⟨next, cleaned⟩ := cleaned
  simp [State.cleanup, running_of_current current there, here, cleanups, Roster.step, cleaned]

/-- Something happens without a new connection and without an exit signal. -/
def State.Goes (host : Host) (state : State) : Prop :=
  ∃ label : Label, state.possible label = true ∧ (step host state label).isSome = true

/-- The task that runs goes on, hands over or ends. -/
theorem current_goes (alive : state.roster.aborted = false)
    (simulated : Simulated state rings queues) (current : state.current = some id)
    (there : state.threads[id]? = some thread) : state.Goes host := by
  obtain ⟨job, present⟩ := simulated.scheduled.task there
  obtain ⟨here, _⟩ := State.task_eq_some.mp present
  have runs := running_of_current current there
  cases pending : job.program.pending with
  | none =>
      cases cleanups : job.cleanups with
      | nil =>
          refine ⟨.finish, rfl, ?_⟩
          simp [step, alive, State.finish, runs, here, pending, cleanups]
      | cons first rest =>
          refine ⟨.cleanup true, rfl, ?_⟩
          simp only [step, alive, Bool.false_eq_true, if_false]
          exact cleanup_enabled true current present (pure_of_pending pending) cleanups
  | some effect =>
      have performs {answer : Response effect} (accepts : thread.accepts ⟨effect, answer⟩ = true)
          (answers : state.answers thread effect answer = true)
          (known : state.roster.answers effect answer = true) : state.Goes host := by
        refine ⟨.perform ⟨effect, answer⟩, rfl, ?_⟩
        simp only [step, alive, Bool.false_eq_true, if_false]
        exact perform_enabled current present pending accepts answers known
      cases wait : thread.wait with
      | blocked => exact absurd wait (simulated.awake current present)
      | woken cancelled =>
          have waits : thread.wait ≠ .running := by simp [wait]
          obtain ⟨made, same, may⟩ := (simulated.orderly.fits id _ present).waiting waits
          obtain rfl : made = effect := Option.some.inj (same.symm.trans pending)
          obtain ⟨answer, accepts, answers, known⟩ := answerable_of_woken state wait may
          exact performs accepts answers known
      | running =>
          cases may : thread.mayBlock effect with
          | true =>
              refine ⟨.block, rfl, ?_⟩
              simp [step, alive, State.block, runs, State.pending, here, pending, wait, may]
          | false =>
              obtain ⟨answer, accepts, answers, known⟩ := answerable_of_running state wait may
              exact performs accepts answers known

/-- While the main loop looks for events, one can come for every task that is left and not
stranded: its wait ends, or its structure is freed. -/
theorem task_goes {past : List Label} (alive : state.roster.aborted = false)
    (vigilant : State.Vigilant past state) (idle : state.idle = true)
    (present : state.task id = some (job, thread)) (listed : thread.freed = false)
    (afloat : state.stranded id = false) : state.Goes host := by
  obtain ⟨here, there⟩ := State.task_eq_some.mp present
  cases closed : thread.closed with
  | true =>
      refine ⟨.endHandler id, rfl, ?_⟩
      simp [step, alive, idle, State.dispatch, there, closed, listed]
  | false =>
      obtain ⟨free, empty⟩ := Bool.and_eq_true_iff.mp idle
      have free : state.current = none := by simpa using free
      have empty : state.ready = [] := by simpa using empty
      have blocked : thread.wait = .blocked := by
        have attended := vigilant.orderly.attended id thread there
        simpa [closed, free, empty] using attended
      by_cases awaits : job.program.pending = some .waitForExit
      · obtain ⟨event, opened, armed, _⟩ := vigilant.armed present ⟨blocked, awaits⟩
        refine ⟨.processExit id, rfl, ?_⟩
        simp [step, alive, idle, State.dispatch, there, opened, armed]
      · refine ⟨.reply id, (Bool.not_eq_true' _).mpr afloat, ?_⟩
        simp [step, alive, idle, State.dispatch, there, blocked, State.pending, here, awaits]

end Progress

/-- What holds of every state that the daemon reaches. -/
structure Ongoing (state : State) : Prop where
  simulated : ∃ rings queues, Simulated state rings queues
  known : state.Known
  alert : state.Alert

theorem ongoing_of_exec {host : Host} {labels : List Label} {state : State}
    (ran : Run.exec (step host) start labels = some state) : Ongoing state := by
  have starts : Ongoing start := by
    refine ⟨⟨_, _, start_simulated⟩, ?_, ?_⟩
    · intro id member
      cases member
    · intro _ id member
      cases member
  apply Run.exec_invariant Ongoing _ starts ran
  intro state label next ongoing taken
  obtain ⟨rings, queues, simulated⟩ := ongoing.simulated
  obtain ⟨_, after, moved, _, still⟩ := simulated.step taken
  exact ⟨⟨after, moved, still⟩, ongoing.known.step taken, step_alert ongoing.alert simulated taken⟩

/-- No task is left, none is counted, and no limit is in the map. -/
structure State.Drained (state : State) : Prop where
  freed : ∀ thread ∈ state.threads, thread.freed = true
  uncounted : state.roster.nrTasks = 0
  unlimited : state.roster.limits = ∅

/-- After the exit signal the next task to run is one that has ended. -/
def State.ResumesEnded (state : State) : Prop :=
  state.exitRequested = true ∧ state.current = none ∧
    ∃ id rest, state.ready = id :: rest ∧ state.ended id = true

/-- The daemon comes to rest only when it has drained. If neither a task can go on nor an
event that one of them waits for can happen, then all tasks have been freed and have left
neither the counter nor the map anything. There are two other ways to stop: the signal
handler makes a task ready that has ended, or a task waits in the untimed write of
`shutdown_msg_stream` after the source of its stream was switched off. -/
theorem rests_only_when_drained {host : Host} {labels : List Label} {state : State}
    (met : Run.Meets (step host) State.Accountable start labels)
    (ran : Run.exec (step host) start labels = some state)
    (rests : ∀ label : Label, state.possible label = true → step host state label = none) :
    state.Drained ∨ state.ResumesEnded ∨ ∃ id, state.stranded id = true := by
  obtain ⟨kept, owned⟩ := owned_of_exec met ran
  obtain ⟨⟨rings, queues, simulated⟩, known, alert⟩ := ongoing_of_exec ran
  have vigilant := State.vigilant_of_exec ran
  have stuck : ¬state.Goes host := by
    intro ⟨label, possible, enabled⟩
    rw [rests label possible] at enabled
    cases enabled
  have free : state.current = none := by
    cases simulated.turns with
    | running id thread current there =>
        exact absurd (current_goes kept.alive simulated current there) stuck
    | looping loops => exact loops.free
    | switched _ _ free => exact free
  cases ready : state.ready with
  | cons id rest =>
      apply Or.inr
      apply Or.inl
      have ended : state.ended id = true := by
        by_contra unfinished
        apply stuck
        refine ⟨.resume, rfl, ?_⟩
        have inside := known id (ready ▸ List.mem_cons_self)
        have alive : state.threads[id]?.any (fun thread => !thread.closed) = true := by
          rw [ended_eq_closed (List.getElem?_eq_getElem inside)] at unfinished
          simpa [List.getElem?_eq_getElem inside] using unfinished
        simp [step, kept.alive, State.resume, free, ready, alive]
      refine ⟨?_, free, id, rest, ready, ended⟩
      by_contra calm
      have unfinished := alert (Bool.eq_false_of_not_eq_true calm) id (ready ▸ List.mem_cons_self)
      rw [ended] at unfinished
      cases unfinished
  | nil =>
      by_cases stranded : ∃ id, state.stranded id = true
      · exact Or.inr (Or.inr stranded)
      apply Or.inl
      have idle : state.idle = true := by simp [State.idle, free, ready]
      have freed : ∀ thread ∈ state.threads, thread.freed = true := by
        intro thread member
        by_contra listed
        obtain ⟨id, inside, here⟩ := List.getElem_of_mem member
        have there : state.threads[id]? = some thread :=
          List.getElem?_eq_some_iff.mpr ⟨inside, here⟩
        obtain ⟨job, present⟩ := simulated.scheduled.task there
        have unended := Bool.eq_false_of_not_eq_true listed
        have afloat : state.stranded id = false :=
          Bool.eq_false_of_not_eq_true fun holds => stranded ⟨id, holds⟩
        exact stuck (task_goes kept.alive vigilant idle present unended afloat)
      have uncounted : state.roster.nrTasks = 0 := by
        rw [kept.nrTasks_eq, List.countP_eq_zero]
        intro job member
        rw [uncounted_of_freed simulated.orderly kept freed job member]
        exact Bool.false_ne_true
      refine ⟨freed, uncounted, LimitMap.eq_empty ?_⟩
      exact Nat.le_zero.mp (uncounted ▸ table_length_le kept.balanced owned)

/-- One client was served and nothing is left to do. -/
theorem rests_only_when_drained_once :
    ∃ state ∈ Run.exec (step scopeHost) start servedClient, state.Drained := by
  have met : Run.Meets (step scopeHost) State.Accountable start servedClient := by decide +kernel
  have ends : ∃ state ∈ Run.exec (step scopeHost) start servedClient,
      state.current = none ∧ state.ready = [] ∧ ∀ thread ∈ state.threads, thread.freed = true ∧
        thread.wait = .running ∧ thread.stream = none ∧ thread.pidfd = none := by decide +kernel
  obtain ⟨state, ran, free, empty, settled⟩ := ends
  refine ⟨state, ran, ?_⟩
  have rests : ∀ label : Label, state.possible label = true →
      step scopeHost state label = none := by
    intro label possible
    have nobody : state.running = none := by simp [State.running, free]
    have thread (id : TaskId) : state.threads[id]? = none ∨ ∃ thread,
        state.threads[id]? = some thread ∧ thread ∈ state.threads := by
      cases there : state.threads[id]? with
      | none => exact Or.inl rfl
      | some thread => exact Or.inr ⟨thread, rfl, List.mem_of_getElem? there⟩
    cases label with
    | accept pid => cases possible
    | exitSignal => cases possible
    | resume => simp [step, State.resume, empty]
    | perform event => simp [step, State.perform, nobody]
    | block => simp [step, State.block, nobody]
    | cleanup deleted => simp [step, State.cleanup, nobody]
    | finish => simp [step, State.finish, nobody]
    | reply id | hangUp id | processExit id | endHandler id =>
        rcases thread id with none | ⟨thread, there, member⟩
        · simp [step, State.dispatch, none]
        · simp [step, State.dispatch, there, settled thread member]
  rcases rests_only_when_drained met ran rests with
    drained | ⟨_, _, _, _, ready, _⟩ | ⟨id, stranded⟩
  · exact drained
  · rw [empty] at ready
    cases ready
  · obtain ⟨_, waits⟩ := Bool.and_eq_true_iff.mp stranded
    obtain ⟨thread, there, blocked⟩ := (Option.any_eq_true _ _).mp waits
    simp [settled thread (List.mem_of_getElem? there)] at blocked

/-- The client hangs up while its task writes the last log line. The interrupted write has
forgotten the hang-up, the next one ends by its timer, and the empty one waits. -/
def hungUpInLog : List Label :=
  [.accept 7, .resume] ++ script 0 admitted.dropLast ++
    [.perform ⟨.thisUnitName, none⟩,
      .perform ⟨.busCall (.getUnitByPID scopeHost.selfPid), Awaited.value (.notSent (-107))⟩,
      .perform ⟨.library, (0 : Int)⟩, .block, .hangUp 0, .resume,
      .perform ⟨.streamIo .write (logMsg (errorText scopeHost (-107) false)) maxIoUsec,
        Awaited.cancelled⟩,
      .block, .reply 0, .resume,
      .perform ⟨.streamIo .write (failMsg .internal) maxIoUsec, Awaited.value (-110, [])⟩,
      .perform ⟨.drainStream, (0 : Int)⟩, .block]

example : ∃ state ∈ Run.exec (step scopeHost) start hungUpInLog, state.stranded 0 = true := by
  decide +kernel

end TrafficLimitd.Daemon
