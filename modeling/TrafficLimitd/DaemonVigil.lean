import TrafficLimitd.DaemonExit
import TrafficLimitd.HandlerVigil

set_option autoImplicit false

/- The exit of a client's process. `pidfd_event_handler` runs once, at any time, and
either wakes the task or interrupts it; the flags it leaves behind make up for an
interrupt that the task ignores. -/
namespace TrafficLimitd.Daemon

open Coroutine Handler

def Job.vigil (job : Job) : Vigil := Vigil.of job.history

/-- Whether the one-shot source is on, and whether its handler has run. -/
def Thread.signal (thread : Thread) : Option (Bool × Bool) :=
  thread.pidfd.map fun event => (event.armed, event.terminated)

namespace Thread

variable (thread : Thread)

theorem orphaned_eq_signal : thread.orphaned = thread.signal.any Prod.snd := by
  unfold orphaned signal
  rw [Option.any_map]

theorem signal_observe {effect : Effect} (aside : Vigil.Aside effect) (answer : Response effect) :
    (thread.observe effect answer).signal = thread.signal := by
  unfold observe
  split
  · split <;> rfl
  · rfl
  · exact aside.elim
  · exact Option.map_map _ _ _
  · exact aside.elim
  · rfl
  · rfl

theorem signal_init (pid : Pid) (rc : Int) :
    (thread.observe (.initPidfdEvent pid) rc).signal =
      if rc < 0 then thread.signal else some (true, false) := by
  change (if rc < 0 then thread else _).signal = _
  split <;> rfl

theorem signal_block (effect : Effect) : (thread.block effect).signal = thread.signal := by
  unfold block
  split
  · exact Option.map_map _ _ _
  · rfl

theorem signal_wake : thread.wake.signal = thread.signal := by
  unfold wake
  split <;> rfl

/-- No call of the handler raises the flag. -/
theorem orphaned_of_observe {effect : Effect} {answer : Response effect}
    (orphaned : (thread.observe effect answer).orphaned = true) : thread.orphaned = true := by
  by_cases aside : Vigil.Aside effect
  · rw [orphaned_eq_signal, thread.signal_observe aside] at orphaned
    rw [orphaned_eq_signal, orphaned]
  · cases effect with
    | initPidfdEvent pid =>
        rw [orphaned_eq_signal, thread.signal_init pid answer] at orphaned
        split at orphaned
        · rw [orphaned_eq_signal, orphaned]
        · cases orphaned
    | waitForExit =>
        change (if Awaited.isCancelled answer then _ else thread).orphaned = true at orphaned
        split at orphaned
        · unfold Thread.orphaned at orphaned
          rwa [Option.any_map] at orphaned
        · exact orphaned
    | _ => exact absurd trivial aside

end Thread

/-- The source of a process that the handler still has to wait for is on, unless
its handler has run; and a task that was woken from that wait has been told. -/
structure Watched (task : Task) : Prop where
  follows : Vigil.rules.Follows task.1.vigil task.1.program fun _ _ => True
  opened : task.2.signal.isSome = true → task.1.vigil.opened = true
  source : task.1.program.pending ≠ none → task.1.vigil = ⟨true, false⟩ →
    ∃ armed terminated, task.2.signal = some (armed, terminated) ∧
      (armed = true ∨ terminated = true)
  told : task.1.program.pending = some .waitForExit → task.2.wait = .woken false →
    task.2.orphaned = true

/-- What does not touch the source. -/
theorem Watched.moved {job : Job} {thread moved : Thread} (watched : Watched (job, thread))
    (same : moved.signal = thread.signal)
    (told : job.program.pending = some .waitForExit → moved.wait = .woken false →
      moved.orphaned = true) : Watched (job, moved) where
  follows := watched.follows
  opened now := watched.opened (same ▸ now)
  source unfinished vigil := by
    rw [same]
    exact watched.source unfinished vigil
  told := told

theorem Watched.perform {job : Job} {thread : Thread} {event : Event Effect Response}
    {rest : Prog Unit} (watched : Watched (job, thread))
    (advanced : job.program.advance event = some rest) :
    Watched (job.perform event rest, thread.perform event) := by
  obtain ⟨may, follows⟩ := Discipline.Follows.advance watched.follows advanced
  have unfinished : job.program.pending ≠ none := by
    rw [Coro.advance_pending advanced]
    nofun
  have asides : Vigil.Aside event.effect →
      (thread.perform event).signal = thread.signal ∧
        (job.perform event rest).vigil = job.vigil := fun aside =>
    ⟨thread.signal_observe aside event.answer, (Vigil.aside_same _ _ aside).2 event.answer⟩
  refine ⟨follows, ?_, fun _ => ?_, nofun⟩
  · obtain ⟨effect, answer⟩ := event
    intro now
    by_cases aside : Vigil.Aside effect
    · obtain ⟨signal, vigil⟩ := asides aside
      rw [show (job.perform ⟨effect, answer⟩ rest).vigil = job.vigil from vigil]
      exact watched.opened (signal ▸ now)
    · cases effect with
      | initPidfdEvent pid =>
          have signal := thread.signal_init pid answer
          change (job.vigil.keep answer).opened = true
          unfold Vigil.keep
          split at signal
          · rename_i failed
            rw [if_pos failed]
            exact watched.opened (signal ▸ now)
          · rename_i opened
            rw [if_neg opened]
      | waitForExit => exact congrArg Vigil.opened (show job.vigil = ⟨true, false⟩ from may)
      | _ => exact absurd trivial aside
  · obtain ⟨effect, answer⟩ := event
    intro reached
    by_cases aside : Vigil.Aside effect
    · obtain ⟨signal, vigil⟩ := asides aside
      rw [show (thread.perform ⟨effect, answer⟩).signal = thread.signal from signal]
      exact watched.source unfinished (vigil.symm.trans reached)
    · cases effect with
      | initPidfdEvent pid =>
          have fresh : job.vigil = Vigil.fresh := may
          have signal := thread.signal_init pid answer
          change job.vigil.keep answer = _ at reached
          unfold Vigil.keep at reached
          split at reached
          · rw [fresh] at reached
            cases reached
          · rename_i opened
            rw [if_neg opened] at signal
            exact ⟨true, false, signal, Or.inl rfl⟩
      | waitForExit => exact absurd (congrArg Vigil.waited reached) nofun
      | _ => exact absurd trivial aside

theorem Watched.acts {before after : Task} (watched : Watched before) (acts : Acts before after) :
    Watched after := by
  cases acts with
  | perform accepts advanced => exact watched.perform advanced
  | @block job thread effect pending running may =>
      refine watched.moved (thread.signal_block effect) fun _ woken => ?_
      rw [thread.block_wait] at woken
      cases woken
  | @clean job thread cleanup rest ended next =>
      have finished : (job.clean cleanup rest).program.pending = none := by
        change job.program.pending = none
        rw [ended]
        rfl
      refine ⟨watched.follows, fun now => watched.opened ?_, fun unfinished => absurd finished unfinished,
        fun pending => ?_⟩
      · cases cleanup <;> first | exact now | cases now
      · rw [finished] at pending
        cases pending
  | finish ended done => exact watched.moved rfl watched.told
  | @wake job thread elsewhere =>
      exact watched.moved thread.signal_wake fun pending => absurd pending elsewhere
  | @interrupt job thread enabled reason =>
      refine watched.moved rfl fun _ woken => ?_
      simp only [Thread.interrupt] at woken
      split at woken <;> cases woken
  | hangUp job thread source => exact watched.moved rfl watched.told
  | exit job opened unawaited =>
      refine ⟨watched.follows, fun _ => watched.opened ?_, fun _ _ => ⟨_, _, rfl, Or.inr rfl⟩,
        fun _ _ => rfl⟩
      simp only [Thread.signal, opened, Option.map_some, Option.isSome_some]
  | @exitAwaited job thread event opened =>
      have same := Thread.signal_wake { thread with
        pidfd := some { event with armed := false, terminated := true, waitForExit := false } }
      refine ⟨watched.follows, fun _ => watched.opened ?_, fun _ _ => ?_, fun _ _ => ?_⟩
      · simp only [Thread.signal, opened, Option.map_some, Option.isSome_some]
      · exact ⟨false, true, same, Or.inr rfl⟩
      · exact Thread.orphaned_wake _
  | free job closed => exact watched.moved rfl watched.told

theorem watched_new (host : Host) (pid : Pid) : Watched (newJob host pid, newThread) where
  follows := Vigil.clientHandlerAsync_follows host pid
  opened := nofun
  source := nofun
  told := nofun

/-- Once its handler has run, the source keeps the flag to the end of the program. -/
def Informed (task : Task) : Prop := task.1.program.pending = none ∨ task.2.orphaned = true

theorem Informed.acts {before after : Task} (informed : Informed before) (watched : Watched before)
    (acts : Acts before after) : Informed after := by
  rcases informed with ended | orphaned
  · cases acts with
    | perform accepts advanced =>
        have pending := Coro.advance_pending advanced
        rw [show _ = none from ended] at pending
        cases pending
    | _ => exact Or.inl ended
  · cases acts with
    | @perform job thread event rest accepts advanced =>
        refine Or.inr (Thread.orphaned_observe orphaned (fun pid same => ?_) event.answer)
        have may := (Discipline.Follows.advance watched.follows advanced).1
        rw [same] at may
        have opened := watched.opened (by
          rw [Thread.orphaned_eq_signal] at orphaned
          exact Option.isSome_of_any orphaned)
        rw [show job.vigil = Vigil.fresh from may] at opened
        cases opened
    | @block job thread effect pending running may =>
        exact Or.inr (Thread.orphaned_block orphaned effect)
    | @clean job thread cleanup rest ended next =>
        refine Or.inl ?_
        change job.program.pending = none
        rw [ended]
        rfl
    | finish ended done => exact Or.inl ended
    | wake thread elsewhere => exact Or.inr ((Thread.orphaned_wake thread).trans orphaned)
    | exit job opened unawaited => exact Or.inr rfl
    | exitAwaited job opened => exact Or.inr (Thread.orphaned_wake _)
    | _ => exact Or.inr orphaned

namespace State

variable {host : Host} {state next : State} {id other : TaskId} {thread moved : Thread}

/-- The handler of the task's process source has run, and the source exists. -/
def orphaned (state : State) (id : TaskId) : Bool := state.threads[id]?.any Thread.orphaned

theorem orphaned_set (threads : next.threads = state.threads.set other moved)
    (kept : ∀ thread ∈ state.threads[other]?, moved.orphaned = true → thread.orphaned = true)
    (orphaned : next.orphaned id = true) : state.orphaned id = true := by
  unfold State.orphaned at orphaned ⊢
  rw [threads, List.getElem?_set] at orphaned
  split at orphaned
  · rename_i same
    subst same
    split at orphaned
    · rename_i inside
      rw [List.getElem?_eq_getElem inside]
      exact kept _ (List.getElem?_eq_getElem inside) orphaned
    · cases orphaned
  · exact orphaned

theorem orphaned_setThread (moved : Thread) (there : state.threads[other]? = some thread)
    (same : moved.orphaned = thread.orphaned) (id : TaskId) :
    (state.setThread other moved).orphaned id = state.orphaned id := by
  unfold State.orphaned setThread
  rw [List.getElem?_set]
  split
  · rename_i here
    rw [← here, there, if_pos (List.getElem?_eq_some_iff.mp there).1, Option.any_some, same,
      Option.any_some]
  · rfl

theorem orphaned_wakeTask (moved : Thread) (there : state.threads[other]? = some thread)
    (same : moved.orphaned = thread.orphaned) (id : TaskId) :
    (state.wakeTask other moved).orphaned id = state.orphaned id := by
  unfold wakeTask
  split
  · exact orphaned_setThread moved.wake there ((Thread.orphaned_wake moved).trans same) id
  · exact orphaned_setThread moved there same id

theorem orphaned_interruptTask (state : State) (other id : TaskId) (reason : InterruptReason) :
    (state.interruptTask other reason).orphaned id = state.orphaned id := by
  unfold interruptTask
  split
  · rfl
  · rename_i thread there
    split
    · rfl
    · exact orphaned_setThread (thread.interrupt reason) there rfl id

theorem orphaned_interruptSource (state : State) (other id : TaskId)
    (reason : Option InterruptReason) :
    (state.interruptSource other reason).orphaned id = state.orphaned id := by
  cases reason with
  | none => rfl
  | some reason => exact orphaned_interruptTask state other id reason

theorem orphaned_exitReqHandler (state : State) (id : TaskId) :
    state.exitReqHandler.orphaned id = state.orphaned id := by
  unfold exitReqHandler interruptAllTasks
  split
  · rfl
  · change _ = { state with exitRequested := true }.orphaned id
    generalize { state with exitRequested := true } = begin
    generalize List.range _ = ids
    induction ids generalizing begin with
    | nil => rfl
    | cons first rest ih =>
        rw [List.foldl_cons, ih]
        unfold interruptLive
        split
        · exact orphaned_interruptTask begin first id _
        · rfl

theorem orphaned_hangUp (there : state.threads[other]? = some thread) (source : StreamSource)
    (id : TaskId) : (state.hangUp other thread source).orphaned id = state.orphaned id := by
  unfold hangUp
  rw [orphaned_interruptSource]
  split
  · exact orphaned_wakeTask { thread with stream := some { source with armed := false } } there rfl id
  · exact orphaned_setThread { thread with stream := some { source with armed := false } } there rfl id

theorem processExit_eq_some (taken : Daemon.step host state (.processExit id) = some next) :
    ∃ thread event, state.threads[id]? = some thread ∧ thread.pidfd = some event ∧
      next = state.processExit id thread event := by
  obtain ⟨_, taken⟩ := Option.ite_none_left_eq_some.mp taken
  obtain ⟨_, taken⟩ := Option.ite_none_right_eq_some.mp taken
  obtain ⟨thread, there, taken⟩ := Option.bind_eq_some_iff.mp taken
  obtain ⟨event, opened, taken⟩ := Option.bind_eq_some_iff.mp taken
  obtain ⟨_, ⟨⟩⟩ := Option.ite_none_right_eq_some.mp taken
  exact ⟨thread, event, there, opened, rfl⟩

theorem setThread_self (there : state.threads[id]? = some thread) (moved : Thread) :
    (state.setThread id moved).threads[id]? = some moved :=
  List.getElem?_set_self (List.getElem?_eq_some_iff.mp there).1

/-- The handler raises the flag of its own task. -/
theorem orphaned_processExit_self (there : state.threads[id]? = some thread) (event : PidfdEvent) :
    (state.processExit id thread event).orphaned id = true := by
  have raised : ∀ moved : Thread, moved.orphaned = true →
      (state.setThread id moved).orphaned id = true := by
    intro moved orphaned
    rw [State.orphaned, setThread_self there, Option.any_some, orphaned]
  unfold processExit
  split
  · unfold wakeTask
    split
    · exact raised _ (Thread.orphaned_wake _)
    · exact raised _ rfl
  · rw [orphaned_interruptSource]
    exact raised _ rfl

/-- It raises no other flag. -/
theorem orphaned_processExit_ne (different : other ≠ id) (event : PidfdEvent) :
    (state.processExit other thread event).orphaned id = state.orphaned id := by
  have elsewhere : ∀ moved : Thread,
      (state.setThread other moved).orphaned id = state.orphaned id := by
    intro moved
    rw [State.orphaned, setThread, List.getElem?_set_ne different]
    rfl
  unfold processExit
  split
  · unfold wakeTask
    split <;> exact elsewhere _
  · rw [orphaned_interruptSource]
    exact elsewhere _

/-- The flag goes up only when the process has ended. -/
theorem orphaned_step {label : Label} (taken : Daemon.step host state label = some next)
    (orphaned : next.orphaned id = true) : state.orphaned id = true ∨ label = .processExit id := by
  have begun := taken
  obtain ⟨_, taken⟩ := Option.ite_none_left_eq_some.mp taken
  cases label with
  | resume =>
      obtain ⟨_, _, _, _, _, rfl⟩ := resume_eq_some taken
      exact Or.inl orphaned
  | perform event =>
      obtain ⟨current, thread, roster, _, there, _, _, _, rfl⟩ := perform_eq_some taken
      refine Or.inl (orphaned_set (show _ = state.threads.set current (thread.perform event) from rfl)
        ?_ orphaned)
      intro found present raised
      rw [there] at present
      cases present
      exact thread.orphaned_of_observe raised
  | block =>
      obtain ⟨current, thread, _, effect, _, there, _, _, _, _, rfl⟩ := block_eq_some taken
      have same : (thread.block effect).orphaned = thread.orphaned := by
        rw [Thread.orphaned_eq_signal, Thread.signal_block, Thread.orphaned_eq_signal]
      exact Or.inl ((orphaned_setThread (thread.block effect) there same id).symm.trans orphaned)
  | cleanup deleted =>
      obtain ⟨current, thread, _, first, _, _, there, _, _, _, _, rfl⟩ := cleanup_eq_some taken
      refine Or.inl (orphaned_set (show _ = state.threads.set current (thread.clean first) from rfl)
        ?_ orphaned)
      intro found present raised
      rw [there] at present
      cases present
      cases first <;> first | exact raised | cases raised
  | finish =>
      obtain ⟨current, thread, _, _, there, _, _, _, rfl⟩ := finish_eq_some taken
      have same := orphaned_setThread { thread with closed := true } there rfl id
      exact Or.inl (same.symm.trans orphaned)
  | accept pid =>
      obtain ⟨_, taken⟩ := Option.ite_none_right_eq_some.mp taken
      obtain ⟨_, threads, _⟩ := accept_appends taken
      obtain ⟨found, present, raised⟩ := (Option.any_eq_true _ _).mp orphaned
      rw [threads] at present
      rcases getElem?_snoc present with old | ⟨_, rfl⟩
      · exact Or.inl ((Option.any_eq_true _ _).mpr ⟨found, old, raised⟩)
      · cases raised
  | exitSignal =>
      obtain ⟨_, ⟨⟩⟩ := Option.ite_none_right_eq_some.mp taken
      exact Or.inl ((orphaned_exitReqHandler state id).symm.trans orphaned)
  | reply other =>
      obtain ⟨_, taken⟩ := Option.ite_none_right_eq_some.mp taken
      obtain ⟨thread, there, taken⟩ := Option.bind_eq_some_iff.mp taken
      obtain ⟨_, ⟨⟩⟩ := Option.ite_none_right_eq_some.mp taken
      exact Or.inl ((orphaned_wakeTask thread there rfl id).symm.trans orphaned)
  | hangUp other =>
      obtain ⟨_, taken⟩ := Option.ite_none_right_eq_some.mp taken
      obtain ⟨thread, there, taken⟩ := Option.bind_eq_some_iff.mp taken
      obtain ⟨source, _, taken⟩ := Option.bind_eq_some_iff.mp taken
      obtain ⟨_, ⟨⟩⟩ := Option.ite_none_right_eq_some.mp taken
      exact Or.inl ((orphaned_hangUp there source id).symm.trans orphaned)
  | processExit other =>
      obtain ⟨thread, event, _, _, rfl⟩ := processExit_eq_some begun
      by_cases same : other = id
      · exact Or.inr (congrArg Label.processExit same)
      · exact Or.inl ((orphaned_processExit_ne same event).symm.trans orphaned)
  | endHandler other =>
      obtain ⟨_, taken⟩ := Option.ite_none_right_eq_some.mp taken
      obtain ⟨thread, there, taken⟩ := Option.bind_eq_some_iff.mp taken
      obtain ⟨_, ⟨⟩⟩ := Option.ite_none_right_eq_some.mp taken
      have same := orphaned_setThread { thread with freed := true } there rfl id
      exact Or.inl (same.symm.trans orphaned)

/-- The daemon knows of each process that has ended, as long as it matters. -/
structure Vigilant (past : List Label) (state : State) : Prop where
  orderly : state.Orderly
  watched : ∀ id task, state.task id = some task → Watched task
  known : ∀ id, .processExit id ∈ past → id < state.threads.length
  exited : ∀ id, state.orphaned id = true → .processExit id ∈ past
  informed : ∀ id, .processExit id ∈ past → ∀ task, state.task id = some task → Informed task

theorem Vigilant.step {past : List Label} {label : Label} (vigilant : Vigilant past state)
    (taken : Daemon.step host state label = some next) : Vigilant (past ++ [label]) next where
  orderly := vigilant.orderly.step taken
  watched := tasks_step Watched (watched_new host) (fun _ _ watched acts => watched.acts acts)
    vigilant.orderly.aligned vigilant.watched taken
  known := by
    intro id ended
    rcases List.mem_append.mp ended with before | now
    · exact (vigilant.known id before).trans_le (length_le_step (step_advances taken))
    · rw [← List.mem_singleton.mp now] at taken
      obtain ⟨thread, event, there, _, _⟩ := processExit_eq_some taken
      exact (List.getElem?_eq_some_iff.mp there).1.trans_le (length_le_step (step_advances taken))
  exited := by
    intro id orphaned
    rcases orphaned_step taken orphaned with before | rfl
    · exact List.mem_append_left _ (vigilant.exited id before)
    · exact List.mem_append_right _ (List.mem_singleton.mpr rfl)
  informed := by
    intro id ended task present
    rcases List.mem_append.mp ended with before | now
    · rcases (step_advances taken).evolves with evolves | ⟨pid, arrived⟩
      · obtain ⟨old, found, acts⟩ := evolves id _ present
        have informed := vigilant.informed id before old found
        have watched := vigilant.watched id old found
        clear present evolves
        suffices both : Informed task ∧ Watched task from both.1
        induction acts with
        | refl => exact ⟨informed, watched⟩
        | tail _ last ih => exact ⟨ih.1.acts ih.2 last, ih.2.acts last⟩
      · rcases accept_task vigilant.orderly.aligned arrived present with old | ⟨last, _⟩
        · exact vigilant.informed id before _ old
        · exact absurd last (vigilant.known id before).ne
    · rw [← List.mem_singleton.mp now] at taken
      obtain ⟨before, event, there, _, rfl⟩ := processExit_eq_some taken
      obtain ⟨job, thread⟩ := task
      have raised := orphaned_processExit_self there event
      rw [State.orphaned, (task_eq_some.mp present).2] at raised
      exact Or.inr raised

theorem vigilant_of_exec {labels : List Label}
    (ran : Run.exec (Daemon.step host) start labels = some state) : Vigilant labels state := by
  have starts : Vigilant [] start := by
    refine ⟨start_orderly, ?_, nofun, nofun, nofun⟩
    rintro id ⟨job, thread⟩ present
    exact absurd (task_eq_some.mp present).1 (by simp [start, Roster.empty])
  exact Run.exec_history Vigilant (fun _ _ _ _ vigilant taken => vigilant.step taken) starts ran

/-- The handler wakes the task that waits for the process. -/
theorem processExit_wakes {event : PidfdEvent} (there : state.threads[id]? = some thread)
    (blocked : thread.wait = .blocked) (awaited : event.waitForExit = true) :
    id ∈ (state.processExit id thread event).ready ∧
      ∃ moved, (state.processExit id thread event).threads[id]? = some moved ∧
        moved.wait = .woken false := by
  simp only [processExit, awaited, ↓reduceIte, wakeTask, blocked]
  refine ⟨List.mem_append_right _ (List.mem_singleton.mpr rfl), _, setThread_self there _, ?_⟩
  rfl

section Exit

variable {job : Job} {past : List Label}

/-- The source that a blocked task waits for is on and its handler has not run. -/
theorem Vigilant.armed (vigilant : Vigilant past state)
    (present : state.task id = some (job, thread)) (awaits : AwaitsExit (job, thread)) :
    ∃ event, thread.pidfd = some event ∧ event.armed = true ∧ event.terminated = false ∧
      event.waitForExit = true := by
  obtain ⟨blocked, pending⟩ := awaits
  have watched := vigilant.watched id _ present
  have vigil : job.vigil = ⟨true, false⟩ := watched.follows.may_pending pending
  have unfinished : job.program.pending ≠ none := by
    rw [show job.program.pending = some .waitForExit from pending]
    nofun
  obtain ⟨armed, terminated, signal, lives⟩ := watched.source unfinished vigil
  obtain ⟨event, opened, flags⟩ := Option.map_eq_some_iff.mp signal
  obtain ⟨awaited, running⟩ :=
    (vigilant.orderly.fits id _ present).exiting blocked pending event opened
  cases flags
  rw [running] at lives
  exact ⟨event, opened, lives.resolve_right nofun, running, awaited⟩

theorem Vigilant.not_exited (vigilant : Vigilant past state)
    (present : state.task id = some (job, thread)) (awaits : AwaitsExit (job, thread)) :
    .processExit id ∉ past := by
  intro ended
  obtain ⟨event, opened, -, running, -⟩ := vigilant.armed present awaits
  rcases vigilant.informed id ended _ present with finished | orphaned
  · cases awaits.2.symm.trans finished
  · have orphaned : thread.pidfd.any PidfdEvent.terminated = true := orphaned
    rw [opened, Option.any_some, running] at orphaned
    cases orphaned

/-- The exit of the process makes the task ready. -/
theorem processExit_resumes {event : PidfdEvent} (present : state.task id = some (job, thread))
    (blocked : thread.wait = .blocked) (opened : thread.pidfd = some event)
    (awaited : event.waitForExit = true)
    (taken : Daemon.step host state (.processExit id) = some next) :
    id ∈ next.ready ∧
      ∃ moved, next.task id = some (job, moved) ∧ moved.wait = .woken false := by
  obtain ⟨here, there⟩ := task_eq_some.mp present
  obtain ⟨found, source, same, reached, rfl⟩ := processExit_eq_some taken
  rw [there] at same
  cases same
  rw [opened] at reached
  cases reached
  obtain ⟨ready, moved, moves, woken⟩ := processExit_wakes there blocked awaited
  have roster := (handled_processExit there opened).sameWork.roster
  exact ⟨ready, moved, task_eq_some.mpr ⟨roster ▸ here, moves⟩, woken⟩

/-- A wait that returns 0 has seen the exit. -/
theorem Vigilant.exited_of_waited (vigilant : Vigilant past state)
    (present : state.task id = some (job, thread)) (current : state.current = some id)
    (taken : Daemon.step host state (.perform ⟨.waitForExit, Awaited.value ()⟩) = some next) :
    .processExit id ∈ past := by
  obtain ⟨here, there⟩ := task_eq_some.mp present
  obtain ⟨_, taken⟩ := Option.ite_none_left_eq_some.mp taken
  obtain ⟨other, found, roster, runs, same, accepts, _, moved, _⟩ := perform_eq_some taken
  rw [current] at runs
  cases runs
  rw [there] at same
  cases same
  obtain ⟨started, rest, begun, advanced, _⟩ := Roster.perform_eq_some.mp moved
  rw [here] at begun
  cases begun
  apply vigilant.exited id
  rw [State.orphaned, there, Option.any_some]
  unfold Thread.accepts at accepts
  split at accepts
  · exact accepts
  · cases accepts
  · rename_i cancelled woken
    have kept : cancelled = false := (Option.some.inj (eq_of_beq accepts)).symm
    exact (vigilant.watched id _ present).told (Coro.advance_pending advanced) (kept ▸ woken)

end Exit

end State

/-- The exit of a process is never lost. A task that is blocked in
`pidfd_event_wait_for_exit` waits for a handler that has not run, that is switched
on and that will wake it; and `pidfd_event_wait_for_exit` returns 0 only if the
process has ended. -/
theorem process_exit_noticed (host : Host) (labels : List Label) (state : State) (id : TaskId)
    (job : Job) (thread : Thread) (ran : Run.exec (step host) start labels = some state)
    (present : state.task id = some (job, thread)) :
    (AwaitsExit (job, thread) →
      .processExit id ∉ labels ∧
      (∃ event, thread.pidfd = some event ∧ event.armed = true) ∧
      ∀ next, step host state (.processExit id) = some next →
        id ∈ next.ready ∧ ∃ moved, next.task id = some (job, moved) ∧ moved.wait = .woken false) ∧
    ∀ next, state.current = some id →
      step host state (.perform ⟨.waitForExit, Awaited.value ()⟩) = some next →
        .processExit id ∈ labels := by
  have vigilant := State.vigilant_of_exec ran
  constructor
  · intro awaits
    obtain ⟨event, opened, armed, -, awaited⟩ := vigilant.armed present awaits
    refine ⟨vigilant.not_exited present awaits, ⟨event, opened, armed⟩, fun next taken => ?_⟩
    exact State.processExit_resumes present awaits.1 opened awaited taken
  · intro next current taken
    exact vigilant.exited_of_waited present current taken

/-- The stream is shut down after the message that lets the client proceed. -/
def shutDown : List (Event Effect Response) :=
  [⟨.drainStream, (0 : Int)⟩, written [] 0, ⟨.shutdownTail, (0 : Int)⟩]

/-- A task up to its wait for the process. -/
def awaitingClient : List Label :=
  [.accept 7, .resume] ++
    script 0 (limitedClient ++ startLogged ++ [written proceedMsg maxIoUsec] ++ shutDown) ++ [.block]

/-- The process ends in the write whose return code is ignored. -/
def endedInWrite : List Label :=
  [.accept 7, .resume] ++ script 0 (limitedClient ++ startLogged) ++
    [.block, .processExit 0, .resume,
      .perform ⟨.streamIo .write proceedMsg maxIoUsec, Awaited.cancelled⟩] ++ script 0 shutDown

theorem process_exit_noticed_once :
    (∃ state ∈ Run.exec (step scopeHost) start awaitingClient,
      ∃ next ∈ step scopeHost state (.processExit 0), 0 ∈ next.ready) ∧
    ∃ state ∈ Run.exec (step scopeHost) start endedInWrite,
      ∃ next ∈ step scopeHost state (.perform ⟨.waitForExit, Awaited.value ()⟩),
        next.current = some 0 ∧ .processExit 0 ∈ endedInWrite := by
  have waits : ∃ state ∈ Run.exec (step scopeHost) start awaitingClient,
      ∃ task ∈ state.task 0, AwaitsExit task ∧ ∃ next ∈ step scopeHost state (.processExit 0),
        next.ready = [0] := by decide +kernel
  have returns : ∃ state ∈ Run.exec (step scopeHost) start endedInWrite,
      ∃ task ∈ state.task 0, task.2.closed = false ∧ state.current = some 0 ∧
        ∃ next ∈ step scopeHost state (.perform ⟨.waitForExit, Awaited.value ()⟩),
          next.current = some 0 := by decide +kernel
  obtain ⟨waiting, begun, ⟨job, thread⟩, blocked, awaits, woken, ended, _⟩ := waits
  obtain ⟨running, ran, ⟨other, moving⟩, present, _, current, next, returned, goes⟩ := returns
  have notices := process_exit_noticed scopeHost awaitingClient waiting 0 job thread begun blocked
  have tells := process_exit_noticed scopeHost endedInWrite running 0 other moving ran present
  exact ⟨⟨waiting, begun, woken, ended, ((notices.1 awaits).2.2 woken ended).1⟩,
    running, ran, next, returned, goes, tells.2 next current returned⟩

end TrafficLimitd.Daemon
