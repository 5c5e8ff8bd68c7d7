import TrafficLimitd.DaemonTasks

set_option autoImplicit false

/- What holds of every task of the daemon at any time: its handler's side and its
scheduler's side fit. -/
namespace TrafficLimitd.Daemon

open Coroutine Handler

/-- The two sides of a task fit: a closed task has nothing left to do, a task that
waits is at a call that may wait, and one that waits for its process is known to
the process's event source. -/
structure Fits (task : Task) : Prop where
  closed : task.2.closed = true → task.1.program = .pure () ∧ task.1.cleanups = []
  freed : task.2.freed = true → task.2.closed = true
  waiting : task.2.wait ≠ .running →
    ∃ effect, task.1.program.pending = some effect ∧ effect.waits = true
  exiting : task.2.wait = .blocked → task.1.program.pending = some .waitForExit →
    ∀ event, task.2.pidfd = some event → event.waitForExit = true ∧ event.terminated = false

namespace Thread

theorem observe_life (thread : Thread) (effect : Effect) (answer : Response effect) :
    (thread.observe effect answer).closed = thread.closed ∧
      (thread.observe effect answer).freed = thread.freed := by
  unfold observe
  split
  · split <;> exact ⟨rfl, rfl⟩
  · exact ⟨rfl, rfl⟩
  · split <;> exact ⟨rfl, rfl⟩
  · exact ⟨rfl, rfl⟩
  · split <;> exact ⟨rfl, rfl⟩
  · exact ⟨rfl, rfl⟩
  · exact ⟨rfl, rfl⟩

theorem block_life (thread : Thread) (effect : Effect) :
    (thread.block effect).closed = thread.closed ∧
      (thread.block effect).freed = thread.freed := by
  unfold block
  split <;> exact ⟨rfl, rfl⟩

theorem clean_life (thread : Thread) (cleanup : Cleanup) :
    (thread.clean cleanup).closed = thread.closed ∧
      (thread.clean cleanup).freed = thread.freed ∧
      (thread.clean cleanup).wait = thread.wait := by
  cases cleanup <;> exact ⟨rfl, rfl, rfl⟩

theorem wake_life (thread : Thread) :
    thread.wake.closed = thread.closed ∧ thread.wake.freed = thread.freed ∧
      thread.wake.wait ≠ .blocked ∧ (thread.wake.wait ≠ .running → thread.wait ≠ .running) := by
  unfold wake
  split
  · rename_i blocked
    exact ⟨rfl, rfl, nofun, fun _ running => by rw [blocked] at running; cases running⟩
  · rename_i awake
    exact ⟨rfl, rfl, awake, id⟩

theorem waits_of_mayBlock {thread : Thread} {effect : Effect}
    (may : thread.mayBlock effect = true) : effect.waits = true := by
  unfold mayBlock at may
  split at may
  · rfl
  · exact may

end Thread

theorem pure_of_pending {job : Job} (ended : job.program.pending = none) :
    job.program = .pure () := by
  cases program : job.program with
  | pure value => rfl
  | call effect next =>
      rw [program] at ended
      cases ended

theorem Fits.not_closed {job : Job} {thread : Thread} (fits : Fits (job, thread)) {effect : Effect}
    (pending : job.program.pending = some effect) : thread.closed = false := by
  refine Bool.eq_false_iff.mpr fun closed => ?_
  rw [show job.program = .pure () from (fits.closed closed).1] at pending
  cases pending

theorem Fits.acts {before after : Task} (fits : Fits before) (acts : Acts before after) :
    Fits after := by
  cases acts with
  | @perform job thread event rest accepts advanced =>
      have alive := fits.not_closed (Coro.advance_pending advanced)
      obtain ⟨closed, freed⟩ := thread.observe_life event.effect event.answer
      refine ⟨fun now => ?_, fun now => ?_, fun waits => absurd rfl waits, nofun⟩
      · rw [show (thread.perform event).closed = thread.closed from closed, alive] at now
        cases now
      · rw [show (thread.perform event).freed = thread.freed from freed] at now
        exact closed.trans (fits.freed now)
  | @block job thread effect pending running may =>
      obtain ⟨closed, freed⟩ := thread.block_life effect
      refine ⟨fun now => fits.closed (closed ▸ now), fun now => ?_, fun _ => ?_, ?_⟩
      · exact closed.trans (fits.freed (freed ▸ now))
      · exact ⟨effect, pending, Thread.waits_of_mayBlock may⟩
      · intro _ exiting event opened
        have same : effect = .waitForExit := Option.some.inj (pending.symm.trans exiting)
        subst same
        obtain ⟨old, was, rfl⟩ := Option.map_eq_some_iff.mp opened
        refine ⟨rfl, ?_⟩
        simpa [Thread.mayBlock, was] using may
  | @clean job thread cleanup rest ended next =>
      obtain ⟨closed, freed, wait⟩ := thread.clean_life cleanup
      have idle : thread.wait = .running := by
        by_contra waits
        obtain ⟨effect, pending, _⟩ := fits.waiting waits
        rw [show job.program = .pure () from ended] at pending
        cases pending
      refine ⟨fun now => ?_, fun now => ?_, fun waits => absurd (wait.trans idle) waits,
        fun blocked => ?_⟩
      · have empty := (fits.closed (closed ▸ now)).2
        rw [show job.cleanups = cleanup :: rest from next] at empty
        cases empty
      · exact closed.trans (fits.freed (freed ▸ now))
      · rw [show (thread.clean cleanup).wait = .running from wait.trans idle] at blocked
        cases blocked
  | @finish job thread ended done =>
      exact ⟨fun _ => ⟨pure_of_pending ended, done⟩, fun _ => rfl, fits.waiting, fits.exiting⟩
  | wake thread elsewhere =>
      obtain ⟨closed, freed, awake, waits⟩ := thread.wake_life
      exact ⟨fun now => fits.closed (closed ▸ now), fun now => closed.trans (fits.freed (freed ▸ now)),
        fun waiting => fits.waiting (waits waiting), fun blocked => absurd blocked awake⟩
  | @interrupt job thread enabled reason =>
      refine ⟨fits.closed, fits.freed, fun waiting => fits.waiting fun running => ?_, fun blocked => ?_⟩
      · exact waiting (if_pos running)
      · simp only [Thread.interrupt] at blocked
        split at blocked <;> cases blocked
  | hangUp job thread source => exact ⟨fits.closed, fits.freed, fits.waiting, fits.exiting⟩
  | @exit job thread event opened unawaited =>
      refine ⟨fits.closed, fits.freed, fits.waiting, fun blocked exiting => ?_⟩
      have awaited := (fits.exiting blocked exiting event opened).1
      rw [unawaited] at awaited
      cases awaited
  | @exitAwaited job thread event opened =>
      obtain ⟨closed, freed, awake, waits⟩ := Thread.wake_life { thread with
        pidfd := some { event with armed := false, terminated := true, waitForExit := false } }
      exact ⟨fun now => fits.closed (closed ▸ now), fun now => closed.trans (fits.freed (freed ▸ now)),
        fun waiting => fits.waiting (waits waiting), fun blocked => absurd blocked awake⟩
  | @free job thread closed =>
      exact ⟨fits.closed, fun _ => closed, fits.waiting, fits.exiting⟩

theorem fits_new (host : Host) (pid : Pid) : Fits (newJob host pid, newThread) where
  closed := nofun
  freed := nofun
  waiting := fun waits => absurd rfl waits
  exiting := nofun

namespace State

/-- Somebody will see to the task: it waits, it is ready, it runs, or it is over. -/
def Attended (state : State) : Prop :=
  ∀ (id : TaskId) (thread : Thread), state.threads[id]? = some thread →
    thread.closed = true ∨ thread.wait = .blocked ∨ id ∈ state.ready ∨ state.current = some id

/-- Every task has both its sides, they fit, and no task is forgotten. -/
structure Orderly (state : State) : Prop where
  aligned : state.threads.length = state.roster.jobs.length
  fits : ∀ id task, state.task id = some task → Fits task
  attended : state.Attended

end State

theorem start_orderly : start.Orderly where
  aligned := rfl
  fits := by
    rintro id ⟨job, thread⟩ present
    obtain ⟨here, _⟩ := State.task_eq_some.mp present
    exact absurd here (by simp [start, Roster.empty])
  attended := by
    intro id thread there
    exact absurd there (by simp [start])

theorem getElem?_snoc {α : Type} {list : List α} {last found : α} {index : Nat}
    (present : (list ++ [last])[index]? = some found) :
    list[index]? = some found ∨ (index = list.length ∧ found = last) := by
  rw [List.getElem?_append] at present
  split at present
  · exact Or.inl present
  · obtain ⟨inside, same⟩ := List.getElem?_eq_some_iff.mp present
    rw [List.length_singleton] at inside
    refine Or.inr ⟨by omega, ?_⟩
    rw [← same, List.getElem_singleton]

theorem accept_appends {host : Host} {state next : State} {pid : Pid}
    (taken : state.accept host pid = some next) :
    next.roster.jobs = state.roster.jobs ++ [newJob host pid] ∧
      next.threads = state.threads ++ [newThread] ∧
      next.ready = state.ready ++ [state.threads.length] ∧ next.current = state.current := by
  obtain ⟨roster, created, rfl⟩ := Option.map_eq_some_iff.mp taken
  have same : roster = state.roster.create host pid := (Option.some.inj created).symm
  exact ⟨congrArg Roster.jobs same, rfl, rfl, rfl⟩

namespace State

variable {host : Host} {state next : State} {id : TaskId}

/-- The tasks after an arrival: the old ones and the new one. -/
theorem accept_task {pid : Pid} (aligned : state.threads.length = state.roster.jobs.length)
    (taken : state.accept host pid = some next) {task : Task}
    (present : next.task id = some task) :
    state.task id = some task ∨
      (id = state.threads.length ∧ task = (newJob host pid, newThread)) := by
  obtain ⟨job, thread⟩ := task
  obtain ⟨here, there⟩ := task_eq_some.mp present
  obtain ⟨jobs, threads, _⟩ := accept_appends taken
  rw [jobs] at here
  rw [threads] at there
  rcases getElem?_snoc there with old | ⟨last, rfl⟩
  · rw [List.getElem?_append_left (aligned ▸ (List.getElem?_eq_some_iff.mp old).1)] at here
    exact Or.inl (task_eq_some.mpr ⟨here, old⟩)
  · rw [last, aligned, List.getElem?_concat_length] at here
    exact Or.inr ⟨last, Prod.ext (Option.some.inj here).symm rfl⟩

theorem aligned_step (aligned : state.threads.length = state.roster.jobs.length)
    (advances : Advances host state next) :
    next.threads.length = next.roster.jobs.length := by
  cases advances with
  | resume id rest free ready same =>
      subst same
      exact aligned
  | work current present acts jobs threads =>
      rw [jobs, threads, List.length_set, List.length_set, aligned]
  | arrive pid accepted =>
      obtain ⟨jobs, threads, _⟩ := accept_appends accepted
      rw [jobs, threads, List.length_append, List.length_append, aligned]
      rfl
  | handle handled =>
      rw [handled.sameWork.threads, handled.sameWork.roster, aligned]

/-- No task ever disappears from the list. -/
theorem length_le_step (advances : Advances host state next) :
    state.threads.length ≤ next.threads.length := by
  cases advances with
  | resume id rest free ready same =>
      subst same
      exact Nat.le_refl _
  | work current present acts jobs threads =>
      rw [threads, List.length_set]
  | arrive pid accepted =>
      rw [(accept_appends accepted).2.1, List.length_append]
      exact Nat.le_add_right _ _
  | handle handled => exact handled.sameWork.threads.ge

theorem mem_enqueue {other : TaskId} (present : other ∈ state.ready) :
    other ∈ (state.enqueue id).ready := by
  by_cases same : other = id
  · exact List.mem_append_right _ (List.mem_singleton.mpr same)
  · exact List.mem_append_left _ ((List.mem_erase_of_ne same).mpr present)

/-- Only the task that changes has to be looked at. -/
theorem Attended.set {thread moved : Thread} (attended : state.Attended)
    (there : state.threads[id]? = some thread) (threads : next.threads = state.threads.set id moved)
    (ready : ∀ other ∈ state.ready, other ∈ next.ready)
    (current : ∀ other, other ≠ id → state.current = some other → next.current = some other)
    (own : moved.closed = true ∨ moved.wait = .blocked ∨ id ∈ next.ready ∨ next.current = some id) :
    next.Attended := by
  intro other found present
  rw [threads] at present
  by_cases same : other = id
  · rw [same, List.getElem?_set_self (List.getElem?_eq_some_iff.mp there).1] at present
    cases present
    exact same ▸ own
  · rw [List.getElem?_set_ne (Ne.symm same)] at present
    rcases attended other found present with closed | waits | waiting | runs
    · exact Or.inl closed
    · exact Or.inr (Or.inl waits)
    · exact Or.inr (Or.inr (Or.inl (ready other waiting)))
    · exact Or.inr (Or.inr (Or.inr (current other same runs)))

theorem Attended.handles (attended : state.Attended) (handles : Handles state next) :
    next.Attended := by
  cases handles with
  | @touch id thread moved there acts wait closed =>
      refine attended.set there rfl (fun _ ready => ready) (fun _ _ runs => runs) ?_
      rw [closed, wait]
      exact attended id thread there
  | @schedule id thread moved there acts =>
      refine attended.set there rfl (fun _ => mem_enqueue) (fun _ _ runs => runs) ?_
      exact Or.inr (Or.inr (Or.inl (List.mem_append_right _ (List.mem_singleton.mpr rfl))))
  | request => exact attended

theorem Attended.step (attended : state.Attended) (advances : Advances host state next) :
    next.Attended := by
  cases advances with
  | resume id rest free ready same =>
      subst same
      intro other thread there
      rcases attended other thread there with closed | waits | waiting | runs
      · exact Or.inl closed
      · exact Or.inr (Or.inl waits)
      · rw [ready] at waiting
        rcases List.mem_cons.mp waiting with rfl | waiting
        · exact Or.inr (Or.inr (Or.inr rfl))
        · exact Or.inr (Or.inr (Or.inl waiting))
      · rw [free] at runs
        cases runs
  | work current present acts jobs threads ready left =>
      refine attended.set (task_eq_some.mp present).2 threads (fun _ waiting => ready ▸ waiting)
        (fun other different runs => ?_) ?_
      · exact absurd (Option.some.inj (runs.symm.trans current)) different
      · rcases left with runs | waits | closed
        · exact Or.inr (Or.inr (Or.inr runs))
        · exact Or.inr (Or.inl waits)
        · exact Or.inl closed
  | arrive pid accepted =>
      obtain ⟨_, threads, ready, current⟩ := accept_appends accepted
      intro other thread there
      rw [threads] at there
      rw [ready, current]
      rcases getElem?_snoc there with old | ⟨last, _⟩
      · rcases attended other thread old with closed | waits | waiting | runs
        · exact Or.inl closed
        · exact Or.inr (Or.inl waits)
        · exact Or.inr (Or.inr (Or.inl (List.mem_append_left _ waiting)))
        · exact Or.inr (Or.inr (Or.inr runs))
      · exact Or.inr (Or.inr (Or.inl (List.mem_append_right _ (List.mem_singleton.mpr last))))
  | handle handled =>
      induction handled with
      | refl => exact attended
      | tail _ last ih => exact ih.handles last

/-- What new tasks have and nothing that happens to a task takes away, all tasks
have. -/
theorem tasks_step {label : Label} (kind : Task → Prop)
    (fresh : ∀ pid, kind (newJob host pid, newThread))
    (kept : ∀ before after, kind before → Acts before after → kind after)
    (aligned : state.threads.length = state.roster.jobs.length)
    (holds : ∀ id task, state.task id = some task → kind task)
    (taken : Daemon.step host state label = some next) :
    ∀ id task, next.task id = some task → kind task := by
  intro id task present
  rcases (step_advances taken).evolves with evolves | ⟨pid, arrived⟩
  · obtain ⟨before, old, acts⟩ := evolves id task present
    have begun := holds id before old
    clear present evolves
    induction acts with
    | refl => exact begun
    | tail _ last ih => exact kept _ _ ih last
  · rcases accept_task aligned arrived present with old | ⟨_, rfl⟩
    · exact holds id task old
    · exact fresh pid

theorem Orderly.step {label : Label} (orderly : state.Orderly)
    (taken : Daemon.step host state label = some next) : next.Orderly where
  aligned := aligned_step orderly.aligned (step_advances taken)
  fits := tasks_step Fits (fits_new host) (fun _ _ fits acts => fits.acts acts) orderly.aligned
    orderly.fits taken
  attended := orderly.attended.step (step_advances taken)

end State

end TrafficLimitd.Daemon
