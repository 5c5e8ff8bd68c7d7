import TrafficLimitd.SchedulerRefinement

set_option autoImplicit false

/- The end of a task: once it is closed its node stays out of every ring, and
its memory is freed once, by the deferred end handler. -/
namespace TrafficLimitd.Scheduler

open CircularList (Links)

/-- A task that is closed is in no queue and can only be found through the list
of all tasks, until its end handler has run. -/
structure Ended (queues : Queues) (id : TaskId) (task : TaskState) : Prop where
  inactive : .task id ∉ queues.active
  awake : ∀ event, id ∉ queues.waiting event
  sources : task.sources = false
  freed : task.freed + task.deferred.toNat = 1

/-- A task that is not closed has not been freed and is not going to be. -/
structure Alive (task : TaskState) : Prop where
  deferred : task.deferred = false
  freed : task.freed = 0

structure Lifetimes (queues : Queues) : Prop where
  ended : ∀ (id : TaskId) task, queues.tasks[id]? = some task → task.closed = true → Ended queues id task
  alive : ∀ (id : TaskId) task, queues.tasks[id]? = some task → task.closed = false → Alive task
  listed : ∀ id ∈ queues.all, ∀ task, queues.tasks[id]? = some task → task.freed = 0

/-- When the exit signal is dispatched, the interrupts of every task that has
ended and is not freed yet are disabled. -/
def ExitAfterEnds (state : State) : Label → Prop
  | .exitSignal =>
      state.exitRequested = false → ∀ task ∈ state.tasks, task.closed = true →
        task.freed = 0 → task.interruptDisabled = true
  | _ => True

instance (state : State) : DecidablePred (ExitAfterEnds state)
  | .exitSignal => inferInstanceAs (Decidable (state.exitRequested = false →
      ∀ task ∈ state.tasks, task.closed = true → task.freed = 0 →
        task.interruptDisabled = true))
  | .turn | .wait _ | .openSource | .setInterruptDisabled _ | .finish | .create | .set _
  | .hangUp _ _ | .interrupt _ | .endHandler _ => isTrue trivial

variable {queues after : Queues}

theorem Ended.wake {id : TaskId} {task : TaskState} (ended : Ended queues id task)
    (event : EventId) : Ended (queues.wake event) id task where
  inactive := by
    simp only [Queues.wake, List.mem_append, List.mem_map, Runner.task.injEq, exists_eq_right,
      not_or]
    exact ⟨ended.inactive, ended.awake event⟩
  awake other := by
    simp only [Queues.wake, Function.update_apply]
    split
    · exact List.not_mem_nil
    · exact ended.awake other
  sources := ended.sources
  freed := ended.freed

theorem Ended.switch {id : TaskId} {task : TaskState} (ended : Ended queues id task)
    (switched : queues.switch = some after) : Ended after id task := by
  obtain ⟨runner, rest, active, rfl⟩ := Queues.switch_eq_some switched
  refine ⟨fun queued => ended.inactive ?_, ended.awake, ended.sources, ended.freed⟩
  rw [active]
  exact List.mem_cons_of_mem _ queued

theorem Ended.cancel {id other : TaskId} {task : TaskState} (ended : Ended queues id task)
    (different : id ≠ other) : Ended (queues.cancel other) id task where
  inactive := by
    simp only [Queues.cancel, Queues.ready, Queues.remove, List.mem_append, List.mem_singleton,
      Runner.task.injEq, not_or]
    exact ⟨fun queued => ended.inactive (List.mem_of_mem_erase queued), different⟩
  awake event := fun queued => ended.awake event (List.mem_of_mem_erase queued)
  sources := ended.sources
  freed := ended.freed

theorem Lifetimes.wake (lifetimes : Lifetimes queues) (event : EventId) :
    Lifetimes (queues.wake event) where
  ended id task found closed := (lifetimes.ended id task found closed).wake event
  alive := lifetimes.alive
  listed := lifetimes.listed

theorem Lifetimes.switch (lifetimes : Lifetimes queues) (switched : queues.switch = some after) :
    Lifetimes after := by
  obtain ⟨tasks, all, -⟩ := switch_keeps switched
  refine ⟨fun id task found closed => ?_, ?_, ?_⟩
  · exact (lifetimes.ended id task (tasks ▸ found) closed).switch switched
  · exact tasks ▸ lifetimes.alive
  · exact all ▸ tasks ▸ lifetimes.listed

/-- An interrupt reaches a task that is not closed, or has no effect. -/
theorem Lifetimes.interrupt (lifetimes : Lifetimes queues) (id : TaskId)
    (harmless : ∀ task, queues.tasks[id]? = some task → task.closed = true →
      task.interruptDisabled = true) : Lifetimes (queues.interrupt id) := by
  unfold Queues.interrupt
  cases found : queues.tasks[id]? with
  | none => exact lifetimes
  | some task =>
      dsimp only
      split
      · exact lifetimes
      · rename_i enabled
        refine ⟨fun other ended otherFound closed => ?_, lifetimes.alive, lifetimes.listed⟩
        refine (lifetimes.ended other ended otherFound closed).cancel ?_
        rintro rfl
        obtain rfl : task = ended := Option.some.inj (found.symm.trans otherFound)
        exact enabled (harmless task otherFound closed)

theorem Lifetimes.interrupt_each (lifetimes : Lifetimes queues) (ids : List TaskId)
    (harmless : ∀ id ∈ ids, ∀ task, queues.tasks[id]? = some task → task.closed = true →
      task.interruptDisabled = true) : Lifetimes (ids.foldl Queues.interrupt queues) := by
  induction ids generalizing queues with
  | nil => exact lifetimes
  | cons id rest ih =>
      rw [List.forall_mem_cons] at harmless
      refine ih (lifetimes.interrupt id harmless.1) ?_
      simpa only [interrupt_tasks] using harmless.2

theorem Lifetimes.modifyTask (lifetimes : Lifetimes queues) (id : TaskId)
    (change : TaskState → TaskState)
    (ended : ∀ task, queues.tasks[id]? = some task → (change task).closed = true →
      Ended queues id (change task))
    (alive : ∀ task, queues.tasks[id]? = some task → (change task).closed = false →
      Alive (change task))
    (listed : id ∈ queues.all → ∀ task, queues.tasks[id]? = some task →
      (change task).freed = 0) : Lifetimes (queues.modifyTask id change) := by
  refine ⟨fun other task found closed => ?_, fun other task found opened => ?_,
    fun other member task found => ?_⟩
  · rcases modifyTask_lookup found with ⟨rfl, before, foundBefore, rfl⟩ | ⟨-, unchanged⟩
    · exact { ended before foundBefore closed with }
    · exact { lifetimes.ended other task unchanged closed with }
  · rcases modifyTask_lookup found with ⟨rfl, before, foundBefore, rfl⟩ | ⟨-, unchanged⟩
    · exact alive before foundBefore opened
    · exact lifetimes.alive other task unchanged opened
  · rcases modifyTask_lookup found with ⟨rfl, before, foundBefore, rfl⟩ | ⟨-, unchanged⟩
    · exact listed member before foundBefore
    · exact lifetimes.listed other member task unchanged

/-- A running task changes one of its own flags. -/
theorem Lifetimes.setFlag (lifetimes : Lifetimes queues) {id : TaskId}
    (change : TaskState → TaskState) (running : queues.running = some id)
    (kept : ∀ task, (change task).closed = task.closed ∧
      (change task).deferred = task.deferred ∧ (change task).freed = task.freed) :
    Lifetimes (queues.modifyTask id change) := by
  obtain ⟨-, current, found, opened⟩ := current_of_running running
  have only {task : TaskState} (same : queues.tasks[id]? = some task) : task = current :=
    Option.some.inj (same.symm.trans found)
  have alive := lifetimes.alive id current found opened
  refine lifetimes.modifyTask id change ?_ ?_ ?_
  · intro task same closed
    rw [(kept task).1, only same, opened] at closed
    cases closed
  · intro task same _
    obtain rfl := only same
    exact ⟨(kept task).2.1.trans alive.deferred, (kept task).2.2.trans alive.freed⟩
  · intro _ task same
    obtain rfl := only same
    exact (kept task).2.2.trans alive.freed

theorem Lifetimes.finish (lifetimes : Lifetimes queues) (valid : queues.Valid) {id : TaskId}
    (running : queues.running = some id) :
    Lifetimes (queues.modifyTask id fun task =>
      { task with deferred := true, sources := false, closed := true }) := by
  obtain ⟨runs, current, found, opened⟩ := current_of_running running
  have alive := lifetimes.alive id current found opened
  have only {task : TaskState} (same : queues.tasks[id]? = some task) : task = current :=
    Option.some.inj (same.symm.trans found)
  refine lifetimes.modifyTask id _ ?_ ?_ ?_
  · intro task same _
    obtain rfl := only same
    exact ⟨valid.currentInactive id runs, valid.currentAwake id runs, rfl, by simp [alive.freed]⟩
  · intro task _ opened
    cases opened
  · intro _ task same
    obtain rfl := only same
    exact alive.freed

theorem Lifetimes.endHandler (lifetimes : Lifetimes queues) (nodup : queues.all.Nodup)
    {id : TaskId} (pending : (queues.tasks[id]?).any TaskState.deferred) :
    Lifetimes ({ queues with all := queues.all.erase id }.modifyTask id fun task =>
      { task with deferred := false, freed := task.freed + 1 }) := by
  obtain ⟨current, found, deferred⟩ : ∃ task, queues.tasks[id]? = some task ∧
      task.deferred = true := by
    simpa [Option.any_eq_true_iff_get, Option.isSome_iff_exists] using
      (Option.any_eq_true _ _).mp pending
  have closed : current.closed = true := by
    by_contra opened
    have alive := lifetimes.alive id current found (by simpa using opened)
    simp [alive.deferred] at deferred
  have ended := lifetimes.ended id current found closed
  have erased : Lifetimes { queues with all := queues.all.erase id } :=
    ⟨fun other task same closed => { lifetimes.ended other task same closed with },
      lifetimes.alive,
      fun other listed => lifetimes.listed other (List.mem_of_mem_erase listed)⟩
  have only {task : TaskState} (same : queues.tasks[id]? = some task) : task = current :=
    Option.some.inj (same.symm.trans found)
  refine erased.modifyTask id _ ?_ ?_ ?_
  · intro task same _
    obtain rfl := only same
    have freed := ended.freed
    rw [deferred] at freed
    exact ⟨ended.inactive, ended.awake, ended.sources, by simpa using freed⟩
  · intro task same opened
    obtain rfl := only same
    rw [closed] at opened
    cases opened
  · intro listed
    exact absurd listed (nodup.not_mem_erase)

theorem Lifetimes.create (lifetimes : Lifetimes queues) :
    Lifetimes queues.create := by
  refine ⟨fun id task found closed => ?_, fun id task found opened => ?_,
    fun id listed task found => ?_⟩
  · rcases create_lookup found with before | ⟨-, rfl⟩
    · have ended := lifetimes.ended id task before closed
      have older : id ≠ queues.tasks.length :=
        Nat.ne_of_lt (List.getElem?_eq_some_iff.mp before).1
      refine { ended with inactive := ?_ }
      simpa [Queues.create] using ⟨ended.inactive, older⟩
    · cases closed
  · rcases create_lookup found with before | ⟨-, rfl⟩
    · exact lifetimes.alive id task before opened
    · exact ⟨rfl, rfl⟩
  · rcases create_lookup found with before | ⟨-, rfl⟩
    · rcases List.mem_append.mp listed with earlier | new
      · exact lifetimes.listed id earlier task before
      · obtain rfl := List.mem_singleton.mp new
        exact absurd (List.getElem?_eq_some_iff.mp before).1 (Nat.lt_irrefl _)
    · rfl

/-- A task that its own event sources can interrupt is not closed. -/
theorem Lifetimes.harmless_of_watched (lifetimes : Lifetimes queues) {id : TaskId}
    (watched : queues.watched id) (task : TaskState) (found : queues.tasks[id]? = some task)
    (closed : task.closed = true) : task.interruptDisabled = true := by
  have sources := (lifetimes.ended id task found closed).sources
  simp [Queues.watched, found, sources] at watched

theorem Lifetimes.turn (lifetimes : Lifetimes queues)
    (switched : (queues.ready .main).switch = some after) : Lifetimes after := by
  suffices queued : Lifetimes (queues.ready .main) from queued.switch switched
  refine ⟨?_, lifetimes.alive, lifetimes.listed⟩
  intro id task found closed
  have ended := lifetimes.ended id task found closed
  exact { ended with inactive := by simpa [Queues.ready] using ended.inactive }

theorem Lifetimes.wait (lifetimes : Lifetimes queues) {event : EventId} {id : TaskId}
    (running : queues.running = some id)
    (switched : (queues.enqueue event id).switch = some after) : Lifetimes after := by
  obtain ⟨-, current, found, opened⟩ := current_of_running running
  suffices queued : Lifetimes (queues.enqueue event id) from queued.switch switched
  refine ⟨?_, lifetimes.alive, lifetimes.listed⟩
  intro other task otherFound closed
  have ended := lifetimes.ended other task otherFound closed
  refine { ended with awake := fun queue => ?_ }
  simp only [Queues.enqueue, Function.update_apply]
  split
  · have different : other ≠ id := by
      rintro rfl
      obtain rfl : task = current := Option.some.inj (otherFound.symm.trans found)
      rw [opened] at closed
      cases closed
    simpa using ⟨ended.awake event, different⟩
  · exact ended.awake queue

theorem Lifetimes.exitSignal {state : State} (implements : Implements state queues)
    (lifetimes : Lifetimes queues) (orderly : ExitAfterEnds state .exitSignal)
    (first : ¬queues.exitRequested = true) :
    Lifetimes (queues.all.foldl Queues.interrupt { queues with exitRequested := true }) := by
  have requested : Lifetimes { queues with exitRequested := true } :=
    ⟨fun id task found closed => { lifetimes.ended id task found closed with },
      lifetimes.alive, lifetimes.listed⟩
  apply requested.interrupt_each queues.all
  intro id listed task found closed
  refine orderly (by simpa [implements.exitRequested] using first) task ?_ closed
    (lifetimes.listed id listed task found)
  rw [implements.tasks]
  exact List.mem_of_getElem? found

/-- One step keeps the lifetimes in order. -/
theorem Lifetimes.step {state : State} {label : Label} (implements : Implements state queues)
    (valid : queues.Valid) (lifetimes : Lifetimes queues) (orderly : ExitAfterEnds state label)
    (taken : queues.step label = some after) : Lifetimes after := by
  cases Queues.moves_of_step taken with
  | turn main busy switched => exact lifetimes.turn switched
  | wait event id running switched => exact lifetimes.wait running switched
  | openSource id running => exact lifetimes.setFlag _ running fun _ => ⟨rfl, rfl, rfl⟩
  | setInterruptDisabled disabled id running =>
      exact lifetimes.setFlag _ running fun _ => ⟨rfl, rfl, rfl⟩
  | finish id running switched =>
      exact ((lifetimes.finish valid running).wake (.join id)).switch switched
  | create => exact lifetimes.create
  | set event => exact lifetimes.wake event
  | hangUp event id _ watched =>
      exact (lifetimes.wake event).interrupt id (lifetimes.harmless_of_watched watched)
  | interrupt id _ watched => exact lifetimes.interrupt id (lifetimes.harmless_of_watched watched)
  | exitSignal =>
      split
      · exact lifetimes
      · exact lifetimes.exitSignal implements orderly ‹_›
  | endHandler id _ pending =>
      have nodup : queues.all.Nodup :=
        List.Nodup.of_map _ (List.nodup_cons.mp implements.all.1).2
      exact lifetimes.endHandler nodup pending

/-- The queues behind a state of the rings. -/
def Orderly (state : State) : Prop :=
  ∃ queues, Implements state queues ∧ queues.Valid ∧ Lifetimes queues

theorem start_orderly : Orderly start := by
  refine ⟨.start, start_implements, ⟨⟨?_, ?_, ?_⟩, ?_, ?_, ?_⟩, ?_, ?_, ?_⟩ <;>
    simp [Queues.start]

theorem step_orderly (state : State) (label : Label) (next : State) (orderly : Orderly state)
    (exits : ExitAfterEnds state label) (taken : step state label = some next) :
    Orderly next := by
  obtain ⟨queues, implements, valid, lifetimes⟩ := orderly
  obtain ⟨after, stepped, implemented, stillValid⟩ := step_refines implements valid taken
  exact ⟨after, implemented, stillValid, lifetimes.step implements valid exits stepped⟩

/-- In a run in which the exit signal never finds an ended task that it could
still interrupt, the node of a closed task is in no ring, and its memory is
freed once: it is freed, or its end handler is pending. Before a task is closed
it is not freed. -/
theorem finished_never_scheduled (labels : List Label) (final : State)
    (exits : Run.Meets step ExitAfterEnds start labels)
    (reached : Run.exec step start labels = some final) (id : TaskId) (task : TaskState)
    (found : final.tasks[id]? = some task) :
    (task.closed = true →
      final.links.Alone (.task id) ∧ task.freed + task.deferred.toNat = 1) ∧
    (task.closed = false → task.freed = 0) := by
  obtain ⟨queues, implements, -, lifetimes⟩ :=
    exits.invariant Orderly step_orderly start_orderly reached
  rw [implements.tasks] at found
  refine ⟨fun closed => ?_, fun opened => (lifetimes.alive id task found opened).freed⟩
  have ended := lifetimes.ended id task found closed
  exact ⟨implements.offQueue id ended.inactive ended.awake, ended.freed⟩

/-- A task that ends and is freed before the exit signal arrives. -/
theorem finished_never_scheduled_freed :
    ∃ final ∈ Run.exec step start [.create, .turn, .finish, .endHandler 0, .exitSignal],
      final.tasks[0]? = some ⟨true, false, false, false, 1⟩ ∧ final.links.Alone (.task 0) := by
  have present : (Run.exec step start
      [.create, .turn, .finish, .endHandler 0, .exitSignal]).isSome := by decide +kernel
  have ended : ∀ final ∈ Run.exec step start
      [.create, .turn, .finish, .endHandler 0, .exitSignal],
      final.tasks[0]? = some ⟨true, false, false, false, 1⟩ := by decide +kernel
  have freed := ended _ (Option.get_mem present)
  exact ⟨_, Option.get_mem present, freed,
    ((finished_never_scheduled _ _ (by decide +kernel) (Option.some_get present).symm 0 _ freed).1
      rfl).1⟩

/-- The exit signal is dispatched between the end of a task and its end handler:
the closed task is the first of the active list. -/
theorem finished_scheduled_again :
    ∃ final ∈ Run.exec step start [.create, .turn, .finish, .exitSignal],
      final.tasks[0]? = some ⟨true, false, false, true, 0⟩ ∧
        final.links.next .activeTasks = .task 0 := by
  decide +kernel

end TrafficLimitd.Scheduler
