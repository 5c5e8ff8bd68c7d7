import Mathlib.Data.List.Perm.Subperm
import TrafficLimitd.SchedulerQueues

set_option autoImplicit false

/- Every step of the rings is the same step of the queues. In particular the
ready ring is never empty when a task hands over, and what it hands over to is
always a task's node. -/
namespace TrafficLimitd.Scheduler

open CircularList (Links)

/-- The queues hold tasks that were created. -/
structure Queues.Created (queues : Queues) : Prop where
  all : ∀ id ∈ queues.all, id < queues.tasks.length
  active : ∀ id, .task id ∈ queues.active → id < queues.tasks.length
  waiting : ∀ event, ∀ id ∈ queues.waiting event, id < queues.tasks.length

/-- What holds in every state of the queues: the main task is ready whenever it
does not run, and the task that runs is in no queue. -/
structure Queues.Valid (queues : Queues) : Prop extends queues.Created where
  mainReady : .main ∈ queues.active ↔ queues.current ≠ .main
  currentInactive : ∀ id, queues.current = .task id → .task id ∉ queues.active
  currentAwake : ∀ id, queues.current = .task id → ∀ event, id ∉ queues.waiting event

variable {state : State} {queues : Queues}

@[simp] theorem interrupt_all (queues : Queues) (id : TaskId) :
    (queues.interrupt id).all = queues.all := by
  unfold Queues.interrupt
  cases queues.tasks[id]? with
  | none => rfl
  | some task => dsimp only; split <;> rfl

@[simp] theorem interrupt_tasks (queues : Queues) (id : TaskId) :
    (queues.interrupt id).tasks = queues.tasks := by
  unfold Queues.interrupt
  cases queues.tasks[id]? with
  | none => rfl
  | some task => dsimp only; split <;> rfl

theorem interrupt_each_tasks (queues : Queues) (ids : List TaskId) :
    (ids.foldl Queues.interrupt queues).tasks = queues.tasks := by
  induction ids generalizing queues with
  | nil => rfl
  | cons id rest ih => rw [List.foldl_cons, ih, interrupt_tasks]

theorem Implements.all_length (implements : Implements state queues) (valid : queues.Valid) :
    queues.all.length ≤ queues.tasks.length := by
  have nodup : queues.all.Nodup := List.Nodup.of_map _ (List.nodup_cons.mp implements.all.1).2
  have within : queues.all ⊆ List.range queues.tasks.length := fun id member =>
    List.mem_range.mpr (valid.all id member)
  simpa using (List.subperm_of_subset nodup within).length_le

section Walk

/- What ties the rings to the queues and survives the interrupt of one task
survives the interrupt of all. -/
variable (inv : State → Queues → Prop)
  (sound : ∀ state queues, inv state queues → Implements state queues)
  (kept : ∀ state queues id, inv state queues → inv (state.interruptTask id) (queues.interrupt id))

include sound kept

/-- The walk of `interrupt_all_tasks` visits the tasks of the list in order. -/
theorem interruptFrom_keeps (holds : inv state queues) (fuel : Nat)
    (visited rest : List TaskId) (whole : queues.all = visited ++ rest)
    (enough : rest.length ≤ fuel) :
    inv (State.interruptFrom (fuel + 1) state ((rest.map Node.listNode).headD .allTasks))
      (rest.foldl Queues.interrupt queues) := by
  induction rest generalizing state queues fuel visited with
  | nil => exact holds
  | cons id rest ih =>
      cases fuel with
      | zero => simp at enough
      | succ fuel =>
          have reads := (sound state queues holds).all
          rw [whole, List.map_append, List.map_cons] at reads
          have following := reads.next_middle
          have after := ih (kept state queues id holds) fuel (visited ++ [id])
            (by rw [interrupt_all, whole, List.append_assoc]; rfl) (by simpa using enough)
          simpa only [State.interruptFrom, List.map_cons, List.headD_cons, following,
            List.foldl_cons] using after

theorem exitReqHandler_keeps (valid : queues.Valid) (holds : inv state queues)
    (requested : inv { state with exitRequested := true } { queues with exitRequested := true }) :
    inv state.exitReqHandler
      (if queues.exitRequested then queues
        else queues.all.foldl Queues.interrupt { queues with exitRequested := true }) := by
  have implements := sound state queues holds
  unfold State.exitReqHandler
  rw [implements.exitRequested]
  split
  · exact holds
  · have enough : queues.all.length ≤ state.tasks.length := by
      rw [implements.tasks]
      exact implements.all_length valid
    have walked := interruptFrom_keeps inv sound kept requested state.tasks.length [] queues.all
      rfl enough
    rwa [← (sound _ _ requested).all.next_eq] at walked

end Walk

theorem Implements.exitReqHandler (implements : Implements state queues)
    (valid : queues.Valid) :
    Implements state.exitReqHandler
      (if queues.exitRequested then queues
        else queues.all.foldl Queues.interrupt { queues with exitRequested := true }) := by
  refine exitReqHandler_keeps Implements (fun _ _ given => given)
    (fun _ _ id given => given.interruptTask id) valid implements ?_
  exact { implements with exitRequested := rfl }

theorem Implements.create (implements : Implements state queues) (valid : queues.Valid) :
    Implements state.seTaskCreate queues.create := by
  have fresh : queues.tasks.length ∉ queues.all := fun member =>
    Nat.lt_irrefl _ (valid.all _ member)
  have alone := implements.offAll _ fresh
  have unlisted : Implements { state with tasks := state.tasks ++ [newTask] }
      { queues with tasks := queues.tasks ++ [newTask] } :=
    { implements with tasks := by rw [implements.tasks] }
  have listed : Implements
      ({ state with tasks := state.tasks ++ [newTask] }.attach .allTasks
        (.listNode queues.tasks.length))
      { queues with tasks := queues.tasks ++ [newTask], all := queues.all ++ [queues.tasks.length] } := by
    refine ⟨unlisted.current, unlisted.tasks, unlisted.exitRequested, ?_, ?_, ?_, ?_, ?_, ?_⟩
    · refine implements.active.toggleConnect ?_ ?_ <;>
        exact not_mem_active_of_head (by rintro (_ | other) <;> simp [Runner.node]) (by simp) _
    · intro event
      exact (implements.waiting event).toggleConnect (by simp) (by simp)
    · simpa using implements.all.push alone (by simp)
    · intro id inactive idle
      exact (implements.offQueue id inactive idle).toggleConnect (by simp) (by simp)
    · intro inactive
      exact (implements.mainOff inactive).toggleConnect (by simp) (by simp)
    · intro id gone
      simp only [List.mem_append, List.mem_singleton, not_or] at gone
      exact (implements.offAll id gone.1).toggleConnect (by simp) (by simpa using gone.2)
  have offQueue := listed.offQueue queues.tasks.length
    (fun member => Nat.lt_irrefl _ (valid.active _ member))
    (fun event member => Nat.lt_irrefl _ (valid.waiting event _ member))
  unfold State.seTaskCreate
  rw [implements.tasks]
  have queued := listed.ready (.task queues.tasks.length) offQueue
  rw [implements.tasks] at queued
  exact queued

/-- `se_task_end_handler` on the rings. -/
theorem Implements.endHandler (implements : Implements state queues) (id : TaskId) :
    Implements (state.detach (.listNode id)) { queues with all := queues.all.erase id } where
  current := implements.current
  tasks := implements.tasks
  exitRequested := implements.exitRequested
  active := detach_reads_of_not_mem implements.active
    (not_mem_active_of_head (by rintro (_ | other) <;> simp [Runner.node]) (by simp) _)
  waiting event := detach_reads_of_not_mem (implements.waiting event) (by simp)
  all := by
    have detached := implements.all.detach (show Node.listNode id ≠ .allTasks by simp)
    rwa [← List.map_erase (fun _ _ => Node.listNode.inj)] at detached
  offQueue other inactive idle := (implements.offQueue other inactive idle).detach (by simp)
  mainOff inactive := (implements.mainOff inactive).detach (by simp)
  offAll other gone := by
    by_cases same : other = id
    · exact same ▸ Links.detach_alone _ _
    · refine (implements.offAll other ?_).detach (by simpa using same)
      exact fun member => gone ((List.mem_erase_of_ne same).mpr member)

theorem Implements.modifyTask (implements : Implements state queues) (id : TaskId)
    (change : TaskState → TaskState) :
    Implements (state.modifyTask id change) (queues.modifyTask id change) := by
  have modified : (state.modifyTask id change).tasks = (queues.modifyTask id change).tasks := by
    rw [State.modifyTask, Queues.modifyTask, implements.tasks]
  exact { implements with tasks := modified }

theorem modifyTask_lookup {id other : TaskId} {change : TaskState → TaskState} {task : TaskState}
    (found : (queues.modifyTask id change).tasks[other]? = some task) :
    other = id ∧ (∃ before, queues.tasks[id]? = some before ∧ change before = task) ∨
      other ≠ id ∧ queues.tasks[other]? = some task := by
  simp only [Queues.modifyTask, List.getElem?_modify] at found
  by_cases same : id = other
  · subst same
    simp only [if_true, Option.map_eq_map, Option.map_eq_some_iff] at found
    exact Or.inl ⟨rfl, found⟩
  · simp only [same, if_false, Option.map_eq_map, Option.map_id'] at found
    exact Or.inr ⟨fun equal => same equal.symm, found⟩

/-- The running task hands over; the main task at least is ready. -/
theorem Implements.sTaskNext (implements : Implements state queues) (id : TaskId)
    (ready : .main ∈ queues.active) :
    ∃ next after, state.sTaskNext id = some next ∧ queues.switch = some after ∧
      Implements next after := by
  have cleared : Implements
      (state.setWait id { state.waits id with cancelled := false }) queues :=
    implements.congr rfl rfl rfl rfl
  exact cleared.sTaskCallNext (List.ne_nil_of_mem ready)

/-- `s_event_wait` up to the switch: the running task is queued at the event. -/
theorem Implements.waits (implements : Implements state queues) (valid : queues.Valid)
    (id : TaskId) (runs : queues.current = .task id) (event : EventId) :
    ∃ queued, state.sEventWait id event = queued.sTaskNext id ∧
      Implements queued (queues.enqueue event id) := by
  have same : queues.remove id = queues := by
    have inactive := valid.currentInactive id runs
    have awake := valid.currentAwake id runs
    simp only [Queues.remove, List.erase_of_not_mem inactive]
    congr
    funext other
    exact List.erase_of_not_mem (awake other)
  have detached := (implements.addToWaitingList event).remove id
  rw [same] at detached
  exact ⟨_, rfl, (detached.enqueue event id (Links.detach_alone _ _)).congr rfl rfl rfl rfl⟩

theorem create_lookup {id : TaskId} {task : TaskState}
    (found : queues.create.tasks[id]? = some task) :
    queues.tasks[id]? = some task ∨ id = queues.tasks.length ∧ task = newTask := by
  simp only [Queues.create, List.getElem?_append] at found
  split at found
  · exact Or.inl found
  · obtain ⟨position, same⟩ := List.getElem?_eq_some_iff.mp found
    rename_i beyond
    simp only [List.length_singleton] at position
    refine Or.inr ⟨?_, ?_⟩
    · exact Nat.le_antisymm (Nat.le_of_sub_eq_zero (Nat.lt_one_iff.mp position))
        (Nat.le_of_not_lt beyond)
    · simpa using same.symm

theorem switch_keeps {after : Queues} (switched : queues.switch = some after) :
    after.tasks = queues.tasks ∧ after.all = queues.all ∧ after.waiting = queues.waiting := by
  obtain ⟨_, _, _, rfl⟩ := Queues.switch_eq_some switched
  exact ⟨rfl, rfl, rfl⟩

theorem Implements.running (implements : Implements state queues) :
    state.running = queues.running := by
  rewrite [State.running, Queues.running, implements.current, implements.tasks]
  rfl

theorem Implements.idle (implements : Implements state queues) : state.idle = queues.idle := by
  rw [State.idle, Queues.idle, implements.current, implements.isEmpty]

theorem Implements.watched (implements : Implements state queues) (id : TaskId) :
    state.watched id = queues.watched id := by
  rw [State.watched, Queues.watched, implements.tasks]

theorem current_of_running {id : TaskId} (running : queues.running = some id) :
    queues.current = .task id ∧ ∃ task, queues.tasks[id]? = some task ∧ task.closed = false := by
  unfold Queues.running at running
  cases runner : queues.current with
  | main => simp [runner] at running
  | task other =>
      cases found : queues.tasks[other]? with
      | none => simp [runner, found] at running
      | some task =>
          obtain ⟨opened, rfl⟩ : task.closed = false ∧ other = id := by
            simpa [runner, found] using running
          exact ⟨rfl, task, found, opened⟩

/-- A switch from a ready queue that holds the main task. -/
theorem Implements.switch_valid {after : Queues} (implements : Implements state queues)
    (created : queues.Created) (ready : .main ∈ queues.active)
    (switched : queues.switch = some after) : after.Valid := by
  have nodup := implements.active_nodup
  have idle {id : TaskId} (queued : .task id ∈ queues.active) (event : EventId) :=
    implements.not_waiting queued event
  obtain ⟨runner, rest, active, rfl⟩ := Queues.switch_eq_some switched
  rw [active] at nodup ready
  have once := (List.nodup_cons.mp nodup).1
  refine ⟨⟨created.all, fun id queued => ?_, created.waiting⟩, ?_, ?_, ?_⟩
  · exact created.active id (active ▸ List.mem_cons_of_mem _ queued)
  · rcases List.mem_cons.mp ready with rfl | later
    · simpa using once
    · refine iff_of_true later ?_
      rintro rfl
      exact once later
  · rintro id rfl
    exact once
  · rintro id rfl event
    exact idle (active ▸ List.mem_cons_self) event

section Created

theorem Queues.Created.wake (created : queues.Created) (event : EventId) :
    (queues.wake event).Created where
  all := created.all
  active id queued := by
    simp only [Queues.wake, List.mem_append, List.mem_map, Runner.task.injEq,
      exists_eq_right] at queued
    exact queued.elim (created.active id) (created.waiting event id)
  waiting other id queued := by
    simp only [Queues.wake, Function.update_apply] at queued
    split at queued
    · cases queued
    · exact created.waiting other id queued

theorem Queues.Created.cancel (created : queues.Created) {id : TaskId}
    (exists_ : id < queues.tasks.length) : (queues.cancel id).Created where
  all := created.all
  active other queued := by
    simp only [Queues.cancel, Queues.remove, Queues.ready, List.mem_append,
      List.mem_singleton] at queued
    rcases queued with before | same
    · exact created.active other (List.mem_of_mem_erase before)
    · exact Runner.task.inj same ▸ exists_
  waiting event other queued := created.waiting event other (List.mem_of_mem_erase queued)

theorem Queues.Created.modifyTask (created : queues.Created) (id : TaskId)
    (change : TaskState → TaskState) : (queues.modifyTask id change).Created := by
  have same : (queues.modifyTask id change).tasks.length = queues.tasks.length := by
    simp [Queues.modifyTask]
  exact ⟨fun other listed => same ▸ created.all other listed,
    fun other queued => same ▸ created.active other queued,
    fun event other queued => same ▸ created.waiting event other queued⟩

theorem Queues.Valid.modifyTask (valid : queues.Valid) (id : TaskId)
    (change : TaskState → TaskState) : (queues.modifyTask id change).Valid :=
  ⟨valid.toCreated.modifyTask id change, valid.mainReady, valid.currentInactive,
    valid.currentAwake⟩

theorem Queues.Created.enqueue (created : queues.Created) (event : EventId) {id : TaskId}
    (exists_ : id < queues.tasks.length) : (queues.enqueue event id).Created where
  all := created.all
  active := created.active
  waiting other task queued := by
    simp only [Queues.enqueue, Function.update_apply] at queued
    split at queued
    · rcases List.mem_append.mp queued with before | same
      · exact created.waiting event task before
      · exact List.mem_singleton.mp same ▸ exists_
    · exact created.waiting other task queued

theorem Queues.Created.create (created : queues.Created) : queues.create.Created := by
  have grown : queues.create.tasks.length = queues.tasks.length + 1 := by simp [Queues.create]
  have older {id : TaskId} (before : id < queues.tasks.length) :
      id < queues.create.tasks.length := grown ▸ Nat.lt_succ_of_lt before
  have newest : queues.tasks.length < queues.create.tasks.length :=
    grown ▸ Nat.lt_succ_self _
  refine ⟨fun id listed => ?_, fun id queued => ?_, fun event id queued => ?_⟩
  · rcases List.mem_append.mp listed with before | same
    · exact older (created.all id before)
    · exact List.mem_singleton.mp same ▸ newest
  · rcases List.mem_append.mp queued with before | same
    · exact older (created.active id before)
    · exact Runner.task.inj (List.mem_singleton.mp same) ▸ newest
  · exact older (created.waiting event id queued)

end Created

/-- The main task runs and nobody else can run before it looks for events. -/
structure Queues.Idle (queues : Queues) : Prop extends queues.Created where
  current : queues.current = .main
  mainOff : .main ∉ queues.active

theorem Queues.Idle.valid (idle : queues.Idle) : queues.Valid where
  toCreated := idle.toCreated
  mainReady := iff_of_false idle.mainOff (by simp [idle.current])
  currentInactive id runs := by simp [idle.current] at runs
  currentAwake id runs := by simp [idle.current] at runs

theorem Queues.Valid.idle (valid : queues.Valid) (quiescent : queues.idle) : queues.Idle := by
  have main : queues.current = .main := by simp_all [Queues.idle]
  exact ⟨valid.toCreated, main, fun ready => valid.mainReady.mp ready main⟩

theorem Queues.Idle.wake (idle : queues.Idle) (event : EventId) : (queues.wake event).Idle where
  toCreated := idle.toCreated.wake event
  current := idle.current
  mainOff := by simpa [Queues.wake] using idle.mainOff

theorem Queues.Idle.interrupt (idle : queues.Idle) (id : TaskId) :
    (queues.interrupt id).Idle := by
  unfold Queues.interrupt
  cases found : queues.tasks[id]? with
  | none => exact idle
  | some task =>
      have exists_ : id < queues.tasks.length := (List.getElem?_eq_some_iff.mp found).1
      dsimp only
      split
      · exact idle
      · refine ⟨idle.toCreated.cancel exists_, idle.current, ?_⟩
        simp only [Queues.cancel, Queues.ready, Queues.remove, List.mem_append,
          List.mem_singleton, reduceCtorEq, or_false]
        exact fun member => idle.mainOff (List.mem_of_mem_erase member)

theorem Queues.Idle.interrupt_each (idle : queues.Idle) (ids : List TaskId) :
    (ids.foldl Queues.interrupt queues).Idle := by
  induction ids generalizing queues with
  | nil => exact idle
  | cons id rest ih => exact ih (idle.interrupt id)

/-- The queues take the same step to what the rings have become, and stay valid. -/
def Refines (queues : Queues) (label : Label) (next : State) : Prop :=
  ∃ after, queues.step label = some after ∧ Implements next after ∧ after.Valid

theorem Queues.Valid.mainReady_of_running (valid : queues.Valid) {id : TaskId}
    (running : queues.running = some id) : .main ∈ queues.active := by
  apply valid.mainReady.mpr
  rw [(current_of_running running).1]
  exact Runner.noConfusion

theorem created_of_running {id : TaskId} (running : queues.running = some id) :
    id < queues.tasks.length := by
  obtain ⟨-, task, found, -⟩ := current_of_running running
  exact (List.getElem?_eq_some_iff.mp found).1

section Steps

variable {next : State} (implements : Implements state queues) (valid : queues.Valid)

include implements valid

theorem turn_refines (taken : step state .turn = some next) : Refines queues .turn next := by
  simp only [step, Option.ite_none_right_eq_some] at taken
  obtain ⟨⟨main, busy⟩, taken⟩ := taken
  rw [implements.current] at main
  rw [implements.isEmpty] at busy
  have off : .main ∉ queues.active := fun ready => valid.mainReady.mp ready main
  have queued := implements.ready .main (implements.mainOff off)
  obtain ⟨chosen, after, called, switched, result⟩ :=
    queued.sTaskCallNext (by simp [Queues.ready])
  obtain rfl : chosen = next := Option.some.inj (called.symm.trans taken)
  have created : (queues.ready .main).Created :=
    ⟨valid.all, fun id member => valid.active id (by simpa [Queues.ready] using member),
      valid.waiting⟩
  refine ⟨after, ?_, result, queued.switch_valid created (by simp [Queues.ready]) switched⟩
  have nonempty : queues.active ≠ [] := by simpa using busy
  simpa [Queues.step, main, nonempty] using switched

theorem wait_refines {event : EventId} (taken : step state (.wait event) = some next) :
    Refines queues (.wait event) next := by
  simp only [step, implements.running, Option.bind_eq_some_iff] at taken
  obtain ⟨id, running, taken⟩ := taken
  have ready := valid.mainReady_of_running running
  obtain ⟨waiting, waits, queued⟩ :=
    implements.waits valid id (current_of_running running).1 event
  obtain ⟨chosen, after, called, switched, result⟩ := queued.sTaskNext id ready
  obtain rfl : chosen = next := Option.some.inj (called.symm.trans (waits ▸ taken))
  exact ⟨after, by simpa [Queues.step, running] using switched, result,
    queued.switch_valid (valid.toCreated.enqueue event (created_of_running running)) ready switched⟩

theorem finish_refines (taken : step state .finish = some next) :
    Refines queues .finish next := by
  simp only [step, implements.running, Option.bind_eq_some_iff] at taken
  obtain ⟨id, running, taken⟩ := taken
  have ended := ((implements.modifyTask id fun task =>
    { task with deferred := true, sources := false, closed := true }).sEventSet (.join id))
  have ready := List.mem_append_left (((queues.waiting (.join id)).map Runner.task))
    (valid.mainReady_of_running running)
  obtain ⟨chosen, after, called, switched, result⟩ := ended.sTaskNext id ready
  obtain rfl : chosen = next := Option.some.inj (called.symm.trans taken)
  exact ⟨after, by simpa [Queues.step, running] using switched, result,
    ended.switch_valid ((valid.toCreated.modifyTask id _).wake (.join id)) ready switched⟩

/-- A step in which the task that runs changes something about itself. -/
theorem modify_refines {label : Label} (change : TaskState → TaskState)
    (rings : step state label = state.running.map fun id => state.modifyTask id change)
    (lists : queues.step label = queues.running.map fun id => queues.modifyTask id change)
    (taken : step state label = some next) : Refines queues label next := by
  rw [rings, implements.running] at taken
  obtain ⟨id, running, rfl⟩ := Option.map_eq_some_iff.mp taken
  refine ⟨queues.modifyTask id change, ?_, implements.modifyTask id change,
    valid.modifyTask id change⟩
  rw [lists, running, Option.map_some]

theorem create_refines (taken : step state .create = some next) :
    Refines queues .create next := by
  simp only [step, implements.idle, Option.ite_none_right_eq_some, Option.some.injEq] at taken
  obtain ⟨quiescent, rfl⟩ := taken
  have idle := valid.idle quiescent
  have created : queues.create.Idle :=
    ⟨valid.toCreated.create, idle.current, by simpa [Queues.create] using idle.mainOff⟩
  exact ⟨_, by simp only [Queues.step, quiescent, if_true], implements.create valid,
    created.valid⟩

theorem set_refines {event : EventId} (taken : step state (.set event) = some next) :
    Refines queues (.set event) next := by
  simp only [step, implements.idle, Option.ite_none_right_eq_some, Option.some.injEq] at taken
  obtain ⟨quiescent, rfl⟩ := taken
  exact ⟨_, by simp only [Queues.step, quiescent, if_true], implements.sEventSet event,
    ((valid.idle quiescent).wake event).valid⟩

theorem hangUp_refines {event : EventId} {id : TaskId}
    (taken : step state (.hangUp event id) = some next) :
    Refines queues (.hangUp event id) next := by
  simp only [step, implements.idle, implements.watched, Option.ite_none_right_eq_some,
    Option.some.injEq] at taken
  obtain ⟨watched, rfl⟩ := taken
  exact ⟨_, by simp only [Queues.step, watched, and_self, if_true],
    (implements.sEventSet event).interruptTask id,
    (((valid.idle watched.1).wake event).interrupt id).valid⟩

theorem interrupt_refines {id : TaskId} (taken : step state (.interrupt id) = some next) :
    Refines queues (.interrupt id) next := by
  simp only [step, implements.idle, implements.watched, Option.ite_none_right_eq_some,
    Option.some.injEq] at taken
  obtain ⟨watched, rfl⟩ := taken
  exact ⟨_, by simp only [Queues.step, watched, and_self, if_true],
    implements.interruptTask id, ((valid.idle watched.1).interrupt id).valid⟩

theorem exitSignal_refines (taken : step state .exitSignal = some next) :
    Refines queues .exitSignal next := by
  simp only [step, implements.idle, Option.ite_none_right_eq_some, Option.some.injEq] at taken
  obtain ⟨quiescent, rfl⟩ := taken
  refine ⟨_, by simp only [Queues.step, quiescent, if_true],
    implements.exitReqHandler valid, ?_⟩
  split
  · exact valid
  · have idle := valid.idle quiescent
    have requested : { queues with exitRequested := true }.Idle :=
      ⟨⟨idle.all, idle.active, idle.waiting⟩, idle.current, idle.mainOff⟩
    exact (requested.interrupt_each queues.all).valid

theorem endHandler_refines {id : TaskId} (taken : step state (.endHandler id) = some next) :
    Refines queues (.endHandler id) next := by
  simp only [step, implements.idle, implements.tasks, Option.ite_none_right_eq_some,
    Option.some.injEq] at taken
  obtain ⟨pending, rfl⟩ := taken
  have idle := valid.idle pending.1
  have freed : { queues with all := queues.all.erase id }.Created :=
    ⟨fun other listed => idle.all other (List.mem_of_mem_erase listed), idle.active,
      idle.waiting⟩
  exact ⟨_, by simp only [Queues.step, pending, and_self, if_true],
    (implements.endHandler id).modifyTask id _,
    Queues.Idle.valid ⟨freed.modifyTask id _, idle.current, idle.mainOff⟩⟩

/-- One step of the rings is the same step of the queues, and the queues stay
valid. -/
theorem step_refines {label : Label} (taken : step state label = some next) :
    Refines queues label next := by
  cases label with
  | turn => exact turn_refines implements valid taken
  | wait event => exact wait_refines implements valid taken
  | openSource => exact modify_refines implements valid _ rfl rfl taken
  | setInterruptDisabled disabled => exact modify_refines implements valid _ rfl rfl taken
  | finish => exact finish_refines implements valid taken
  | create => exact create_refines implements valid taken
  | set event => exact set_refines implements valid taken
  | hangUp event id => exact hangUp_refines implements valid taken
  | interrupt id => exact interrupt_refines implements valid taken
  | exitSignal => exact exitSignal_refines implements valid taken
  | endHandler id => exact endHandler_refines implements valid taken

end Steps

end TrafficLimitd.Scheduler
