import TrafficLimitd.SchedulerRefinement

set_option autoImplicit false

/- The queues of the scheduler as a design that the rings carry out: whatever step the
queues can take, the rings take it too, and `waiting_cancelled` of every task tells
whether its wait was ended by an interrupt. -/
namespace TrafficLimitd.Scheduler

/-- The `waiting_cancelled` of all tasks. -/
abbrev Flags := TaskId → Bool

def State.flags (state : State) : Flags := fun id => (state.waits id).cancelled

namespace Queues

variable (queues : Queues)

def enabled (id : TaskId) : Bool := (queues.tasks[id]?).any fun task => !task.interruptDisabled

/-- `interrupt_task` sets the flag unless interrupts are disabled. -/
def interruptFlag (flags : Flags) (id : TaskId) : Flags :=
  if queues.enabled id then Function.update flags id true else flags

/-- What a step does to the flags: a task that hands over clears its own. -/
def flagsAfter (flags : Flags) : Label → Flags
  | .wait _ | .finish =>
      match queues.current with
      | .main => flags
      | .task id => Function.update flags id false
  | .hangUp _ id | .interrupt id => queues.interruptFlag flags id
  | .exitSignal =>
      if queues.exitRequested then flags else queues.all.foldl queues.interruptFlag flags
  | _ => flags

end Queues

section Flags

variable {state : State} {queues : Queues}

@[simp] theorem flags_attach (first second : Node) : (state.attach first second).flags = state.flags :=
  rfl

@[simp] theorem flags_detach (node : Node) : (state.detach node).flags = state.flags := rfl

@[simp] theorem flags_modifyTask (id : TaskId) (change : TaskState → TaskState) :
    (state.modifyTask id change).flags = state.flags := rfl

theorem flags_setWait (id : TaskId) (wait : WaitState) :
    (state.setWait id wait).flags = Function.update state.flags id wait.cancelled := by
  funext other
  simp only [State.flags, State.setWait, Function.update_apply]
  split <;> rfl

theorem flags_setWait_same (id : TaskId) (event : Option EventId) :
    (state.setWait id { state.waits id with event := event }).flags = state.flags := by
  rw [flags_setWait]
  exact Function.update_eq_self id state.flags

@[simp] theorem flags_clearWaitingEvent : state.clearWaitingEvent.flags = state.flags := by
  unfold State.clearWaitingEvent
  split
  · rfl
  · exact flags_setWait_same _ none

@[simp] theorem flags_addToWaitingList (event : EventId) :
    (state.sEventAddToWaitingList event).flags = state.flags := by
  unfold State.sEventAddToWaitingList
  split <;> rfl

@[simp] theorem flags_removeFromWaitingList (event : EventId) :
    (state.sEventRemoveFromWaitingList event).flags = state.flags := by
  unfold State.sEventRemoveFromWaitingList
  split <;> rfl

@[simp] theorem flags_sEventSet (event : EventId) : (state.sEventSet event).flags = state.flags := by
  simp [State.sEventSet]

theorem flags_sTaskCallNext {next : State} (called : state.sTaskCallNext = some next) :
    next.flags = state.flags := by
  unfold State.sTaskCallNext at called
  split at called
  · cases called
    rfl
  · obtain ⟨runner, _, rfl⟩ := Option.map_eq_some_iff.mp called
    rfl

/-- A task that hands over is not cancelled. -/
theorem flags_sTaskNext {next : State} {id : TaskId} (called : state.sTaskNext id = some next) :
    next.flags = Function.update state.flags id false := by
  rw [flags_sTaskCallNext called, flags_setWait]

theorem flags_sEventWait {next : State} {id : TaskId} {event : EventId}
    (waited : state.sEventWait id event = some next) :
    next.flags = Function.update state.flags id false := by
  rw [flags_sTaskNext waited, flags_setWait_same]
  simp

theorem flags_sTaskCancelWait (id : TaskId) :
    (state.sTaskCancelWait id).flags = Function.update state.flags id true := by
  unfold State.sTaskCancelWait
  dsimp only
  split <;> simp [flags_setWait]

theorem flags_interruptTask (implements : Implements state queues) (id : TaskId) :
    (state.interruptTask id).flags = queues.interruptFlag state.flags id := by
  unfold State.interruptTask Queues.interruptFlag Queues.enabled
  rw [implements.tasks]
  cases queues.tasks[id]? with
  | none => simp
  | some task =>
      cases disabled : task.interruptDisabled with
      | true => simp [disabled]
      | false => simp [disabled, flags_sTaskCancelWait]

@[simp] theorem interruptFlag_interrupt (id : TaskId) :
    (queues.interrupt id).interruptFlag = queues.interruptFlag := by
  funext flags other
  unfold Queues.interruptFlag Queues.enabled
  rw [interrupt_tasks]

/-- The walk of `interrupt_all_tasks` sets the flags of the tasks that it visits. -/
theorem flags_interruptFrom (implements : Implements state queues) (fuel : Nat)
    (visited rest : List TaskId) (whole : queues.all = visited ++ rest)
    (enough : rest.length ≤ fuel) :
    (State.interruptFrom (fuel + 1) state ((rest.map Node.listNode).headD .allTasks)).flags =
      rest.foldl queues.interruptFlag state.flags := by
  induction rest generalizing state queues fuel visited with
  | nil => rfl
  | cons id rest ih =>
      cases fuel with
      | zero => simp at enough
      | succ fuel =>
          have reads := implements.all
          rw [whole, List.map_append, List.map_cons] at reads
          have following := reads.next_middle
          have later := ih (implements.interruptTask id) fuel (visited ++ [id])
            (by rw [interrupt_all, whole, List.append_assoc]; rfl) (by simpa using enough)
          rw [interruptFlag_interrupt, flags_interruptTask implements] at later
          simpa only [State.interruptFrom, List.map_cons, List.headD_cons, following,
            List.foldl_cons] using later

theorem flags_exitReqHandler (implements : Implements state queues) (valid : queues.Valid) :
    state.exitReqHandler.flags =
      if queues.exitRequested then state.flags
      else queues.all.foldl queues.interruptFlag state.flags := by
  unfold State.exitReqHandler
  rw [implements.exitRequested]
  split
  · rfl
  · have enough : queues.all.length ≤ state.tasks.length := by
      rw [implements.tasks]
      exact implements.all_length valid
    have requested : Implements { state with exitRequested := true }
        { queues with exitRequested := true } := { implements with exitRequested := rfl }
    have walked := flags_interruptFrom requested state.tasks.length [] queues.all rfl enough
    rwa [← requested.all.next_eq] at walked

end Flags

section Steps

variable {state : State} {queues after : Queues}

/-- The rings can take the step, and this is what it does to the flags. -/
def Enabled (state : State) (queues : Queues) (label : Label) : Prop :=
  ∃ next, step state label = some next ∧ next.flags = queues.flagsAfter state.flags label

section Enabled

variable (implements : Implements state queues) (valid : queues.Valid)

include implements valid

theorem turn_enabled (main : queues.current = .main) (busy : queues.active ≠ []) :
    Enabled state queues .turn := by
  have off : .main ∉ queues.active := fun ready => valid.mainReady.mp ready main
  have queued := implements.ready .main (implements.mainOff off)
  obtain ⟨next, _, called, _, _⟩ := queued.sTaskCallNext (by simp [Queues.ready])
  have possible : state.current = .main ∧ state.isEmpty .activeTasks = false := by
    rw [implements.current, implements.isEmpty]
    exact ⟨main, by simpa using busy⟩
  refine ⟨next, ?_, (flags_sTaskCallNext called).trans (flags_attach _ _)⟩
  rw [step, if_pos possible]
  exact called

theorem wait_enabled {id : TaskId} (running : queues.running = some id) (event : EventId) :
    Enabled state queues (.wait event) := by
  obtain ⟨current, -⟩ := current_of_running running
  obtain ⟨waiting, waits, queued⟩ := implements.waits valid id current event
  obtain ⟨next, _, called, _, _⟩ := queued.sTaskNext id (valid.mainReady_of_running running)
  rw [← waits] at called
  refine ⟨next, ?_, ?_⟩
  · rw [step, implements.running, running, Option.bind_some, called]
  · simp only [Queues.flagsAfter, current]
    exact flags_sEventWait called

theorem finish_enabled {id : TaskId} (running : queues.running = some id) :
    Enabled state queues .finish := by
  obtain ⟨current, -⟩ := current_of_running running
  have ended := (implements.modifyTask id fun task =>
    { task with deferred := true, sources := false, closed := true }).sEventSet (.join id)
  have ready := List.mem_append_left ((queues.waiting (.join id)).map Runner.task)
    (valid.mainReady_of_running running)
  obtain ⟨next, _, called, _, _⟩ := ended.sTaskNext id ready
  refine ⟨next, ?_, ?_⟩
  · rw [step, implements.running, running]
    exact called
  · simp only [Queues.flagsAfter, current]
    simpa using flags_sTaskNext called

theorem step_enabled {label : Label} (taken : queues.step label = some after) :
    Enabled state queues label := by
  cases Queues.moves_of_step taken with
  | turn main busy => exact turn_enabled implements valid main busy
  | wait event id running => exact wait_enabled implements valid running event
  | finish id running => exact finish_enabled implements valid running
  | openSource id running | setInterruptDisabled disabled id running =>
      rw [Enabled, step, implements.running, running]
      exact ⟨_, rfl, flags_modifyTask id _⟩
  | create quiescent =>
      rw [Enabled, step, implements.idle, if_pos quiescent]
      exact ⟨_, rfl, rfl⟩
  | set event quiescent =>
      refine ⟨_, ?_, flags_sEventSet event⟩
      rw [step, implements.idle, if_pos quiescent]
  | hangUp event id quiescent watched =>
      refine ⟨(state.sEventSet event).interruptTask id, ?_, ?_⟩
      · rw [step, implements.idle, implements.watched, if_pos ⟨quiescent, watched⟩]
      · rw [flags_interruptTask (implements.sEventSet event), flags_sEventSet]
        rfl
  | interrupt id quiescent watched =>
      refine ⟨_, ?_, flags_interruptTask implements id⟩
      rw [step, implements.idle, implements.watched, if_pos ⟨quiescent, watched⟩]
  | exitSignal quiescent =>
      refine ⟨_, ?_, flags_exitReqHandler implements valid⟩
      rw [step, implements.idle, if_pos quiescent]
  | endHandler id quiescent pending =>
      refine ⟨state.seTaskEndHandler id, ?_, rfl⟩
      rw [step, implements.idle, implements.tasks, if_pos ⟨quiescent, pending⟩]

end Enabled

/-- Every step of the queues is a step of the rings. -/
theorem step_implemented {label : Label} (implements : Implements state queues)
    (valid : queues.Valid) (taken : queues.step label = some after) :
    ∃ next, step state label = some next ∧ Implements next after ∧ after.Valid ∧
      next.flags = queues.flagsAfter state.flags label := by
  obtain ⟨next, stepped, flags⟩ := step_enabled implements valid taken
  obtain ⟨result, same, implemented, kept⟩ := step_refines implements valid stepped
  obtain rfl : result = after := Option.some.inj (same.symm.trans taken)
  exact ⟨next, stepped, implemented, kept, flags⟩

end Steps

end TrafficLimitd.Scheduler
