import TrafficLimitd.CircularList
import TrafficLimitd.RunInvariant

set_option autoImplicit false

/- The coroutine scheduler and the task bookkeeping on top of it: `s_event.c`,
`s_task.c`, the task part of `se_libs.c` and the exit signal handler. All lists
are intrusive rings; a task's code appears only through the calls it makes. -/
namespace TrafficLimitd.Scheduler

open CircularList (Links)

abbrev TaskId := Nat

inductive EventId
  | join (task : TaskId)
  | other (id : Nat)
deriving DecidableEq, Repr

/-- The list nodes: the three list heads, the main task's node, and the nodes
inside tasks, their `se_task_arg` and events. -/
inductive Node
  | activeTasks
  | waitingEvents
  | allTasks
  | mainTask
  | task (id : TaskId)
  | listNode (id : TaskId)
  | waitList (event : EventId)
  | self (event : EventId)
deriving DecidableEq, Repr

inductive Runner
  | main
  | task (id : TaskId)
deriving DecidableEq, Repr

/-- The life of a task. `sources` says that an event source which interrupts
just this task exists: its stream's or its pidfd's, both of which the task's
cleanups destroy. `deferred` says that `se_task_end_handler` is pending. -/
structure TaskState where
  closed : Bool
  interruptDisabled : Bool
  sources : Bool
  deferred : Bool
  freed : Nat
deriving DecidableEq, Repr

/-- A task as `se_task_create` sets it up. -/
def newTask : TaskState :=
  { closed := false, interruptDisabled := false, sources := false, deferred := false, freed := 0 }

/-- The fields of `s_task_t` that belong to the current wait. -/
structure WaitState where
  cancelled : Bool
  event : Option EventId
deriving DecidableEq, Repr

structure State where
  links : Links Node
  current : Runner
  tasks : List TaskState
  waits : TaskId → WaitState
  exitRequested : Bool

/-- `s_task_init_system` and `all_tasks` at the start of the daemon. -/
def start : State :=
  { links := .unlinked Node, current := .main, tasks := [], waits := fun _ => ⟨false, none⟩,
    exitRequested := false }

namespace State

variable (state : State)

def attach (first second : Node) : State :=
  { state with links := state.links.toggleConnect first second }

def detach (node : Node) : State := { state with links := state.links.detach node }

def isEmpty (node : Node) : Bool := decide (state.links.Alone node)

def setWait (id : TaskId) (wait : WaitState) : State :=
  { state with waits := Function.update state.waits id wait }

/-- `g_globals.current_task->waiting_event = NULL`; nothing reads the field of
the main task. -/
def clearWaitingEvent : State :=
  match state.current with
  | .main => state
  | .task id => state.setWait id { state.waits id with event := none }

def sEventAddToWaitingList (event : EventId) : State :=
  if state.isEmpty (.waitList event) then
    (state.detach (.self event)).attach .waitingEvents (.self event)
  else state

def sEventRemoveFromWaitingList (event : EventId) : State :=
  if state.isEmpty (.waitList event) then state.detach (.self event) else state

def sEventSet (event : EventId) : State :=
  (((state.attach .activeTasks (.waitList event)).detach (.waitList event)).clearWaitingEvent
    ).sEventRemoveFromWaitingList event

/-- `GET_PARENT_ADDR` of a node that is taken for a task's. -/
def parent : Node → Option Runner
  | .mainTask => some .main
  | .task id => some (.task id)
  | _ => none

def sTaskCallNext : Option State :=
  if state.isEmpty .activeTasks then some state
  else
    let next := state.links.next .activeTasks
    (parent next).map fun runner => { state with current := runner }.detach next

/-- `s_task_next` of the running task. -/
def sTaskNext (id : TaskId) : Option State :=
  (state.setWait id { state.waits id with cancelled := false }).sTaskCallNext

/-- `s_event_wait` of the running task up to the switch to another one. -/
def sEventWait (id : TaskId) (event : EventId) : Option State :=
  let state := state.sEventAddToWaitingList event
  let state := (state.detach (.task id)).attach (.waitList event) (.task id)
  (state.setWait id { state.waits id with event := some event }).sTaskNext id

def sTaskCancelWait (id : TaskId) : State :=
  let state := state.setWait id { state.waits id with cancelled := true }
  let state := (state.detach (.task id)).attach .activeTasks (.task id)
  let waitingEvent := (state.waits id).event
  let state := state.clearWaitingEvent
  match waitingEvent with
  | none => state
  | some event => state.sEventRemoveFromWaitingList event

def interruptTask (id : TaskId) : State :=
  match state.tasks[id]? with
  | none => state
  | some task => if task.interruptDisabled then state else state.sTaskCancelWait id

/-- The loop of `interrupt_all_tasks`; `fuel` bounds the number of nodes. -/
def interruptFrom : Nat → State → Node → State
  | 0, state, _ => state
  | fuel + 1, state, node =>
      match node with
      | .listNode id => interruptFrom fuel (state.interruptTask id) (state.links.next node)
      | _ => state

def interruptAllTasks : State :=
  interruptFrom (state.tasks.length + 1) state (state.links.next .allTasks)

def exitReqHandler : State :=
  if state.exitRequested then state
  else interruptAllTasks { state with exitRequested := true }

def seTaskCreate : State :=
  let id := state.tasks.length
  let state := { state with tasks := state.tasks ++ [newTask] }
  (state.attach .allTasks (.listNode id)).attach .activeTasks (.task id)

def modifyTask (id : TaskId) (change : TaskState → TaskState) : State :=
  { state with tasks := state.tasks.modify id change }

def seTaskEndHandler (id : TaskId) : State :=
  (state.detach (.listNode id)).modifyTask id fun task =>
    { task with deferred := false, freed := task.freed + 1 }

/-- The end of `se_task_entry` and of `s_task_context_entry`: the end handler is
deferred, the cleanups run, the task is closed, and another one runs. -/
def endTask (id : TaskId) : Option State :=
  ((state.modifyTask id fun task =>
    { task with deferred := true, sources := false, closed := true }).sEventSet
      (.join id)).sTaskNext id

/-- One turn of the loop in `s_task_main_loop_once`. -/
def mainLoopTurn : Option State := (state.attach .activeTasks .mainTask).sTaskCallNext

end State

/-- What the running task does, and what `sd_event_run` dispatches. -/
inductive Label
  | turn
  | wait (event : EventId)
  | openSource
  | setInterruptDisabled (disabled : Bool)
  | finish
  | create
  | set (event : EventId)
  | hangUp (event : EventId) (id : TaskId)
  | interrupt (id : TaskId)
  | exitSignal
  | endHandler (id : TaskId)
deriving DecidableEq, Repr

/-- The running task, if it is one whose code has not ended. -/
def State.running (state : State) : Option TaskId :=
  match state.current with
  | .main => none
  | .task id =>
      match state.tasks[id]? with
      | some task => if task.closed then none else some id
      | none => none

/-- The main loop has run every ready task. -/
def State.idle (state : State) : Bool :=
  state.current == .main && state.isEmpty .activeTasks

/-- The task's own event sources still exist. -/
def State.watched (state : State) (id : TaskId) : Bool :=
  (state.tasks[id]?).any TaskState.sources

def step (state : State) : Label → Option State
  | .turn =>
      if state.current = .main ∧ state.isEmpty .activeTasks = false then state.mainLoopTurn
      else none
  | .wait event => state.running.bind fun id => state.sEventWait id event
  | .openSource =>
      state.running.map fun id => state.modifyTask id fun task => { task with sources := true }
  | .setInterruptDisabled disabled =>
      state.running.map fun id =>
        state.modifyTask id fun task => { task with interruptDisabled := disabled }
  | .finish => state.running.bind state.endTask
  | .create => if state.idle then some state.seTaskCreate else none
  | .set event => if state.idle then some (state.sEventSet event) else none
  | .hangUp event id =>
      if state.idle ∧ state.watched id then some ((state.sEventSet event).interruptTask id)
      else none
  | .interrupt id =>
      if state.idle ∧ state.watched id then some (state.interruptTask id) else none
  | .exitSignal => if state.idle then some state.exitReqHandler else none
  | .endHandler id =>
      if state.idle ∧ (state.tasks[id]?).any TaskState.deferred then
        some (state.seTaskEndHandler id)
      else none

end TrafficLimitd.Scheduler
