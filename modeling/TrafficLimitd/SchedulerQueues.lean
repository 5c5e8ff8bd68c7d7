import TrafficLimitd.SchedulerProgram

set_option autoImplicit false

/- What the scheduler is for, without rings: a queue of runners that are ready,
a queue of tasks for each event, and the list of tasks that exist. The rings of
the program implement these queues step by step. -/
namespace TrafficLimitd.Scheduler

open CircularList (Links)

structure Queues where
  current : Runner
  active : List Runner
  waiting : EventId → List TaskId
  all : List TaskId
  tasks : List TaskState
  exitRequested : Bool

namespace Queues

def start : Queues := ⟨.main, [], fun _ => [], [], [], false⟩

variable (queues : Queues)

def ready (runner : Runner) : Queues := { queues with active := queues.active ++ [runner] }

/-- Everybody who waits for the event becomes ready. -/
def wake (event : EventId) : Queues :=
  { queues with
    active := queues.active ++ (queues.waiting event).map .task
    waiting := Function.update queues.waiting event [] }

def enqueue (event : EventId) (id : TaskId) : Queues :=
  let tasks := queues.waiting event ++ [id]
  { queues with waiting := Function.update queues.waiting event tasks }

/-- The task leaves whatever queue it is in. -/
def remove (id : TaskId) : Queues :=
  { queues with
    active := queues.active.erase (.task id)
    waiting := fun event => (queues.waiting event).erase id }

/-- The task becomes ready, wherever it is queued. -/
def cancel (id : TaskId) : Queues := (queues.remove id).ready (.task id)

def interrupt (id : TaskId) : Queues :=
  match queues.tasks[id]? with
  | none => queues
  | some task => if task.interruptDisabled then queues else queues.cancel id

/-- The first runner that is ready runs. -/
def switch : Option Queues :=
  match queues.active with
  | [] => none
  | runner :: rest => some { queues with current := runner, active := rest }

theorem switch_eq_some {queues after : Queues} (switched : queues.switch = some after) :
    ∃ runner rest, queues.active = runner :: rest ∧
      after = { queues with current := runner, active := rest } := by
  unfold switch at switched
  split at switched
  · cases switched
  · rename_i runner rest active
    cases switched
    exact ⟨runner, rest, active, rfl⟩

def modifyTask (id : TaskId) (change : TaskState → TaskState) : Queues :=
  { queues with tasks := queues.tasks.modify id change }

def create : Queues :=
  let id := queues.tasks.length
  { queues with
    tasks := queues.tasks ++ [newTask]
    all := queues.all ++ [id]
    active := queues.active ++ [.task id] }

def running : Option TaskId :=
  match queues.current with
  | .main => none
  | .task id =>
      match queues.tasks[id]? with
      | some task => if task.closed then none else some id
      | none => none

def idle : Bool := queues.current == .main && queues.active.isEmpty

def watched (id : TaskId) : Bool := (queues.tasks[id]?).any TaskState.sources

def step : Label → Option Queues
  | .turn =>
      if queues.current = .main ∧ queues.active ≠ [] then
        (queues.ready .main).switch
      else none
  | .wait event =>
      queues.running.bind fun id =>
        (queues.enqueue event id).switch
  | .openSource =>
      queues.running.map fun id => queues.modifyTask id fun task => { task with sources := true }
  | .setInterruptDisabled disabled =>
      queues.running.map fun id =>
        queues.modifyTask id fun task => { task with interruptDisabled := disabled }
  | .finish =>
      queues.running.bind fun id =>
        ((queues.modifyTask id fun task =>
          { task with deferred := true, sources := false, closed := true }).wake (.join id)).switch
  | .create => if queues.idle then some queues.create else none
  | .set event => if queues.idle then some (queues.wake event) else none
  | .hangUp event id =>
      if queues.idle ∧ queues.watched id then some ((queues.wake event).interrupt id) else none
  | .interrupt id => if queues.idle ∧ queues.watched id then some (queues.interrupt id) else none
  | .exitSignal =>
      if queues.idle then
        some (if queues.exitRequested then queues
          else queues.all.foldl interrupt { queues with exitRequested := true })
      else none
  | .endHandler id =>
      if queues.idle ∧ (queues.tasks[id]?).any TaskState.deferred then
        some ({ queues with all := queues.all.erase id }.modifyTask id fun task =>
          { task with deferred := false, freed := task.freed + 1 })
      else none

/-- All that a step can do, and when it can. -/
inductive Moves (queues : Queues) : Label → Queues → Prop
  | turn {after : Queues} (main : queues.current = .main) (busy : queues.active ≠ [])
      (switched : (queues.ready .main).switch = some after) : Moves queues .turn after
  | wait (event : EventId) (id : TaskId) {after : Queues} (running : queues.running = some id)
      (switched : (queues.enqueue event id).switch = some after) : Moves queues (.wait event) after
  | openSource (id : TaskId) (running : queues.running = some id) :
      Moves queues .openSource (queues.modifyTask id fun task => { task with sources := true })
  | setInterruptDisabled (disabled : Bool) (id : TaskId) (running : queues.running = some id) :
      Moves queues (.setInterruptDisabled disabled)
        (queues.modifyTask id fun task => { task with interruptDisabled := disabled })
  | finish (id : TaskId) {after : Queues} (running : queues.running = some id)
      (switched : ((queues.modifyTask id fun task =>
        { task with deferred := true, sources := false, closed := true }).wake (.join id)).switch =
          some after) : Moves queues .finish after
  | create (quiescent : queues.idle = true) : Moves queues .create queues.create
  | set (event : EventId) (quiescent : queues.idle = true) :
      Moves queues (.set event) (queues.wake event)
  | hangUp (event : EventId) (id : TaskId) (quiescent : queues.idle = true)
      (watched : queues.watched id = true) :
      Moves queues (.hangUp event id) ((queues.wake event).interrupt id)
  | interrupt (id : TaskId) (quiescent : queues.idle = true) (watched : queues.watched id = true) :
      Moves queues (.interrupt id) (queues.interrupt id)
  | exitSignal (quiescent : queues.idle = true) :
      Moves queues .exitSignal (if queues.exitRequested then queues
        else queues.all.foldl Queues.interrupt { queues with exitRequested := true })
  | endHandler (id : TaskId) (quiescent : queues.idle = true)
      (pending : (queues.tasks[id]?).any TaskState.deferred = true) :
      Moves queues (.endHandler id)
        ({ queues with all := queues.all.erase id }.modifyTask id fun task =>
          { task with deferred := false, freed := task.freed + 1 })

variable {queues} in
theorem moves_of_step {label : Label} {after : Queues} (taken : queues.step label = some after) :
    queues.Moves label after := by
  cases label with
  | turn =>
      obtain ⟨⟨main, busy⟩, switched⟩ := Option.ite_none_right_eq_some.mp taken
      exact .turn main busy switched
  | wait event =>
      obtain ⟨id, running, switched⟩ := Option.bind_eq_some_iff.mp taken
      exact .wait event id running switched
  | openSource =>
      obtain ⟨id, running, rfl⟩ := Option.map_eq_some_iff.mp taken
      exact .openSource id running
  | setInterruptDisabled disabled =>
      obtain ⟨id, running, rfl⟩ := Option.map_eq_some_iff.mp taken
      exact .setInterruptDisabled disabled id running
  | finish =>
      obtain ⟨id, running, switched⟩ := Option.bind_eq_some_iff.mp taken
      exact .finish id running switched
  | create =>
      obtain ⟨quiescent, ⟨⟩⟩ := Option.ite_none_right_eq_some.mp taken
      exact .create quiescent
  | set event =>
      obtain ⟨quiescent, ⟨⟩⟩ := Option.ite_none_right_eq_some.mp taken
      exact .set event quiescent
  | hangUp event id =>
      obtain ⟨⟨quiescent, watched⟩, ⟨⟩⟩ := Option.ite_none_right_eq_some.mp taken
      exact .hangUp event id quiescent watched
  | interrupt id =>
      obtain ⟨⟨quiescent, watched⟩, ⟨⟩⟩ := Option.ite_none_right_eq_some.mp taken
      exact .interrupt id quiescent watched
  | exitSignal =>
      obtain ⟨quiescent, ⟨⟩⟩ := Option.ite_none_right_eq_some.mp taken
      exact .exitSignal quiescent
  | endHandler id =>
      obtain ⟨⟨quiescent, pending⟩, ⟨⟩⟩ := Option.ite_none_right_eq_some.mp taken
      exact .endHandler id quiescent pending

end Queues

def Runner.node : Runner → Node
  | .main => .mainTask
  | .task id => .task id

/-- The rings of the state hold the queues, and a node in no queue is in no
ring. -/
structure Implements (state : State) (queues : Queues) : Prop where
  current : state.current = queues.current
  tasks : state.tasks = queues.tasks
  exitRequested : state.exitRequested = queues.exitRequested
  active : state.links.Reads .activeTasks (queues.active.map Runner.node)
  waiting : ∀ event, state.links.Reads (.waitList event) ((queues.waiting event).map .task)
  all : state.links.Reads .allTasks (queues.all.map .listNode)
  offQueue : ∀ id, .task id ∉ queues.active → (∀ event, id ∉ queues.waiting event) →
    state.links.Alone (.task id)
  mainOff : .main ∉ queues.active → state.links.Alone .mainTask
  offAll : ∀ id, id ∉ queues.all → state.links.Alone (.listNode id)

@[simp] theorem attach_links (state : State) (first second : Node) :
    (state.attach first second).links = state.links.toggleConnect first second := rfl

@[simp] theorem detach_links (state : State) (node : Node) :
    (state.detach node).links = state.links.detach node := rfl

theorem start_implements : Implements start .start where
  current := rfl
  tasks := rfl
  exitRequested := rfl
  active := Links.reads_nil.mpr rfl
  waiting _ := Links.reads_nil.mpr rfl
  all := Links.reads_nil.mpr rfl
  offQueue _ _ _ := rfl
  mainOff _ := rfl
  offAll _ _ := rfl

variable {state : State} {queues : Queues}

/-- Only the links, the running task and the bookkeeping matter. -/
theorem Implements.congr {other : State} (implements : Implements state queues)
    (links : other.links = state.links) (current : other.current = state.current)
    (tasks : other.tasks = state.tasks)
    (exitRequested : other.exitRequested = state.exitRequested) : Implements other queues := by
  obtain ⟨links', current', tasks', waits', exit'⟩ := other
  subst links current tasks exitRequested
  exact ⟨implements.current, implements.tasks, implements.exitRequested, implements.active,
    implements.waiting, implements.all, implements.offQueue, implements.mainOff,
    implements.offAll⟩

section Outside

/-- The nodes that only the list of waiting events uses. -/
def Node.Outside : Node → Prop
  | .waitingEvents | .self _ => True
  | _ => False

theorem Node.Outside.not_active {node : Node} (outside : node.Outside) (runners : List Runner) :
    node ∉ Node.activeTasks :: runners.map Runner.node := by
  simp only [List.mem_cons, List.mem_map, not_or, not_exists, not_and]
  refine ⟨by rintro rfl; exact outside, ?_⟩
  rintro (_ | id) - rfl <;> exact outside

theorem Node.Outside.not_waiting {node : Node} (outside : node.Outside) (event : EventId)
    (ids : List TaskId) : node ∉ Node.waitList event :: ids.map Node.task := by
  simp only [List.mem_cons, List.mem_map, not_or, not_exists, not_and]
  exact ⟨by rintro rfl; exact outside, by rintro id - rfl; exact outside⟩

theorem Node.Outside.not_all {node : Node} (outside : node.Outside) (ids : List TaskId) :
    node ∉ Node.allTasks :: ids.map Node.listNode := by
  simp only [List.mem_cons, List.mem_map, not_or, not_exists, not_and]
  exact ⟨by rintro rfl; exact outside, by rintro id - rfl; exact outside⟩

theorem Implements.attach_outside (implements : Implements state queues) (first second : Node)
    (firstOut : first.Outside) (secondOut : second.Outside) :
    Implements (state.attach first second) queues where
  current := implements.current
  tasks := implements.tasks
  exitRequested := implements.exitRequested
  active := implements.active.toggleConnect (firstOut.not_active _) (secondOut.not_active _)
  waiting event := (implements.waiting event).toggleConnect (firstOut.not_waiting _ _)
    (secondOut.not_waiting _ _)
  all := implements.all.toggleConnect (firstOut.not_all _) (secondOut.not_all _)
  offQueue id inactive idle := (implements.offQueue id inactive idle).toggleConnect
    (by rintro rfl; exact firstOut) (by rintro rfl; exact secondOut)
  mainOff inactive := (implements.mainOff inactive).toggleConnect
    (by rintro rfl; exact firstOut) (by rintro rfl; exact secondOut)
  offAll id gone := (implements.offAll id gone).toggleConnect
    (by rintro rfl; exact firstOut) (by rintro rfl; exact secondOut)

theorem detach_reads_of_not_mem {links : Links Node} {node head : Node} {nodes : List Node}
    (reads : links.Reads head nodes) (absent : node ∉ head :: nodes) :
    (links.detach node).Reads head nodes := by
  simp only [List.mem_cons, not_or] at absent
  simpa only [List.erase_of_not_mem absent.2] using reads.detach absent.1

theorem Implements.detach_outside (implements : Implements state queues) (node : Node)
    (outside : node.Outside) : Implements (state.detach node) queues where
  current := implements.current
  tasks := implements.tasks
  exitRequested := implements.exitRequested
  active := detach_reads_of_not_mem implements.active (outside.not_active _)
  waiting event := detach_reads_of_not_mem (implements.waiting event) (outside.not_waiting _ _)
  all := detach_reads_of_not_mem implements.all (outside.not_all _)
  offQueue id inactive idle := (implements.offQueue id inactive idle).detach
    (by rintro rfl; exact outside)
  mainOff inactive := (implements.mainOff inactive).detach (by rintro rfl; exact outside)
  offAll id gone := (implements.offAll id gone).detach (by rintro rfl; exact outside)

theorem Implements.addToWaitingList (implements : Implements state queues) (event : EventId) :
    Implements (state.sEventAddToWaitingList event) queues := by
  unfold State.sEventAddToWaitingList
  split
  · exact (implements.detach_outside (.self event) trivial).attach_outside .waitingEvents
      (.self event) trivial trivial
  · exact implements

theorem Implements.removeFromWaitingList (implements : Implements state queues)
    (event : EventId) : Implements (state.sEventRemoveFromWaitingList event) queues := by
  unfold State.sEventRemoveFromWaitingList
  split
  · exact implements.detach_outside (.self event) trivial
  · exact implements

end Outside

theorem Runner.node_injective : Function.Injective Runner.node := by
  rintro (_ | id) (_ | other) same <;> simp_all [Runner.node]

theorem not_mem_active_of_head {node : Node} (head : ∀ runner, Runner.node runner ≠ node)
    (different : node ≠ .activeTasks) (runners : List Runner) :
    node ∉ Node.activeTasks :: runners.map Runner.node := by
  simp only [List.mem_cons, List.mem_map, not_or, not_exists, not_and]
  exact ⟨different, fun runner _ => head runner⟩

/-- A runner whose node is in no ring joins the end of the ready queue. -/
theorem Implements.ready (implements : Implements state queues) (runner : Runner)
    (alone : state.links.Alone runner.node) :
    Implements (state.attach .activeTasks runner.node) (queues.ready runner) where
  current := implements.current
  tasks := implements.tasks
  exitRequested := implements.exitRequested
  active := by
    have pushed := implements.active.push alone (by cases runner <;> simp [Runner.node])
    simpa [Queues.ready, State.attach] using pushed
  waiting event := by
    refine (implements.waiting event).toggleConnect (by simp) ?_
    have different : runner.node ≠ .waitList event := by cases runner <;> simp [Runner.node]
    simp only [List.mem_cons, not_or]
    exact ⟨different, alone.not_mem (implements.waiting event) different⟩
  all := by
    refine implements.all.toggleConnect (by simp) ?_
    have different : runner.node ≠ .allTasks := by cases runner <;> simp [Runner.node]
    simp only [List.mem_cons, not_or]
    exact ⟨different, alone.not_mem implements.all different⟩
  offQueue id inactive idle := by
    simp only [Queues.ready, List.mem_append, List.mem_singleton, not_or] at inactive
    refine (implements.offQueue id inactive.1 idle).toggleConnect (by simp) ?_
    exact fun same => inactive.2 (Runner.node_injective same)
  mainOff inactive := by
    simp only [Queues.ready, List.mem_append, List.mem_singleton, not_or] at inactive
    refine (implements.mainOff inactive.1).toggleConnect (by simp) ?_
    exact fun same => inactive.2 (Runner.node_injective same)
  offAll id gone := by
    refine (implements.offAll id gone).toggleConnect (by simp) ?_
    cases runner <;> simp [Runner.node]

/-- A task whose node is in no ring joins the end of an event's queue. -/
theorem Implements.enqueue (implements : Implements state queues) (event : EventId)
    (id : TaskId) (alone : state.links.Alone (.task id)) :
    Implements (state.attach (.waitList event) (.task id)) (queues.enqueue event id) where
  current := implements.current
  tasks := implements.tasks
  exitRequested := implements.exitRequested
  active := by
    refine implements.active.toggleConnect
      (not_mem_active_of_head (by rintro (_ | other) <;> simp [Runner.node]) (by simp) _) ?_
    have different : Node.task id ≠ .activeTasks := by simp
    simp only [List.mem_cons, not_or]
    exact ⟨different, alone.not_mem implements.active different⟩
  waiting other := by
    by_cases same : other = event
    · subst same
      have pushed := (implements.waiting other).push alone (by simp)
      simpa [Queues.enqueue, State.attach] using pushed
    · have absent : Node.task id ∉ Node.waitList other :: (queues.waiting other).map .task := by
        simp only [List.mem_cons, not_or]
        exact ⟨by simp, alone.not_mem (implements.waiting other) (by simp)⟩
      have otherHead : Node.waitList event ∉
          Node.waitList other :: (queues.waiting other).map .task := by
        simpa using fun equal => same equal.symm
      simpa [Queues.enqueue, State.attach, same] using
        (implements.waiting other).toggleConnect otherHead absent
  all := by
    refine implements.all.toggleConnect (by simp) ?_
    simp only [List.mem_cons, not_or]
    exact ⟨by simp, alone.not_mem implements.all (by simp)⟩
  offQueue other inactive idle := by
    have idleBefore : ∀ event, other ∉ queues.waiting event := by
      intro before member
      apply idle before
      simp only [Queues.enqueue, Function.update_apply]
      split
      · rename_i same
        exact List.mem_append_left _ (same ▸ member)
      · exact member
    refine (implements.offQueue other inactive idleBefore).toggleConnect (by simp) ?_
    have queued := idle event
    simp only [Queues.enqueue, Function.update_self, List.mem_append, List.mem_singleton,
      not_or] at queued
    simpa using queued.2
  mainOff inactive := (implements.mainOff inactive).toggleConnect (by simp) (by simp)
  offAll other gone := (implements.offAll other gone).toggleConnect (by simp) (by simp)

theorem map_erase_task (runners : List Runner) (id : TaskId) :
    (runners.map Runner.node).erase (.task id) = (runners.erase (.task id)).map Runner.node :=
  (List.map_erase (a := Runner.task id) Runner.node_injective runners).symm

/-- Detaching a task's node takes it out of its queue. -/
theorem Implements.remove (implements : Implements state queues) (id : TaskId) :
    Implements (state.detach (.task id)) (queues.remove id) where
  current := implements.current
  tasks := implements.tasks
  exitRequested := implements.exitRequested
  active := by
    have detached := implements.active.detach (show Node.task id ≠ .activeTasks by simp)
    rwa [map_erase_task] at detached
  waiting event := by
    have detached := (implements.waiting event).detach
      (show Node.task id ≠ .waitList event by simp)
    rwa [← List.map_erase (fun _ _ => Node.task.inj)] at detached
  all := detach_reads_of_not_mem implements.all (by simp)
  offQueue other inactive idle := by
    by_cases same : other = id
    · exact same ▸ state.links.detach_alone _
    · refine (implements.offQueue other ?_ ?_).detach (by simpa using same)
      · intro member
        exact inactive ((List.mem_erase_of_ne (by simpa using same)).mpr member)
      · intro event member
        exact idle event ((List.mem_erase_of_ne same).mpr member)
  mainOff inactive := by
    refine (implements.mainOff ?_).detach (by simp)
    intro member
    exact inactive ((List.mem_erase_of_ne (by simp)).mpr member)
  offAll other gone := (implements.offAll other gone).detach (by simp)

/-- `s_event_set` on the rings. -/
theorem Implements.wake (implements : Implements state queues) (event : EventId) :
    Implements ((state.attach .activeTasks (.waitList event)).detach (.waitList event))
      (queues.wake event) where
  current := implements.current
  tasks := implements.tasks
  exitRequested := implements.exitRequested
  active := by
    have absent : Node.waitList event ∉ Node.activeTasks :: queues.active.map Runner.node :=
      not_mem_active_of_head (by rintro (_ | other) <;> simp [Runner.node]) (by simp) _
    have joined := implements.active.join (implements.waiting event)
      (implements.active.disjoint (implements.waiting event) absent)
    have detached := joined.detach (show Node.waitList event ≠ .activeTasks by simp)
    rw [List.erase_append_right _ (fun member => absent (List.mem_cons_of_mem _ member)),
      List.erase_cons_head] at detached
    simpa [Queues.wake, show Runner.node ∘ Runner.task = Node.task from rfl] using detached
  waiting other := by
    by_cases same : other = event
    · subst same
      simpa [Queues.wake] using Links.reads_nil.mpr (Links.detach_alone _ (Node.waitList other))
    · have otherHead : Node.waitList event ∉
          Node.waitList other :: (queues.waiting other).map .task := by
        simpa using fun equal => same equal.symm
      have kept := detach_reads_of_not_mem ((implements.waiting other).toggleConnect
        (show Node.activeTasks ∉ _ by simp) otherHead) otherHead
      simpa [Queues.wake, same] using kept
  all := detach_reads_of_not_mem (implements.all.toggleConnect (by simp) (by simp)) (by simp)
  offQueue id inactive idle := by
    simp only [Queues.wake, List.mem_append, List.mem_map, Runner.task.injEq, exists_eq_right,
      not_or] at inactive
    have idleBefore : ∀ before, id ∉ queues.waiting before := by
      intro before
      by_cases same : before = event
      · exact same ▸ inactive.2
      · simpa [Queues.wake, same] using idle before
    exact ((implements.offQueue id inactive.1 idleBefore).toggleConnect (by simp)
      (by simp)).detach (by simp)
  mainOff inactive := by
    have before : Runner.main ∉ queues.active := fun member =>
      inactive (List.mem_append_left _ member)
    exact ((implements.mainOff before).toggleConnect (by simp) (by simp)).detach (by simp)
  offAll id gone :=
    ((implements.offAll id gone).toggleConnect (by simp) (by simp)).detach (by simp)

theorem clearWaitingEvent_implements (implements : Implements state queues) :
    Implements state.clearWaitingEvent queues := by
  unfold State.clearWaitingEvent
  split
  · exact implements
  · exact implements.congr rfl rfl rfl rfl

theorem Implements.sEventSet (implements : Implements state queues) (event : EventId) :
    Implements (state.sEventSet event) (queues.wake event) :=
  (clearWaitingEvent_implements (implements.wake event)).removeFromWaitingList event

theorem Implements.sTaskCancelWait (implements : Implements state queues) (id : TaskId) :
    Implements (state.sTaskCancelWait id) (queues.cancel id) := by
  have marked : Implements
      (state.setWait id { state.waits id with cancelled := true }) queues :=
    implements.congr rfl rfl rfl rfl
  have moved := clearWaitingEvent_implements ((marked.remove id).ready (.task id)
    (Links.detach_alone _ _))
  unfold State.sTaskCancelWait
  dsimp only
  split
  · exact moved
  · exact moved.removeFromWaitingList _

theorem Implements.interruptTask (implements : Implements state queues) (id : TaskId) :
    Implements (state.interruptTask id) (queues.interrupt id) := by
  unfold State.interruptTask Queues.interrupt
  rw [implements.tasks]
  cases queues.tasks[id]? with
  | none => exact implements
  | some task =>
      dsimp only
      split
      · exact implements
      · exact implements.sTaskCancelWait id

theorem Implements.isEmpty (implements : Implements state queues) :
    state.isEmpty .activeTasks = queues.active.isEmpty := by
  unfold State.isEmpty
  rw [Bool.eq_iff_iff, decide_eq_true_iff, implements.active.alone_iff]
  simp

theorem Implements.active_nodup (implements : Implements state queues) :
    queues.active.Nodup :=
  List.Nodup.of_map _ (List.nodup_cons.mp implements.active.1).2

/-- A task that is ready waits for no event. -/
theorem Implements.not_waiting (implements : Implements state queues) {id : TaskId}
    (queued : .task id ∈ queues.active) (event : EventId) : id ∉ queues.waiting event := by
  intro waits
  have absent : Node.waitList event ∉ Node.activeTasks :: queues.active.map Runner.node :=
    not_mem_active_of_head (by rintro (_ | other) <;> simp [Runner.node]) (by simp) _
  exact implements.active.disjoint (implements.waiting event) absent
    (List.mem_cons_of_mem _ (List.mem_map_of_mem (f := Runner.node) queued))
    (List.mem_cons_of_mem _ (List.mem_map_of_mem (f := Node.task) waits))

theorem parent_node (runner : Runner) : State.parent runner.node = some runner := by
  cases runner <;> rfl

/-- The runner that the rings hand over to is the first of the ready queue. -/
theorem Implements.sTaskCallNext (implements : Implements state queues)
    (nonempty : queues.active ≠ []) :
    ∃ next after, state.sTaskCallNext = some next ∧ queues.switch = some after ∧
      Implements next after := by
  obtain ⟨current, active, waiting, all, tasks, exitRequested⟩ := queues
  cases active with
  | nil => exact absurd rfl nonempty
  | cons runner rest =>
      have first : state.links.next .activeTasks = runner.node := implements.active.next_eq
      have busy : state.isEmpty .activeTasks = false := implements.isEmpty
      refine ⟨{ state with current := runner }.detach runner.node,
        ⟨runner, rest, waiting, all, tasks, exitRequested⟩, ?_, rfl, ?_⟩
      · simp only [State.sTaskCallNext, busy, first, parent_node, Bool.false_eq_true, if_false,
          Option.map_some]
      · have notWaiting (event : EventId) :
            runner.node ∉ Node.waitList event :: (waiting event).map .task := by
          cases runner with
          | main => simp [Runner.node]
          | task id =>
              have queued : Runner.task id ∈ Runner.task id :: rest := List.mem_cons_self
              simpa [Runner.node] using implements.not_waiting queued event
        refine ⟨rfl, implements.tasks, implements.exitRequested, ?_,
          fun event => detach_reads_of_not_mem (implements.waiting event) (notWaiting event),
          detach_reads_of_not_mem implements.all (by cases runner <;> simp [Runner.node]), ?_, ?_,
          fun id gone => (implements.offAll id gone).detach
            (by cases runner <;> simp [Runner.node])⟩
        · have different : runner.node ≠ .activeTasks := by cases runner <;> simp [Runner.node]
          have detached := implements.active.detach different
          rwa [List.map_cons, List.erase_cons_head] at detached
        · intro id inactive idle
          by_cases same : Runner.task id = runner
          · subst same
            exact Links.detach_alone _ _
          · refine (implements.offQueue id ?_ idle).detach
              fun equal => same (Runner.node_injective equal)
            simpa [same] using inactive
        · intro inactive
          by_cases same : Runner.main = runner
          · subst same
            exact Links.detach_alone _ _
          · refine (implements.mainOff ?_).detach
              fun equal => same (Runner.node_injective equal)
            simpa [same] using inactive

end TrafficLimitd.Scheduler
