import TrafficLimitd.DaemonRoster

set_option autoImplicit false

/- The daemon at work: its tasks with their waits, interrupts and event sources,
the queue of ready tasks, and the main loop that runs them all before it
dispatches one event. What the tasks do to the counter and to the map is the
roster's part. -/
namespace TrafficLimitd.Daemon

open Coroutine Handler

/-- Where a task stands with its calls: `woken` is the return of `s_event_wait`,
with `waiting_cancelled`. -/
inductive Wait
  | running
  | blocked
  | woken (cancelled : Bool)
deriving DecidableEq

/-- The stream's event source and interrupt. -/
structure StreamSource where
  armed : Bool
  reason : Option InterruptReason
deriving DecidableEq

structure PidfdEvent where
  armed : Bool
  terminated : Bool
  waitForExit : Bool
  reason : Option InterruptReason
deriving DecidableEq

/-- The rest of `struct se_task_arg` and what the task has opened. -/
structure Thread where
  wait : Wait
  interruptDisabled : Bool
  interruptReason : Option InterruptReason
  stream : Option StreamSource
  pidfd : Option PidfdEvent
  closed : Bool
  freed : Bool
deriving DecidableEq

def newThread : Thread :=
  { wait := .running, interruptDisabled := false, interruptReason := none, stream := none,
    pidfd := none, closed := false, freed := false }

namespace Thread

/-- A call that may wait returns without waiting: a transfer on a stream that is
over, a message that cannot be sent, a job that has ended already, a process that
has. -/
def returnsAtOnce (thread : Thread) : (effect : Effect) → Response effect → Bool
  | .streamIo _ _ _, (answer : Awaited _) => !answer.isCancelled
  | .busCall _, (answer : Awaited BusReply) =>
      match answer with
      | .value (.notSent _) => true
      | _ => false
  | .matchJobRemoved, (answer : Awaited Int) =>
      match answer with
      | .value rc => decide (rc < 0)
      | .cancelled => false
  | .waitForJob _, (answer : Awaited Int) => !answer.isCancelled
  | .waitForExit, (answer : Awaited Unit) =>
      !answer.isCancelled && thread.pidfd.any PidfdEvent.terminated
  | _, _ => true

/-- A call that may wait does. -/
def mayBlock (thread : Thread) : Effect → Bool
  | .waitForExit => !thread.pidfd.any PidfdEvent.terminated
  | effect => effect.waits

/-- The task can have this answer now. -/
def accepts (thread : Thread) (event : Event Effect Response) : Bool :=
  match thread.wait with
  | .running => thread.returnsAtOnce event.effect event.answer
  | .blocked => false
  | .woken cancelled => outcome event.effect event.answer == some cancelled

/-- What a call changes in the task itself. An interrupted wait for the process
switches its event source off. -/
def observe (thread : Thread) : (effect : Effect) → Response effect → Thread
  | .initMsgStream, (rc : Int) =>
      if rc < 0 then thread else { thread with stream := some ⟨true, none⟩ }
  | .regStreamInterrupt reason, _ =>
      { thread with stream := thread.stream.map fun source => { source with reason := reason } }
  | .initPidfdEvent _, (rc : Int) =>
      if rc < 0 then thread else { thread with pidfd := some ⟨true, false, false, none⟩ }
  | .regPidfdInterrupt reason, _ =>
      { thread with pidfd := thread.pidfd.map fun event => { event with reason := reason } }
  | .waitForExit, (answer : Awaited Unit) =>
      if answer.isCancelled then
        { thread with pidfd := thread.pidfd.map fun event => { event with armed := false } }
      else thread
  | .setInterruptDisabled disabled, _ => { thread with interruptDisabled := disabled }
  | _, _ => thread

def perform (thread : Thread) (event : Event Effect Response) : Thread :=
  { thread.observe event.effect event.answer with wait := .running }

/-- `wait_for_exit = 1` before the wait for the process. -/
def block (thread : Thread) : Effect → Thread
  | .waitForExit =>
      { thread with
        wait := .blocked
        pidfd := thread.pidfd.map fun event => { event with waitForExit := true } }
  | _ => { thread with wait := .blocked }

/-- `destroy_msg_stream` and `destroy_pidfd_event`. -/
def clean (thread : Thread) : Cleanup → Thread
  | .destroyMsgStream => { thread with stream := none }
  | .destroyPidfdEvent => { thread with pidfd := none }
  | _ => thread

/-- `s_event_set` of the event that the task waits for. -/
def wake (thread : Thread) : Thread :=
  if thread.wait = .blocked then { thread with wait := .woken false } else thread

/-- `interrupt_task` with interrupts enabled. The flag that `s_task_cancel_wait`
sets is cleared by the next wait, so it only matters to a wait that is not over. -/
def interrupt (thread : Thread) (reason : InterruptReason) : Thread :=
  { thread with
    interruptReason := some reason
    wait := if thread.wait = .running then .running else .woken true }

end Thread

structure State where
  roster : Roster
  threads : List Thread
  ready : List TaskId
  current : Option TaskId
  thisUnitName : Option CString
  exitRequested : Bool

def start : State :=
  { roster := .empty, threads := [], ready := [], current := none, thisUnitName := none,
    exitRequested := false }

namespace State

/-- The main loop has run every ready task. -/
def idle (state : State) : Bool := state.current.isNone && state.ready.isEmpty

/-- The answers that the state outside of the roster determines. -/
def answers (state : State) (thread : Thread) : (effect : Effect) → Response effect → Bool
  | .thisUnitName, (name : Option CString) => name == state.thisUnitName
  | .interruptReason, (reason : Option InterruptReason) => reason == thread.interruptReason
  | _, _ => true

def nameAfter (state : State) : Effect → Option CString
  | .setThisUnitName name => some name
  | _ => state.thisUnitName

def setThread (state : State) (id : TaskId) (thread : Thread) : State :=
  { state with threads := state.threads.set id thread }

/-- Puts a task at the end of `active_tasks`. -/
def enqueue (state : State) (id : TaskId) : State :=
  { state with ready := state.ready.erase id ++ [id] }

def wakeTask (state : State) (id : TaskId) (thread : Thread) : State :=
  if thread.wait = .blocked then (state.setThread id thread.wake).enqueue id
  else state.setThread id thread

def interruptTask (state : State) (id : TaskId) (reason : InterruptReason) : State :=
  match state.threads[id]? with
  | none => state
  | some thread =>
      if thread.interruptDisabled then state
      else (state.setThread id (thread.interrupt reason)).enqueue id

def interruptSource (state : State) (id : TaskId) : Option InterruptReason → State
  | none => state
  | some reason => state.interruptTask id reason

/-- What `interrupt_all_tasks` does to one task. A task leaves the list when it is
freed. -/
def interruptLive (state : State) (id : TaskId) : State :=
  if state.threads[id]?.any (fun thread => !thread.freed) then
    state.interruptTask id .sysWillExit
  else state

/-- `interrupt_all_tasks`, in the order in which the tasks were created. -/
def interruptAllTasks (state : State) : State :=
  (List.range state.threads.length).foldl interruptLive state

def exitReqHandler (state : State) : State :=
  if state.exitRequested then state
  else interruptAllTasks { state with exitRequested := true }

/-- The program of a task is at this kind of call. -/
def pending (state : State) (id : TaskId) : Option Effect :=
  state.roster.jobs[id]?.bind fun job => job.program.pending

/-- `msg_stream_handler` on a hang-up or an error: the source is switched off, a
transfer that waits is woken, and the registered task is interrupted. -/
def hangUp (state : State) (id : TaskId) (thread : Thread) (source : StreamSource) : State :=
  let thread := { thread with stream := some { source with armed := false } }
  let state :=
    if (state.pending id).any Effect.isStreamIo then state.wakeTask id thread
    else state.setThread id thread
  state.interruptSource id source.reason

/-- `pidfd_event_handler`; the source is a one-shot. -/
def processExit (state : State) (id : TaskId) (thread : Thread) (event : PidfdEvent) : State :=
  if event.waitForExit then
    state.wakeTask id { thread with
      pidfd := some { event with armed := false, terminated := true, waitForExit := false } }
  else
    (state.setThread id { thread with
      pidfd := some { event with armed := false, terminated := true } }).interruptSource id
        event.reason

end State

/-- What the running task does, and what `sd_event_run` dispatches. `reply` is any
event that ends a wait but the exit of the process: an answer on the bus, a
finished transfer, a timer. It is not asked here whether the source that a transfer
without a timer needs is on. -/
inductive Label
  | resume
  | perform (event : Event Effect Response)
  | block
  | cleanup (deleted : Bool)
  | finish
  | accept (pid : Pid)
  | reply (id : TaskId)
  | hangUp (id : TaskId)
  | processExit (id : TaskId)
  | exitSignal
  | endHandler (id : TaskId)

namespace State

/-- The next ready task runs. To run a task that has ended is undefined. -/
def resume (state : State) : Option State :=
  match state.current, state.ready with
  | none, id :: rest =>
      if state.threads[id]?.any (fun thread => !thread.closed) then
        some { state with ready := rest, current := some id }
      else none
  | _, _ => none

/-- The running task. -/
def running (state : State) : Option (TaskId × Thread) :=
  state.current.bind fun id => state.threads[id]?.map fun thread => (id, thread)

def perform (state : State) (host : Host) (event : Event Effect Response) : Option State :=
  state.running.bind fun (id, thread) =>
    if thread.accepts event && state.answers thread event.effect event.answer then
      (state.roster.step host (.perform id event)).map fun roster =>
        { state.setThread id (thread.perform event) with
          roster := roster
          thisUnitName := state.nameAfter event.effect }
    else none

def block (state : State) : Option State :=
  state.running.bind fun (id, thread) =>
    (state.pending id).bind fun effect =>
      if thread.wait = .running ∧ thread.mayBlock effect then
        some { state.setThread id (thread.block effect) with current := none }
      else none

def cleanup (state : State) (host : Host) (deleted : Bool) : Option State :=
  state.running.bind fun (id, thread) =>
    (state.roster.jobs[id]?.bind fun job => job.cleanups.head?).bind fun cleanup =>
      (state.roster.step host (.cleanup id deleted)).map fun roster =>
        { state.setThread id (thread.clean cleanup) with roster := roster }

/-- The end of `se_task_entry`, after the cleanups. -/
def finish (state : State) : Option State :=
  state.running.bind fun (id, thread) =>
    state.roster.jobs[id]?.bind fun job =>
      if job.program.pending = none ∧ job.cleanups = [] then
        some { state.setThread id { thread with closed := true } with current := none }
      else none

def accept (state : State) (host : Host) (pid : Pid) : Option State :=
  (state.roster.step host (.create pid)).map fun roster =>
    { state with
      roster := roster
      threads := state.threads ++ [newThread]
      ready := state.ready ++ [state.threads.length] }

/-- An event whose handler concerns one task. -/
def dispatch (state : State) (id : TaskId) : Label → Option State
  | .reply _ =>
      state.threads[id]?.bind fun thread =>
        if thread.wait = .blocked ∧ state.pending id ≠ some .waitForExit then
          some (state.wakeTask id thread)
        else none
  | .hangUp _ =>
      state.threads[id]?.bind fun thread =>
        thread.stream.bind fun source =>
          if source.armed then some (state.hangUp id thread source) else none
  | .processExit _ =>
      state.threads[id]?.bind fun thread =>
        thread.pidfd.bind fun event =>
          if event.armed then some (state.processExit id thread event) else none
  | .endHandler _ =>
      state.threads[id]?.bind fun thread =>
        if thread.closed ∧ thread.freed = false then
          some (state.setThread id { thread with freed := true })
        else none
  | _ => none

end State

def step (host : Host) (state : State) (label : Label) : Option State :=
  if state.roster.aborted then none
  else
    match label with
    | .resume => state.resume
    | .perform event => state.perform host event
    | .block => state.block
    | .cleanup deleted => state.cleanup host deleted
    | .finish => state.finish
    | .accept pid => if state.idle then state.accept host pid else none
    | .exitSignal => if state.idle then some state.exitReqHandler else none
    | .reply id | .hangUp id | .processExit id | .endHandler id =>
        if state.idle then state.dispatch id label else none

end TrafficLimitd.Daemon
