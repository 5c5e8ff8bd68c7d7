import Mathlib.Logic.Function.Basic
import TrafficLimitd.DaemonOrder
import TrafficLimitd.HandlerOrigin

set_option autoImplicit false

/- The daemon together with systemd and the processes. A process is in the cgroup
of one unit. Systemd answers `GetUnitByPID` with the unit current when it gets to
the request, and moves the process of a `StartTransientUnit` when it carries the
request out, which may be at any time after it was sent. -/
namespace TrafficLimitd.Daemon

open Coroutine Handler
open Function (update)

/-- `located` is systemd's answer to the `GetUnitByPID` at which a task waits, and
`queued` has the processes of the `StartTransientUnit`s on their way. -/
structure World where
  daemon : State
  unitOf : Pid → Option CString
  located : TaskId → Option CString
  queued : List Pid

def World.start (unitOf : Pid → Option CString) : World :=
  { daemon := Daemon.start, unitOf := unitOf, located := fun _ => none, queued := [] }

/-- `locate` answers a task's `GetUnitByPID`; `move` carries out a queued request
and `refuse` drops it. Processes start and end. -/
inductive Action
  | daemon (label : Label)
  | locate (id : TaskId)
  | move (index : Nat) (unit : CString)
  | refuse (index : Nat)
  | spawn (pid : Pid) (unit : CString)
  | exit (pid : Pid)

namespace World

variable (manager : Manager) (world : World)

def limits : LimitMap := world.daemon.roster.limits

/-- The answers of systemd and of the kernel are true. Any question may fail. -/
def honest (id : TaskId) : (effect : Effect) → Response effect → Bool
  | .busCall (.getUnitByPID _), (reply : Awaited BusReply) =>
      match reply with
      | .value (.body unit) => world.located id == some unit
      | _ => true
  | .busCall (.property unitObj _ member), reply => manager.reports unitObj member reply
  | .cgPathGetCgroupid path, answer => manager.resolves path answer
  | _, _ => true

def allows : Label → Bool
  | .perform event => world.daemon.current.all fun id => world.honest manager id event.effect event.answer
  | _ => true

/-- An answer is used up, and a new request has none yet. -/
def answersAfter : Label → TaskId → Option CString
  | .perform _ | .block => fun id => if world.daemon.current = some id then none else world.located id
  | _ => world.located

def requestOf : Option Effect → List Pid
  | some (.busCall (.startTransientUnit request)) => [request.pid]
  | _ => []

/-- A task that starts to wait for the reply has sent its request. -/
def sends : Label → List Pid
  | .block => requestOf (world.daemon.current.bind world.daemon.pending)
  | _ => []

def run (host : Host) (label : Label) : Option World :=
  if world.allows manager label then
    (step host world.daemon label).map fun daemon =>
      { world with
        daemon := daemon
        located := world.answersAfter label
        queued := world.queued ++ world.sends label }
  else none

/-- A `GetUnitByPID` is answered once. -/
def locate (id : TaskId) : Option World :=
  match world.daemon.pending id with
  | some (.busCall (.getUnitByPID pid)) =>
      if world.daemon.threads[id]?.any (fun thread => thread.wait = .blocked) ∧
          world.located id = none then
        (world.unitOf pid).map fun unit =>
          { world with located := update world.located id (some unit) }
      else none
  | _ => none

def relocate (pid : Pid) (unit : Option CString) : World :=
  { world with unitOf := update world.unitOf pid unit }

/-- A new scope has a new cgroup. -/
def move (index : Nat) (unit : CString) : Option World :=
  world.queued[index]?.bind fun pid =>
    if (world.unitOf pid).isSome ∧ manager.cgroup unit ∉ world.limits then
      some { world.relocate pid (some unit) with queued := world.queued.eraseIdx index }
    else none

/-- A process id that a connection or a request mentions is not given to a new
process. -/
def spawn (pid : Pid) (unit : CString) : Option World :=
  if world.unitOf pid = none ∧ pid ∉ world.queued ∧
      ∀ job ∈ world.daemon.roster.jobs, job.pid ≠ pid then
    some (world.relocate pid (some unit))
  else none

def step (host : Host) (world : World) : Action → Option World
  | .daemon label => world.run manager host label
  | .locate id => world.locate id
  | .move index unit => world.move manager index unit
  | .refuse index => some { world with queued := world.queued.eraseIdx index }
  | .spawn pid unit => world.spawn pid unit
  | .exit pid => some (world.relocate pid none)

end World

end TrafficLimitd.Daemon
