import TrafficLimitd.HandlerProgram
import TrafficLimitd.HeapOwnership

set_option autoImplicit false

/- src/main.c and src/se_libs.c: `client_handler_async` with what it holds, and the cleanups
of `se_task_entry`. The list of cleanups is an argument; a `goto` is a call of the code at
the label. -/
namespace TrafficLimitd.Heap

open Coroutine Handler Ownership
open Limiter (CgroupId)

/-- `struct memory_to_free`, where `mem` is a pointer. -/
structure Registered where
  node : Ref
  cleanup : Cleanup
  mem : Option Ref

/-- `se_task_register_memory_to_free`. -/
def register (list : List Registered) (cleanup : Cleanup) (mem : Option Ref) :
    Prog (List Registered) := do
  let id : Nat ← ask (.register cleanup mem)
  return ⟨⟨.node, id⟩, cleanup, mem⟩ :: list

def drainStream : Prog Int := plain .drainStream
def shutdownTail : Prog Int := plain .shutdownTail
def streamIo (direction : Stream.Direction) (buf : List UInt8) (usec : Nat) :
    Prog (Awaited (Int × List UInt8)) := plain (.streamIo direction buf usec)
def increaseNrTasks : Prog Bool := plain .increaseNrTasks
def thisUnitName : Prog (Option CString) := plain .thisUnitName
def cgPathGetCgroupid (path : CString) : Prog (Except Int CgroupId) :=
  plain (.cgPathGetCgroupid path)
def rateLimitCheck (cgroup : CgroupId) : Prog Int := plain (.rateLimitCheck cgroup)
def rateLimitSet (cgroup : CgroupId) (limit : RateLimit) : Prog Int :=
  plain (.rateLimitSet cgroup limit)
def waitForExit : Prog (Awaited Unit) := plain .waitForExit
def interruptReason : Prog (Option InterruptReason) := plain .interruptReason
def openStream (fd : Ref) : Prog Int := ask (.openStream fd)
def closeFd (fd : Ref) : Prog Unit := ask (.closeFd fd)
def keep (text : Text) : Prog Unit := ask (.keep text)

def openPidfd (pid : Pid) : Prog (Except Int Ref) := do
  let (rc, id) ← ask (.openPidfd pid)
  return if rc < 0 then .error rc else .ok ⟨.pidfdEvent, id⟩

def msgStreamWrite (stream : Ref) (buf : List UInt8) (usec : Nat) : Prog Int := do
  use stream
  return ioRc (← streamIo .write buf usec)

def writeRateLimitMsg (stream : Ref) (msg : List UInt8) : Prog Int :=
  msgStreamWrite stream msg maxIoUsec

/-- `write_rate_limit_log`; the text is freed before it is sent. -/
def writeRateLimitLog (stream : Ref) (text : CString) : Prog Int := do
  match ← create .text [] with
  | .error rc => return rc
  | .ok msg => do
      use msg
      drop msg
      msgStreamWrite stream (logMsg text) maxIoUsec

def shutdownMsgStream (stream : Ref) : Prog Int := do
  use stream
  let rc ← drainStream
  if rc < 0 then return rc
  let rc ← msgStreamWrite stream [] 0
  if rc < 0 then return rc
  shutdownTail

/-- `sb_bus_call_unit_method(…, "Kill", …)` with `result` NULL. -/
def killScope (scopeObj : Text) : Prog Unit := do
  let _ ← sbBusCallMethodv (.kill scopeObj.bytes) [scopeObj.ref] fun reply => drop reply.ref

def errCloseStream (host : Host) (list : List Registered) (stream : Ref) (rc : Int)
    (clientError : Bool) : Prog (List Registered) := do
  let _ ← writeRateLimitLog stream (errorText host rc clientError)
  let _ ← writeRateLimitMsg stream (failMsg (if clientError then .yourError else .internal))
  let _ ← shutdownMsgStream stream
  return list

def tellExit (reason : Option InterruptReason) (stream : Option Ref) : Prog Unit := do
  match stream with
  | none => return
  | some stream =>
      if reason = some .sysWillExit then
        let _ ← writeRateLimitMsg stream (failMsg .internal)
        let _ ← shutdownMsgStream stream

def killKnown : Option Text → Prog Unit
  | none => return
  | some scopeObj => killScope scopeObj

def interruptLabel (list : List Registered) (scopeObj : Option Text) (stream : Option Ref) :
    Prog (List Registered) := do
  plain (.setInterruptDisabled true)
  tellExit (← interruptReason) stream
  killKnown scopeObj
  return list

/-- `goto interrupt` on `-EINTR`, else `goto err_close_stream`. -/
def leave (host : Host) (list : List Registered) (scopeObj : Option Text) (stream : Ref)
    (rc : Int) : Prog (List Registered) :=
  if rc = -Errno.eintr then interruptLabel list scopeObj (some stream)
  else errCloseStream host list stream rc false

/-- `get_Unit_cgroup_id`. -/
def getUnitCgroupId (unitObj : Text) : Prog (Except Int CgroupId) :=
  orElse (sbUnitGetSubpropString unitObj (ascii "ControlGroup")) fun cgroupPath =>
    releasing cgroupPath.ref do
      use cgroupPath.ref
      cgPathGetCgroupid cgroupPath.bytes

/-- The end of the main path, with `stream` NULL. -/
def awaitExit (list : List Registered) (scopeObj : Text) (pidfdEvent : Ref) :
    Prog (List Registered) := do
  use pidfdEvent
  match ← waitForExit with
  | .cancelled => interruptLabel list (some scopeObj) none
  | .value _ => do
      killScope scopeObj
      return list

/-- From the request on. -/
def setLimit (host : Host) (list : List Registered) (stream : Ref) (scopeObj : Text)
    (pidfdEvent : Ref) (cgroup : CgroupId) (limit : RateLimit) : Prog (List Registered) := do
  use stream
  plain (.regStreamInterrupt none)
  let rc ← rateLimitSet cgroup limit
  if rc < 0 then errCloseStream host list stream rc false
  else
    let _ ← writeRateLimitLog stream (startText limit)
    let _ ← writeRateLimitMsg stream proceedMsg
    let _ ← shutdownMsgStream stream
    awaitExit list scopeObj pidfdEvent

/-- From the first limit on. -/
def readRequest (host : Host) (list : List Registered) (stream : Ref) (scopeObj : Text)
    (pidfdEvent : Ref) (cgroup : CgroupId) : Prog (List Registered) := do
  use stream
  let answer ← streamIo .read (List.replicate expectedMsgLen 0) maxIoUsec
  match decodeRequest scopeObj.bytes answer with
  | .ok limit => setLimit host list stream scopeObj pidfdEvent cgroup limit
  | .error (.errCloseStream rc clientError) => errCloseStream host list stream rc clientError
  | .error (.interrupt _ _) => interruptLabel list (some scopeObj) (some stream)

/-- From the watch on the process on. -/
def blockTraffic (host : Host) (list : List Registered) (stream : Ref) (scopeObj : Text)
    (pidfdEvent : Ref) : Prog (List Registered) := do
  match ← getUnitCgroupId scopeObj with
  | .error rc => leave host list (some scopeObj) stream rc
  | .ok cgroup => do
      let rc ← rateLimitSet cgroup ⟨0, 0⟩
      if rc < 0 then errCloseStream host list stream rc false
      else
        let list ← register list (.clearRateLimit cgroup) none
        readRequest host list stream scopeObj pidfdEvent cgroup

/-- From the scope on. -/
def watchProcess (host : Host) (list : List Registered) (stream : Ref) (pid : Pid)
    (scopeObj : Text) : Prog (List Registered) := do
  match ← openPidfd pid with
  | .error rc => errCloseStream host list stream rc false
  | .ok pidfdEvent => do
      let list ← register list .destroyPidfdEvent (some pidfdEvent)
      use pidfdEvent
      plain (.regPidfdInterrupt (some .procEnd))
      blockTraffic host list stream scopeObj pidfdEvent

/-- From the check of the origin on. -/
def startScope (host : Host) (bus : Ref) (list : List Registered) (stream : Ref) (pid : Pid) :
    Prog (List Registered) := do
  let thisUnit ← thisUnitName
  match ← startTransientScope bus pid (thisUnit.getD []) with
  | .error rc => leave host list none stream rc
  | .ok (scopeName, scopeObj) => do
      let list ← register list .free (some scopeName.ref)
      let list ← register list .free (some scopeObj.ref)
      watchProcess host list stream pid scopeObj

/-- From the name of the daemon's own unit on. -/
def checkOrigin (host : Host) (bus : Ref) (list : List Registered) (stream : Ref) (pid : Pid) :
    Prog (List Registered) := do
  match ← sbSdGetUnitByPID pid with
  | .error rc => leave host list none stream rc
  | .ok origUnit => do
      let list ← register list .free (some origUnit.ref)
      match ← getUnitCgroupId origUnit with
      | .error rc => leave host list none stream rc
      | .ok origCgroup => do
          let rc ← rateLimitCheck origCgroup
          if 0 < rc then
            let _ ← writeRateLimitLog stream (ascii "Recursive rate limit is not allowed")
            errCloseStream host list stream (-Errno.eloop) true
          else startScope host bus list stream pid

/-- The name goes to `g_this_unit_name` unless some task has set it meanwhile. -/
def storeName (name : Text) : Prog Unit := do
  if (← thisUnitName).isNone then keep name
  else drop name.ref

/-- An admitted connection. -/
def serve (host : Host) (bus : Ref) (list : List Registered) (stream : Ref) (pid : Pid) :
    Prog (List Registered) := do
  if (← thisUnitName).isNone then
    match ← getSelfUnitName host.selfPid with
    | .error rc => leave host list none stream rc
    | .ok name => do
        storeName name
        checkOrigin host bus list stream pid
  else checkOrigin host bus list stream pid

/-- `client_handler_async`; it returns with the cleanups that are registered then. -/
def clientHandlerAsync (host : Host) (bus fd : Ref) (pid : Pid) : Prog (List Registered) := do
  let rc ← openStream fd
  if rc < 0 then
    closeFd fd
    return []
  else
    let stream : Ref := ⟨.msgStream, fd.id⟩
    let list ← register [] .destroyMsgStream (some stream)
    use stream
    plain (.regStreamInterrupt (some .ioErr))
    if ← increaseNrTasks then
      let list ← register list .decreaseNrTasks none
      serve host bus list stream pid
    else
      let _ ← writeRateLimitMsg stream (failMsg .noResource)
      let _ ← shutdownMsgStream stream
      return list

end TrafficLimitd.Heap
