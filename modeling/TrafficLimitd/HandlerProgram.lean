import TrafficLimitd.BusProgram

set_option autoImplicit false

/- src/main.c: `client_handler_async` and its helpers. A `goto` to one of the
labels carries the local variables that the code at the label reads. -/
namespace TrafficLimitd.Handler

open Limiter (CgroupId)
open Protocol

/-- `MAX_IO_USEC`. -/
def maxIoUsec : Nat := 300 * 1000

/-- `excepted_msg_len`. -/
def expectedMsgLen : Nat := sizeofMsg + sizeofReqAttr

/-- What the code reads of its host: its own process id and the texts of error
numbers. -/
structure Host where
  selfPid : Pid
  strerror : Int → CString

/-- The return code of a transfer. -/
def ioRc : Awaited (Int × List UInt8) → Int
  | .cancelled => -Errno.eintr
  | .value result => result.1

def msgStreamWrite (buf : List UInt8) (usec : Nat) : Prog Int := do
  return ioRc (← streamIo .write buf usec)

def failMsg (reason : FailReason) : List UInt8 :=
  header (sizeofMsg + sizeofFailAttr) .fail ++ leBytes 4 reason.code.toNat

def proceedMsg : List UInt8 := header sizeofMsg .proceed

def logMsg (text : CString) : List UInt8 := header (text.length + sizeofMsg) .log ++ text

/-- `write_rate_limit_msg` for the two kinds it has a length for. -/
def writeRateLimitMsg (msg : List UInt8) : Prog Int := msgStreamWrite msg maxIoUsec

/-- `write_rate_limit_log`; the text is formatted first. -/
def writeRateLimitLog (text : CString) : Prog Int := do
  let rc ← library
  if rc < 0 then return rc
  msgStreamWrite (logMsg text) maxIoUsec

/-- `shutdown_msg_stream`: drain, an empty write, and the rest. The loop that drains is one
call here, however often it reads. -/
def shutdownMsgStream : Prog Int := do
  let rc ← drainStream
  if rc < 0 then return rc
  let rc ← msgStreamWrite [] 0
  if rc < 0 then return rc
  shutdownTail

/-- A `goto` out of the main path; `scopeObj` and `stream` are the pointers that
the interrupt label tests. -/
inductive Exit
  | errCloseStream (rc : Int) (clientError : Bool)
  | interrupt (scopeObj : Option CString) (stream : Bool)
deriving DecidableEq

abbrev Body := ExceptT Exit Prog

/-- `goto interrupt` on `-EINTR`, else `goto err_close_stream`. -/
def leave (scopeObj : Option CString) (rc : Int) : Exit :=
  if rc = -Errno.eintr then .interrupt scopeObj true else .errCloseStream rc false

def orLeave {α : Type} (scopeObj : Option CString) (code : Fallible α) : Body α :=
  ExceptT.mk do
    match ← code.run with
    | .ok result => return .ok result
    | .error rc => return .error (leave scopeObj rc)

/-- `get_Unit_cgroup_id`. -/
def getUnitCgroupId (unitObj : CString) : Fallible CgroupId := do
  let cgroupPath ← sbUnitGetSubpropString unitObj (ascii "ControlGroup")
  ExceptT.mk (cgPathGetCgroupid cgroupPath)

/-- Fills in `g_this_unit_name` unless some task has done so. -/
def nameThisUnit (host : Host) : Body Unit := do
  if (← thisUnitName).isNone then
    let name ← orLeave none (getSelfUnitName host.selfPid)
    if (← thisUnitName).isNone then setThisUnitName name

/-- The client may not be limited already. A failure of the check itself is only
logged. -/
def checkOrigin (pid : Pid) : Body Unit := do
  let origUnit ← orLeave none (sbSdGetUnitByPID pid)
  registerCleanup .free
  let origCgroup ← orLeave none (getUnitCgroupId origUnit)
  let rc ← rateLimitCheck origCgroup
  if 0 < rc then
    let _ ← writeRateLimitLog (ascii "Recursive rate limit is not allowed")
    throw (.errCloseStream (-Errno.eloop) true)

/-- Returns `scope_obj`. -/
def startScope (pid : Pid) : Body CString := do
  let thisUnit ← thisUnitName
  let scope ← orLeave none (startTransientScope pid (thisUnit.getD []))
  registerCleanup .free
  registerCleanup .free
  return scope.2

def watchProcess (pid : Pid) : Body Unit := do
  let rc ← initPidfdEvent pid
  if rc < 0 then throw (.errCloseStream rc false)
  registerCleanup .destroyPidfdEvent
  regPidfdInterrupt (some .procEnd)

/-- Nothing passes until the limit is known. -/
def blockTraffic (scopeObj : CString) : Body CgroupId := do
  let cgroup ← orLeave (some scopeObj) (getUnitCgroupId scopeObj)
  let rc ← rateLimitSet cgroup ⟨0, 0⟩
  if rc < 0 then throw (.errCloseStream rc false)
  registerCleanup (.clearRateLimit cgroup)
  return cgroup

/-- The tests on what `msg_stream_read` returned; the type of the message is not
tested. -/
def decodeRequest (scopeObj : CString) : Awaited (Int × List UInt8) → Except Exit RateLimit
  | .cancelled => .error (leave (some scopeObj) (-Errno.eintr))
  | .value (rc, buf) =>
      if rc = -Errno.etimedout then .error (.errCloseStream rc true)
      else if rc < 0 then .error (leave (some scopeObj) rc)
      else if rc = 0 then .error (.errCloseStream (-Errno.econnreset) true)
      else if rc < expectedMsgLen then .error (.errCloseStream (-Errno.einval) true)
      else if msgLength buf < expectedMsgLen then .error (.errCloseStream (-Errno.einval) true)
      else .ok (reqLimit buf)

def readRequest (scopeObj : CString) : Body RateLimit :=
  ExceptT.mk do
    return decodeRequest scopeObj
      (← streamIo .read (List.replicate expectedMsgLen 0) maxIoUsec)

/-- From here on a hang-up of the client does not interrupt the task. -/
def setLimit (cgroup : CgroupId) (limit : RateLimit) : Body Unit := do
  regStreamInterrupt none
  let rc ← rateLimitSet cgroup limit
  if rc < 0 then throw (.errCloseStream rc false)

/-- A rate as `%ld` prints it. -/
def ldText (rate : UInt64) : CString :=
  ascii (toString (if rate.toNat < 2 ^ 63 then (rate.toNat : Int) else rate.toNat - 2 ^ 64))

def startText (limit : RateLimit) : CString :=
  ascii "Start task with ratelimit bps=" ++ ldText limit.byteRate ++ ascii ", pps=" ++
    ldText limit.packetRate

/-- The return codes of the three calls are ignored. -/
def proceed (limit : RateLimit) : Prog Unit := do
  let _ ← writeRateLimitLog (startText limit)
  let _ ← writeRateLimitMsg proceedMsg
  let _ ← shutdownMsgStream

/-- `stream` is NULL by now. -/
def awaitExit (scopeObj : CString) : Body Unit := do
  match ← waitForExit with
  | .cancelled => throw (.interrupt (some scopeObj) false)
  | .value _ => return

/-- `sb_bus_call_unit_method(…, "Kill", …)`; the callers only log its result. -/
def killScope (scopeObj : CString) : Prog Unit := do
  let _ ← (sbBusCallMethodv (.kill scopeObj)).run

/-- The main path of an admitted connection. -/
def serve (host : Host) (pid : Pid) : Body Unit := do
  nameThisUnit host
  checkOrigin pid
  let scopeObj ← startScope pid
  watchProcess pid
  let cgroup ← blockTraffic scopeObj
  let limit ← readRequest scopeObj
  setLimit cgroup limit
  proceed limit
  awaitExit scopeObj
  killScope scopeObj

def errorText (host : Host) (rc : Int) (clientError : Bool) : CString :=
  (if clientError then ascii "Client" else ascii "Internal") ++ ascii " Error: " ++
    host.strerror (-rc)

def errCloseStream (host : Host) (rc : Int) (clientError : Bool) : Prog Unit := do
  let _ ← writeRateLimitLog (errorText host rc clientError)
  let _ ← writeRateLimitMsg (failMsg (if clientError then .yourError else .internal))
  let _ ← shutdownMsgStream

/-- Only a task that ends because the daemon does tells its client so. -/
def tellExit (reason : Option InterruptReason) (stream : Bool) : Prog Unit := do
  if reason = some .sysWillExit ∧ stream then
    let _ ← writeRateLimitMsg (failMsg .internal)
    let _ ← shutdownMsgStream

def killKnown : Option CString → Prog Unit
  | none => return
  | some scopeObj => killScope scopeObj

def interruptLabel (scopeObj : Option CString) (stream : Bool) : Prog Unit := do
  setInterruptDisabled true
  tellExit (← interruptReason) stream
  killKnown scopeObj

def atLabel (host : Host) : Except Exit Unit → Prog Unit
  | .ok () => return
  | .error (.errCloseStream rc clientError) => errCloseStream host rc clientError
  | .error (.interrupt scopeObj stream) => interruptLabel scopeObj stream

def reject : Prog Unit := do
  let _ ← writeRateLimitMsg (failMsg .noResource)
  let _ ← shutdownMsgStream

def clientHandlerAsync (host : Host) (pid : Pid) : Prog Unit := do
  let rc ← initMsgStream
  if rc < 0 then closeFd
  else
    registerCleanup .destroyMsgStream
    regStreamInterrupt (some .ioErr)
    if ← increaseNrTasks then
      registerCleanup .decreaseNrTasks
      atLabel host (← (serve host pid).run)
    else reject

end TrafficLimitd.Handler
