import TrafficLimitd.Coroutine
import TrafficLimitd.LimiterProgram
import TrafficLimitd.StreamProgram

set_option autoImplicit false

/- What `client_handler_async` and the functions under it ask of the rest of the
daemon, of systemd and of the kernel. Each call is one effect; the code between
two effects runs without interruption. -/
namespace TrafficLimitd.Handler

open Coroutine (Coro)
open Limiter (CgroupId)
open TrafficLimitd.Stream (Direction)

/-- The bytes of a C string without its terminator. -/
abbrev CString := List UInt8

def ascii (text : String) : CString := text.toUTF8.toList

abbrev Pid := Nat

/-- The arguments of `StartTransientUnit` that are not constants. -/
structure ScopeRequest where
  name : CString
  slice : CString
  pid : Pid
  after : CString
  bindsTo : CString
deriving DecidableEq

/-- The D-Bus method calls; `property` is `org.freedesktop.DBus.Properties.Get`
and `kill` is a unit's `Kill("all", SIGKILL)`. -/
inductive BusCall
  | getUnitByPID (pid : Pid)
  | getUnit (name : CString)
  | property (path interface member : CString)
  | startTransientUnit (request : ScopeRequest)
  | kill (path : CString)
deriving DecidableEq

/-- `notSent` is a failure of `sd_bus_call_async` or in building its message,
`failed` an error reply. -/
inductive BusReply
  | notSent (rc : Int)
  | failed (rc : Int)
  | body (text : CString)
deriving DecidableEq

/-- How an `s_event_wait` ended; a call that did not have to wait has its value
too. -/
inductive Awaited (α : Type)
  | cancelled
  | value (result : α)
deriving DecidableEq

def Awaited.isCancelled {α : Type} : Awaited α → Bool
  | .cancelled => true
  | .value _ => false

/-- The functions that the handler passes to
`se_task_register_memory_to_free`. -/
inductive Cleanup
  | destroyMsgStream
  | decreaseNrTasks
  | free
  | destroyPidfdEvent
  | clearRateLimit (cgroup : CgroupId)
deriving DecidableEq

/-- `increaseNrTasks` is the test against `MAX_NR_TASKS` together with the
increment of `g_nr_tasks`. `library` is a call into libc or sd-bus of which only the return
code matters: copying a string, building or reading a message. -/
inductive Effect
  | initMsgStream
  | closeFd
  | regStreamInterrupt (reason : Option InterruptReason)
  | streamIo (direction : Direction) (buf : List UInt8) (usec : Nat)
  | drainStream
  | shutdownTail
  | increaseNrTasks
  | registerCleanup (cleanup : Cleanup)
  | thisUnitName
  | setThisUnitName (name : CString)
  | busCall (call : BusCall)
  | matchJobRemoved
  | matchDisconnected
  | waitForJob (job : CString)
  | randomize
  | library
  | cgPathGetCgroupid (path : CString)
  | rateLimitCheck (cgroup : CgroupId)
  | rateLimitSet (cgroup : CgroupId) (limit : RateLimit)
  | initPidfdEvent (pid : Pid)
  | regPidfdInterrupt (reason : Option InterruptReason)
  | waitForExit
  | setInterruptDisabled (disabled : Bool)
  | interruptReason
deriving DecidableEq

/-- The answer to an effect: a return code, or a value or else a return code. A
transfer answers with its return code and the buffer afterwards. -/
def Response : Effect → Type
  | .initMsgStream | .drainStream | .shutdownTail | .matchDisconnected | .library
  | .rateLimitCheck _ | .rateLimitSet _ _ | .initPidfdEvent _ => Int
  | .streamIo _ _ _ => Awaited (Int × List UInt8)
  | .increaseNrTasks => Bool
  | .thisUnitName => Option CString
  | .busCall _ => Awaited BusReply
  | .matchJobRemoved | .waitForJob _ => Awaited Int
  | .waitForExit => Awaited Unit
  | .randomize => Except Int CString
  | .cgPathGetCgroupid _ => Except Int CgroupId
  | .interruptReason => Option InterruptReason
  | .closeFd | .regStreamInterrupt _ | .registerCleanup _ | .setThisUnitName _
  | .regPidfdInterrupt _ | .setInterruptDisabled _ => Unit

/-- Whether a call is one that may wait, and whether its wait was cancelled. -/
def outcome : (effect : Effect) → Response effect → Option Bool
  | .streamIo _ _ _, answer => some (Awaited.isCancelled answer)
  | .busCall _, answer => some (Awaited.isCancelled answer)
  | .matchJobRemoved, answer => some (Awaited.isCancelled answer)
  | .waitForJob _, answer => some (Awaited.isCancelled answer)
  | .waitForExit, answer => some (Awaited.isCancelled answer)
  | _, _ => none

def Effect.waits : Effect → Bool
  | .streamIo _ _ _ | .busCall _ | .matchJobRemoved | .waitForJob _ | .waitForExit => true
  | _ => false

def Effect.isStreamIo : Effect → Bool
  | .streamIo _ _ _ => true
  | _ => false

abbrev Prog := Coro Effect Response

/-- Code that returns a value, or a return code that says why there is none. -/
abbrev Fallible := ExceptT Int Prog

def ask (effect : Effect) : Prog (Response effect) := Coro.perform effect

def initMsgStream : Prog Int := ask .initMsgStream
def closeFd : Prog Unit := ask .closeFd
def regStreamInterrupt (reason : Option InterruptReason) : Prog Unit :=
  ask (.regStreamInterrupt reason)
def streamIo (direction : Direction) (buf : List UInt8) (usec : Nat) :
    Prog (Awaited (Int × List UInt8)) := ask (.streamIo direction buf usec)
def drainStream : Prog Int := ask .drainStream
def shutdownTail : Prog Int := ask .shutdownTail
def increaseNrTasks : Prog Bool := ask .increaseNrTasks
def registerCleanup (cleanup : Cleanup) : Prog Unit := ask (.registerCleanup cleanup)
def thisUnitName : Prog (Option CString) := ask .thisUnitName
def setThisUnitName (name : CString) : Prog Unit := ask (.setThisUnitName name)
def busCall (call : BusCall) : Prog (Awaited BusReply) := ask (.busCall call)
def matchJobRemoved : Prog (Awaited Int) := ask .matchJobRemoved
def matchDisconnected : Prog Int := ask .matchDisconnected
def waitForJob (job : CString) : Prog (Awaited Int) := ask (.waitForJob job)
def randomize : Prog (Except Int CString) := ask .randomize
def library : Prog Int := ask .library
def cgPathGetCgroupid (path : CString) : Prog (Except Int CgroupId) :=
  ask (.cgPathGetCgroupid path)
def rateLimitCheck (cgroup : CgroupId) : Prog Int := ask (.rateLimitCheck cgroup)
def rateLimitSet (cgroup : CgroupId) (limit : RateLimit) : Prog Int :=
  ask (.rateLimitSet cgroup limit)
def initPidfdEvent (pid : Pid) : Prog Int := ask (.initPidfdEvent pid)
def regPidfdInterrupt (reason : Option InterruptReason) : Prog Unit :=
  ask (.regPidfdInterrupt reason)
def waitForExit : Prog (Awaited Unit) := ask .waitForExit
def setInterruptDisabled (disabled : Bool) : Prog Unit :=
  ask (.setInterruptDisabled disabled)
def interruptReason : Prog (Option InterruptReason) := ask .interruptReason

/-- `if(rc < 0) goto fail` after a call that only returns a code. -/
def orFail (call : Prog Int) : Fallible Unit :=
  ExceptT.mk do
    let rc ← call
    return if rc < 0 then .error rc else .ok ()

/-- The code after an `s_event_wait`: `-EINTR` when the wait was cancelled. -/
def orInterrupted {α : Type} (call : Prog (Awaited α)) : Fallible α :=
  ExceptT.mk do
    match ← call with
    | .cancelled => return .error (-Errno.eintr)
    | .value result => return .ok result

end TrafficLimitd.Handler
