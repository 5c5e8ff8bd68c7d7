import TrafficLimitd.HandlerEffects

set_option autoImplicit false

/- src/sd_bus.c: the calls to systemd, each of them a coroutine that stops at
every reply. A name ends where the source's does; what a function frees on its
way out is left out. -/
namespace TrafficLimitd.Handler

/-- `sb_bus_call`. -/
def sbBusCall (call : BusCall) : Fallible CString := do
  match ← orInterrupted (busCall call) with
  | .notSent rc => throw rc
  | .failed rc => throw rc
  | .body text => return text

/-- `sb_bus_call_methodv`; that the message cannot be built is one of the ways
in which the call is not sent. -/
def sbBusCallMethodv (call : BusCall) : Fallible CString := sbBusCall call

/-- `sb_bus_get_property`: `Get`, and entering the variant of the reply. -/
def sbBusGetProperty (path interface member : CString) : Fallible CString := do
  let reply ← sbBusCallMethodv (.property path interface member)
  orFail library
  return reply

/-- The string in a reply is read and copied. -/
def readString (reply : CString) : Fallible CString := do
  orFail library
  orFail library
  return reply

def sbBusGetPropertyString (path interface member : CString) : Fallible CString := do
  readString (← sbBusGetProperty path interface member)

/-- `SD_INTERFACE_NAME`. -/
def sdInterfaceName : CString := ascii "org.freedesktop.systemd1."

def sbSdUnitGetId (unitObj : CString) : Fallible CString :=
  sbBusGetPropertyString unitObj (sdInterfaceName ++ ascii "Unit") (ascii "Id")

/-- `toupper` in the C locale. -/
def toupper (byte : UInt8) : UInt8 := if 97 ≤ byte ∧ byte ≤ 122 then byte - 32 else byte

/-- The kind of a unit: what follows the last dot of its name, with the first
letter in upper case. -/
def kindOf (unitName : CString) : Option CString :=
  if 46 ∈ unitName then
    match (unitName.reverse.takeWhile (· ≠ 46)).reverse with
    | [] => none
    | first :: rest => some (toupper first :: rest)
  else none

def sbSdUnitGetSubprop (unitObj member : CString) : Fallible CString := do
  let unitName ← sbSdUnitGetId unitObj
  match kindOf unitName with
  | none => throw (-Errno.einval)
  | some kind => sbBusGetProperty unitObj (sdInterfaceName ++ kind) member

def sbUnitGetSubpropString (unitObj member : CString) : Fallible CString := do
  readString (← sbSdUnitGetSubprop unitObj member)

def sbSdGetUnitByPID (pid : Pid) : Fallible CString := do
  readString (← sbBusCallMethodv (.getUnitByPID pid))

/-- The match for `JobRemoved` is installed by the bus, the one for the local
`Disconnected` at once. -/
def sbSdInitWaitForJob : Fallible Unit := do
  let rc ← orInterrupted matchJobRemoved
  if rc < 0 then throw rc
  orFail matchDisconnected

def sbSdWaitForJob (jobObj : CString) : Fallible Unit := do
  let rc ← orInterrupted (waitForJob jobObj)
  if rc < 0 then throw rc

/-- The name and the object path of the new scope. -/
def startTransientScope (pid : Pid) (thisUnit : CString) : Fallible (CString × CString) := do
  let unit ← sbSdGetUnitByPID pid
  let slice ← sbUnitGetSubpropString unit (ascii "Slice")
  let random ← ExceptT.mk randomize
  orFail library
  let scopeName := ascii "traffic-limitd-scope-" ++ random ++ ascii ".scope"
  sbSdInitWaitForJob
  orFail library
  let jobObj ← sbBusCall (.startTransientUnit
    { name := scopeName, slice := slice, pid := pid, after := thisUnit, bindsTo := thisUnit })
  orFail library
  sbSdWaitForJob jobObj
  let scopeObj ← sbBusCallMethodv (.getUnit scopeName)
  let scopeObj ← readString scopeObj
  return (scopeName, scopeObj)

def getSelfUnitName (selfPid : Pid) : Fallible CString := do
  sbSdUnitGetId (← sbSdGetUnitByPID selfPid)

end TrafficLimitd.Handler
