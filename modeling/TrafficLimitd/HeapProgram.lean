import TrafficLimitd.BusProgram
import TrafficLimitd.JobProgram
import TrafficLimitd.Ownership

set_option autoImplicit false

/- src/sd_bus.c with what it allocates, counts and frees. The functions are those of
`BusProgram`; here they hold references to strings, messages, slots and the bus, and every
call of a library is a call of the program. The callbacks run during a wait. -/
namespace TrafficLimitd.Heap

open Coroutine Handler
open Job (jobRc)

inductive Kind
  | text
  | message
  | slot
  | bus
  | fd
  | msgStream
  | pidfdEvent
  | node
deriving DecidableEq

structure Ref where
  kind : Kind
  id : Nat
deriving DecidableEq

/-- A string on the heap. -/
structure Text where
  ref : Ref
  bytes : CString
deriving DecidableEq

/-- A message and the string that is read from it. -/
structure Message where
  ref : Ref
  body : CString

/-- What the callbacks of `struct sb_sd_wait_for_job_arg` are called with: the path and the
result in `JobRemoved`, nothing, and the error of the subscription. -/
inductive Signal
  | jobRemoved (signal : Option (CString × CString))
  | disconnected
  | installed (error : Option Nat)
deriving DecidableEq

/-- The wait in `sb_bus_call`: its callback has run, and perhaps an interrupt came as well,
or there was only an interrupt. A reply is an error or a message. -/
inductive ReplyWait
  | replied (heard : List Signal) (reply : Except Int (Nat × CString)) (cancelled : Bool)
  | interrupted (heard : List Signal)

/-- The calls of libraries. `create` and `callAsync` bring in a reference and have a return
code, `take` and `drop` count a reference up and down or free it, `library` only has a
return code, and `use` reads what a pointer points to. The lists are what the arguments
point to. `awaitReply` is the wait in `sb_bus_call`, `awaitEvent` one at the event of a
`struct sb_sd_wait_for_job_arg`. Then those of the handler: `openStream` is
`init_msg_stream`, which takes the descriptor over if it succeeds, `closeFd` is `close`,
`openPidfd` is `init_pidfd_event`, `register` is `se_task_register_memory_to_free`, and
`keep` stores a string in `g_this_unit_name`. -/
inductive Op
  | create (kind : Kind) (reads : List Ref)
  | callAsync (call : BusCall) (message : Ref)
  | take (ref : Ref) (reads : List Ref)
  | drop (ref : Ref)
  | library (reads : List Ref)
  | use (ref : Ref)
  | awaitReply (call : BusCall) (listens : Bool)
  | awaitEvent
  | abort
  | openStream (fd : Ref)
  | closeFd (fd : Ref)
  | openPidfd (pid : Pid)
  | register (cleanup : Cleanup) (mem : Option Ref)
  | keep (text : Text)
  | plain (effect : Effect)
deriving DecidableEq

def Answer : Op → Type
  | .create _ _ | .callAsync _ _ | .openPidfd _ => Int × Nat
  | .take _ _ | .drop _ | .use _ | .closeFd _ | .keep _ => Unit
  | .library _ | .openStream _ => Int
  | .register _ _ => Nat
  | .awaitReply _ _ => ReplyWait
  | .awaitEvent => List Signal × Bool
  | .abort => Empty
  | .plain effect => Response effect

abbrev Prog := Coro Op Answer

def ask (op : Op) : Prog (Answer op) := Coro.perform op

def create (kind : Kind) (reads : List Ref) : Prog (Except Int Ref) := do
  let (rc, id) ← ask (.create kind reads)
  return if rc < 0 then .error rc else .ok ⟨kind, id⟩

def callAsync (call : BusCall) (message : Ref) : Prog (Except Int Ref) := do
  let (rc, id) ← ask (.callAsync call message)
  return if rc < 0 then .error rc else .ok ⟨.slot, id⟩

def take (ref : Ref) (reads : List Ref) : Prog Unit := ask (.take ref reads)
def drop (ref : Ref) : Prog Unit := ask (.drop ref)
def library (reads : List Ref) : Prog Int := ask (.library reads)
def use (ref : Ref) : Prog Unit := ask (.use ref)
def plain (effect : Effect) : Prog (Response effect) := ask (.plain effect)
def randomize : Prog (Except Int CString) := plain .randomize
def awaitReply (call : BusCall) (listens : Bool) : Prog ReplyWait :=
  ask (.awaitReply call listens)
def awaitEvent : Prog (List Signal × Bool) := ask .awaitEvent

def abort {α : Type} : Prog α := do
  let never ← ask .abort
  nomatch (never : Empty)

/-- `sd_bus_slot_unref` and `free` of a pointer that may be NULL. -/
def dropSome : Option Ref → Prog Unit
  | none => return
  | some ref => drop ref

/-- Code that ends at a label where a reference is given up. -/
def releasing {α : Type} (ref : Ref) (code : Prog α) : Prog α := do
  let result ← code
  drop ref
  return result

/-- Code that goes on with what was created or leaves. -/
def orElse {α β : Type} (code : Prog (Except Int α)) (next : α → Prog (Except Int β)) :
    Prog (Except Int β) := do
  match ← code with
  | .error rc => return .error rc
  | .ok value => next value

/-- Code that goes on unless a return code is negative. -/
def unlessFails {β : Type} (code : Prog Int) (next : Prog (Except Int β)) :
    Prog (Except Int β) := do
  let rc ← code
  if rc < 0 then return .error rc
  next

/-- `sb_bus_call_cb`. -/
def sbBusCallCb : Except Int (Nat × CString) → Prog (Except Int Message)
  | .error rc => return .error rc
  | .ok (id, body) => do
      take ⟨.message, id⟩ []
      return .ok ⟨⟨.message, id⟩, body⟩

/-- `sb_bus_call`. `hand` is what becomes of the reply: it is stored in `*result`, or
dropped if `result` is NULL. `hear` are the other callbacks that may run meanwhile. -/
def sbBusCall {σ α : Type} (listens : Bool) (hear : List Signal → σ → Prog σ) (arg : σ)
    (call : BusCall) (message : Ref) (hand : Message → Prog α) : Prog (Except Int α × σ) := do
  match ← callAsync call message with
  | .error rc => return (.error rc, arg)
  | .ok slot => releasing slot do
      match ← awaitReply call listens with
      | .interrupted heard => do
          let arg ← hear heard arg
          return (.error (-Errno.eintr), arg)
      | .replied heard reply cancelled => do
          let arg ← hear heard arg
          let result ← sbBusCallCb reply
          if cancelled then return (.error (-Errno.eintr), arg)
          match result with
          | .error rc => return (.error rc, arg)
          | .ok reply => do
              let value ← hand reply
              return (.ok value, arg)

/-- `sb_bus_call_methodv`; `reads` are the strings among its arguments. -/
def sbBusCallMethodv {α : Type} (call : BusCall) (reads : List Ref) (hand : Message → Prog α) :
    Prog (Except Int α) :=
  orElse (create .message reads) fun message => releasing message <|
    unlessFails (library (message :: reads)) do
      let (result, _) ← sbBusCall false (fun _ arg => return arg) () call message hand
      return result

/-- `sb_bus_get_property`. -/
def sbBusGetProperty (unitObj : Text) (interface member : CString) :
    Prog (Except Int Message) :=
  orElse (sbBusCallMethodv (.property unitObj.bytes interface member) [unitObj.ref] pure)
    fun reply => releasing reply.ref <|
      unlessFails (library [reply.ref]) do
        take reply.ref [reply.ref]
        return .ok reply

/-- `sd_bus_message_read` or `sd_bus_message_read_basic`, and `strdup`. -/
def readString (reply : Message) : Prog (Except Int Text) :=
  unlessFails (library [reply.ref]) <|
    orElse (create .text [reply.ref]) fun ref => return .ok ⟨ref, reply.body⟩

/-- The string in a message that is dropped afterwards. -/
def takeString (code : Prog (Except Int Message)) : Prog (Except Int Text) :=
  orElse code fun reply => releasing reply.ref (readString reply)

def sbBusGetPropertyString (unitObj : Text) (interface member : CString) :
    Prog (Except Int Text) :=
  takeString (sbBusGetProperty unitObj interface member)

def sbSdUnitGetId (unitObj : Text) : Prog (Except Int Text) :=
  sbBusGetPropertyString unitObj (sdInterfaceName ++ ascii "Unit") (ascii "Id")

/-- `sb_sd_Unit_Get_subprop`. -/
def sbSdUnitGetSubprop (unitObj : Text) (member : CString) : Prog (Except Int Message) :=
  orElse (sbSdUnitGetId unitObj) fun unitName => releasing unitName.ref do
    use unitName.ref
    match kindOf unitName.bytes with
    | none => return .error (-Errno.einval)
    | some kind => sbBusGetProperty unitObj (sdInterfaceName ++ kind) member

def sbUnitGetSubpropString (unitObj : Text) (member : CString) : Prog (Except Int Text) :=
  takeString (sbSdUnitGetSubprop unitObj member)

def sbSdGetUnitByPID (pid : Pid) : Prog (Except Int Text) :=
  takeString (sbBusCallMethodv (.getUnitByPID pid) [] pure)

/-- `struct sb_sd_wait_for_job_arg`. The path of the job is a string in the message that
brought it. -/
structure WaitForJobArg where
  bus : Ref
  jobObj : Option Message
  result : Option Text
  rc : Int
  slotJobRemoved : Option Ref
  slotDisconnected : Option Ref
  closed : Bool

def sbSdFreeWaitForJob (arg : WaitForJobArg) : Prog WaitForJobArg := do
  if arg.closed then return arg
  dropSome arg.slotDisconnected
  dropSome arg.slotJobRemoved
  drop arg.bus
  return { arg with slotDisconnected := none, slotJobRemoved := none, closed := true }

/-- `strdup` in the callbacks and for `*result`: that it fails is not an error. -/
def strdup (bytes : CString) : Prog (Option Text) := do
  match ← create .text [] with
  | .error _ => return none
  | .ok ref => return some ⟨ref, bytes⟩

/-- `sb_sd_wait_for_job_bus_disconnected`. -/
def busDisconnected (arg : WaitForJobArg) : Prog WaitForJobArg := do
  if arg.result.isSome then abort
  else
    let result ← strdup (ascii "disconnected")
    sbSdFreeWaitForJob { arg with rc := -Errno.econnreset, result := result }

/-- `sb_sd_wait_for_job_job_removed`. -/
def jobRemoved (signal : Option (CString × CString)) (arg : WaitForJobArg) :
    Prog WaitForJobArg := do
  if arg.result.isSome then abort
  else
    match arg.jobObj, signal with
    | some jobObj, some (path, result) => do
        use jobObj.ref
        if jobObj.body ≠ path then return arg
        let copy ← strdup result
        return { arg with jobObj := none, result := copy, rc := jobRc result }
    | _, _ => return arg

/-- `sb_sd_wait_for_job_signal_match_installed`. -/
def signalMatchInstalled (error : Option Nat) (arg : WaitForJobArg) : WaitForJobArg :=
  { arg with rc := match error with | some errno => -errno | none => 0 }

/-- A signal reaches the callback whose slot is there. -/
def hearOne (arg : WaitForJobArg) : Signal → Prog WaitForJobArg
  | .jobRemoved signal => if arg.slotJobRemoved.isSome then jobRemoved signal arg else return arg
  | .disconnected => if arg.slotDisconnected.isSome then busDisconnected arg else return arg
  | .installed error =>
      return if arg.slotJobRemoved.isSome then signalMatchInstalled error arg else arg

def hear : List Signal → WaitForJobArg → Prog WaitForJobArg
  | [], arg => return arg
  | signal :: rest, arg => do
      let arg ← hearOne arg signal
      hear rest arg

/-- The labels of `sb_sd_init_wait_for_job`. -/
def failInit (arg : WaitForJobArg) (rc : Int) : Prog (Except Int WaitForJobArg) := do
  dropSome arg.slotJobRemoved
  drop arg.bus
  return .error rc

/-- `sb_sd_init_wait_for_job` after its wait. -/
def finishInit (arg : WaitForJobArg) (cancelled : Bool) : Prog (Except Int WaitForJobArg) := do
  if cancelled then failInit arg (-Errno.eintr)
  else if arg.rc < 0 then failInit arg arg.rc
  else
    match ← create .slot [] with
    | .error rc => failInit arg rc
    | .ok slot => return .ok { arg with slotDisconnected := some slot, closed := false }

/-- The argument while the match for `JobRemoved` is installed. -/
def installing (bus : Ref) (slot : Option Ref) : WaitForJobArg :=
  { bus := bus, jobObj := none, result := none, rc := 0, slotJobRemoved := slot,
    slotDisconnected := none, closed := true }

/-- `sb_sd_init_wait_for_job`. -/
def sbSdInitWaitForJob (bus : Ref) : Prog (Except Int WaitForJobArg) := do
  take bus []
  match ← create .slot [] with
  | .error rc => failInit (installing bus none) rc
  | .ok slot => do
      let (heard, cancelled) ← awaitEvent
      let arg ← hear heard (installing bus (some slot))
      finishInit arg cancelled

/-- `sb_sd_wait_for_job`, with the string that it stores in `*result`. -/
def sbSdWaitForJob (arg : WaitForJobArg) (jobObj : Message) :
    Prog (Int × Option Text × WaitForJobArg) := do
  if arg.closed then return (arg.rc, arg.result, { arg with result := none })
  else
    let (heard, cancelled) ← awaitEvent
    let arg ← hear heard { arg with jobObj := some jobObj }
    if cancelled then
      let result ← strdup (ascii "interrupt")
      let arg ← sbSdFreeWaitForJob arg
      return (-Errno.eintr, result, arg)
    else return (arg.rc, arg.result, { arg with result := none })

/-- Some calls that append to a message, until one of them fails. -/
def appends (message : Ref) : List (List Ref) → Prog Int
  | [] => return 0
  | reads :: rest => do
      let rc ← library (message :: reads)
      if rc < 0 then return rc
      appends message rest

/-- `start_transient_scope` after the job: the object path of the new scope. -/
def getScopeObj (scopeName : Text) : Prog (Except Int Text) :=
  takeString (sbBusCallMethodv (.getUnit scopeName.bytes) [scopeName.ref] pure)

/-- `start_transient_scope` from the reply to `StartTransientUnit` on. -/
def awaitScope (arg : WaitForJobArg) (scopeName : Text) (reply : Message) :
    Prog (Except Int Text × WaitForJobArg) := do
  let rc ← library [reply.ref]
  if rc < 0 then return (.error rc, arg)
  let (rc, result, arg) ← sbSdWaitForJob arg reply
  let arg ← sbSdFreeWaitForJob arg
  dropSome (result.map Text.ref)
  if rc < 0 then return (.error rc, arg)
  let scopeObj ← getScopeObj scopeName
  return (scopeObj, arg)

/-- `start_transient_scope` from the building of its message on: the name and the mode, the
container, its three properties, those of the caller, its end, and the auxiliary units. -/
def requestScope (arg : WaitForJobArg) (request : ScopeRequest) (slice scopeName : Text) :
    Prog (Except Int Text × WaitForJobArg) := do
  match ← create .message [] with
  | .error rc => return (.error rc, arg)
  | .ok message => releasing message do
      let rc ← appends message [[scopeName.ref], [], [], [slice.ref], [], [], [], []]
      if rc < 0 then return (.error rc, arg)
      let (reply, arg) ← sbBusCall true hear arg (.startTransientUnit request) message pure
      match reply with
      | .error rc => return (.error rc, arg)
      | .ok reply => releasing reply.ref (awaitScope arg scopeName reply)

/-- `start_transient_scope` with its subscription. -/
def subscribed (bus : Ref) (request : ScopeRequest) (slice scopeName : Text) :
    Prog (Except Int Text) :=
  orElse (sbSdInitWaitForJob bus) fun arg => do
    let (result, arg) ← requestScope arg request slice scopeName
    let _ ← sbSdFreeWaitForJob arg
    return result

/-- `start_transient_scope` with the name of the scope, which is freed unless it is
returned. -/
def nameScope (bus : Ref) (pid : Pid) (thisUnit : CString) (slice : Text) :
    Prog (Except Int (Text × Text)) :=
  orElse randomize fun random => do
    let name := ascii "traffic-limitd-scope-" ++ random ++ ascii ".scope"
    orElse (create .text []) fun ref => do
      let request : ScopeRequest :=
        { name := name, slice := slice.bytes, pid := pid, after := thisUnit, bindsTo := thisUnit }
      match ← subscribed bus request slice ⟨ref, name⟩ with
      | .ok scopeObj => return .ok (⟨ref, name⟩, scopeObj)
      | .error rc => do
          drop ref
          return .error rc

/-- `start_transient_scope`: the name and the object path of the new scope. -/
def startTransientScope (bus : Ref) (pid : Pid) (thisUnit : CString) :
    Prog (Except Int (Text × Text)) :=
  orElse (sbSdGetUnitByPID pid) fun unit => releasing unit.ref <|
    orElse (sbUnitGetSubpropString unit (ascii "Slice")) fun slice => releasing slice.ref <|
      nameScope bus pid thisUnit slice

/-- `get_self_unit_name`. -/
def getSelfUnitName (selfPid : Pid) : Prog (Except Int Text) :=
  orElse (sbSdGetUnitByPID selfPid) fun unitObj => releasing unitObj.ref (sbSdUnitGetId unitObj)

end TrafficLimitd.Heap
