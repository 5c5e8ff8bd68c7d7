import TrafficLimitd.HandlerEffects

set_option autoImplicit false

/- src/sd_bus.c: how `start_transient_scope` waits for its job. The three callbacks
share the argument and its one event; a call of `start_transient_scope` is cut at its
`s_event_wait`s. What the libraries answer is an argument. -/
namespace TrafficLimitd.Job

open Handler (CString ascii)
open TrafficLimitd.Stream (Wake)

abbrev CallId := Nat

/-- `struct sb_sd_wait_for_job_arg`. A slot says whether its callback is still
installed. -/
structure WaitForJobArg where
  jobObj : Option CString
  result : Option CString
  rc : Int
  slotJobRemoved : Bool
  slotDisconnected : Bool
  closed : Bool
deriving DecidableEq

def sbSdFreeWaitForJob (arg : WaitForJobArg) : WaitForJobArg :=
  if arg.closed then arg
  else { arg with slotDisconnected := false, slotJobRemoved := false, closed := true }

/-- What a callback leaves behind, and whether it set the event; `none` when its
assertion failed. -/
abbrev Called := Option (WaitForJobArg × Bool)

/-- `strdup`, which fails with NULL. -/
def strdup (succeeds : Bool) (text : CString) : Option CString :=
  if succeeds then some text else none

/-- `sb_sd_wait_for_job_bus_disconnected`. -/
def busDisconnected (copied : Bool) (arg : WaitForJobArg) : Called :=
  if arg.result.isSome then none
  else
    let arg := { arg with rc := -Errno.econnreset, result := strdup copied (ascii "disconnected") }
    some (sbSdFreeWaitForJob arg, true)

/-- The return code that stands for the result of a job. -/
def jobRc (result : CString) : Int :=
  if result = ascii "cancelled" ∨ result = ascii "collected" then -Errno.ecanceled
  else if result = ascii "timeout" then -Errno.etimedout
  else if result = ascii "dependency" then -Errno.eio
  else if result = ascii "invalid" then -Errno.enoexec
  else if result = ascii "assert" then -Errno.eproto
  else if result = ascii "unsupported" then -Errno.eopnotsupp
  else if result = ascii "once" then -Errno.estale
  else if result = ascii "done" ∨ result = ascii "skipped" then 0
  else -Errno.eio

/-- `sb_sd_wait_for_job_job_removed` on the path and the result in the signal; `none`
if it cannot be read. -/
def jobRemoved (signal : Option (CString × CString)) (copied : Bool) (arg : WaitForJobArg) :
    Called :=
  if arg.result.isSome then none
  else
    match arg.jobObj, signal with
    | some jobObj, some (path, result) =>
        if jobObj ≠ path then some (arg, false)
        else
          some ({ arg with jobObj := none, result := strdup copied result, rc := jobRc result },
            true)
    | _, _ => some (arg, false)

/-- `sb_sd_wait_for_job_signal_match_installed`; an error reply has its number. -/
def signalMatchInstalled (error : Option Nat) (arg : WaitForJobArg) : Called :=
  some ({ arg with rc := match error with | some errno => -errno | none => 0 }, true)

/-- Where a call of `start_transient_scope` stands: in the wait of
`sb_sd_init_wait_for_job`, in that of the `sb_bus_call` for `StartTransientUnit`, in
that of `sb_sd_wait_for_job`, after the return of that function, or ended before it. -/
inductive Phase
  | installing
  | starting
  | waiting (jobObj : CString)
  | returned (jobObj : CString) (rc : Int)
  | failed (rc : Int)
deriving DecidableEq

/-- A call of `start_transient_scope`. `reply` is what the callback of `sb_bus_call`
has stored, `aborted` says that an assertion in a callback failed. -/
structure Call where
  phase : Phase
  arg : WaitForJobArg
  reply : Except Int CString
  wake : Wake
  aborted : Bool

/-- The call blocks at the event of its argument. -/
def Phase.onArgEvent : Phase → Bool
  | .installing | .waiting _ => true
  | _ => false

/-- A callback runs on the argument of the call. Setting an event that nobody waits for
does nothing. -/
def Call.callback (call : Call) (called : WaitForJobArg → Called) : Call :=
  match called call.arg with
  | none => { call with aborted := true }
  | some (arg, eventSet) =>
      { call with
        arg := arg
        wake := if eventSet ∧ call.phase.onArgEvent then .set else call.wake }

/-- A signal reaches a call that has its slot for it. -/
def Call.hear (call : Call) (slot : WaitForJobArg → Bool) (called : WaitForJobArg → Called) :
    Call :=
  if slot call.arg then call.callback called else call

/-- `sb_bus_call_cb`. -/
def Call.replied (call : Call) (reply : Except Int CString) : Call :=
  { call with reply := reply, wake := .set }

/-- What the library calls between two waits answer. -/
structure Answers where
  matchDisconnected : Int
  buildMessage : Int
  callAsync : Int
  readJob : Int
deriving DecidableEq

/-- `sb_sd_init_wait_for_job` up to its wait; the first call of sd-bus may fail. -/
def sbSdInitWaitForJobBegin (matchSignal : Int) : Call :=
  let arg : WaitForJobArg :=
    { jobObj := none, result := none, rc := 0, slotJobRemoved := false,
      slotDisconnected := false, closed := true }
  if matchSignal < 0 then ⟨.failed matchSignal, arg, .error 0, .asleep, false⟩
  else ⟨.installing, { arg with slotJobRemoved := true }, .error 0, .asleep, false⟩

/-- The call leaves `start_transient_scope` before it waits for its job. -/
def Call.fail (call : Call) (arg : WaitForJobArg) (rc : Int) : Call :=
  { call with phase := .failed rc, arg := arg, wake := .asleep }

/-- After the wait of `sb_sd_init_wait_for_job`: the rest of it, and
`start_transient_scope` up to the wait of its `sb_bus_call`. -/
def Call.afterInstalling (call : Call) (answers : Answers) : Call :=
  if call.wake = .cancelled then call.fail { call.arg with slotJobRemoved := false } (-Errno.eintr)
  else if call.arg.rc < 0 then call.fail { call.arg with slotJobRemoved := false } call.arg.rc
  else if answers.matchDisconnected < 0 then
    call.fail { call.arg with slotJobRemoved := false } answers.matchDisconnected
  else
    let arg := { call.arg with slotDisconnected := true, closed := false }
    if answers.buildMessage < 0 then call.fail (sbSdFreeWaitForJob arg) answers.buildMessage
    else if answers.callAsync < 0 then call.fail (sbSdFreeWaitForJob arg) answers.callAsync
    else { call with phase := .starting, arg := arg, wake := .asleep }

/-- `sb_sd_wait_for_job` from its wait on, and the `sb_sd_free_wait_for_job` that
follows it. -/
def Call.endWait (call : Call) (jobObj : CString) (cancelled : Bool) : Call :=
  if cancelled then
    { call with
      phase := .returned jobObj (-Errno.eintr), arg := sbSdFreeWaitForJob call.arg,
      wake := .asleep }
  else
    { call with
      phase := .returned jobObj call.arg.rc
      arg := sbSdFreeWaitForJob { call.arg with result := none }
      wake := .asleep }

/-- `sb_sd_wait_for_job` up to its wait, or to its return when the argument is
closed. -/
def Call.beginWait (call : Call) (jobObj : CString) : Call :=
  if call.arg.closed then call.endWait jobObj false
  else
    { call with
      phase := .waiting jobObj, arg := { call.arg with jobObj := some jobObj }, wake := .asleep }

/-- After the wait of the `sb_bus_call`. -/
def Call.afterStarting (call : Call) (answers : Answers) : Call :=
  if call.wake = .cancelled then call.fail (sbSdFreeWaitForJob call.arg) (-Errno.eintr)
  else
    match call.reply with
    | .error rc => call.fail (sbSdFreeWaitForJob call.arg) rc
    | .ok jobObj =>
        if answers.readJob < 0 then call.fail (sbSdFreeWaitForJob call.arg) answers.readJob
        else call.beginWait jobObj

/-- A call that was woken up runs to its next wait. -/
def Call.run (call : Call) (answers : Answers) : Call :=
  match call.phase with
  | .installing => call.afterInstalling answers
  | .starting => call.afterStarting answers
  | .waiting jobObj => call.endWait jobObj (call.wake == .cancelled)
  | .returned _ _ | .failed _ => call

/-- `s_task_cancel_wait` on the task of the call. -/
def Call.interrupt (call : Call) : Call :=
  match call.phase with
  | .returned _ _ | .failed _ => call
  | _ => { call with wake := .cancelled }

/-- All calls on one bus. `removed` has the jobs whose `JobRemoved` was dispatched. -/
structure Bus where
  calls : List Call
  connected : Bool
  removed : List CString

def Bus.start : Bus := ⟨[], true, []⟩

/-- A task calls `start_transient_scope` or runs on in it; or one message is dispatched,
or an event that interrupts some of the tasks. -/
inductive Label
  | enter (matchSignal : Int)
  | run (id : CallId) (answers : Answers)
  | matchInstalled (id : CallId) (error : Option Nat)
  | reply (id : CallId) (answer : Except Int CString)
  | jobRemoved (signal : Option (CString × CString)) (copied : CallId → Bool)
  | disconnected (copied : CallId → Bool)
  | interrupt (targets : List CallId)

namespace Bus

variable (bus : Bus)

/-- Every task that was woken up has run. -/
def quiet : Bool := bus.calls.all fun call => call.wake == .asleep && !call.aborted

def modify (id : CallId) (change : Call → Call) : Bus :=
  { bus with calls := bus.calls.modify id change }

/-- sd-bus sends nothing on a bus that is disconnected. -/
def sending (rc : Int) : Int := if bus.connected then rc else -Errno.enotconn

def signal (slot : WaitForJobArg → Bool) (callback : CallId → WaitForJobArg → Called) :
    List Call :=
  bus.calls.mapIdx fun id call => call.hear slot (callback id)

/-- systemd replies to `StartTransientUnit` before it removes the job. -/
def repliesFirst : Except Int CString → Bool
  | .ok jobObj => !bus.removed.contains jobObj
  | .error _ => true

def phaseIs (id : CallId) (phase : Phase) : Bool := bus.calls[id]?.any fun call => call.phase == phase

def step : Label → Option Bus
  | .enter matchSignal =>
      some { bus with calls := bus.calls ++ [sbSdInitWaitForJobBegin (bus.sending matchSignal)] }
  | .run id answers =>
      if bus.calls[id]?.any fun call => call.wake != .asleep then
        some (bus.modify id fun call =>
          call.run { answers with callAsync := bus.sending answers.callAsync })
      else none
  | .matchInstalled id error =>
      if bus.quiet ∧ bus.phaseIs id .installing then
        some (bus.modify id fun call => call.callback (signalMatchInstalled error))
      else none
  | .reply id answer =>
      if bus.quiet ∧ bus.phaseIs id .starting ∧ bus.repliesFirst answer then
        some (bus.modify id fun call => call.replied answer)
      else none
  | .jobRemoved signal copied =>
      if bus.quiet then
        some { bus with
          calls := bus.signal WaitForJobArg.slotJobRemoved fun id => Job.jobRemoved signal (copied id)
          removed := bus.removed ++ (signal.map Prod.fst).toList }
      else none
  | .disconnected copied =>
      if bus.quiet then
        some { bus with
          calls := bus.signal WaitForJobArg.slotDisconnected fun id => busDisconnected (copied id)
          connected := false }
      else none
  | .interrupt targets =>
      if bus.quiet then
        some { bus with
          calls := bus.calls.mapIdx fun id call => if id ∈ targets then call.interrupt else call }
      else none

end Bus

end TrafficLimitd.Job
