import TrafficLimitd.CoroutineRuns
import TrafficLimitd.HandlerProgram

set_option autoImplicit false

/- How many calls the handler makes. Its one loop, which drains the stream in
`shutdown_msg_stream`, is a single call here; whatever it is answered, it is over after so
many calls. -/
namespace TrafficLimitd.Handler

open Coroutine
open Limiter (CgroupId)

/-- At most so many calls, of whatever kind. -/
abbrev Within {α : Type} (calls : Nat) (program : Prog α) : Prop :=
  AtMost (fun _ => true) calls program

namespace Within

theorem ask (effect : Effect) : Within 1 (ask effect) := ⟨Nat.le_refl 1, fun _ => trivial⟩

theorem asks (effect : Effect) :
    Within 1 (liftM (Handler.ask effect) : Body (Response effect)).run :=
  (ask effect).except_lift

theorem orFail {calls : Nat} {call : Prog Int} (short : Within calls call) :
    Within calls (orFail call).run := by
  apply short.spend (Nat.le_refl calls)
  intro rc
  trivial

theorem orInterrupted {α : Type} {calls : Nat} {call : Prog (Awaited α)}
    (short : Within calls call) : Within calls (orInterrupted call).run := by
  apply short.spend (Nat.le_refl calls)
  intro result
  cases result <;> trivial

theorem orLeave {α : Type} {calls : Nat} {code : Fallible α} (scopeObj : Option CString)
    (short : Within calls code.run) : Within calls (orLeave scopeObj code).run := by
  apply short.spend (Nat.le_refl calls)
  intro result
  cases result <;> trivial

theorem sbBusCall (call : BusCall) : Within 1 (sbBusCall call).run := by
  apply (orInterrupted (ask (.busCall call))).except_spend (Nat.le_refl 1)
  intro reply
  cases reply <;> trivial

theorem library : Within 1 (Handler.orFail Handler.library).run := orFail (ask .library)

theorem readString (reply : CString) : Within 2 (readString reply).run := by
  apply library.except_spend (by decide)
  intro _
  apply library.except_spend (by decide)
  intro _
  trivial

theorem sbBusGetProperty (path interface member : CString) :
    Within 2 (sbBusGetProperty path interface member).run := by
  apply (sbBusCall _).except_spend (by decide)
  intro _
  apply library.except_spend (by decide)
  intro _
  trivial

theorem sbSdUnitGetId (unitObj : CString) : Within 4 (sbSdUnitGetId unitObj).run := by
  apply (sbBusGetProperty _ _ _).except_spend (by decide)
  intro reply
  exact readString reply

theorem sbSdUnitGetSubprop (unitObj member : CString) :
    Within 6 (sbSdUnitGetSubprop unitObj member).run := by
  apply (sbSdUnitGetId unitObj).except_spend (by decide)
  intro unitName
  cases kindOf unitName with
  | none => trivial
  | some kind => exact sbBusGetProperty _ _ _

theorem sbUnitGetSubpropString (unitObj member : CString) :
    Within 8 (sbUnitGetSubpropString unitObj member).run := by
  apply (sbSdUnitGetSubprop unitObj member).except_spend (by decide)
  intro reply
  exact readString reply

theorem sbSdGetUnitByPID (pid : Pid) : Within 3 (sbSdGetUnitByPID pid).run := by
  apply (sbBusCall _).except_spend (by decide)
  intro reply
  exact readString reply

theorem getSelfUnitName (selfPid : Pid) : Within 7 (getSelfUnitName selfPid).run := by
  apply (sbSdGetUnitByPID selfPid).except_spend (by decide)
  intro unitObj
  exact sbSdUnitGetId unitObj

theorem getUnitCgroupId (unitObj : CString) : Within 9 (getUnitCgroupId unitObj).run := by
  apply (sbUnitGetSubpropString unitObj _).except_spend (by decide)
  intro path
  exact ask (.cgPathGetCgroupid path)

theorem sbSdInitWaitForJob : Within 2 sbSdInitWaitForJob.run := by
  have disconnected : Within 1 (Handler.orFail matchDisconnected).run :=
    orFail (ask .matchDisconnected)
  apply (orInterrupted (ask .matchJobRemoved)).except_spend (by decide)
  intro rc
  split
  · exact AtMost.except_spend trivial (Nat.zero_le 1) fun _ => disconnected
  · exact disconnected

theorem sbSdWaitForJob (jobObj : CString) : Within 1 (sbSdWaitForJob jobObj).run := by
  apply (orInterrupted (ask (.waitForJob jobObj))).except_spend (by decide)
  intro rc
  split <;> trivial

theorem startTransientScope (pid : Pid) (thisUnit : CString) :
    Within 22 (startTransientScope pid thisUnit).run := by
  apply (sbSdGetUnitByPID pid).except_spend (by decide)
  intro unit
  apply (sbUnitGetSubpropString unit _).except_spend (by decide)
  intro slice
  have random : Within 1 (ExceptT.mk Handler.randomize).run := ask .randomize
  apply random.except_spend (by decide)
  intro random
  apply library.except_spend (by decide)
  intro _
  apply sbSdInitWaitForJob.except_spend (by decide)
  intro _
  apply library.except_spend (by decide)
  intro _
  apply (sbBusCall _).except_spend (by decide)
  intro jobObj
  apply library.except_spend (by decide)
  intro _
  apply (sbSdWaitForJob jobObj).except_spend (by decide)
  intro _
  apply AtMost.except_spend (sbBusCall _) (by decide)
  intro reply
  apply (readString reply).except_spend (by decide)
  intro _
  trivial

theorem nameThisUnit (host : Host) : Within 10 (nameThisUnit host).run := by
  apply (asks .thisUnitName).except_spend (by decide)
  intro known
  split
  · apply (orLeave none (getSelfUnitName _)).except_spend (by decide)
    intro name
    apply (asks .thisUnitName).except_spend (by decide)
    intro known
    split
    · exact asks (.setThisUnitName name)
    · trivial
  · trivial

theorem msgStreamWrite (buf : List UInt8) (usec : Nat) : Within 1 (msgStreamWrite buf usec) := by
  apply (ask (.streamIo .write buf usec)).spend (by decide)
  intro _
  trivial

theorem writeRateLimitMsg (msg : List UInt8) : Within 1 (writeRateLimitMsg msg) :=
  msgStreamWrite msg maxIoUsec

theorem writeRateLimitLog (text : CString) : Within 2 (writeRateLimitLog text) := by
  apply (ask .library).spend (by decide)
  intro rc
  split
  · trivial
  · exact writeRateLimitMsg (logMsg text)

theorem shutdownMsgStream : Within 3 shutdownMsgStream := by
  apply (ask .drainStream).spend (by decide)
  intro rc
  split
  · trivial
  · apply (msgStreamWrite [] 0).spend (by decide)
    intro rc
    split
    · trivial
    · exact ask .shutdownTail

theorem checkOrigin (pid : Pid) : Within 16 (checkOrigin pid).run := by
  apply (orLeave none (sbSdGetUnitByPID pid)).except_spend (by decide)
  intro origUnit
  apply (asks (.registerCleanup .free)).except_spend (by decide)
  intro _
  apply (orLeave none (getUnitCgroupId origUnit)).except_spend (by decide)
  intro origCgroup
  apply (asks (.rateLimitCheck origCgroup)).except_spend (by decide)
  intro rc
  split
  · apply (writeRateLimitLog _).except_lift.except_spend (by decide)
    intro _
    trivial
  · trivial

theorem startScope (pid : Pid) : Within 25 (startScope pid).run := by
  apply (asks .thisUnitName).except_spend (by decide)
  intro thisUnit
  apply (orLeave none (startTransientScope pid _)).except_spend (by decide)
  intro scope
  apply (asks (.registerCleanup .free)).except_spend (by decide)
  intro _
  apply (asks (.registerCleanup .free)).except_spend (by decide)
  intro _
  trivial

theorem watchProcess (pid : Pid) : Within 3 (watchProcess pid).run := by
  have watches : Within 2 (do
      registerCleanup .destroyPidfdEvent
      regPidfdInterrupt (some .procEnd) : Body Unit).run := by
    apply (asks (.registerCleanup .destroyPidfdEvent)).except_spend (by decide)
    intro _
    exact asks (.regPidfdInterrupt (some .procEnd))
  apply (asks (.initPidfdEvent pid)).except_spend (by decide)
  intro rc
  split
  · exact AtMost.except_spend trivial (Nat.zero_le 2) fun _ => watches
  · exact watches

theorem blockTraffic (scopeObj : CString) : Within 11 (blockTraffic scopeObj).run := by
  apply (orLeave _ (getUnitCgroupId scopeObj)).except_spend (by decide)
  intro cgroup
  have guards : Within 1 (do
      registerCleanup (.clearRateLimit cgroup)
      return cgroup : Body CgroupId).run := by
    apply (asks (.registerCleanup (.clearRateLimit cgroup))).except_spend (by decide)
    intro _
    trivial
  apply (asks (.rateLimitSet cgroup ⟨0, 0⟩)).except_spend (by decide)
  intro rc
  split
  · exact AtMost.except_spend trivial (Nat.zero_le 1) fun _ => guards
  · exact guards

theorem readRequest (scopeObj : CString) : Within 1 (readRequest scopeObj).run := by
  apply (ask _).spend (by decide)
  intro _
  trivial

theorem setLimit (cgroup : CgroupId) (limit : RateLimit) :
    Within 2 (setLimit cgroup limit).run := by
  apply (asks (.regStreamInterrupt none)).except_spend (by decide)
  intro _
  apply (asks (.rateLimitSet cgroup limit)).except_spend (by decide)
  intro rc
  split <;> trivial

theorem proceed (limit : RateLimit) : Within 6 (proceed limit) := by
  apply (writeRateLimitLog _).spend (by decide)
  intro _
  apply (writeRateLimitMsg _).spend (by decide)
  intro _
  apply shutdownMsgStream.spend (by decide)
  intro _
  trivial

theorem awaitExit (scopeObj : CString) : Within 1 (awaitExit scopeObj).run := by
  apply (asks .waitForExit).except_spend (by decide)
  intro answer
  cases answer <;> trivial

theorem killScope (scopeObj : CString) : Within 1 (killScope scopeObj) := by
  apply (sbBusCall _).spend (by decide)
  intro _
  trivial

theorem serve (host : Host) (pid : Pid) : Within 76 (serve host pid).run := by
  apply (nameThisUnit host).except_spend (by decide)
  intro _
  apply (checkOrigin pid).except_spend (by decide)
  intro _
  apply (startScope pid).except_spend (by decide)
  intro scopeObj
  apply (watchProcess pid).except_spend (by decide)
  intro _
  apply (blockTraffic scopeObj).except_spend (by decide)
  intro cgroup
  apply (readRequest scopeObj).except_spend (by decide)
  intro limit
  apply (setLimit cgroup limit).except_spend (by decide)
  intro _
  apply (proceed limit).except_lift.except_spend (by decide)
  intro _
  apply (awaitExit scopeObj).except_spend (by decide)
  intro _
  exact (killScope scopeObj).except_lift

theorem tellExit (reason : Option InterruptReason) (stream : Bool) :
    Within 4 (tellExit reason stream) := by
  unfold Handler.tellExit
  split
  · apply (writeRateLimitMsg _).spend (by decide)
    intro _
    apply shutdownMsgStream.spend (by decide)
    intro _
    trivial
  · trivial

theorem atLabel (host : Host) (result : Except Exit Unit) : Within 7 (atLabel host result) := by
  rcases result with (⟨rc, clientError⟩ | ⟨scopeObj, stream⟩) | _
  · apply (writeRateLimitLog _).spend (by decide)
    intro _
    apply (writeRateLimitMsg _).spend (by decide)
    intro _
    apply shutdownMsgStream.spend (by decide)
    intro _
    trivial
  · apply (ask (.setInterruptDisabled true)).spend (by decide)
    intro _
    apply (ask .interruptReason).spend (by decide)
    intro reason
    apply (tellExit reason stream).spend (by decide)
    intro _
    cases scopeObj with
    | none => trivial
    | some scopeObj => exact killScope scopeObj
  · trivial

theorem reject : Within 4 reject := by
  apply (writeRateLimitMsg _).spend (by decide)
  intro _
  apply shutdownMsgStream.spend (by decide)
  intro _
  trivial

end Within

/-- The calls of a connection. -/
def maxCalls : Nat := 88

/-- Every connection is over after so many calls. -/
theorem clientHandlerAsync_within (host : Host) (pid : Pid) :
    Within maxCalls (clientHandlerAsync host pid) := by
  apply (Within.ask .initMsgStream).spend (by decide)
  intro rc
  split
  · exact (Within.ask .closeFd).mono (by decide)
  · apply (Within.ask (.registerCleanup .destroyMsgStream)).spend (by decide)
    intro _
    apply (Within.ask (.regStreamInterrupt (some .ioErr))).spend (by decide)
    intro _
    apply (Within.ask .increaseNrTasks).spend (by decide)
    intro taken
    split
    · apply (Within.ask (.registerCleanup .decreaseNrTasks)).spend (by decide)
      intro _
      apply (Within.serve host pid).spend (by decide)
      intro result
      exact Within.atLabel host result
    · exact Within.reject.mono (by decide)

end TrafficLimitd.Handler
