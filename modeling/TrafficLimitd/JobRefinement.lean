import TrafficLimitd.BusProgram
import TrafficLimitd.JobProgram

set_option autoImplicit false

/- The waits for a job inside the handler's code. In the handler a call of
`sb_sd_wait_for_job` is one question that the bus answers; here each step of a call on
the bus is some of the handler's questions with their answers. -/
namespace TrafficLimitd.Job

open Coroutine Coro Handler

/-- `start_transient_scope` from its `StartTransientUnit` to the end of the wait. -/
def scopeStarted (request : ScopeRequest) : Fallible Unit := do
  let jobObj ← sbBusCall (.startTransientUnit request)
  orFail library
  sbSdWaitForJob jobObj

/-- `start_transient_scope` from its `sb_sd_init_wait_for_job` to the end of the wait. -/
def jobAwaited (request : ScopeRequest) : Fallible Unit := do
  sbSdInitWaitForJob
  orFail library
  scopeStarted request

theorem startTransientScope_eq (pid : Pid) (thisUnit : CString) :
    startTransientScope pid thisUnit = do
      let unit ← sbSdGetUnitByPID pid
      let slice ← sbUnitGetSubpropString unit (ascii "Slice")
      let random ← ExceptT.mk randomize
      orFail library
      let scopeName := ascii "traffic-limitd-scope-" ++ random ++ ascii ".scope"
      jobAwaited
        { name := scopeName, slice := slice, pid := pid, after := thisUnit, bindsTo := thisUnit }
      let scopeObj ← readString (← sbBusCallMethodv (.getUnit scopeName))
      return (scopeName, scopeObj) := by
  simp only [startTransientScope, jobAwaited, scopeStarted, bind_assoc]

/-- What is left of the handler's code in each phase of a call. -/
def Phase.rest (request : ScopeRequest) : Phase → Prog (Except Int Unit)
  | .installing => (jobAwaited request).run
  | .starting => (scopeStarted request).run
  | .waiting jobObj => (sbSdWaitForJob jobObj).run
  | .returned _ rc => .pure (if rc < 0 then .error rc else .ok ())
  | .failed rc => .pure (.error rc)

section Leads

theorem leads_ask (effect : Effect) (answer : Response effect) :
    Leads (ask effect) (.pure answer) :=
  leads_call answer

/-- A call that only returns a code passes, or fails with the code. -/
theorem leads_orFail {call : Prog Int} {rc : Int} (answered : call.Leads (.pure rc)) :
    Leads (orFail call).run (.pure (if rc < 0 then .error rc else .ok ())) :=
  answered.bind _

theorem leads_library (rc : Int) :
    Leads (orFail library).run (.pure (if rc < 0 then .error rc else .ok ())) :=
  leads_orFail (leads_ask .library rc)

theorem leads_interrupted {α : Type} {call : Prog (Awaited α)}
    (answered : call.Leads (.pure .cancelled)) :
    Leads (orInterrupted call).run (.pure (.error (-Errno.eintr))) :=
  answered.bind _

theorem leads_value {α : Type} {call : Prog (Awaited α)} {value : α}
    (answered : call.Leads (.pure (.value value))) :
    Leads (orInterrupted call).run (.pure (.ok value)) :=
  answered.bind _

theorem leads_initWaitForJob_cancelled :
    Leads sbSdInitWaitForJob.run (.pure (.error (-Errno.eintr))) :=
  Leads.error_bind (leads_interrupted (leads_ask .matchJobRemoved .cancelled))

theorem leads_initWaitForJob_refused {rc : Int} (refused : rc < 0) :
    Leads sbSdInitWaitForJob.run (.pure (.error rc)) := by
  refine Leads.ok_bind (leads_value (leads_ask .matchJobRemoved (.value rc))) ?_
  rw [if_pos refused]
  exact Leads.refl _

theorem leads_initWaitForJob {rc : Int} (installed : ¬rc < 0) (matched : Int) :
    Leads sbSdInitWaitForJob.run (.pure (if matched < 0 then .error matched else .ok ())) := by
  refine Leads.ok_bind (leads_value (leads_ask .matchJobRemoved (.value rc))) ?_
  rw [if_neg installed]
  exact leads_orFail (leads_ask .matchDisconnected matched)

theorem leads_sbBusCall_cancelled (call : BusCall) :
    Leads (sbBusCall call).run (.pure (.error (-Errno.eintr))) :=
  Leads.error_bind (leads_interrupted (leads_ask (.busCall call) .cancelled))

theorem leads_sbBusCall (call : BusCall) (reply : BusReply) :
    Leads (sbBusCall call).run (.pure (match reply with
      | .notSent rc => .error rc
      | .failed rc => .error rc
      | .body text => .ok text)) := by
  refine Leads.ok_bind (leads_value (leads_ask (.busCall call) (.value reply))) ?_
  cases reply <;> exact Leads.refl _

theorem leads_waitForJob_cancelled (jobObj : CString) :
    Leads (sbSdWaitForJob jobObj).run (.pure (.error (-Errno.eintr))) :=
  Leads.error_bind (leads_interrupted (leads_ask (.waitForJob jobObj) .cancelled))

theorem leads_waitForJob (jobObj : CString) (rc : Int) :
    Leads (sbSdWaitForJob jobObj).run (.pure (if rc < 0 then .error rc else .ok ())) := by
  refine Leads.ok_bind (leads_value (leads_ask (.waitForJob jobObj) (.value rc))) ?_
  split <;> exact Leads.refl _

end Leads

theorem Call.endWait_leads (call : Call) (request : ScopeRequest) (jobObj : CString)
    (cancelled : Bool) :
    Leads (sbSdWaitForJob jobObj).run ((call.endWait jobObj cancelled).phase.rest request) := by
  cases cancelled with
  | true => exact leads_waitForJob_cancelled jobObj
  | false => exact leads_waitForJob jobObj call.arg.rc

/-- Every step of a call on the bus is some steps of the handler's code. -/
theorem Call.run_leads (call : Call) (answers : Answers) (request : ScopeRequest) :
    Leads (call.phase.rest request) ((call.run answers).phase.rest request) := by
  unfold Call.run
  cases phase : call.phase with
  | installing =>
      dsimp only
      unfold Call.afterInstalling
      split
      · exact Leads.error_bind leads_initWaitForJob_cancelled
      split
      · rename_i refused
        exact Leads.error_bind (leads_initWaitForJob_refused refused)
      rename_i installed
      have matching := leads_initWaitForJob installed answers.matchDisconnected
      split
      · rename_i failed
        rw [if_pos failed] at matching
        exact Leads.error_bind matching
      rename_i matched
      rw [if_neg matched] at matching
      have builds := leads_library answers.buildMessage
      dsimp only
      split
      · rename_i failed
        rw [if_pos failed] at builds
        exact matching.ok_bind (Leads.error_bind builds)
      rename_i built
      rw [if_neg built] at builds
      refine matching.ok_bind (builds.ok_bind ?_)
      split
      · exact Leads.error_bind (leads_sbBusCall _ (.notSent _))
      · exact Leads.refl _
  | starting =>
      dsimp only
      unfold Call.afterStarting
      split
      · exact Leads.error_bind (leads_sbBusCall_cancelled _)
      split
      · exact Leads.error_bind (leads_sbBusCall _ (.failed _))
      · rename_i jobObj replied
        have reads := leads_library answers.readJob
        refine (leads_sbBusCall _ (.body jobObj)).ok_bind ?_
        split
        · rename_i failed
          rw [if_pos failed] at reads
          exact Leads.error_bind reads
        · rename_i read
          rw [if_neg read] at reads
          refine reads.ok_bind ?_
          unfold Call.beginWait
          split
          · exact call.endWait_leads request jobObj false
          · exact Leads.refl _
  | waiting jobObj => exact call.endWait_leads request jobObj _
  | returned jobObj rc =>
      dsimp only
      rw [phase]
      exact Leads.refl _
  | failed rc =>
      dsimp only
      rw [phase]
      exact Leads.refl _

end TrafficLimitd.Job
