import TrafficLimitd.CoroutineRefinement
import TrafficLimitd.HeapHandler

set_option autoImplicit false

/- The handler with what it allocates against the handler of `HandlerProgram`, in which each
message on the bus is one call and a failure to build, read or copy something is one return
code. What is seen of both are the calls of the rest of the daemon, of the kernel and of
systemd, and the interrupts. -/
namespace TrafficLimitd.Heap

open Coroutine Handler
open Limiter (CgroupId)

inductive View
  | called (event : Event Effect Response)
  | interrupted

/-- How a call of systemd ended. -/
def ReplyWait.answer : ReplyWait → Awaited BusReply
  | .interrupted _ => .cancelled
  | .replied _ reply cancelled =>
      if cancelled then .cancelled
      else match reply with
        | .error rc => .value (.failed rc)
        | .ok (_, body) => .value (.body body)

def heapView : (op : Op) → Answer op → List View
  | .openStream _, rc => [.called ⟨.initMsgStream, rc⟩]
  | .closeFd _, _ => [.called ⟨.closeFd, ()⟩]
  | .openPidfd pid, ((rc, _) : Int × Nat) => [.called ⟨.initPidfdEvent pid, rc⟩]
  | .register cleanup _, _ => [.called ⟨.registerCleanup cleanup, ()⟩]
  | .keep text, _ => [.called ⟨.setThisUnitName text.bytes, ()⟩]
  | .plain effect, answer => [.called ⟨effect, answer⟩]
  | .awaitReply call _, (wait : ReplyWait) => [.called ⟨.busCall call, wait.answer⟩]
  | .awaitEvent, ((_, cancelled) : List Signal × Bool) => if cancelled then [.interrupted] else []
  | _, _ => []

def handlerView : (effect : Effect) → Response effect → List View
  | .library, _ | .matchDisconnected, _ => []
  | .matchJobRemoved, answer | .waitForJob _, answer =>
      if Awaited.isCancelled answer then [.interrupted] else []
  | .busCall call, (answer : Awaited BusReply) =>
      match answer with
      | .value (.notSent _) => []
      | _ => [.called ⟨.busCall call, answer⟩]
  | effect, answer => [.called ⟨effect, answer⟩]

abbrev Seems {α β : Type} (rel : α → β → Prop) (program : Prog α) (model : Handler.Prog β) :
    Prop :=
  Refines heapView handlerView rel program model

/-- Code of which nothing is seen. -/
abbrev Silent {α : Type} (code : Prog α) : Prop :=
  Only (fun op => ∀ answer, heapView op answer = []) code

/-- Both have failed with one code, or their values are related. -/
inductive Alike {α β : Type} (rel : α → β → Prop) : Except Int α → Except Int β → Prop
  | ok {value : α} {result : β} (related : rel value result) : Alike rel (.ok value) (.ok result)
  | error (rc : Int) : Alike rel (.error rc) (.error rc)

section Rules

variable {α β γ δ : Type} {rel : α → β → Prop} {later : γ → δ → Prop}

theorem Silent.then {code : Prog α} {next : α → Prog γ} {model : Handler.Prog δ}
    (silent : Silent code) (seems : ∀ value, Seems later (next value) model) :
    Seems later (code >>= next) model :=
  Only.refines_bind silent seems

theorem silent_ask {op : Op} (unseen : ∀ answer, heapView op answer = []) : Silent (ask op) :=
  ⟨unseen, fun _ => trivial⟩

theorem silent_drop (ref : Ref) : Silent (drop ref) := silent_ask fun _ => rfl

theorem silent_take (ref : Ref) (reads : List Ref) : Silent (take ref reads) :=
  silent_ask fun _ => rfl

theorem silent_library (reads : List Ref) : Silent (library reads) := silent_ask fun _ => rfl

theorem silent_use (ref : Ref) : Silent (use ref) := silent_ask fun _ => rfl

theorem silent_create (kind : Kind) (reads : List Ref) : Silent (create kind reads) :=
  (silent_ask fun _ => rfl).bind fun _ => trivial

theorem silent_dropSome (ref : Option Ref) : Silent (dropSome ref) := by
  cases ref with
  | none => exact trivial
  | some ref => exact silent_drop ref

theorem seems_releasing {program : Prog α} {model : Handler.Prog β} (ref : Ref)
    (seems : Seems rel program model) : Seems rel (releasing ref program) model := by
  rw [← bind_pure model]
  apply seems.bind
  intro value result related
  apply (silent_drop ref).then
  intro _
  exact refines_pure related

/-- Code that goes on or leaves, at both levels. -/
theorem seems_orElse {code : Prog (Except Int α)} {next : α → Prog (Except Int γ)}
    {model : Fallible β} {following : β → Fallible δ} (first : Seems (Alike rel) code model.run)
    (second : ∀ value result, rel value result →
      Seems (Alike later) (next value) (following result).run) :
    Seems (Alike later) (orElse code next) (model >>= following).run := by
  rw [ExceptT.run_bind]
  apply first.bind
  intro value result alike
  cases alike with
  | error rc => exact refines_pure (.error rc)
  | ok related => exact second _ _ related

theorem orFail_run (call : Handler.Prog Int) (following : Fallible δ) :
    (do orFail call; following : Fallible δ).run =
      call >>= fun rc => if rc < 0 then pure (.error rc) else following.run := by
  rw [ExceptT.run_bind]
  unfold orFail
  rw [ExceptT.run_mk, bind_assoc]
  congr 1
  funext rc
  rw [pure_bind]
  by_cases negative : rc < 0
  · rw [if_pos negative, if_pos negative]
  · rw [if_neg negative, if_neg negative]

/-- The model answers its own call with this return code. -/
theorem seems_failed {value : γ} {rc : Int} {later : γ → Except Int δ → Prop}
    {following : Fallible δ} (negative : rc < 0) (related : later value (.error rc)) :
    Seems later (pure value) (do orFail Handler.library; following : Fallible δ).run := by
  rw [orFail_run]
  apply Refines.answer rc rfl
  rw [if_pos negative]
  exact refines_pure related

theorem seems_worked {code : Prog γ} {later : γ → Except Int δ → Prop} {following : Fallible δ}
    (seems : Seems later code following.run) :
    Seems later code (do orFail Handler.library; following : Fallible δ).run := by
  rw [orFail_run]
  apply Refines.answer (0 : Int) rfl
  exact seems

/-- Both outcomes of a call that creates something. -/
theorem seems_create (kind : Kind) (reads : List Ref) {next : Except Int Ref → Prog γ}
    {model : Handler.Prog δ} (failed : ∀ rc < 0, Seems later (next (.error rc)) model)
    (created : ∀ ref, Seems later (next (.ok ref)) model) :
    Seems later (create kind reads >>= next) model := by
  unfold create
  rw [bind_assoc]
  apply Silent.then (silent_ask fun _ => rfl)
  rintro ⟨rc, id⟩
  by_cases negative : rc < 0
  · simp only [negative, if_true, pure_bind]
    exact failed rc negative
  · simp only [negative, if_false, pure_bind]
    exact created ⟨kind, id⟩

theorem seems_orElse_create (kind : Kind) (reads : List Ref) {next : Ref → Prog (Except Int γ)}
    {following : Fallible δ}
    (second : ∀ ref, Seems (Alike later) (next ref) following.run) :
    Seems (Alike later) (orElse (create kind reads) next)
      (do orFail Handler.library; following : Fallible δ).run := by
  apply seems_create
  · intro rc negative
    exact seems_failed negative (.error rc)
  · intro ref
    exact seems_worked (second ref)

theorem seems_unlessFails (reads : List Ref) {next : Prog (Except Int γ)}
    {following : Fallible δ} (second : Seems (Alike later) next following.run) :
    Seems (Alike later) (unlessFails (library reads) next)
      (do orFail Handler.library; following : Fallible δ).run := by
  apply (silent_library reads).then
  intro rc
  split
  · exact seems_failed ‹_› (.error _)
  · exact seems_worked second

/-- An interrupt during a wait is one at both levels; else the model answers its own call
later. -/
theorem seems_awaitEvent (call : Effect) (cancelled : Response call)
    (seen : handlerView call cancelled = [.interrupted]) {next : List Signal × Bool → Prog γ}
    {following : Response call → Handler.Prog δ}
    (waited : ∀ heard, Seems later (next (heard, false)) (Coro.perform call >>= following))
    (left : ∀ heard, Seems later (next (heard, true)) (following cancelled)) :
    Seems later (awaitEvent >>= next) (Coro.perform call >>= following) := by
  rintro ⟨heard, interrupted⟩
  cases interrupted with
  | false => exact ⟨[], _, rfl, rfl, waited heard⟩
  | true =>
      refine ⟨[⟨call, cancelled⟩], following cancelled, ?_, ?_, left heard⟩
      · exact exec_call call _ cancelled []
      · exact (List.append_nil _).trans seen

end Rules

section Bus

variable {α β σ : Type} {rel : α → CString → Prop}

/-- What `sb_bus_call` makes of an answer. -/
def replied : Awaited BusReply → Except Int CString
  | .cancelled => .error (-Errno.eintr)
  | .value (.notSent rc) | .value (.failed rc) => .error rc
  | .value (.body text) => .ok text

theorem sbBusCall_run (call : BusCall) :
    (Handler.sbBusCall call).run =
      busCall call >>= fun answer => pure (replied answer) := by
  unfold Handler.sbBusCall orInterrupted
  rw [ExceptT.run_bind, ExceptT.run_mk, bind_assoc]
  congr 1
  funext answer
  rcases answer with _ | (rc | rc | text) <;> rfl

theorem seems_notSent {value : Except Int α} {rc : Int} (call : BusCall)
    (alike : Alike rel value (.error rc)) :
    Seems (Alike rel) (pure value) (Handler.sbBusCall call).run := by
  rw [sbBusCall_run]
  apply Refines.answer (Awaited.value (BusReply.notSent rc)) rfl
  exact refines_pure alike

theorem seems_awaitReply (call : BusCall) (listens : Bool) :
    Seems (fun wait answer => answer = ReplyWait.answer wait) (awaitReply call listens)
      (busCall call) := by
  apply refines_perform (Op.awaitReply call listens) (Effect.busCall call) ReplyWait.answer
  · intro wait
    rcases wait with ⟨heard, reply, cancelled⟩ | heard
    · rcases reply with rc | ⟨id, body⟩ <;> cases cancelled <;> rfl
    · rfl
  · exact fun _ => rfl

theorem seems_sbBusCall (listens : Bool) {hear : List Signal → σ → Prog σ} (arg : σ)
    (call : BusCall) (message : Ref) {hand : Message → Prog α}
    (hears : ∀ heard arg, Silent (hear heard arg))
    (hands : ∀ reply, Seems rel (hand reply) (pure reply.body)) :
    Seems (fun result reply => Alike rel result.1 reply)
      (sbBusCall listens hear arg call message hand) (Handler.sbBusCall call).run := by
  unfold sbBusCall callAsync
  rw [bind_assoc]
  apply Silent.then (silent_ask fun _ => rfl)
  rintro ⟨rc, id⟩
  by_cases negative : rc < 0
  · simp only [negative, if_true, pure_bind]
    rw [sbBusCall_run]
    apply Refines.answer (Awaited.value (BusReply.notSent rc)) rfl
    exact refines_pure (.error _)
  · simp only [negative, if_false, pure_bind]
    apply seems_releasing
    rw [sbBusCall_run]
    apply (seems_awaitReply call listens).bind
    intro wait answer same
    subst same
    cases wait with
    | interrupted heard =>
        apply (hears heard arg).then
        intro arg
        exact refines_pure (.error _)
    | replied heard reply cancelled =>
        apply (hears heard arg).then
        intro arg
        cases reply with
        | error rc => cases cancelled <;> exact refines_pure (.error _)
        | ok reply =>
            unfold sbBusCallCb
            rw [bind_assoc]
            apply (silent_take _ _).then
            intro _
            cases cancelled with
            | true => exact refines_pure (.error _)
            | false =>
                let message : Message := ⟨⟨.message, reply.1⟩, reply.2⟩
                show Seems _ (hand message >>= fun value => pure (Except.ok value, arg))
                  (pure message.body >>= fun body => pure (Except.ok body))
                apply (hands message).bind
                intro value body related
                exact refines_pure (.ok related)

theorem seems_sbBusCallMethodv (call : BusCall) (reads : List Ref) {hand : Message → Prog α}
    (hands : ∀ reply, Seems rel (hand reply) (pure reply.body)) :
    Seems (Alike rel) (sbBusCallMethodv call reads hand) (Handler.sbBusCallMethodv call).run := by
  apply seems_create
  · intro rc _
    exact seems_notSent call (.error _)
  · intro message
    apply seems_releasing
    apply (silent_library _).then
    intro rc
    split
    · exact seems_notSent call (.error _)
    · unfold Handler.sbBusCallMethodv
      rw [← bind_pure (Handler.sbBusCall call).run]
      have unheard (_ : List Signal) (arg : Unit) : Silent (pure arg) := trivial
      apply (seems_sbBusCall false () call _ unheard hands).bind
      intro result reply alike
      exact refines_pure alike

/-- The message that a reply is. -/
def Brings (reply : Message) (body : CString) : Prop := reply.body = body

/-- The string on the heap for a string of the model. -/
def Holds (text : Text) (bytes : CString) : Prop := text.bytes = bytes

theorem seems_brings (reply : Message) : Seems Brings (pure reply) (pure reply.body) :=
  refines_pure rfl

theorem seems_asks (call : BusCall) (reads : List Ref) :
    Seems (Alike Brings) (sbBusCallMethodv call reads pure) (Handler.sbBusCallMethodv call).run :=
  seems_sbBusCallMethodv call reads seems_brings

theorem seems_sbBusGetProperty (unitObj : Text) (interface member : CString) :
    Seems (Alike Brings) (sbBusGetProperty unitObj interface member)
      (Handler.sbBusGetProperty unitObj.bytes interface member).run := by
  apply seems_orElse (seems_asks _ _)
  intro reply body brings
  apply seems_releasing
  apply seems_unlessFails
  apply (silent_take _ _).then
  intro _
  exact refines_pure (.ok brings)

theorem seems_readString {reply : Message} {body : CString} (brings : Brings reply body) :
    Seems (Alike Holds) (readString reply) (Handler.readString body).run := by
  apply seems_unlessFails
  apply seems_orElse_create
  intro ref
  exact refines_pure (.ok brings)

theorem seems_takeString {code : Prog (Except Int Message)} {model : Fallible CString}
    (seems : Seems (Alike Brings) code model.run) :
    Seems (Alike Holds) (takeString code) (model >>= Handler.readString).run := by
  apply seems_orElse seems
  intro reply body brings
  exact seems_releasing _ (seems_readString brings)

theorem seems_sbSdUnitGetId (unitObj : Text) :
    Seems (Alike Holds) (sbSdUnitGetId unitObj) (Handler.sbSdUnitGetId unitObj.bytes).run :=
  seems_takeString (seems_sbBusGetProperty unitObj _ _)

theorem seems_sbSdUnitGetSubprop (unitObj : Text) (member : CString) :
    Seems (Alike Brings) (sbSdUnitGetSubprop unitObj member)
      (Handler.sbSdUnitGetSubprop unitObj.bytes member).run := by
  apply seems_orElse (seems_sbSdUnitGetId unitObj)
  rintro unitName _ rfl
  apply seems_releasing
  apply (silent_use _).then
  intro _
  cases kindOf unitName.bytes with
  | none => exact refines_pure (.error _)
  | some kind => exact seems_sbBusGetProperty unitObj _ member

theorem seems_sbUnitGetSubpropString (unitObj : Text) (member : CString) :
    Seems (Alike Holds) (sbUnitGetSubpropString unitObj member)
      (Handler.sbUnitGetSubpropString unitObj.bytes member).run :=
  seems_takeString (seems_sbSdUnitGetSubprop unitObj member)

theorem seems_sbSdGetUnitByPID (pid : Pid) :
    Seems (Alike Holds) (sbSdGetUnitByPID pid) (Handler.sbSdGetUnitByPID pid).run :=
  seems_takeString (seems_asks _ _)

theorem seems_getSelfUnitName (selfPid : Pid) :
    Seems (Alike Holds) (getSelfUnitName selfPid) (Handler.getSelfUnitName selfPid).run := by
  apply seems_orElse (seems_sbSdGetUnitByPID selfPid)
  rintro unitObj _ rfl
  exact seems_releasing _ (seems_sbSdUnitGetId unitObj)

end Bus

section Job

theorem silent_sbSdFreeWaitForJob (arg : WaitForJobArg) : Silent (sbSdFreeWaitForJob arg) := by
  unfold sbSdFreeWaitForJob
  split
  · exact trivial
  · apply (silent_dropSome _).bind
    intro _
    apply (silent_dropSome _).bind
    intro _
    exact (silent_drop _).bind fun _ => trivial

theorem silent_strdup (bytes : CString) : Silent (strdup bytes) := by
  apply (silent_create .text []).bind
  intro result
  cases result <;> exact trivial

theorem silent_abort {α : Type} : Silent (abort : Prog α) :=
  ⟨fun _ => rfl, fun answer => nomatch (answer : Empty)⟩

theorem silent_busDisconnected (arg : WaitForJobArg) : Silent (busDisconnected arg) := by
  unfold busDisconnected
  split
  · exact silent_abort
  · apply (silent_strdup _).bind
    intro result
    exact silent_sbSdFreeWaitForJob _

theorem silent_jobRemoved (signal : Option (CString × CString)) (arg : WaitForJobArg) :
    Silent (jobRemoved signal arg) := by
  unfold jobRemoved
  split
  · exact silent_abort
  · split
    · apply (silent_use _).bind
      intro _
      split
      · exact trivial
      · exact (silent_strdup _).bind fun _ => trivial
    · exact trivial

theorem silent_hearOne (arg : WaitForJobArg) (signal : Signal) : Silent (hearOne arg signal) := by
  unfold hearOne
  split
  · split
    · exact silent_jobRemoved _ arg
    · exact trivial
  · split
    · exact silent_busDisconnected arg
    · exact trivial
  · exact trivial

theorem silent_hear (heard : List Signal) (arg : WaitForJobArg) : Silent (hear heard arg) := by
  induction heard generalizing arg with
  | nil => exact trivial
  | cons signal rest ih => exact (silent_hearOne arg signal).bind ih

theorem sbSdInitWaitForJob_run :
    Handler.sbSdInitWaitForJob.run = matchJobRemoved >>= fun answer =>
      match answer with
      | .cancelled => pure (.error (-Errno.eintr))
      | .value rc => if rc < 0 then pure (.error rc) else (orFail matchDisconnected).run := by
  unfold Handler.sbSdInitWaitForJob orInterrupted
  rw [ExceptT.run_bind, ExceptT.run_mk, bind_assoc]
  congr 1
  funext answer
  cases answer with
  | cancelled => rfl
  | value rc =>
      rw [pure_bind]
      by_cases negative : rc < 0
      · simp only [negative, if_true]
        rfl
      · simp only [negative, if_false]

theorem seems_failInit (arg : WaitForJobArg) (rc : Int) :
    Seems (Alike fun _ (_ : Unit) => True) (failInit arg rc) (pure (.error rc)) := by
  apply (silent_dropSome _).then
  intro _
  apply (silent_drop _).then
  intro _
  exact refines_pure (.error _)

theorem seems_finishInit (arg : WaitForJobArg) :
    Seems (Alike fun _ _ => True) (finishInit arg false) Handler.sbSdInitWaitForJob.run := by
  rw [sbSdInitWaitForJob_run]
  apply Refines.answer (Awaited.value arg.rc) rfl
  unfold finishInit
  simp only [Bool.false_eq_true, if_false]
  split
  · exact seems_failInit arg arg.rc
  · apply seems_create
    · intro rc negative
      apply Refines.answer rc rfl
      rw [if_pos negative]
      exact seems_failInit arg rc
    · intro slot
      apply Refines.answer (0 : Int) rfl
      exact refines_pure (.ok trivial)

theorem seems_sbSdInitWaitForJob (bus : Ref) :
    Seems (Alike fun _ _ => True) (sbSdInitWaitForJob bus) Handler.sbSdInitWaitForJob.run := by
  apply (silent_take _ _).then
  intro _
  apply seems_create
  · intro rc negative
    rw [sbSdInitWaitForJob_run]
    apply Refines.answer (Awaited.value rc) rfl
    simp only [negative, if_true]
    exact seems_failInit _ rc
  · intro slot
    rw [sbSdInitWaitForJob_run]
    apply seems_awaitEvent .matchJobRemoved Awaited.cancelled rfl
    · intro heard
      apply (silent_hear heard _).then
      intro arg
      have finishes := seems_finishInit arg
      rw [sbSdInitWaitForJob_run] at finishes
      exact finishes
    · intro heard
      apply (silent_hear heard _).then
      intro arg
      exact seems_failInit arg _

theorem sbSdWaitForJob_run (jobObj : CString) :
    (Handler.sbSdWaitForJob jobObj).run = waitForJob jobObj >>= fun answer =>
      match answer with
      | .cancelled => pure (.error (-Errno.eintr))
      | .value rc => pure (if rc < 0 then .error rc else .ok ()) := by
  unfold Handler.sbSdWaitForJob orInterrupted
  rw [ExceptT.run_bind, ExceptT.run_mk, bind_assoc]
  congr 1
  funext answer
  cases answer with
  | cancelled => rfl
  | value rc =>
      rw [pure_bind]
      by_cases negative : rc < 0
      · simp only [negative, if_true]
        rfl
      · simp only [negative, if_false]
        rfl

/-- The return code for which the model has its result. -/
def Returns {σ : Type} : Int × σ → Except Int Unit → Prop
  | (rc, _), result => result = if rc < 0 then .error rc else .ok ()

theorem seems_sbSdWaitForJob (arg : WaitForJobArg) (jobObj : Message) :
    Seems Returns (sbSdWaitForJob arg jobObj) (Handler.sbSdWaitForJob jobObj.body).run := by
  have returns (arg : WaitForJobArg) :
      Seems Returns (pure (arg.rc, arg.result, { arg with result := none }))
        (waitForJob jobObj.body >>= fun answer =>
          match answer with
          | .cancelled => pure (.error (-Errno.eintr))
          | .value rc => pure (if rc < 0 then .error rc else .ok ())) := by
    apply Refines.answer (Awaited.value arg.rc) rfl
    exact refines_pure rfl
  rw [sbSdWaitForJob_run]
  unfold sbSdWaitForJob
  split
  · exact returns arg
  · apply seems_awaitEvent (.waitForJob jobObj.body) Awaited.cancelled rfl
    · intro heard
      apply (silent_hear heard _).then
      intro arg
      exact returns arg
    · intro heard
      apply (silent_hear heard _).then
      intro arg
      apply (silent_strdup _).then
      intro result
      apply (silent_sbSdFreeWaitForJob arg).then
      intro arg
      exact refines_pure rfl

/-- The rest of `start_transient_scope` in the model, from the reply to
`StartTransientUnit` on. -/
def scopeOnceStarted (scopeName jobObj : CString) : Fallible (CString × CString) := do
  orFail Handler.library
  Handler.sbSdWaitForJob jobObj
  let scopeObj ← Handler.sbBusCallMethodv (.getUnit scopeName)
  let scopeObj ← Handler.readString scopeObj
  return (scopeName, scopeObj)

/-- The same from the subscription on. -/
def scopeOnceSubscribed (request : ScopeRequest) : Fallible (CString × CString) := do
  orFail Handler.library
  let jobObj ← Handler.sbBusCall (.startTransientUnit request)
  scopeOnceStarted request.name jobObj

theorem startTransientScope_eq (pid : Pid) (thisUnit : CString) :
    Handler.startTransientScope pid thisUnit = (do
      let unit ← Handler.sbSdGetUnitByPID pid
      let slice ← Handler.sbUnitGetSubpropString unit (ascii "Slice")
      let random ← ExceptT.mk Handler.randomize
      orFail Handler.library
      Handler.sbSdInitWaitForJob
      scopeOnceSubscribed
        { name := ascii "traffic-limitd-scope-" ++ random ++ ascii ".scope", slice := slice,
          pid := pid, after := thisUnit, bindsTo := thisUnit }) := rfl

/-- The object path of the scope, where the model returns its name as well. -/
def Named (scopeName : CString) (text : Text) (scope : CString × CString) : Prop :=
  scope = (scopeName, text.bytes)

theorem seems_getScopeObj (scopeName : Text) :
    Seems (Alike (Named scopeName.bytes)) (getScopeObj scopeName) (do
      let scopeObj ← Handler.sbBusCallMethodv (.getUnit scopeName.bytes)
      let scopeObj ← Handler.readString scopeObj
      return (scopeName.bytes, scopeObj) : Fallible (CString × CString)).run := by
  rw [← bind_assoc, ExceptT.run_bind, ← bind_pure (getScopeObj scopeName)]
  apply (seems_takeString (seems_asks _ _)).bind
  intro text bytes alike
  cases alike with
  | error rc => exact refines_pure (.error rc)
  | ok holds => exact refines_pure (.ok (congrArg (Prod.mk _) holds.symm))

theorem seems_awaitScope (arg : WaitForJobArg) (scopeName : Text) (reply : Message) :
    Seems (fun result scope => Alike (Named scopeName.bytes) result.1 scope)
      (awaitScope arg scopeName reply) (scopeOnceStarted scopeName.bytes reply.body).run := by
  apply (silent_library _).then
  intro rc
  split
  · exact seems_failed ‹_› (.error _)
  · apply seems_worked
    rw [ExceptT.run_bind]
    apply (seems_sbSdWaitForJob arg reply).bind
    rintro ⟨rc, result, arg⟩ _ rfl
    apply (silent_sbSdFreeWaitForJob arg).then
    intro arg
    apply (silent_dropSome _).then
    intro _
    by_cases negative : rc < 0
    · simp only [negative, if_true]
      exact refines_pure (.error _)
    · simp only [negative, if_false]
      rw [← bind_pure (ExceptT.run _)]
      apply (seems_getScopeObj scopeName).bind
      intro scopeObj scope alike
      exact refines_pure alike

theorem silent_appends (message : Ref) (fields : List (List Ref)) :
    Silent (appends message fields) := by
  induction fields with
  | nil => exact trivial
  | cons reads rest ih =>
      apply (silent_library _).bind
      intro rc
      split
      · exact trivial
      · exact ih

theorem seems_requestScope (arg : WaitForJobArg) (request : ScopeRequest) (slice scopeName : Text)
    (named : request.name = scopeName.bytes) :
    Seems (fun result scope => Alike (Named scopeName.bytes) result.1 scope)
      (requestScope arg request slice scopeName) (scopeOnceSubscribed request).run := by
  apply seems_create
  · intro rc negative
    exact seems_failed negative (.error rc)
  · intro message
    apply seems_releasing
    apply (silent_appends _ _).then
    intro rc
    split
    · exact seems_failed ‹_› (.error _)
    · apply seems_worked
      rw [ExceptT.run_bind]
      apply (seems_sbBusCall true arg _ message silent_hear seems_brings).bind
      rintro ⟨reply, arg⟩ body alike
      cases alike with
      | error rc => exact refines_pure (.error rc)
      | ok brings =>
          rw [← brings, named]
          exact seems_releasing _ (seems_awaitScope arg scopeName _)

theorem seems_subscribed (bus : Ref) (request : ScopeRequest) (slice scopeName : Text)
    (named : request.name = scopeName.bytes) :
    Seems (Alike (Named scopeName.bytes)) (subscribed bus request slice scopeName)
      (do Handler.sbSdInitWaitForJob; scopeOnceSubscribed request).run := by
  apply seems_orElse (seems_sbSdInitWaitForJob bus)
  intro arg _ _
  rw [← bind_pure (scopeOnceSubscribed request).run]
  apply (seems_requestScope arg request slice scopeName named).bind
  rintro ⟨result, arg⟩ scope alike
  apply (silent_sbSdFreeWaitForJob arg).then
  intro _
  exact refines_pure alike

theorem seems_plain (effect : Effect)
    (visible : ∀ answer, handlerView effect answer = [.called ⟨effect, answer⟩]) :
    Seems Eq (plain effect) (Handler.ask effect) :=
  refines_perform (Op.plain effect) effect id visible fun _ => rfl

theorem seems_randomize :
    Seems (Alike Eq) randomize (ExceptT.mk Handler.randomize : Fallible CString).run := by
  apply (seems_plain .randomize fun _ => rfl).mono
  rintro (rc | random) _ rfl
  · exact .error rc
  · exact .ok rfl

/-- Both strings of the new scope. -/
def Scope (texts : Text × Text) (scope : CString × CString) : Prop :=
  scope = (texts.1.bytes, texts.2.bytes)

theorem seems_nameScope (bus : Ref) (pid : Pid) (thisUnit : CString) (slice : Text) :
    Seems (Alike Scope) (nameScope bus pid thisUnit slice) (do
      let random ← ExceptT.mk Handler.randomize
      orFail Handler.library
      Handler.sbSdInitWaitForJob
      scopeOnceSubscribed
        { name := ascii "traffic-limitd-scope-" ++ random ++ ascii ".scope", slice := slice.bytes,
          pid := pid, after := thisUnit, bindsTo := thisUnit } :
        Fallible (CString × CString)).run := by
  apply seems_orElse seems_randomize
  rintro random _ rfl
  apply seems_orElse_create
  intro ref
  rw [← bind_pure (ExceptT.run _)]
  apply (seems_subscribed bus _ slice _ rfl).bind
  intro result scope alike
  cases alike with
  | ok named => exact refines_pure (.ok named)
  | error rc =>
      apply (silent_drop ref).then
      intro _
      exact refines_pure (.error rc)

theorem seems_startTransientScope (bus : Ref) (pid : Pid) (thisUnit : CString) :
    Seems (Alike Scope) (startTransientScope bus pid thisUnit)
      (Handler.startTransientScope pid thisUnit).run := by
  rw [startTransientScope_eq]
  apply seems_orElse (seems_sbSdGetUnitByPID pid)
  rintro unit _ rfl
  apply seems_releasing
  apply seems_orElse (seems_sbUnitGetSubpropString unit _)
  rintro slice _ rfl
  apply seems_releasing
  exact seems_nameScope bus pid thisUnit slice

end Job

end TrafficLimitd.Heap
