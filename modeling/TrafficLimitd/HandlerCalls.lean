import TrafficLimitd.HandlerProgram

set_option autoImplicit false

/- Which calls the parts of the handler make. Most of them only ask something of
systemd or tell something to the client; a discipline that such calls do not
concern is followed by these parts without a look at their bodies. -/
namespace TrafficLimitd.Handler

open Coroutine
open Limiter (CgroupId)

/-- A kind of calls that takes in every message to the client but the go-ahead. -/
structure Writing (kind : Effect → Prop) : Prop where
  library : kind .library
  log : ∀ text, kind (.streamIo .write (logMsg text) maxIoUsec)
  fail : ∀ reason, kind (.streamIo .write (failMsg reason) maxIoUsec)

/-- A kind of calls that takes in these and the shutdown of the stream. -/
structure Telling (kind : Effect → Prop) : Prop extends Writing kind where
  empty : kind (.streamIo .write [] 0)
  drain : kind .drainStream
  tail : kind .shutdownTail

/-- A kind of calls that takes in every question about a known unit. -/
structure Describing (kind : Effect → Prop) : Prop where
  library : kind .library
  property : ∀ path interface member, kind (.busCall (.property path interface member))

/-- A kind of calls that takes in these and every other question. -/
structure Asking (kind : Effect → Prop) : Prop extends Describing kind where
  locate : ∀ pid, kind (.busCall (.getUnitByPID pid))
  resolve : ∀ path, kind (.cgPathGetCgroupid path)
  thisUnitName : kind .thisUnitName
  setThisUnitName : ∀ name, kind (.setThisUnitName name)
  randomize : kind .randomize
  matchJobRemoved : kind .matchJobRemoved
  matchDisconnected : kind .matchDisconnected

/-- A kind of calls that takes in both messages and questions. -/
structure Ordinary (kind : Effect → Prop) : Prop extends Telling kind, Asking kind

variable {kind : Effect → Prop}

def Question : Effect → Prop
  | .library | .busCall (.property _ _ _) | .busCall (.getUnitByPID _) | .cgPathGetCgroupid _
  | .thisUnitName | .setThisUnitName _ | .randomize | .matchJobRemoved | .matchDisconnected => True
  | _ => False

theorem Asking.of_questions (questions : ∀ effect, Question effect → kind effect) :
    Asking kind where
  library := questions _ trivial
  property _ _ _ := questions _ trivial
  locate _ := questions _ trivial
  resolve _ := questions _ trivial
  thisUnitName := questions _ trivial
  setThisUnitName _ := questions _ trivial
  randomize := questions _ trivial
  matchJobRemoved := questions _ trivial
  matchDisconnected := questions _ trivial

/-- The questions, and every write to the stream with its shutdown. -/
def Common : Effect → Prop
  | .streamIo .write _ _ | .drainStream | .shutdownTail => True
  | effect => Question effect

theorem Ordinary.of_common (common : ∀ effect, Common effect → kind effect) : Ordinary kind where
  toAsking := .of_questions fun effect question => by
    apply common
    cases effect <;> first | exact question | exact question.elim
  log _ := common _ trivial
  fail _ := common _ trivial
  empty := common _ trivial
  drain := common _ trivial
  tail := common _ trivial

theorem only_ask {effect : Effect} (is : kind effect) : Only kind (ask effect) :=
  ⟨is, fun _ => trivial⟩

theorem only_orFail {call : Prog Int} (only : Only kind call) : Only kind (orFail call).run :=
  only.bind fun _ => trivial

theorem only_orInterrupted {α : Type} {call : Prog (Awaited α)} (only : Only kind call) :
    Only kind (orInterrupted call).run := by
  refine only.bind fun result => ?_
  cases result <;> exact trivial

theorem only_asks {effect : Effect} (is : kind effect) :
    Only kind (liftM (ask effect) : Body (Response effect)).run :=
  (only_ask is).except_lift

theorem only_orLeave {α : Type} {code : Fallible α} (scopeObj : Option CString)
    (only : Only kind code.run) : Only kind (orLeave scopeObj code).run := by
  refine only.bind fun result => ?_
  cases result <;> exact trivial

theorem only_sbBusCall {call : BusCall} (is : kind (.busCall call)) :
    Only kind (sbBusCall call).run := by
  refine (only_orInterrupted (only_ask is)).except_bind fun reply => ?_
  cases reply <;> exact trivial

theorem only_sbSdWaitForJob {jobObj : CString} (is : kind (.waitForJob jobObj)) :
    Only kind (sbSdWaitForJob jobObj).run := by
  refine (only_orInterrupted (only_ask is)).except_bind fun rc => ?_
  split <;> exact trivial

theorem only_watchProcess (pid : Pid) (watch : kind (.initPidfdEvent pid))
    (destroy : kind (.registerCleanup .destroyPidfdEvent))
    (register : kind (.regPidfdInterrupt (some .procEnd))) : Only kind (watchProcess pid).run := by
  have opens : Only kind (liftM (initPidfdEvent pid) : Body Int).run := only_asks watch
  have destroys : Only kind (liftM (registerCleanup .destroyPidfdEvent) : Body Unit).run :=
    only_asks destroy
  have watches : Only kind (do
      registerCleanup .destroyPidfdEvent
      regPidfdInterrupt (some .procEnd) : Body Unit).run :=
    destroys.except_bind fun _ => only_asks register
  refine opens.except_bind fun rc => ?_
  split
  · exact Only.except_bind trivial fun _ => watches
  · exact watches

theorem only_readRequest (scopeObj : CString)
    (read : kind (.streamIo .read (List.replicate expectedMsgLen 0) maxIoUsec)) :
    Only kind (readRequest scopeObj).run :=
  Only.bind (only_ask read) fun _ => trivial

theorem only_setLimit (cgroup : CgroupId) (limit : RateLimit)
    (deaf : kind (.regStreamInterrupt none)) (set : kind (.rateLimitSet cgroup limit)) : Only kind (setLimit cgroup limit).run := by
  have sets : Only kind (liftM (rateLimitSet cgroup limit) : Body Int).run := only_asks set
  have deafens : Only kind (liftM (regStreamInterrupt none) : Body Unit).run := only_asks deaf
  refine deafens.except_bind fun _ => sets.except_bind fun rc => ?_
  split <;> exact trivial

theorem only_awaitExit (scopeObj : CString) (await : kind .waitForExit) :
    Only kind (awaitExit scopeObj).run := by
  have waits : Only kind (liftM waitForExit : Body (Awaited Unit)).run := only_asks await
  refine waits.except_bind fun answer => ?_
  cases answer <;> exact trivial

theorem only_killScope {scopeObj : CString} (is : kind (.busCall (.kill scopeObj))) :
    Only kind (killScope scopeObj) :=
  (only_sbBusCall is).bind fun _ => trivial

/-- The rule for a single call on the main path. -/
theorem follows_ask {S ε β : Type} {rules : Discipline Effect Response S} {state : S}
    {effect : Effect} {continuation : Response effect → ExceptT ε Prog β}
    {post : S → Except ε β → Prop} :
    rules.Follows state ((liftM (ask effect) : ExceptT ε Prog _) >>= continuation).run post ↔
      rules.may state effect ∧ ∀ answer,
        rules.Follows (rules.after state effect answer) (continuation answer).run post :=
  Discipline.follows_lift_bind

/-- The ways in which the tests on the request end. -/
theorem decodeRequest_cases (scopeObj : CString) (answer : Awaited (Int × List UInt8)) :
    (∃ rc clientError, decodeRequest scopeObj answer = .error (.errCloseStream rc clientError)) ∨
      (∃ rc, decodeRequest scopeObj answer = .error (leave (some scopeObj) rc)) ∨
      ∃ rc buf, answer = .value (rc, buf) ∧
        decodeRequest scopeObj answer = .ok (Protocol.reqLimit buf) := by
  rcases answer with _ | ⟨rc, buf⟩
  · exact Or.inr (Or.inl ⟨_, rfl⟩)
  · simp only [decodeRequest]
    split_ifs
    · exact Or.inl ⟨_, _, rfl⟩
    · exact Or.inr (Or.inl ⟨_, rfl⟩)
    · exact Or.inl ⟨_, _, rfl⟩
    · exact Or.inl ⟨_, _, rfl⟩
    · exact Or.inl ⟨_, _, rfl⟩
    · exact Or.inr (Or.inr ⟨rc, buf, rfl, rfl⟩)

/-- The scope that the code at a label finds. -/
def Exit.scope : Exit → Option CString
  | .errCloseStream _ _ => none
  | .interrupt scopeObj _ => scopeObj

/-- `goto` with `scope_obj` still NULL. -/
def Exit.Unscoped (exit : Exit) : Prop := exit.scope = none

theorem unscoped_leave (rc : Int) : (leave none rc).Unscoped := by
  unfold leave
  split <;> rfl

section Fails

variable {leaving : Exit → Prop}

theorem fails_orLeave {α : Type} {scopeObj : Option CString}
    (leaves : ∀ rc, leaving (leave scopeObj rc)) (code : Fallible α) :
    Fails leaving (orLeave scopeObj code) := by
  refine (Ends.of_forall (fun _ => trivial) code.run).bind fun result _ => ?_
  cases result with
  | ok value => nofun
  | error rc =>
      rintro _ ⟨⟩
      exact leaves rc

theorem fails_nameThisUnit (leaves : ∀ rc, leaving (leave none rc)) (host : Host) :
    Fails leaving (nameThisUnit host) := by
  refine (fails_lift _ _).bind fun known => ?_
  split
  · refine (fails_orLeave leaves _).bind fun name => (fails_lift _ _).bind fun known => ?_
    split
    · exact fails_lift _ _
    · exact fails_pure _ _
  · exact fails_pure _ _

theorem fails_checkOrigin (leaves : ∀ rc, leaving (leave none rc))
    (recursive : leaving (.errCloseStream (-Errno.eloop) true)) (pid : Pid) :
    Fails leaving (checkOrigin pid) := by
  refine (fails_orLeave leaves _).bind fun origUnit => (fails_lift _ _).bind fun _ =>
    (fails_orLeave leaves _).bind fun origCgroup => (fails_lift _ _).bind fun rc => ?_
  split
  · exact (fails_lift _ _).bind fun _ => fails_throw recursive
  · exact fails_pure _ _

end Fails

namespace Writing

variable (writing : Writing kind)

include writing

theorem writeRateLimitLog (text : CString) : Only kind (writeRateLimitLog text) := by
  refine (only_ask writing.library).bind fun rc => ?_
  split
  · exact trivial
  · exact (only_ask (writing.log text)).bind fun _ => trivial

theorem writeFail (reason : Protocol.FailReason) :
    Only kind (writeRateLimitMsg (failMsg reason)) :=
  (only_ask (writing.fail reason)).bind fun _ => trivial

end Writing

namespace Telling

variable (telling : Telling kind)

include telling

theorem shutdownMsgStream : Only kind shutdownMsgStream := by
  refine (only_ask telling.drain).bind fun rc => ?_
  split
  · exact trivial
  · refine Only.bind ((only_ask telling.empty).bind fun _ => trivial) fun rc => ?_
    split
    · exact trivial
    · exact only_ask telling.tail

theorem errCloseStream (host : Host) (rc : Int) (clientError : Bool) :
    Only kind (errCloseStream host rc clientError) :=
  (telling.writeRateLimitLog _).bind fun _ => (telling.writeFail _).bind fun _ =>
    telling.shutdownMsgStream.bind fun _ => trivial

theorem reject : Only kind reject :=
  (telling.writeFail _).bind fun _ => telling.shutdownMsgStream.bind fun _ => trivial

theorem proceed (limit : RateLimit) (go : kind (.streamIo .write proceedMsg maxIoUsec)) :
    Only kind (proceed limit) := by
  refine (telling.writeRateLimitLog _).bind fun _ => ?_
  have writes : Only kind (writeRateLimitMsg proceedMsg) := Only.bind (only_ask go) fun _ => trivial
  exact writes.bind fun _ => telling.shutdownMsgStream.bind fun _ => trivial

theorem tellExit (reason : Option InterruptReason) (stream : Bool) :
    Only kind (tellExit reason stream) := by
  unfold Handler.tellExit
  split
  · exact (telling.writeFail _).bind fun _ => telling.shutdownMsgStream.bind fun _ => trivial
  · exact trivial

end Telling

namespace Describing

variable (describing : Describing kind)

include describing

theorem readString (reply : CString) : Only kind (readString reply).run :=
  (only_orFail (only_ask describing.library)).except_bind fun _ =>
    (only_orFail (only_ask describing.library)).except_bind fun _ => trivial

theorem sbBusGetProperty (path interface member : CString) :
    Only kind (sbBusGetProperty path interface member).run :=
  (only_sbBusCall (describing.property path interface member)).except_bind fun _ =>
    (only_orFail (only_ask describing.library)).except_bind fun _ => trivial

theorem sbSdUnitGetId (unitObj : CString) : Only kind (sbSdUnitGetId unitObj).run :=
  (describing.sbBusGetProperty _ _ _).except_bind fun reply => describing.readString reply

theorem sbSdUnitGetSubprop (unitObj member : CString) :
    Only kind (sbSdUnitGetSubprop unitObj member).run := by
  refine (describing.sbSdUnitGetId unitObj).except_bind fun unitName => ?_
  cases kindOf unitName with
  | none => exact trivial
  | some kindName => exact describing.sbBusGetProperty _ _ _

theorem sbUnitGetSubpropString (unitObj member : CString) :
    Only kind (sbUnitGetSubpropString unitObj member).run :=
  (describing.sbSdUnitGetSubprop unitObj member).except_bind fun reply =>
    describing.readString reply

end Describing

namespace Asking

variable (asking : Asking kind)

include asking

theorem getUnitCgroupId (unitObj : CString) : Only kind (getUnitCgroupId unitObj).run :=
  (asking.sbUnitGetSubpropString unitObj _).except_bind fun path =>
    only_ask (asking.resolve path)

theorem sbSdGetUnitByPID (pid : Pid) : Only kind (sbSdGetUnitByPID pid).run :=
  (only_sbBusCall (asking.locate pid)).except_bind fun reply => asking.readString reply

theorem getSelfUnitName (selfPid : Pid) : Only kind (getSelfUnitName selfPid).run :=
  (asking.sbSdGetUnitByPID selfPid).except_bind fun unitObj => asking.sbSdUnitGetId unitObj

theorem sbSdInitWaitForJob : Only kind sbSdInitWaitForJob.run := by
  refine (only_orInterrupted (only_ask asking.matchJobRemoved)).except_bind fun rc => ?_
  have disconnected := only_orFail (only_ask asking.matchDisconnected)
  split
  · exact Only.except_bind trivial fun _ => disconnected
  · exact disconnected

theorem nameThisUnit (host : Host) : Only kind (nameThisUnit host).run := by
  have reads : Only kind (liftM Handler.thisUnitName : Body (Option CString)).run :=
    (only_ask asking.thisUnitName).except_lift
  refine reads.except_bind fun known => ?_
  split
  · refine (only_orLeave none (asking.getSelfUnitName _)).except_bind fun name => ?_
    refine reads.except_bind fun known => ?_
    split
    · exact (only_ask (asking.setThisUnitName name)).except_lift
    · exact trivial
  · exact trivial

theorem startTransientScope (pid : Pid) (thisUnit : CString)
    (send : ∀ request, kind (.busCall (.startTransientUnit request)))
    (await : ∀ job, kind (.waitForJob job)) (find : ∀ name, kind (.busCall (.getUnit name))) :
    Only kind (startTransientScope pid thisUnit).run := by
  have builds : Only kind (orFail library).run := only_orFail (only_ask asking.library)
  refine (asking.sbSdGetUnitByPID pid).except_bind fun unit => ?_
  refine (asking.sbUnitGetSubpropString unit _).except_bind fun slice => ?_
  have chooses : Only kind (ExceptT.mk Handler.randomize).run := only_ask asking.randomize
  refine chooses.except_bind fun random => builds.except_bind fun _ => ?_
  refine asking.sbSdInitWaitForJob.except_bind fun _ => builds.except_bind fun _ => ?_
  refine (only_sbBusCall (send _)).except_bind fun jobObj => builds.except_bind fun _ => ?_
  refine (only_sbSdWaitForJob (await jobObj)).except_bind fun _ => ?_
  refine Only.except_bind (only_sbBusCall (find _)) fun reply => ?_
  exact (asking.readString reply).except_bind fun _ => trivial

theorem startScope (pid : Pid) (send : ∀ request, kind (.busCall (.startTransientUnit request)))
    (await : ∀ job, kind (.waitForJob job)) (find : ∀ name, kind (.busCall (.getUnit name)))
    (free : kind (.registerCleanup .free)) : Only kind (startScope pid).run := by
  have names : Only kind (liftM Handler.thisUnitName : Body (Option CString)).run :=
    only_asks asking.thisUnitName
  have frees : Only kind (liftM (registerCleanup .free) : Body Unit).run := only_asks free
  refine names.except_bind fun thisUnit => ?_
  refine (only_orLeave none (asking.startTransientScope pid _ send await find)).except_bind
    fun scope => ?_
  exact frees.except_bind fun _ => frees.except_bind fun _ => trivial

theorem blockTraffic (scopeObj : CString) (set : ∀ cgroup limit, kind (.rateLimitSet cgroup limit))
    (clear : ∀ cgroup, kind (.registerCleanup (.clearRateLimit cgroup))) :
    Only kind (blockTraffic scopeObj).run := by
  refine (only_orLeave _ (asking.getUnitCgroupId scopeObj)).except_bind fun cgroup => ?_
  have sets : Only kind (liftM (rateLimitSet cgroup ⟨0, 0⟩) : Body Int).run := only_asks (set _ _)
  have guards : Only kind (do
      registerCleanup (.clearRateLimit cgroup)
      return cgroup : Body CgroupId).run :=
    Only.except_bind (only_asks (clear cgroup)) fun _ => trivial
  refine sets.except_bind fun rc => ?_
  split
  · exact Only.except_bind trivial fun _ => guards
  · exact guards

theorem checkOrigin (writing : Writing kind) (pid : Pid) (free : kind (.registerCleanup .free))
    (check : ∀ cgroup, kind (.rateLimitCheck cgroup)) : Only kind (checkOrigin pid).run := by
  refine (only_orLeave none (asking.sbSdGetUnitByPID pid)).except_bind fun origUnit => ?_
  refine (only_ask free).except_lift.except_bind fun _ => ?_
  refine (only_orLeave none (asking.getUnitCgroupId origUnit)).except_bind fun origCgroup => ?_
  refine (only_ask (check origCgroup)).except_lift.except_bind fun rc => ?_
  split
  · exact (writing.writeRateLimitLog _).except_lift.except_bind fun _ => trivial
  · exact trivial

end Asking

namespace Ordinary

variable (ordinary : Ordinary kind)

include ordinary

/-- What the handler does after it has left its main path. -/
theorem atLabel (host : Host) (result : Except Exit Unit)
    (disable : ∀ disabled, kind (.setInterruptDisabled disabled)) (reason : kind .interruptReason)
    (kill : ∀ scopeObj, kind (.busCall (.kill scopeObj))) : Only kind (atLabel host result) := by
  rcases result with (⟨rc, clientError⟩ | ⟨scopeObj, stream⟩) | _
  · exact ordinary.errCloseStream host rc clientError
  · refine (only_ask (disable true)).bind fun _ => (only_ask reason).bind fun told => ?_
    refine (ordinary.tellExit told stream).bind fun _ => ?_
    cases scopeObj with
    | none => exact trivial
    | some scopeObj => exact only_killScope (kill scopeObj)
  · exact trivial

end Ordinary

end TrafficLimitd.Handler
