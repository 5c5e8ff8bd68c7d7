import TrafficLimitd.CoroutineTriples
import TrafficLimitd.HandlerCalls

set_option autoImplicit false

/- The path of the handler. Whatever is to be shown of its runs, the way leads over the same
stages: a discipline says what holds at each of them and shows it part by part, and the
walk over the parts, the two labels and the opening is made here. -/
namespace TrafficLimitd.Handler

open Coroutine
open Discipline (Triple triple_lift triple_pure)
open Limiter (CgroupId)

variable {S : Type}

/-- The main path may be left anywhere. -/
def Anywhere {ε : Type} (_ : S) (_ : ε) : Prop := True

/-- What holds on the main path: at its start and after the check of the client's unit, with
the scope, with the watch on the process, with all traffic blocked, with the request read,
with its limit set, with the client told to proceed, after the exit of its process and at
the end; and where the path is left for a label. -/
structure Stages (S : Type) where
  early : S → Prop
  checked : S → Prop := early
  started : CString → S → Prop := fun _ => checked
  watched : CString → S → Prop := started
  blocked : CString → CgroupId → S → Prop := fun scopeObj _ => watched scopeObj
  heard : CString → CgroupId → RateLimit → S → Prop := fun scopeObj cgroup _ =>
    blocked scopeObj cgroup
  limited : CString → CgroupId → RateLimit → S → Prop := heard
  launched : CString → S → Prop
  exited : CString → S → Prop := launched
  ended : S → Prop := fun _ => True
  leaves : S → Exit → Prop := Anywhere

/-- Each part of the main path leads from stage to stage. -/
structure Stages.Passed (stages : Stages S) (rules : Discipline Effect Response S) (host : Host)
    (pid : Pid) : Prop where
  names : rules.Triple stages.leaves stages.early (nameThisUnit host) fun _ => stages.early
  checks : rules.Triple stages.leaves stages.early (checkOrigin pid) fun _ => stages.checked
  starts : rules.Triple stages.leaves stages.checked (startScope pid) stages.started
  watches : ∀ scopeObj, rules.Triple stages.leaves (stages.started scopeObj) (watchProcess pid)
    fun _ => stages.watched scopeObj
  blocks : ∀ scopeObj, rules.Triple stages.leaves (stages.watched scopeObj) (blockTraffic scopeObj)
    (stages.blocked scopeObj)
  hears : ∀ scopeObj cgroup, rules.Triple stages.leaves (stages.blocked scopeObj cgroup)
    (readRequest scopeObj) (stages.heard scopeObj cgroup)
  limits : ∀ scopeObj cgroup limit, rules.Triple stages.leaves (stages.heard scopeObj cgroup limit)
    (setLimit cgroup limit) fun _ => stages.limited scopeObj cgroup limit
  proceeds : ∀ scopeObj cgroup limit, rules.Triple stages.leaves
    (stages.limited scopeObj cgroup limit) (liftM (proceed limit)) fun _ => stages.launched scopeObj
  awaits : ∀ scopeObj, rules.Triple stages.leaves (stages.launched scopeObj) (awaitExit scopeObj)
    fun _ => stages.exited scopeObj
  kills : ∀ scopeObj, rules.Triple stages.leaves (stages.exited scopeObj)
    (liftM (killScope scopeObj)) fun _ => stages.ended

/-- The opening of a connection, up to its main path or to its end without one. -/
def Opens (rules : Discipline Effect Response S) (initial : S) (early ended : S → Prop) : Prop :=
  rules.Follows initial initMsgStream fun state (rc : Int) =>
    if rc < 0 then rules.Follows state closeFd fun final _ => ended final
    else
      rules.Follows state (do
        registerCleanup .destroyMsgStream
        regStreamInterrupt (some .ioErr)
        increaseNrTasks) fun state (taken : Bool) =>
          if taken then
            rules.Follows state (registerCleanup .decreaseNrTasks) fun final _ => early final
          else rules.Follows state reject fun final _ => ended final

section Walk

variable {rules : Discipline Effect Response S} {stages : Stages S} {host : Host} {pid : Pid}

theorem Stages.Passed.serve_follows (passed : stages.Passed rules host pid) :
    rules.Triple stages.leaves stages.early (serve host pid) fun _ => stages.ended := by
  apply passed.names.bind
  intro _
  apply passed.checks.bind
  intro _
  apply passed.starts.bind
  intro scopeObj
  apply (passed.watches scopeObj).bind
  intro _
  apply (passed.blocks scopeObj).bind
  intro cgroup
  apply (passed.hears scopeObj cgroup).bind
  intro limit
  apply (passed.limits scopeObj cgroup limit).bind
  intro _
  apply (passed.proceeds scopeObj cgroup limit).bind
  intro _
  apply (passed.awaits scopeObj).bind
  intro _
  exact passed.kills scopeObj

/-- A discipline is followed by the handler if it is on the parts of the main path, at the
labels and in the opening. -/
theorem Stages.Passed.handler_follows (passed : stages.Passed rules host pid) {initial : S}
    {ended : S → Prop} (opens : Opens rules initial stages.early ended)
    (labels : ∀ state exit, stages.leaves state exit →
      rules.Follows state (atLabel host (.error exit)) fun final _ => ended final)
    (ends : ∀ state, stages.ended state → ended state) :
    rules.Follows initial (clientHandlerAsync host pid) fun final _ => ended final := by
  apply Discipline.follows_bind.mpr
  apply opens.mono
  intro state rc opened
  split at opened
  · rw [if_pos ‹rc < 0›]
    exact opened
  rw [if_neg ‹¬rc < 0›]
  obtain ⟨registers, opened⟩ := opened
  refine ⟨registers, fun _ => ?_⟩
  obtain ⟨listens, opened⟩ := opened ()
  refine ⟨listens, fun _ => ?_⟩
  obtain ⟨counts, opened⟩ := opened ()
  refine ⟨counts, fun (taken : Bool) => ?_⟩
  have opened := opened taken
  cases taken with
  | false => exact opened
  | true =>
      obtain ⟨seats, early⟩ := opened
      refine ⟨seats, fun _ => ?_⟩
      apply (passed.serve_follows _ (early ())).bind
      intro final result reached
      cases result with
      | ok _ => exact ends final reached
      | error exit => exact labels final exit reached

/-- What the handler does before it serves its client. -/
def Opening : Effect → Prop
  | .initMsgStream | .closeFd | .regStreamInterrupt (some .ioErr) | .increaseNrTasks
  | .registerCleanup .destroyMsgStream | .registerCleanup .decreaseNrTasks => True
  | _ => False

/-- The opening under a discipline that takes no notice of it. -/
theorem opens_of_neutral {initial : S} {early ended : S → Prop}
    (neutral : ∀ effect, Opening effect →
      rules.may initial effect ∧ ∀ answer, rules.after initial effect answer = initial)
    (starts : early initial) (closes : ended initial)
    (rejects : rules.Follows initial reject fun final _ => ended final) :
    Opens rules initial early ended := by
  have opens : ∀ {effect : Effect} {α : Type} {next : Response effect → Prog α}
      {post : S → α → Prop}, Opening effect →
      (∀ answer, rules.Follows initial (next answer) post) →
      rules.Follows initial (.call effect next) post := by
    intro effect α next post is follows
    refine ⟨(neutral effect is).1, fun answer => ?_⟩
    rw [(neutral effect is).2 answer]
    exact follows answer
  refine opens trivial fun (rc : Int) => ?_
  change if rc < 0 then _ else _
  split
  · exact opens trivial fun _ => closes
  refine opens trivial fun _ => opens trivial fun _ => opens trivial fun (taken : Bool) => ?_
  cases taken with
  | false => exact rejects
  | true => exact opens trivial fun _ => starts

/-- `orLeave` turns a return code into a `goto`. -/
theorem triple_orLeave {α : Type} {fails : S → Int → Prop} {leaves : S → Exit → Prop}
    {before : S → Prop} {code : Fallible α} {after : α → S → Prop} {scopeObj : Option CString}
    (triple : rules.Triple fails before code after)
    (left : ∀ state rc, fails state rc → leaves state (leave scopeObj rc)) :
    rules.Triple leaves before (orLeave scopeObj code) after := by
  intro state holds
  apply (triple state holds).bind
  intro final result reached
  cases result with
  | ok value => exact reached
  | error rc => exact left final rc reached

/-- A discipline that takes no notice of calls into libraries. -/
def IgnoresLibrary (rules : Discipline Effect Response S) : Prop :=
  ∀ state, rules.may state .library ∧ ∀ answer, rules.after state .library answer = state

/-- A call into a library leaves the state alone or ends the function. -/
theorem triple_library {fails : S → Int → Prop} {before : S → Prop} (ignores : IgnoresLibrary rules)
    (failed : ∀ state rc, before state → fails state rc) :
    rules.Triple fails before (orFail library) fun _ => before := by
  apply (only_orFail (only_ask (rfl : Effect.library = .library))).triple
  · rintro state effect holds rfl
    refine ⟨(ignores state).1, fun answer => ?_⟩
    rw [(ignores state).2 answer]
    exact holds
  · exact failed

theorem triple_readString {fails : S → Int → Prop} {before : S → Prop}
    {after : CString → S → Prop} {reply : CString} (ignores : IgnoresLibrary rules)
    (failed : ∀ state rc, before state → fails state rc)
    (reads : ∀ state, before state → after reply state) :
    rules.Triple fails before (readString reply) after := by
  apply (triple_library ignores failed).bind
  intro _
  apply (triple_library ignores failed).bind
  intro _
  exact triple_pure reads

/-- A call on the bus goes on with the text of the reply, or ends the function. -/
theorem triple_sbBusCall {call : BusCall} {fails : S → Int → Prop} {before : S → Prop}
    {after : CString → S → Prop}
    (permits : ∀ state, before state → rules.may state (.busCall call))
    (failed : ∀ state reply rc, before state → fails (rules.after state (.busCall call) reply) rc)
    (answered : ∀ state text, before state →
      after text (rules.after state (.busCall call) (.value (.body text)))) :
    rules.Triple fails before (sbBusCall call) after := by
  intro state holds
  refine ⟨permits state holds, fun reply => ?_⟩
  rcases reply with _ | (rc | rc | text)
  case value.body => exact answered state text holds
  all_goals exact failed state _ _ holds

/-- The three answers that `get_Unit_cgroup_id` needs: the name of the unit, its
`ControlGroup`, and the id of that path. -/
theorem getUnitCgroupId_triple {unitObj : CString} {fails : S → Int → Prop} {before : S → Prop}
    {resolved : CgroupId → S → Prop} (placed : CString → S → Prop) (ignores : IgnoresLibrary rules)
    (unplaced : ∀ state rc, before state → fails state rc)
    (unresolved : ∀ path state rc, placed path state → fails state rc)
    (names : ∀ interface, rules.Triple fails before
      (sbBusCall (.property unitObj interface (ascii "Id"))) fun _ => before)
    (places : ∀ interface, rules.Triple fails before
      (sbBusCall (.property unitObj interface (ascii "ControlGroup"))) placed)
    (resolves : ∀ path, rules.Triple fails (placed path) (ExceptT.mk (cgPathGetCgroupid path))
      resolved) :
    rules.Triple fails before (getUnitCgroupId unitObj) resolved := by
  have identifies : rules.Triple fails before (sbSdUnitGetId unitObj) fun _ => before := by
    apply Triple.bind ((names _).bind fun _ => (triple_library ignores unplaced).bind fun _ =>
      triple_pure fun _ holds => holds)
    exact fun _ => triple_readString ignores unplaced fun _ holds => holds
  have locates : rules.Triple fails before (sbSdUnitGetSubprop unitObj (ascii "ControlGroup"))
      placed := by
    apply identifies.bind
    intro unitName
    cases kindOf unitName with
    | none => exact fun state holds => unplaced state _ holds
    | some kind =>
        exact (places _).bind fun path => (triple_library ignores (unresolved path)).bind fun _ =>
          triple_pure fun _ holds => holds
  have reads : rules.Triple fails before (sbUnitGetSubpropString unitObj (ascii "ControlGroup"))
      placed :=
    locates.bind fun path => triple_readString ignores (unresolved path) fun _ holds => holds
  exact reads.bind resolves

section Scope

variable {kind : Effect → Prop} {early : S → Prop} {fails : S → Int → Prop}
  (sent found : CString → S → Prop)

/-- The three answers that `start_transient_scope` needs: one to its request, which has the
client's process and some name, one about its job, and one to `GetUnit` for that name. -/
theorem startTransientScope_triple (ignores : IgnoresLibrary rules) (asking : Asking kind)
    (kept : ∀ state effect, early state → kind effect →
      rules.may state effect ∧ ∀ answer, early (rules.after state effect answer))
    (unsent : ∀ state rc, early state → fails state rc)
    (waiting : ∀ name state rc, sent name state → fails state rc)
    (reading : ∀ path state rc, found path state → fails state rc)
    (sends : ∀ request : ScopeRequest, request.pid = pid →
      rules.Triple fails early (sbBusCall (.startTransientUnit request)) fun _ => sent request.name)
    (waits : ∀ name jobObj,
      rules.Triple fails (sent name) (sbSdWaitForJob jobObj) fun _ => sent name)
    (finds : ∀ name, rules.Triple fails (sent name) (sbBusCallMethodv (.getUnit name)) found)
    (thisUnit : CString) :
    rules.Triple fails early (startTransientScope pid thisUnit) fun scope => found scope.2 := by
  apply ((asking.sbSdGetUnitByPID pid).triple kept unsent).bind
  intro unit
  apply ((asking.sbUnitGetSubpropString unit _).triple kept unsent).bind
  intro slice
  have chooses : Only kind (ExceptT.mk randomize).run := only_ask asking.randomize
  apply (chooses.triple kept unsent).bind
  intro random
  apply (triple_library ignores unsent).bind
  intro _
  apply (asking.sbSdInitWaitForJob.triple kept unsent).bind
  intro _
  apply (triple_library ignores unsent).bind
  intro _
  apply (sends _ rfl).bind
  intro jobObj
  apply (triple_library ignores (waiting _)).bind
  intro _
  apply (waits _ jobObj).bind
  intro _
  apply (finds _).bind
  intro reply
  apply (triple_readString ignores (reading reply) fun _ known => known).bind
  intro path
  exact triple_pure fun _ known => known

/-- The calls around `start_transient_scope`. -/
theorem startScope_triple {found : CString → S → Prop} {leaves : S → Exit → Prop}
    (starts : ∀ thisUnit,
      rules.Triple fails early (startTransientScope pid thisUnit) fun scope => found scope.2)
    (left : ∀ state rc, fails state rc → leaves state (leave none rc))
    (names : ∀ state, early state → rules.may state .thisUnitName ∧
      ∀ answer, early (rules.after state .thisUnitName answer))
    (frees : ∀ path state, found path state → rules.may state (.registerCleanup .free) ∧
      ∀ answer, found path (rules.after state (.registerCleanup .free) answer)) :
    rules.Triple leaves early (startScope pid) found := by
  have asks : rules.Triple leaves early (liftM thisUnitName : Body (Option CString))
      fun _ => early := triple_lift names
  have registers (path : CString) : rules.Triple leaves (found path)
      (liftM (registerCleanup .free) : Body Unit) fun _ => found path := triple_lift (frees path)
  apply asks.bind
  intro thisUnit
  apply (triple_orLeave (starts _) left).bind
  intro scope
  apply (registers scope.2).bind
  intro _
  apply (registers scope.2).bind
  intro _
  exact triple_pure fun _ known => known

end Scope

end Walk

end TrafficLimitd.Handler
