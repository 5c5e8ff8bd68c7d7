import TrafficLimitd.HandlerPath

set_option autoImplicit false

/- How the handler heeds an interrupt. A wait that is cancelled makes it leave its
main path, and off that path it does not wait for the process. The exception are
the writes that let the client proceed: their return codes are ignored. -/
namespace TrafficLimitd.Handler

open Coroutine

/-- How far a run has come: the number of limits that it has set with success, and
whether a wait was cancelled other than one of those writes. -/
structure Course where
  limits : Nat
  cut : Bool
deriving DecidableEq

namespace Course

def fresh : Course := ⟨0, false⟩

/-- The writes that come after the second limit. -/
def launching (course : Course) (effect : Effect) : Bool :=
  decide (2 ≤ course.limits) && effect.isStreamIo

def install (course : Course) (rc : Int) : Course :=
  if rc < 0 then course else { course with limits := course.limits + 1 }

def after (course : Course) : (effect : Effect) → Response effect → Course
  | .rateLimitSet _ _, rc => course.install rc
  | effect, answer =>
      { course with
        cut := course.cut ||
          (decide (outcome effect answer = some true) && !course.launching effect) }

/-- A run that was cut does not wait for the process; and the process is watched
before there is a limit. -/
def may (course : Course) : Effect → Prop
  | .waitForExit => course.cut = false
  | .initPidfdEvent _ => course.limits = 0
  | _ => True

def rules : Discipline Effect Response Course where
  may := may
  after := after

def of (history : List (Event Effect Response)) : Course := rules.reached fresh history

theorem after_eq (course : Course) {effect : Effect}
    (other : ∀ cgroup limit, effect ≠ .rateLimitSet cgroup limit) (answer : Response effect) :
    course.after effect answer =
      { course with
        cut := course.cut ||
          (decide (outcome effect answer = some true) && !course.launching effect) } := by
  cases effect with
  | rateLimitSet cgroup limit => exact absurd rfl (other cgroup limit)
  | _ => rfl

theorem limits_le_after (course : Course) (effect : Effect) (answer : Response effect) :
    course.limits ≤ (course.after effect answer).limits := by
  cases effect with
  | rateLimitSet cgroup limit =>
      simp only [after, install]
      split
      · exact Nat.le_refl _
      · exact Nat.le_succ _
  | _ => exact Nat.le_refl _

/-- A run that was cut stays so. -/
theorem cut_after {course : Course} (cut : course.cut = true) (effect : Effect)
    (answer : Response effect) : (course.after effect answer).cut = true := by
  cases effect with
  | rateLimitSet cgroup limit =>
      simp only [after, install]
      split <;> exact cut
  | _ => exact Bool.or_eq_true_iff.mpr (Or.inl cut)

/-- The calls off the main path. -/
def Safe : Effect → Prop
  | .waitForExit | .initPidfdEvent _ => False
  | _ => True

theorem safe_ordinary : Ordinary Safe := .of_common fun effect common => by
  cases effect <;> first | exact trivial | exact common.elim

theorem safe_follows {α : Type} {program : Prog α} (safe : Only Safe program) (course : Course) :
    rules.Follows course program fun _ _ => True := by
  refine safe.follows (fun _ => True) (fun _ effect _ is => ⟨?_, fun _ => trivial⟩) trivial
  cases effect <;> first | exact trivial | exact is.elim

/-- The calls that neither wait nor set a limit. -/
def Plain : Effect → Prop
  | .rateLimitSet _ _ | .initPidfdEvent _ => False
  | effect => effect.waits = false

theorem plain_kept (course : Course) (effect : Effect) (plain : Plain effect) :
    may course effect ∧ ∀ answer, course.after effect answer = course := by
  have uncut : course.cut = (course.cut || false) := (Bool.or_false _).symm
  cases effect <;>
    first
    | exact ⟨trivial, fun _ => congrArg (Course.mk course.limits) uncut.symm⟩
    | exact plain.elim
    | cases plain

/-- Code that comes before the second limit, sets none, and leaves when one of its
waits is cancelled. -/
def Prompt {ε α : Type} (code : ExceptT ε Prog α) : Prop :=
  ∀ limits < 2, rules.Triple Anywhere (· = ⟨limits, false⟩) code fun _ => (· = ⟨limits, false⟩)

variable {ε α β : Type}

theorem Prompt.bind {code : ExceptT ε Prog α} {continuation : α → ExceptT ε Prog β}
    (first : Prompt code) (second : ∀ value, Prompt (continuation value)) :
    Prompt (code >>= continuation) := fun limits early =>
  (first limits early).bind fun value => second value limits early

theorem prompt_of_plain {code : ExceptT ε Prog α} (plain : Only Plain code.run) : Prompt code :=
  fun _ _ => plain.triple_same plain_kept fun _ => trivial

theorem prompt_orInterrupted {call : Prog (Awaited α)}
    (waits : ∀ limits < 2, rules.Follows ⟨limits, false⟩ call fun final answer =>
      answer.isCancelled = false → final = ⟨limits, false⟩) :
    Prompt (orInterrupted call) := by
  rintro limits early _ rfl
  apply (waits limits early).bind
  intro final answer heeds
  cases answer with
  | cancelled => exact trivial
  | value result => exact heeds rfl

theorem prompt_sbBusCall (call : BusCall) : Prompt (sbBusCall call) := by
  have waits : Prompt (orInterrupted (busCall call)) := by
    refine prompt_orInterrupted fun limits _ => ⟨trivial, fun answer going => ?_⟩
    cases answer with
    | cancelled => cases going
    | value reply => rfl
  refine waits.bind fun reply => ?_
  cases reply <;> exact prompt_of_plain trivial

theorem plain_library : Only Plain library := only_ask rfl

theorem prompt_readString (reply : CString) : Prompt (readString reply) :=
  prompt_of_plain ((only_orFail plain_library).except_bind fun _ =>
    (only_orFail plain_library).except_bind fun _ => trivial)

theorem prompt_sbBusGetProperty (path interface member : CString) :
    Prompt (sbBusGetProperty path interface member) :=
  (prompt_sbBusCall _).bind fun _ =>
    prompt_of_plain ((only_orFail plain_library).except_bind fun _ => trivial)

theorem prompt_sbSdUnitGetId (unitObj : CString) : Prompt (sbSdUnitGetId unitObj) :=
  (prompt_sbBusGetProperty _ _ _).bind prompt_readString

theorem prompt_sbUnitGetSubpropString (unitObj member : CString) :
    Prompt (sbUnitGetSubpropString unitObj member) := by
  have subprop : Prompt (sbSdUnitGetSubprop unitObj member) := by
    refine (prompt_sbSdUnitGetId unitObj).bind fun unitName => ?_
    cases kindOf unitName with
    | none => exact prompt_of_plain trivial
    | some kind => exact prompt_sbBusGetProperty _ _ _
  exact subprop.bind prompt_readString

theorem prompt_sbSdGetUnitByPID (pid : Pid) : Prompt (sbSdGetUnitByPID pid) :=
  (prompt_sbBusCall _).bind prompt_readString

theorem prompt_sbSdInitWaitForJob : Prompt sbSdInitWaitForJob := by
  have waits : Prompt (orInterrupted matchJobRemoved) := by
    refine prompt_orInterrupted fun limits _ => ⟨trivial, fun answer going => ?_⟩
    cases answer with
    | cancelled => cases going
    | value rc => rfl
  have disconnected : Prompt (orFail matchDisconnected) :=
    prompt_of_plain (only_orFail (only_ask rfl))
  refine waits.bind fun rc => ?_
  split
  · exact Prompt.bind (prompt_of_plain trivial) fun _ => disconnected
  · exact disconnected

theorem prompt_sbSdWaitForJob (jobObj : CString) : Prompt (sbSdWaitForJob jobObj) := by
  have waits : Prompt (orInterrupted (waitForJob jobObj)) := by
    refine prompt_orInterrupted fun limits _ => ⟨trivial, fun answer going => ?_⟩
    cases answer with
    | cancelled => cases going
    | value rc => rfl
  refine waits.bind fun rc => ?_
  split <;> exact prompt_of_plain trivial

theorem prompt_startTransientScope (pid : Pid) (thisUnit : CString) :
    Prompt (startTransientScope pid thisUnit) := by
  have builds : Prompt (orFail library) := prompt_of_plain (only_orFail plain_library)
  have chooses : Prompt (ExceptT.mk randomize) := prompt_of_plain (only_ask rfl)
  refine (prompt_sbSdGetUnitByPID pid).bind fun unit => ?_
  refine (prompt_sbUnitGetSubpropString unit _).bind fun slice => ?_
  refine chooses.bind fun random => builds.bind fun _ => ?_
  refine prompt_sbSdInitWaitForJob.bind fun _ => builds.bind fun _ => ?_
  refine (prompt_sbBusCall _).bind fun jobObj => builds.bind fun _ => ?_
  refine (prompt_sbSdWaitForJob jobObj).bind fun _ => (prompt_sbBusCall _).bind fun reply => ?_
  exact (prompt_readString reply).bind fun _ => prompt_of_plain trivial

theorem prompt_orLeave {code : Fallible α} (scopeObj : Option CString) (prompt : Prompt code) :
    Prompt (orLeave scopeObj code) := fun limits early =>
  triple_orLeave (prompt limits early) fun _ _ _ => trivial

theorem prompt_getUnitCgroupId (scopeObj : Option CString) (unitObj : CString) :
    Prompt (orLeave scopeObj (getUnitCgroupId unitObj)) :=
  prompt_orLeave scopeObj ((prompt_sbUnitGetSubpropString unitObj _).bind fun _ =>
    prompt_of_plain (only_ask rfl))

theorem prompt_ask {effect : Effect} (plain : Plain effect) :
    Prompt (liftM (ask effect) : Body (Response effect)) :=
  prompt_of_plain (only_ask plain).except_lift

theorem prompt_registers (cleanup : Cleanup) :
    Prompt (liftM (registerCleanup cleanup) : Body Unit) := prompt_ask rfl

theorem prompt_nameThisUnit (host : Host) : Prompt (nameThisUnit host) := by
  have asks : Prompt (liftM thisUnitName : Body (Option CString)) := prompt_ask rfl
  refine asks.bind fun known => ?_
  split
  · have names : Prompt (getSelfUnitName host.selfPid) :=
      (prompt_sbSdGetUnitByPID _).bind prompt_sbSdUnitGetId
    refine (prompt_orLeave none names).bind fun name => asks.bind fun known => ?_
    split
    · exact prompt_ask rfl
    · exact prompt_of_plain trivial
  · exact prompt_of_plain trivial

/-- The message to a client that is limited already is written off the main path:
the handler leaves whatever its return code is. -/
theorem prompt_checkOrigin (pid : Pid) : Prompt (checkOrigin pid) := by
  refine (prompt_orLeave none (prompt_sbSdGetUnitByPID pid)).bind fun origUnit => ?_
  refine (prompt_registers .free).bind fun _ => ?_
  refine (prompt_getUnitCgroupId none origUnit).bind fun cgroup => ?_
  have checks : Prompt (liftM (rateLimitCheck cgroup) : Body Int) := prompt_ask rfl
  apply checks.bind
  rintro rc limits _ _ rfl
  split
  · apply Discipline.follows_lift_bind.mpr
    exact (safe_follows (safe_ordinary.writeRateLimitLog _) _).mono fun _ _ _ => trivial
  · exact rfl

theorem prompt_startScope (pid : Pid) : Prompt (startScope pid) := by
  have asks : Prompt (liftM thisUnitName : Body (Option CString)) := prompt_ask rfl
  refine asks.bind fun thisUnit => ?_
  refine (prompt_orLeave none (prompt_startTransientScope pid _)).bind fun scope => ?_
  exact (prompt_registers .free).bind fun _ => (prompt_registers .free).bind fun _ =>
    prompt_of_plain trivial

theorem watchProcess_triple (pid : Pid) :
    rules.Triple Anywhere (· = fresh) (watchProcess pid) fun _ => (· = fresh) := by
  rintro _ rfl
  refine follows_ask.mpr ⟨rfl, fun (rc : Int) => ?_⟩
  change rules.Follows fresh _ _
  split
  · exact trivial
  · exact ⟨trivial, fun _ => ⟨trivial, fun _ => rfl⟩⟩

theorem blockTraffic_triple (scopeObj : CString) :
    rules.Triple Anywhere (· = fresh) (blockTraffic scopeObj) fun _ => (· = ⟨1, false⟩) := by
  apply (prompt_getUnitCgroupId (some scopeObj) scopeObj 0 Nat.two_pos).bind
  rintro cgroup _ rfl
  refine follows_ask.mpr ⟨trivial, fun (rc : Int) => ?_⟩
  change rules.Follows (if rc < 0 then _ else _) (if rc < 0 then _ else _) _
  split
  · exact trivial
  · exact ⟨trivial, fun _ => rfl⟩

theorem readRequest_triple (scopeObj : CString) :
    rules.Triple Anywhere (· = ⟨1, false⟩) (readRequest scopeObj) fun _ => (· = ⟨1, false⟩) := by
  rintro _ rfl
  refine ⟨trivial, fun (answer : Awaited (Int × List UInt8)) => ?_⟩
  cases answer with
  | cancelled => exact trivial
  | value result =>
      change Discipline.Onward _ _ (⟨1, false⟩ : Course) (decodeRequest scopeObj (.value result))
      cases decodeRequest scopeObj (.value result) with
      | ok limit => rfl
      | error exit => exact trivial

theorem setLimit_triple (cgroup : Limiter.CgroupId) (limit : RateLimit) :
    rules.Triple Anywhere (· = ⟨1, false⟩) (setLimit cgroup limit) fun _ => (· = ⟨2, false⟩) := by
  rintro _ rfl
  refine follows_ask.mpr ⟨trivial, fun _ => follows_ask.mpr ⟨trivial, fun (rc : Int) => ?_⟩⟩
  change rules.Follows (if rc < 0 then _ else _) (if rc < 0 then _ else _) _
  split
  · exact trivial
  · rfl

/-- What the handler does to let its client proceed. -/
def Launches (effect : Effect) : Prop := Plain effect ∨ effect.isStreamIo = true

theorem launches_telling : Telling Launches where
  library := Or.inl rfl
  log _ := Or.inr rfl
  fail _ := Or.inr rfl
  empty := Or.inr rfl
  drain := Or.inl rfl
  tail := Or.inl rfl

/-- Not even a cancelled write cuts the run short. -/
theorem launches_kept (course : Course) (effect : Effect) (launched : course = ⟨2, false⟩)
    (launches : Launches effect) :
    rules.may course effect ∧ ∀ answer, rules.after course effect answer = ⟨2, false⟩ := by
  subst launched
  rcases launches with plain | writes
  · exact plain_kept _ effect plain
  · cases effect with
    | streamIo direction buf usec =>
        refine ⟨trivial, fun answer => ?_⟩
        change Course.mk 2 (false || (_ && false)) = _
        rw [Bool.and_false, Bool.or_false]
    | _ => cases writes

theorem proceed_follows (limit : RateLimit) :
    rules.Follows ⟨2, false⟩ (proceed limit) fun final _ => final = ⟨2, false⟩ := by
  have launches : Only Launches (proceed limit) := launches_telling.proceed limit (Or.inr rfl)
  exact launches.follows (fun final : Course => final = ⟨2, false⟩) launches_kept rfl

theorem awaitExit_triple (scopeObj : CString) :
    rules.Triple Anywhere (· = ⟨2, false⟩) (awaitExit scopeObj) fun _ => (· = ⟨2, false⟩) := by
  rintro _ rfl
  refine follows_ask.mpr ⟨rfl, fun (answer : Awaited Unit) => ?_⟩
  cases answer with
  | cancelled => exact trivial
  | value _ => exact rfl

def stages : Stages Course where
  early := (· = fresh)
  blocked _ _ := (· = ⟨1, false⟩)
  limited _ _ _ := (· = ⟨2, false⟩)
  launched _ := (· = ⟨2, false⟩)

theorem stages_passed (host : Host) (pid : Pid) : stages.Passed rules host pid where
  names := prompt_nameThisUnit host 0 Nat.two_pos
  checks := prompt_checkOrigin pid 0 Nat.two_pos
  starts := prompt_startScope pid 0 Nat.two_pos
  watches _ := watchProcess_triple pid
  blocks scopeObj := blockTraffic_triple scopeObj
  hears scopeObj _ := readRequest_triple scopeObj
  limits _ cgroup limit := setLimit_triple cgroup limit
  proceeds _ _ limit := Discipline.triple_lift fun _ same => same ▸ proceed_follows limit
  awaits scopeObj := awaitExit_triple scopeObj
  kills _ := Discipline.triple_lift fun course _ => safe_follows (only_killScope trivial) course

/-- No run of the handler that was cut short waits for the process. -/
theorem clientHandlerAsync_follows (host : Host) (pid : Pid) :
    rules.Follows fresh (clientHandlerAsync host pid) fun _ _ => True := by
  apply (stages_passed host pid).handler_follows
  · apply opens_of_neutral _ rfl trivial (safe_follows safe_ordinary.reject fresh)
    intro effect opening
    cases effect <;> first | exact ⟨trivial, fun _ => rfl⟩ | exact opening.elim
  · intro course exit _
    exact safe_follows (safe_ordinary.atLabel host _ (fun _ => trivial) trivial
      fun _ => trivial) course
  · exact fun _ _ => trivial

end Course

end TrafficLimitd.Handler
