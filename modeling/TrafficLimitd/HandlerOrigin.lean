import TrafficLimitd.HandlerPath

set_option autoImplicit false

/- The recursion check and what it guards. The unit that `GetUnitByPID` answers is
looked up in the map, then `StartTransientUnit` is sent, then limits are set; the
rules say so for a handler whose questions are answered truthfully. -/
namespace TrafficLimitd.Handler

open Coroutine
open Limiter (CgroupId)

/-- What is true of units: the `ControlGroup` of each, and the id of its path. -/
structure Manager where
  controlGroup : CString → CString
  cgroupId : CString → CgroupId

namespace Manager

variable (manager : Manager)

def cgroup (unit : CString) : CgroupId := manager.cgroupId (manager.controlGroup unit)

/-- The answer to a question for a property is true. -/
def reports (unitObj member : CString) : Awaited BusReply → Bool
  | .value (.body text) => member != ascii "ControlGroup" || text == manager.controlGroup unitObj
  | _ => true

def resolves (path : CString) : Except Int CgroupId → Bool
  | .ok cgroup => cgroup == manager.cgroupId path
  | .error _ => true

end Manager

/-- What a run has done about the unit of its client: the last answer about it
before the check, whether the check was passed, whether `StartTransientUnit` was
sent, and whether some answer was not true. -/
structure Origin where
  located : Option CString
  passed : Bool
  sent : Bool
  misled : Bool
deriving DecidableEq

namespace Origin

def fresh : Origin := ⟨none, false, false, false⟩

def locate (origin : Origin) (about : Bool) : Awaited BusReply → Origin
  | .value (.body unit) =>
      if about && !origin.passed then { origin with located := some unit } else origin
  | _ => origin

def trust (origin : Origin) (honest : Bool) : Origin :=
  { origin with misled := origin.misled || !honest }

def check (origin : Origin) (rc : Int) : Origin :=
  { origin with passed := origin.passed || decide (rc ≤ 0) }

def send (origin : Origin) : Awaited BusReply → Origin
  | .value (.notSent _) => origin
  | _ => { origin with sent := true }

variable (manager : Manager) (pid : Pid)

def after (origin : Origin) : (effect : Effect) → Response effect → Origin
  | .busCall (.getUnitByPID about), reply => origin.locate (decide (about = pid)) reply
  | .busCall (.property unitObj _ member), reply =>
      origin.trust (manager.reports unitObj member reply)
  | .cgPathGetCgroupid path, answer => origin.trust (manager.resolves path answer)
  | .rateLimitCheck _, rc => origin.check rc
  | .busCall (.startTransientUnit _), reply => origin.send reply
  | _, _ => origin

def may (origin : Origin) : Effect → Prop
  | .rateLimitCheck cgroup => origin.passed = false ∧
      (origin.misled = true ∨ ∃ unit, origin.located = some unit ∧ cgroup = manager.cgroup unit)
  | .busCall (.startTransientUnit request) =>
      origin.passed = true ∧ origin.sent = false ∧ request.pid = pid
  | .rateLimitSet _ _ => origin.sent = true
  | _ => True

def rules : Discipline Effect Response Origin where
  may := may manager pid
  after := after manager pid

def of (history : List (Event Effect Response)) : Origin :=
  (rules manager pid).reached fresh history

/-- The calls of which the rules take no notice but for the answers. -/
def Neutral : Effect → Prop
  | .rateLimitCheck _ | .rateLimitSet _ _ | .busCall (.startTransientUnit _) => False
  | _ => True

theorem neutral_ordinary : Ordinary Neutral := .of_common fun effect common => by
  cases effect with
  | busCall call => cases call <;> first | exact trivial | exact common.elim
  | _ => first | exact trivial | exact common.elim

variable {manager pid}

/-- An answer about the client is noted, or nothing happens. -/
theorem locate_cases (origin : Origin) (about : Bool) (reply : Awaited BusReply) :
    origin.locate about reply = origin ∨ ∃ unit, about = true ∧ reply = .value (.body unit) ∧
      origin.locate about reply = { origin with located := some unit } := by
  unfold locate
  split
  · rename_i unit
    split
    · rename_i noted
      exact Or.inr ⟨unit, (Bool.and_eq_true_iff.mp noted).1, rfl, rfl⟩
    · exact Or.inl rfl
  · exact Or.inl rfl

theorem check_passed {origin : Origin} {rc : Int} (passed : (origin.check rc).passed = true) :
    origin.passed = true ∨ rc ≤ 0 :=
  (Bool.or_eq_true_iff.mp passed).imp_right of_decide_eq_true

/-- A request is sent, or nothing happens. -/
theorem send_cases (origin : Origin) (reply : Awaited BusReply) :
    origin.send reply = origin ∨ origin.send reply = { origin with sent := true } := by
  unfold send
  split
  · exact Or.inl rfl
  · exact Or.inr rfl

theorem neutral_same (origin : Origin) (effect : Effect) (neutral : Neutral effect) :
    may manager pid origin effect ∧ ∀ answer,
      (after manager pid origin effect answer).passed = origin.passed ∧
        (after manager pid origin effect answer).sent = origin.sent := by
  cases effect with
  | busCall call =>
      cases call with
      | getUnitByPID about =>
          refine ⟨trivial, fun reply => ?_⟩
          rcases origin.locate_cases (decide (about = pid)) reply with same | ⟨_, _, _, same⟩ <;>
            simp only [after, same, and_self]
      | startTransientUnit request => exact neutral.elim
      | _ => exact ⟨trivial, fun _ => ⟨rfl, rfl⟩⟩
  | rateLimitCheck cgroup => exact neutral.elim
  | rateLimitSet cgroup limit => exact neutral.elim
  | _ => exact ⟨trivial, fun _ => ⟨rfl, rfl⟩⟩

/-- How far a run has come. -/
structure At (passed sent : Bool) (origin : Origin) : Prop where
  passed : origin.passed = passed
  sent : origin.sent = sent

theorem at_kept {passed sent : Bool} (origin : Origin) (effect : Effect)
    (place : At passed sent origin) (neutral : Neutral effect) :
    (rules manager pid).may origin effect ∧
      ∀ answer, At passed sent ((rules manager pid).after origin effect answer) := by
  obtain ⟨may, same⟩ := neutral_same origin effect neutral
  exact ⟨may, fun answer =>
    ⟨(same answer).1.trans place.passed, (same answer).2.trans place.sent⟩⟩

theorem at_triple {ε α : Type} {passed sent : Bool} {code : ExceptT ε Prog α}
    (only : Only Neutral code.run) :
    (rules manager pid).Triple Anywhere (At passed sent) code fun _ => At passed sent :=
  only.triple at_kept fun _ _ _ => trivial

theorem neutral_follows {α : Type} {program : Prog α} (only : Only Neutral program)
    (origin : Origin) : (rules manager pid).Follows origin program fun _ _ => True :=
  only.follows (fun _ => True)
    (fun origin effect _ neutral => ⟨(neutral_same origin effect neutral).1, fun _ => trivial⟩)
    trivial

theorem ignoresLibrary : IgnoresLibrary (rules manager pid) := fun _ => ⟨trivial, fun _ => rfl⟩

/-- The handler asks about this unit. -/
structure Tracks (unit : CString) (origin : Origin) : Prop extends At false false origin where
  located : origin.located = some unit

theorem Tracks.trust {unit : CString} {origin : Origin} (tracks : Tracks unit origin)
    (honest : Bool) : Tracks unit (origin.trust honest) :=
  ⟨⟨tracks.passed, tracks.sent⟩, tracks.located⟩

theorem sbSdGetUnitByPID_triple :
    (rules manager pid).Triple Anywhere (At false false) (sbSdGetUnitByPID pid) Tracks := by
  have asks : (rules manager pid).Triple Anywhere (At false false) (sbBusCall (.getUnitByPID pid))
      Tracks := by
    apply triple_sbBusCall (fun _ _ => trivial) (fun _ _ _ _ => trivial)
    intro origin unit place
    change Tracks unit (origin.locate (decide (pid = pid)) (.value (.body unit)))
    simp only [locate, decide_true, place.passed, Bool.not_false, Bool.and_self, ↓reduceIte]
    exact ⟨⟨rfl, place.sent⟩, rfl⟩
  exact asks.bind fun unit =>
    triple_readString ignoresLibrary (fun _ _ _ => trivial) fun _ tracks => tracks

/-- An answer about a unit is true, unless the handler was misled. -/
def Told {α : Type} (truth : α) (unit : CString) (value : α) (final : Origin) : Prop :=
  Tracks unit final ∧ (final.misled = true ∨ value = truth)

/-- Who believes an answer that is not true is misled. -/
theorem Tracks.told {α : Type} {unit : CString} {origin : Origin} (tracks : Tracks unit origin)
    {honest : Bool} {value truth : α} (honestly : honest = true → value = truth) :
    Told truth unit value (origin.trust honest) := by
  refine ⟨tracks.trust honest, ?_⟩
  cases honest with
  | true => exact .inr (honestly rfl)
  | false => exact .inl (Bool.or_true _)

theorem property_triple (unit interface member : CString) :
    (rules manager pid).Triple Anywhere (Tracks unit)
      (sbBusCall (.property unit interface member)) fun _ => Tracks unit := by
  apply triple_sbBusCall (fun _ _ => trivial) (fun _ _ _ _ => trivial)
  intro origin text tracks
  exact tracks.trust _

theorem controlGroup_triple (unit interface : CString) :
    (rules manager pid).Triple Anywhere (Tracks unit)
      (sbBusCall (.property unit interface (ascii "ControlGroup")))
      (Told (manager.controlGroup unit) unit) := by
  apply triple_sbBusCall (fun _ _ => trivial) (fun _ _ _ _ => trivial)
  intro origin text tracks
  apply tracks.told
  intro honest
  simpa [Manager.reports] using honest

theorem cgPathGetCgroupid_triple (unit path : CString) :
    (rules manager pid).Triple Anywhere (Told (manager.controlGroup unit) unit path)
      (ExceptT.mk (cgPathGetCgroupid path)) (Told (manager.cgroup unit) unit) := by
  rintro origin ⟨tracks, told⟩
  refine ⟨trivial, fun (answer : Except Int CgroupId) => ?_⟩
  cases answer with
  | error rc => exact trivial
  | ok cgroup =>
      rcases told with misled | rfl
      · exact ⟨tracks.trust _, .inl (Bool.or_eq_true_iff.mpr (.inl misled))⟩
      · exact tracks.told eq_of_beq

/-- Who passes the check has its unit looked up. -/
theorem checkOrigin_triple :
    (rules manager pid).Triple Anywhere (At false false) (checkOrigin pid) fun _ =>
      At true false := by
  apply (triple_orLeave sbSdGetUnitByPID_triple fun _ _ _ => trivial).bind
  intro unit
  have registers : (rules manager pid).Triple Anywhere (Tracks unit)
      (liftM (registerCleanup .free) : Body Unit) fun _ => Tracks unit :=
    Discipline.triple_lift fun _ tracks => ⟨trivial, fun _ => tracks⟩
  apply registers.bind
  intro _
  have resolves : (rules manager pid).Triple Anywhere (Tracks unit) (getUnitCgroupId unit)
      (Told (manager.cgroup unit) unit) :=
    getUnitCgroupId_triple (Told (manager.controlGroup unit) unit) ignoresLibrary
      (fun _ _ _ => trivial) (fun _ _ _ _ => trivial)
      (fun interface => property_triple unit interface _) (controlGroup_triple unit)
      (cgPathGetCgroupid_triple unit)
  apply (triple_orLeave resolves fun _ _ _ => trivial).bind
  rintro cgroup origin ⟨tracks, told⟩
  refine follows_ask.mpr ⟨⟨tracks.passed, ?_⟩, fun (rc : Int) => ?_⟩
  · exact told.imp id fun same => ⟨unit, tracks.located, same⟩
  · change (rules manager pid).Follows (origin.check rc) (if 0 < rc then _ else _) _
    split
    · apply Discipline.follows_lift_bind.mpr
      exact (neutral_follows (neutral_ordinary.writeRateLimitLog _) _).mono fun _ _ _ => trivial
    · rename_i passes
      refine ⟨Bool.or_eq_true_iff.mpr (Or.inr (decide_eq_true (Int.not_lt.mp passes))), ?_⟩
      exact tracks.sent

theorem sendRequest_triple (request : ScopeRequest) (own : request.pid = pid) :
    (rules manager pid).Triple Anywhere (At true false) (sbBusCall (.startTransientUnit request))
      fun _ => At true true := by
  apply triple_sbBusCall _ (fun _ _ _ _ => trivial)
  · intro origin text place
    exact ⟨place.passed, rfl⟩
  · intro origin place
    exact ⟨place.passed, place.sent, own⟩

theorem startTransientScope_passes (thisUnit : CString) :
    (rules manager pid).Triple Anywhere (At true false) (startTransientScope pid thisUnit) fun _ =>
      At true true := by
  apply startTransientScope_triple (fun _ => At true true) (fun _ => At true true) ignoresLibrary
    neutral_ordinary.toAsking at_kept
  · exact fun _ _ _ => trivial
  · exact fun _ _ _ _ => trivial
  · exact fun _ _ _ _ => trivial
  · exact sendRequest_triple
  · exact fun _ jobObj => at_triple (only_sbSdWaitForJob trivial)
  · exact fun _ => at_triple (only_sbBusCall trivial)

theorem startScope_passes :
    (rules manager pid).Triple Anywhere (At true false) (startScope pid) fun _ =>
      At true true := by
  apply startScope_triple startTransientScope_passes
  · exact fun _ _ _ => trivial
  · exact fun origin place => at_kept origin .thisUnitName place trivial
  · exact fun _ origin place => at_kept origin (.registerCleanup .free) place trivial

/-- What the handler does once the request is sent. -/
def Later : Effect → Prop
  | .rateLimitCheck _ | .busCall (.startTransientUnit _) => False
  | _ => True

theorem later_ordinary : Ordinary Later := .of_common fun effect common => by
  cases effect with
  | busCall call => cases call <;> first | exact trivial | exact common.elim
  | _ => first | exact trivial | exact common.elim

theorem later_kept (origin : Origin) (effect : Effect) (place : At true true origin)
    (later : Later effect) :
    (rules manager pid).may origin effect ∧
      ∀ answer, At true true ((rules manager pid).after origin effect answer) := by
  cases effect with
  | rateLimitCheck cgroup => exact later.elim
  | rateLimitSet cgroup limit => exact ⟨place.sent, fun _ => place⟩
  | busCall call =>
      cases call with
      | startTransientUnit request => exact later.elim
      | _ => exact at_kept origin _ place trivial
  | _ => exact at_kept origin _ place trivial

theorem later_triple {α : Type} {code : Body α} (only : Only Later code.run) :
    (rules manager pid).Triple Anywhere (At true true) code fun _ => At true true :=
  only.triple later_kept fun _ _ _ => trivial

def stages : Stages Origin where
  early := At false false
  checked := At true false
  started _ := At true true
  launched _ := At true true
  ended := At true true

theorem stages_passed (host : Host) : stages.Passed (rules manager pid) host pid where
  names := at_triple (neutral_ordinary.nameThisUnit host)
  checks := checkOrigin_triple
  starts := startScope_passes
  watches _ := later_triple (only_watchProcess pid trivial trivial trivial)
  blocks scopeObj := later_triple (later_ordinary.blockTraffic scopeObj (fun _ _ => trivial)
    fun _ => trivial)
  hears scopeObj _ := later_triple (only_readRequest scopeObj trivial)
  limits _ cgroup limit := later_triple (only_setLimit cgroup limit trivial trivial)
  proceeds _ _ limit := later_triple (later_ordinary.proceed limit trivial).except_lift
  awaits scopeObj := later_triple (only_awaitExit scopeObj trivial)
  kills _ := later_triple (only_killScope trivial).except_lift

/-- The handler keeps to the rules. -/
theorem clientHandlerAsync_follows (manager : Manager) (host : Host) (pid : Pid) :
    (rules manager pid).Follows fresh (clientHandlerAsync host pid) fun _ _ => True := by
  apply (stages_passed host).handler_follows
  · apply opens_of_neutral _ ⟨rfl, rfl⟩ trivial (neutral_follows neutral_ordinary.reject fresh)
    intro effect opening
    cases effect <;> first | exact ⟨trivial, fun _ => rfl⟩ | exact opening.elim
  · intro origin exit _
    exact neutral_follows (neutral_ordinary.atLabel host _ (fun _ => trivial) trivial
      fun _ => trivial) origin
  · exact fun _ _ => trivial

end Origin

end TrafficLimitd.Handler
