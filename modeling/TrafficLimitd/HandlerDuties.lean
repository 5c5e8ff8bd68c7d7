import TrafficLimitd.HandlerLedger
import TrafficLimitd.HandlerPath

set_option autoImplicit false

/- The handler keeps to the rules of the ledger on every path through its labels,
and leaves with all its debts registered. -/
namespace TrafficLimitd.Handler.Ledger

open Coroutine
open Limiter (CgroupId)

/-- The calls that the rules do not speak of. -/
def Quiet : Effect → Prop
  | .increaseNrTasks | .registerCleanup .decreaseNrTasks | .registerCleanup (.clearRateLimit _)
  | .rateLimitSet _ _ | .busCall (.getUnit _) | .busCall (.kill _) | .streamIo .read _ _ => False
  | .streamIo .write buf _ => isProceed buf = false
  | _ => True

theorem quiet_ordinary : Ordinary Quiet where
  toAsking := .of_questions fun effect question => by
    cases effect with
    | busCall call => cases call <;> first | exact trivial | exact question.elim
    | _ => first | exact trivial | exact question.elim
  log text := isProceed_header _ _ text nofun
  fail _ := isProceed_header _ _ _ nofun
  empty := (by decide : isProceed [] = false)
  drain := trivial
  tail := trivial

/-- What such calls leave alone. -/
structure Keeps (ledger next : Ledger) : Prop where
  counted : next.counted = ledger.counted
  installed : next.installed = ledger.installed
  request : next.request = ledger.request
  proceeded : next.proceeded = ledger.proceeded
  killed : next.killed = ledger.killed
  scopeObj : next.scopeObj = ledger.scopeObj
  seat : .decreaseNrTasks ∈ next.registered ↔ .decreaseNrTasks ∈ ledger.registered
  guard : ∀ cgroup,
    .clearRateLimit cgroup ∈ next.registered ↔ .clearRateLimit cgroup ∈ ledger.registered
  cgroup : ∀ id, ledger.cgroup = some id → next.cgroup = some id
  unplaced : ledger.scopeObj = none → next.cgroupPath = ledger.cgroupPath
  unresolved : ledger.cgroupPath = none → next.cgroup = ledger.cgroup

theorem Keeps.refl (ledger : Ledger) : Keeps ledger ledger :=
  ⟨rfl, rfl, rfl, rfl, rfl, rfl, Iff.rfl, fun _ => Iff.rfl, fun _ same => same, fun _ => rfl,
    fun _ => rfl⟩

theorem keeps_place (ledger : Ledger) (unitObj member : CString) (reply : Awaited BusReply) :
    Keeps ledger (ledger.place unitObj member reply) := by
  unfold place
  split
  · split
    · rename_i found
      refine ⟨rfl, rfl, rfl, rfl, rfl, rfl, Iff.rfl, fun _ => Iff.rfl, fun _ same => same, ?_,
        fun _ => rfl⟩
      intro missing
      rw [missing] at found
      cases found.1
    · exact Keeps.refl ledger
  · exact Keeps.refl ledger

theorem keeps_resolve (ledger : Ledger) (path : CString) (answer : Except Int CgroupId) :
    Keeps ledger (ledger.resolve path answer) := by
  unfold resolve
  split
  · split
    · rename_i placed
      refine ⟨rfl, rfl, rfl, rfl, rfl, rfl, Iff.rfl, fun _ => Iff.rfl, ?_, fun _ => rfl, ?_⟩
      · intro id same
        rw [same, Option.some_or]
      · intro missing
        rw [missing] at placed
        cases placed
    · exact Keeps.refl ledger
  · exact Keeps.refl ledger

theorem keeps_register (ledger : Ledger) (cleanup : Cleanup)
    (quiet : Quiet (.registerCleanup cleanup)) :
    Keeps ledger { ledger with registered := cleanup :: ledger.registered } := by
  refine ⟨rfl, rfl, rfl, rfl, rfl, rfl, ?_, fun cgroup => ?_, fun _ same => same, fun _ => rfl,
    fun _ => rfl⟩
  · cases cleanup <;> first | exact quiet.elim | simp
  · cases cleanup <;> first | exact quiet.elim | simp

theorem after_quiet (ledger : Ledger) (effect : Effect) (quiet : Quiet effect) :
    ledger.may effect ∧ ∀ answer, Keeps ledger (ledger.after effect answer) := by
  cases effect with
  | busCall call =>
      cases call with
      | property unitObj interface member => exact ⟨trivial, keeps_place ledger unitObj member⟩
      | getUnit name => exact quiet.elim
      | kill path => exact quiet.elim
      | _ => exact ⟨trivial, fun _ => Keeps.refl ledger⟩
  | cgPathGetCgroupid path => exact ⟨trivial, keeps_resolve ledger path⟩
  | registerCleanup cleanup =>
      refine ⟨?_, fun _ => keeps_register ledger cleanup quiet⟩
      cases cleanup <;> first | exact quiet.elim | exact trivial
  | streamIo direction buf usec =>
      cases direction with
      | read => exact quiet.elim
      | write =>
          have other : isProceed buf = false := quiet
          refine ⟨fun proceeds => ?_, fun _ => ?_⟩
          · rw [other] at proceeds
            cases proceeds
          · simp only [after, other, Bool.or_false]
            exact Keeps.refl ledger
  | increaseNrTasks => exact quiet.elim
  | rateLimitSet cgroup limit => exact quiet.elim
  | _ => exact ⟨trivial, fun _ => Keeps.refl ledger⟩

theorem quiet_kept (inv : Ledger → Prop)
    (stable : ∀ ledger next, Keeps ledger next → inv ledger → inv next) (ledger : Ledger)
    (effect : Effect) (holds : inv ledger) (quiet : Quiet effect) :
    rules.may ledger effect ∧ ∀ answer, inv (rules.after ledger effect answer) := by
  obtain ⟨may, keeps⟩ := after_quiet ledger effect quiet
  exact ⟨may, fun answer => stable ledger _ (keeps answer) holds⟩

/-- Every debt has its cleanup. -/
def Tidy (ledger : Ledger) : Prop :=
  (ledger.counted = true → .decreaseNrTasks ∈ ledger.registered) ∧
    ∀ cgroup limit, ledger.installed = some (cgroup, limit) →
      .clearRateLimit cgroup ∈ ledger.registered

/-- What holds at a `goto`: a client that was told to proceed has a scope that
the code at the label knows. -/
def Leaves (ledger : Ledger) (exit : Exit) : Prop :=
  ledger.Tidy ∧ (ledger.proceeded = true →
    ∃ scopeObj, exit.scope = some scopeObj ∧ ledger.scopeObj = some scopeObj)

/-- What holds at the end: a client that was told to proceed has been killed. -/
def Closed (ledger : Ledger) : Prop :=
  ledger.Tidy ∧ (ledger.proceeded = true → ledger.killed = true)

theorem Keeps.tidy {ledger next : Ledger} (keeps : Keeps ledger next) (tidy : ledger.Tidy) :
    next.Tidy := by
  refine ⟨?_, fun cgroup limit => ?_⟩
  · rw [keeps.counted, keeps.seat]
    exact tidy.1
  · rw [keeps.installed, keeps.guard]
    exact tidy.2 cgroup limit

/-- Counted, with nothing in the map yet. -/
structure Seated (ledger : Ledger) : Prop where
  seat : .decreaseNrTasks ∈ ledger.registered
  unlimited : ledger.installed = none
  unguarded : ∀ cgroup, .clearRateLimit cgroup ∉ ledger.registered
  waiting : ledger.proceeded = false

theorem Seated.leaves {ledger : Ledger} (seated : Seated ledger) (exit : Exit) :
    ledger.Leaves exit := by
  refine ⟨⟨fun _ => seated.seat, fun cgroup limit installed => ?_⟩, fun went => ?_⟩
  · rw [seated.unlimited] at installed
    cases installed
  · rw [seated.waiting] at went
    cases went

theorem Seated.keeps {ledger next : Ledger} (keeps : Keeps ledger next) (seated : Seated ledger) :
    Seated next where
  seat := keeps.seat.mpr seated.seat
  unlimited := keeps.installed.trans seated.unlimited
  unguarded cgroup registered := seated.unguarded cgroup ((keeps.guard cgroup).mp registered)
  waiting := keeps.proceeded.trans seated.waiting

/-- Before the scope. -/
def Early (ledger : Ledger) : Prop :=
  Seated ledger ∧ ledger.scopeObj = none ∧ ledger.cgroupPath = none ∧ ledger.cgroup = none

theorem early_kept (ledger : Ledger) (effect : Effect) (early : Early ledger)
    (quiet : Quiet effect) :
    rules.may ledger effect ∧ ∀ answer, Early (rules.after ledger effect answer) := by
  refine quiet_kept Early ?_ ledger effect early quiet
  rintro ledger next keeps ⟨seated, missing, unplaced, unresolved⟩
  exact ⟨seated.keeps keeps, keeps.scopeObj.trans missing,
    (keeps.unplaced missing).trans unplaced, (keeps.unresolved unplaced).trans unresolved⟩

/-- The scope is known, its cgroup is not. -/
def Scoped (scopeObj : CString) (ledger : Ledger) : Prop :=
  Seated ledger ∧ ledger.scopeObj = some scopeObj ∧ ledger.cgroupPath = none ∧
    ledger.cgroup = none

/-- The cgroup of the scope is known. -/
def Resolved (scopeObj : CString) (cgroup : CgroupId) (ledger : Ledger) : Prop :=
  Seated ledger ∧ ledger.scopeObj = some scopeObj ∧ ledger.cgroup = some cgroup

theorem early_triple {code : Body Unit} (only : Only Quiet code.run) :
    rules.Triple Leaves Early code fun _ => Early :=
  only.triple early_kept fun _ exit early => early.1.leaves exit

theorem ignoresLibrary : IgnoresLibrary rules := fun _ => ⟨trivial, fun _ => rfl⟩

/-- What holds when a function fails before the first limit. -/
def Unlimited (ledger : Ledger) (_ : Int) : Prop := Seated ledger

theorem getUnit_triple (name : CString) :
    rules.Triple Unlimited Early (sbBusCall (.getUnit name)) Scoped := by
  have seated (ledger : Ledger) (early : Early ledger) (reply : Awaited BusReply) :
      Seated (ledger.find reply) := by
    have seated : Seated ledger := early.1
    rcases reply with _ | (rc | rc | path)
    case value.body => exact ⟨seated.seat, seated.unlimited, seated.unguarded, seated.waiting⟩
    all_goals exact seated
  apply triple_sbBusCall (fun _ _ => trivial)
  · exact fun ledger reply rc early => seated ledger early reply
  · intro ledger path early
    refine ⟨seated ledger early (.value (.body path)), ?_, early.2.2⟩
    change ledger.scopeObj.or (some path) = some path
    rw [early.2.1, Option.none_or]

theorem startTransientScope_passes (pid : Pid) (thisUnit : CString) :
    rules.Triple Unlimited Early (startTransientScope pid thisUnit) fun scope =>
      Scoped scope.2 := by
  have unlimited (ledger : Ledger) (rc : Int) (early : Early ledger) : Unlimited ledger rc :=
    early.1
  apply startTransientScope_triple (fun _ => Early) Scoped ignoresLibrary quiet_ordinary.toAsking
    early_kept unlimited
  · exact fun _ => unlimited
  · exact fun _ _ _ known => known.1
  · exact fun _ _ => (only_sbBusCall trivial).triple early_kept unlimited
  · exact fun _ _ => (only_sbSdWaitForJob trivial).triple early_kept unlimited
  · exact getUnit_triple

theorem Scoped.register {scopeObj : CString} {ledger : Ledger} (known : Scoped scopeObj ledger)
    (cleanup : Cleanup) (quiet : Quiet (.registerCleanup cleanup)) :
    Scoped scopeObj { ledger with registered := cleanup :: ledger.registered } :=
  ⟨known.1.keeps (keeps_register ledger cleanup quiet), known.2⟩

theorem startScope_passes (pid : Pid) : rules.Triple Leaves Early (startScope pid) Scoped := by
  apply startScope_triple (startTransientScope_passes pid)
  · exact fun _ rc seated => Seated.leaves seated _
  · exact fun ledger early => early_kept ledger .thisUnitName early trivial
  · exact fun _ _ known => ⟨trivial, fun _ => known.register .free trivial⟩

theorem watchProcess_triple (scopeObj : CString) (pid : Pid) :
    rules.Triple Leaves (Scoped scopeObj) (watchProcess pid) fun _ => Scoped scopeObj := by
  intro ledger known
  refine follows_ask.mpr ⟨trivial, fun (rc : Int) => ?_⟩
  split
  · exact known.1.leaves _
  · refine follows_ask.mpr ⟨trivial, fun _ => ⟨trivial, fun _ => ?_⟩⟩
    exact known.register .destroyPidfdEvent trivial

theorem place_other (ledger : Ledger) (unitObj : CString) {member : CString}
    (other : member ≠ ascii "ControlGroup") (reply : Awaited BusReply) :
    ledger.place unitObj member reply = ledger := by
  unfold place
  split
  · rw [if_neg (fun both => other both.2)]
  · rfl

/-- The path of the scope's cgroup is known. -/
def Placed (scopeObj path : CString) (ledger : Ledger) : Prop :=
  Seated ledger ∧ ledger.scopeObj = some scopeObj ∧ ledger.cgroupPath = some path ∧
    ledger.cgroup = none

theorem unitName_triple (scopeObj interface : CString) :
    rules.Triple Unlimited (Scoped scopeObj)
      (sbBusCall (.property scopeObj interface (ascii "Id"))) fun _ => Scoped scopeObj := by
  have other : ascii "Id" ≠ ascii "ControlGroup" := by decide +kernel
  have asks : Only (· = .busCall (.property scopeObj interface (ascii "Id")))
      (sbBusCall (.property scopeObj interface (ascii "Id"))).run := only_sbBusCall rfl
  apply asks.triple
  · rintro ledger _ known rfl
    refine ⟨trivial, fun reply => ?_⟩
    have same : rules.after ledger _ reply = ledger := place_other ledger scopeObj other reply
    rw [same]
    exact known
  · exact fun _ _ known => known.1

theorem controlGroup_triple (scopeObj interface : CString) :
    rules.Triple Unlimited (Scoped scopeObj)
      (sbBusCall (.property scopeObj interface (ascii "ControlGroup"))) (Placed scopeObj) := by
  apply triple_sbBusCall (fun _ _ => trivial)
  · intro ledger reply rc known
    exact known.1.keeps (keeps_place ledger scopeObj _ reply)
  · rintro ledger path ⟨seated, found, unplaced, unresolved⟩
    have keeps := keeps_place ledger scopeObj (ascii "ControlGroup") (.value (.body path))
    refine ⟨seated.keeps keeps, keeps.scopeObj.trans found, ?_,
      (keeps.unresolved unplaced).trans unresolved⟩
    change (ledger.place scopeObj (ascii "ControlGroup") (.value (.body path))).cgroupPath =
      some path
    simp only [place, found, and_self, ↓reduceIte, unplaced, Option.none_or]

theorem cgPathGetCgroupid_triple (scopeObj path : CString) :
    rules.Triple Unlimited (Placed scopeObj path) (ExceptT.mk (cgPathGetCgroupid path))
      (Resolved scopeObj) := by
  rintro ledger ⟨seated, found, placed, unresolved⟩
  refine ⟨trivial, fun answer => ?_⟩
  have keeps := keeps_resolve ledger path answer
  cases answer with
  | error rc => exact seated
  | ok cgroup =>
      refine ⟨seated.keeps keeps, keeps.scopeObj.trans found, ?_⟩
      change (ledger.resolve path (.ok cgroup)).cgroup = some cgroup
      simp only [resolve, placed, ↓reduceIte, unresolved, Option.none_or]

/-- The id that `get_Unit_cgroup_id` finds is that of the scope's cgroup. -/
theorem getUnitCgroupId_passes (scopeObj : CString) :
    rules.Triple Unlimited (Scoped scopeObj) (getUnitCgroupId scopeObj) (Resolved scopeObj) := by
  apply getUnitCgroupId_triple (Placed scopeObj) ignoresLibrary
  · exact fun _ _ known => known.1
  · exact fun _ _ _ placed => placed.1
  · exact unitName_triple scopeObj
  · exact controlGroup_triple scopeObj
  · exact cgPathGetCgroupid_triple scopeObj

/-- The cgroup of the scope has this limit, which will be cleared. -/
structure Guarded (scopeObj : CString) (cgroup : CgroupId) (limit : RateLimit)
    (ledger : Ledger) : Prop where
  seat : .decreaseNrTasks ∈ ledger.registered
  guards : ledger.Guards cgroup limit
  found : ledger.scopeObj = some scopeObj
  resolved : ledger.cgroup = some cgroup
  waiting : ledger.proceeded = false

theorem Guards.tidy {ledger : Ledger} {cgroup : CgroupId} {limit : RateLimit}
    (guards : ledger.Guards cgroup limit) (seat : .decreaseNrTasks ∈ ledger.registered) :
    ledger.Tidy := by
  refine ⟨fun _ => seat, fun other new installed => ?_⟩
  rw [guards.1] at installed
  cases installed
  exact guards.2

theorem Guarded.leaves {scopeObj : CString} {cgroup : CgroupId} {limit : RateLimit}
    {ledger : Ledger} (guarded : Guarded scopeObj cgroup limit ledger) (exit : Exit) :
    ledger.Leaves exit := by
  refine ⟨guarded.guards.tidy guarded.seat, fun went => ?_⟩
  rw [guarded.waiting] at went
  cases went

theorem Guarded.keeps {scopeObj : CString} {cgroup : CgroupId} {limit : RateLimit}
    {ledger next : Ledger} (keeps : Keeps ledger next)
    (guarded : Guarded scopeObj cgroup limit ledger) : Guarded scopeObj cgroup limit next where
  seat := keeps.seat.mpr guarded.seat
  guards := ⟨keeps.installed.trans guarded.guards.1, (keeps.guard cgroup).mpr guarded.guards.2⟩
  found := keeps.scopeObj.trans guarded.found
  resolved := keeps.cgroup cgroup guarded.resolved
  waiting := keeps.proceeded.trans guarded.waiting

theorem install_ok (ledger : Ledger) (cgroup : CgroupId) (limit : RateLimit) {rc : Int}
    (done : ¬ rc < 0) :
    ledger.install cgroup limit rc = { ledger with installed := some (cgroup, limit) } :=
  if_neg done

theorem install_failed (ledger : Ledger) (cgroup : CgroupId) (limit : RateLimit) {rc : Int}
    (failed : rc < 0) : ledger.install cgroup limit rc = ledger :=
  if_pos failed

theorem blockTraffic_triple (scopeObj : CString) :
    rules.Triple Leaves (Scoped scopeObj) (blockTraffic scopeObj) fun cgroup =>
      Guarded scopeObj cgroup ⟨0, 0⟩ := by
  apply (triple_orLeave (getUnitCgroupId_passes scopeObj)
    fun _ _ seated => Seated.leaves seated _).bind
  rintro cgroup ledger ⟨seated, found, resolved⟩
  refine follows_ask.mpr
    ⟨⟨resolved, seated.seat, seated.waiting, Or.inl seated.unlimited⟩, fun (rc : Int) => ?_⟩
  change rules.Follows (ledger.install cgroup ⟨0, 0⟩ rc) _ _
  split
  · rename_i failed
    rw [install_failed ledger cgroup _ failed]
    exact seated.leaves _
  · rename_i done
    rw [install_ok ledger cgroup _ done]
    refine follows_ask.mpr ⟨⟨⟨_, rfl⟩, seated.seat, seated.unguarded⟩, fun _ => ?_⟩
    exact ⟨List.mem_cons_of_mem _ seated.seat, ⟨rfl, List.mem_cons_self⟩, found, resolved,
      seated.waiting⟩

/-- The cgroup of the scope has a limit, and the client has asked for one. -/
def Requested (scopeObj : CString) (cgroup : CgroupId) (limit request : RateLimit)
    (ledger : Ledger) : Prop :=
  Guarded scopeObj cgroup limit ledger ∧ ledger.request = some request

theorem readRequest_triple (scopeObj : CString) (cgroup : CgroupId) (limit : RateLimit) :
    rules.Triple Leaves (Guarded scopeObj cgroup limit) (readRequest scopeObj)
      (Requested scopeObj cgroup limit) := by
  intro ledger guarded
  refine ⟨guarded.waiting, fun answer => ?_⟩
  have stays : Guarded scopeObj cgroup limit (ledger.read answer) := by
    cases answer with
    | cancelled => exact guarded
    | value result =>
        exact ⟨guarded.seat, guarded.guards, guarded.found, guarded.resolved, guarded.waiting⟩
  change Discipline.Onward _ _ (ledger.read answer) (decodeRequest scopeObj answer)
  rcases decodeRequest_cases scopeObj answer with
    ⟨rc, clientError, same⟩ | ⟨rc, same⟩ | ⟨rc, buf, rfl, same⟩
  · exact same ▸ stays.leaves _
  · exact same ▸ stays.leaves _
  · exact same ▸ ⟨stays, rfl⟩

theorem setLimit_triple (scopeObj : CString) (cgroup : CgroupId) (old limit : RateLimit) :
    rules.Triple Leaves (Requested scopeObj cgroup old limit) (setLimit cgroup limit) fun _ =>
      Requested scopeObj cgroup limit limit := by
  rintro ledger ⟨guarded, requested⟩
  refine follows_ask.mpr ⟨trivial, fun _ => follows_ask.mpr
    ⟨⟨guarded.resolved, guarded.seat, guarded.waiting, Or.inr guarded.guards.2⟩,
      fun (rc : Int) => ?_⟩⟩
  change rules.Follows (ledger.install cgroup limit rc) _ _
  split
  · rename_i failed
    rw [install_failed ledger cgroup _ failed]
    exact guarded.leaves _
  · rename_i done
    rw [install_ok ledger cgroup _ done]
    exact ⟨⟨guarded.seat, ⟨rfl, guarded.guards.2⟩, guarded.found, guarded.resolved,
      guarded.waiting⟩, requested⟩

/-- The client may have been told to proceed. -/
def Launched (scopeObj : CString) (ledger : Ledger) : Prop :=
  ledger.Tidy ∧ ledger.scopeObj = some scopeObj

theorem launched_kept (scopeObj : CString) (ledger : Ledger) (effect : Effect)
    (launched : Launched scopeObj ledger) (quiet : Quiet effect) :
    rules.may ledger effect ∧ ∀ answer, Launched scopeObj (rules.after ledger effect answer) :=
  quiet_kept (Launched scopeObj)
    (fun _ _ keeps holds => ⟨keeps.tidy holds.1, keeps.scopeObj.trans holds.2⟩)
    ledger effect launched quiet

theorem proceed_follows {scopeObj : CString} {cgroup : CgroupId} {limit : RateLimit}
    {ledger : Ledger} (requested : Requested scopeObj cgroup limit limit ledger) :
    rules.Follows ledger (proceed limit) fun final _ => Launched scopeObj final := by
  have kept := quiet_kept (Requested scopeObj cgroup limit limit) fun _ _ keeps holds =>
    ⟨holds.1.keeps keeps, keeps.request.trans holds.2⟩
  apply ((quiet_ordinary.writeRateLimitLog _).follows _ kept requested).bind
  rintro ledger _ ⟨guarded, requested⟩
  refine ⟨fun _ => ⟨cgroup, limit, guarded.resolved, requested, guarded.guards⟩, fun _ => ?_⟩
  refine ((quiet_ordinary.shutdownMsgStream).follows (Launched scopeObj)
    (launched_kept scopeObj) ?_).bind fun _ _ launched => launched
  exact ⟨guarded.guards.tidy guarded.seat, guarded.found⟩

theorem awaitExit_triple (scopeObj : CString) :
    rules.Triple Leaves (Launched scopeObj) (awaitExit scopeObj) fun _ => Launched scopeObj := by
  intro ledger launched
  refine follows_ask.mpr ⟨trivial, fun answer => ?_⟩
  rcases answer with _ | _
  · exact ⟨launched.1, fun _ => ⟨scopeObj, rfl, launched.2⟩⟩
  · exact launched

theorem killScope_follows {scopeObj : CString} {ledger : Ledger} (tidy : ledger.Tidy)
    (known : ledger.proceeded = true → ledger.scopeObj = some scopeObj) :
    rules.Follows ledger (killScope scopeObj) fun final _ => final.Closed := by
  refine ⟨trivial, fun reply => ?_⟩
  have closed : Closed (ledger.after (.busCall (.kill scopeObj)) reply) := by
    refine ⟨tidy, fun went => ?_⟩
    simp only [after, known went, decide_true, Bool.or_true]
  rcases reply with _ | (rc | rc | text) <;> exact closed

def stages : Stages Ledger where
  early := Early
  started := Scoped
  blocked scopeObj cgroup := Guarded scopeObj cgroup ⟨0, 0⟩
  heard scopeObj cgroup limit := Requested scopeObj cgroup ⟨0, 0⟩ limit
  limited scopeObj cgroup limit := Requested scopeObj cgroup limit limit
  launched := Launched
  ended := Closed
  leaves := Leaves

theorem stages_passed (host : Host) (pid : Pid) : stages.Passed rules host pid where
  names := early_triple (quiet_ordinary.nameThisUnit host)
  checks := early_triple (quiet_ordinary.checkOrigin quiet_ordinary.toWriting pid trivial
    fun _ => trivial)
  starts := startScope_passes pid
  watches scopeObj := watchProcess_triple scopeObj pid
  blocks := blockTraffic_triple
  hears scopeObj cgroup := readRequest_triple scopeObj cgroup ⟨0, 0⟩
  limits scopeObj cgroup limit := setLimit_triple scopeObj cgroup ⟨0, 0⟩ limit
  proceeds _ _ _ := Discipline.triple_lift fun _ => proceed_follows
  awaits := awaitExit_triple
  kills _ := Discipline.triple_lift fun _ launched =>
    killScope_follows launched.1 fun _ => launched.2

theorem killKnown_follows {ledger : Ledger} {exit : Exit} (leaves : ledger.Leaves exit) :
    rules.Follows ledger (killKnown exit.scope) fun final _ => final.Closed := by
  obtain ⟨tidy, launched⟩ := leaves
  cases scope : exit.scope with
  | none =>
      refine ⟨tidy, fun went => ?_⟩
      obtain ⟨scopeObj, same, _⟩ := launched went
      rw [scope] at same
      cases same
  | some scopeObj =>
      refine killScope_follows tidy fun went => ?_
      obtain ⟨other, same, found⟩ := launched went
      rw [scope] at same
      cases same
      exact found

theorem leaves_kept (exit : Exit) (ledger : Ledger) (effect : Effect)
    (leaves : ledger.Leaves exit) (quiet : Quiet effect) :
    rules.may ledger effect ∧ ∀ answer, (rules.after ledger effect answer).Leaves exit := by
  refine quiet_kept (fun ledger => ledger.Leaves exit) ?_ ledger effect leaves quiet
  rintro ledger next keeps ⟨tidy, launched⟩
  refine ⟨keeps.tidy tidy, ?_⟩
  rw [keeps.proceeded, keeps.scopeObj]
  exact launched

theorem atLabel_follows {ledger : Ledger} (host : Host) {exit : Exit}
    (leaves : ledger.Leaves exit) :
    rules.Follows ledger (atLabel host (.error exit)) fun final _ => final.Closed := by
  cases exit with
  | errCloseStream rc clientError =>
      apply ((quiet_ordinary.errCloseStream host rc clientError).follows _
        (leaves_kept _) leaves).mono
      rintro final _ ⟨tidy, launched⟩
      refine ⟨tidy, fun went => ?_⟩
      obtain ⟨scopeObj, same, _⟩ := launched went
      cases same
  | interrupt scopeObj stream =>
      refine ⟨trivial, fun _ => ⟨trivial, fun reason => ?_⟩⟩
      apply ((quiet_ordinary.tellExit reason stream).follows _ (leaves_kept _) leaves).bind
      exact fun final _ leaves => killKnown_follows leaves

/-- Uncounted, without debts. -/
def Free (ledger : Ledger) : Prop :=
  ledger.counted = false ∧ ledger.installed = none ∧ ledger.proceeded = false

theorem Free.closed {ledger : Ledger} (free : Free ledger) : ledger.Closed := by
  obtain ⟨uncounted, unlimited, waiting⟩ := free
  refine ⟨⟨fun counted => ?_, fun cgroup limit installed => ?_⟩, fun went => ?_⟩
  · rw [uncounted] at counted
    cases counted
  · rw [unlimited] at installed
    cases installed
  · rw [waiting] at went
    cases went

theorem opens : Opens rules blank Early Closed := by
  have closed : blank.Closed := Free.closed ⟨rfl, rfl, rfl⟩
  refine ⟨trivial, fun (rc : Int) => ?_⟩
  change if rc < 0 then _ else _
  split
  · exact ⟨trivial, fun _ => closed⟩
  refine ⟨trivial, fun _ => ⟨trivial, fun _ => ⟨rfl, fun (taken : Bool) => ?_⟩⟩⟩
  cases taken with
  | false =>
      apply (quiet_ordinary.reject.follows Free _ ⟨rfl, rfl, rfl⟩).mono
      · exact fun _ _ free => free.closed
      apply quiet_kept Free
      rintro ledger next keeps ⟨uncounted, unlimited, waiting⟩
      exact ⟨keeps.counted.trans uncounted, keeps.installed.trans unlimited,
        keeps.proceeded.trans waiting⟩
  | true =>
      have uncounted : Cleanup.decreaseNrTasks ∉ [Cleanup.destroyMsgStream] := by decide
      have unguarded : ∀ cgroup, Cleanup.clearRateLimit cgroup ∉
          [Cleanup.decreaseNrTasks, Cleanup.destroyMsgStream] := by simp
      refine ⟨⟨rfl, uncounted⟩, fun _ => ?_⟩
      exact ⟨⟨List.mem_cons_self, rfl, unguarded, rfl⟩, rfl, rfl, rfl⟩

/-- Whatever its calls are answered, the handler keeps to the rules and ends
with every debt registered. -/
theorem clientHandlerAsync_follows (host : Host) (pid : Pid) :
    rules.Follows blank (clientHandlerAsync host pid) fun final _ => final.Closed := by
  apply (stages_passed host pid).handler_follows opens
  · intro ledger exit leaves
    exact atLabel_follows host leaves
  · exact fun _ closed => closed

end TrafficLimitd.Handler.Ledger
