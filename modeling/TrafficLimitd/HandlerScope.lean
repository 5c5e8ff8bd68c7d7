import TrafficLimitd.HandlerPath

set_option autoImplicit false

/- The transient scope of a connection. The scope exists once systemd has the
request; the handler knows its object path only when `start_transient_scope`
returns, three waits later, and the interrupt label kills only what it knows. -/
namespace TrafficLimitd.Handler

open Coroutine

/-- What a run of the handler has done about its scope. `name` is the name in a
`StartTransientUnit` that was sent, `scopeObj` the answer to `GetUnit` for it.
`starting` says that the last wait, up to the interrupt label, was for one of
the three answers that `start_transient_scope` needs after the request. `killed`
says that `Kill` was called for the scope, also if systemd refused it or it could
not be sent. -/
structure ScopeTrail where
  name : Option CString
  scopeObj : Option CString
  starting : Bool
  interrupted : Bool
  killed : Bool
deriving DecidableEq

namespace ScopeTrail

def fresh : ScopeTrail :=
  { name := none, scopeObj := none, starting := false, interrupted := false, killed := false }

/-- The last wait is remembered up to the interrupt label. -/
def waits (trail : ScopeTrail) (starting : Bool) : ScopeTrail :=
  { trail with starting := if trail.interrupted then trail.starting else starting }

def sent (trail : ScopeTrail) (name : CString) : Awaited BusReply → ScopeTrail
  | .value (.notSent _) => trail
  | _ => { trail with name := some name }

def found (trail : ScopeTrail) (name : CString) : Awaited BusReply → ScopeTrail
  | .value (.body path) =>
      if trail.name = some name then { trail with scopeObj := some path } else trail
  | _ => trail

def kill (trail : ScopeTrail) (path : CString) : ScopeTrail :=
  { trail with killed := trail.killed || decide (trail.scopeObj = some path) }

theorem kill_killed {trail : ScopeTrail} {path : CString} (found : trail.scopeObj = some path) :
    (trail.kill path).killed = true := by
  simp only [kill, found, decide_true, Bool.or_true]

def after (trail : ScopeTrail) : (effect : Effect) → Response effect → ScopeTrail
  | .busCall (.startTransientUnit request), reply => (trail.sent request.name reply).waits true
  | .waitForJob _, _ => trail.waits true
  | .busCall (.getUnit name), reply => (trail.found name reply).waits true
  | .busCall (.kill path), _ => (trail.kill path).waits false
  | .busCall _, _ | .streamIo _ _ _, _ | .matchJobRemoved, _ | .waitForExit, _ =>
      trail.waits false
  | .setInterruptDisabled disabled, _ => { trail with interrupted := trail.interrupted || disabled }
  | _, _ => trail

/-- Nothing is forbidden; the trail is only kept. -/
def rules : Discipline Effect Response ScopeTrail where
  may _ _ := True
  after := after

def of (history : List (Event Effect Response)) : ScopeTrail := rules.reached fresh history

end ScopeTrail

open ScopeTrail

/-- The calls that do not concern the scope. -/
def Aside : Effect → Prop
  | .busCall (.startTransientUnit _) | .waitForJob _ | .busCall (.getUnit _)
  | .busCall (.kill _) | .setInterruptDisabled _ => False
  | _ => True

theorem aside_ordinary : Ordinary Aside := .of_common fun effect common => by
  cases effect with
  | busCall call => cases call <;> first | exact trivial | exact common.elim
  | _ => first | exact trivial | exact common.elim

/-- They change nothing but the last wait. -/
theorem after_aside (trail : ScopeTrail) (effect : Effect) (aside : Aside effect)
    (answer : Response effect) :
    trail.after effect answer = trail ∨ trail.after effect answer = trail.waits false := by
  cases effect with
  | busCall call => cases call <;> first | exact aside.elim | exact Or.inr rfl
  | _ => first | exact Or.inl rfl | exact Or.inr rfl | exact aside.elim

/-- No request has been sent. -/
def Unsent (trail : ScopeTrail) : Prop :=
  trail.name = none ∧ trail.interrupted = false ∧ trail.killed = false

/-- The handler knows the object path of its scope. -/
def Known (scopeObj : CString) (trail : ScopeTrail) : Prop :=
  trail.scopeObj = some scopeObj ∧ trail.interrupted = false

/-- The same after a wait that is not one of `start_transient_scope`. -/
def Settled (scopeObj : CString) (trail : ScopeTrail) : Prop :=
  Known scopeObj trail ∧ trail.starting = false

theorem Known.waits {scopeObj : CString} {trail : ScopeTrail} (known : Known scopeObj trail) :
    Settled scopeObj (trail.waits false) := by
  refine ⟨known, ?_⟩
  simp only [ScopeTrail.waits, known.2, Bool.false_eq_true, ↓reduceIte]

/-- An invariant that does not depend on the last wait is kept by calls that do
not concern the scope. -/
theorem aside_kept (inv : ScopeTrail → Prop)
    (stable : ∀ trail, inv trail → inv (trail.waits false)) (trail : ScopeTrail)
    (effect : Effect) (holds : inv trail) (aside : Aside effect) :
    rules.may trail effect ∧ ∀ answer, inv (rules.after trail effect answer) := by
  refine ⟨trivial, fun answer => ?_⟩
  change inv (trail.after effect answer)
  rcases after_aside trail effect aside answer with same | same
  · rw [same]
    exact holds
  · rw [same]
    exact stable trail holds

theorem unsent_kept (trail : ScopeTrail) (effect : Effect) (unsent : Unsent trail)
    (aside : Aside effect) :
    rules.may trail effect ∧ ∀ answer, Unsent (rules.after trail effect answer) :=
  aside_kept _ (fun _ holds => holds) trail effect unsent aside

theorem known_kept (scopeObj : CString) (trail : ScopeTrail) (effect : Effect)
    (known : Known scopeObj trail) (aside : Aside effect) :
    rules.may trail effect ∧ ∀ answer, Known scopeObj (rules.after trail effect answer) :=
  aside_kept _ (fun _ holds => holds.waits.1) trail effect known aside

theorem settled_kept (scopeObj : CString) (trail : ScopeTrail) (effect : Effect)
    (settled : Settled scopeObj trail) (aside : Aside effect) :
    rules.may trail effect ∧ ∀ answer, Settled scopeObj (rules.after trail effect answer) :=
  aside_kept _ (fun _ holds => holds.1.waits) trail effect settled aside

/-- How the handler may leave for one of the labels: a path that it takes along
is that of its scope, and without one a request that was sent is still being
answered. -/
def LeavesWith (trail : ScopeTrail) : Option CString → Prop
  | none => trail.killed = false ∧ (trail.name.isSome → trail.starting = true)
  | some scopeObj => trail.scopeObj = some scopeObj ∧ trail.starting = false

theorem Unsent.leaves {trail : ScopeTrail} (unsent : Unsent trail) : LeavesWith trail none := by
  refine ⟨unsent.2.2, fun sent => ?_⟩
  rw [unsent.1] at sent
  cases sent

theorem Settled.leaves {scopeObj : CString} {trail : ScopeTrail}
    (settled : Settled scopeObj trail) : LeavesWith trail (some scopeObj) :=
  ⟨settled.1.1, settled.2⟩

/-- The request has been sent and is being answered. -/
def Starting (name : CString) (trail : ScopeTrail) : Prop :=
  trail.name = some name ∧ trail.starting = true ∧ trail.interrupted = false ∧
    trail.killed = false

theorem Starting.leaves {name : CString} {trail : ScopeTrail} (starting : Starting name trail) :
    LeavesWith trail none :=
  ⟨starting.2.2.2, fun _ => starting.2.1⟩

/-- What holds when `start_transient_scope` fails. -/
def Unfinished (trail : ScopeTrail) (_ : Int) : Prop :=
  trail.interrupted = false ∧ LeavesWith trail none

theorem Unsent.unfinished {trail : ScopeTrail} (unsent : Unsent trail) (rc : Int) :
    Unfinished trail rc :=
  ⟨unsent.2.1, unsent.leaves⟩

theorem Starting.unfinished {name : CString} {trail : ScopeTrail} (starting : Starting name trail)
    (rc : Int) : Unfinished trail rc :=
  ⟨starting.2.2.1, starting.leaves⟩

theorem ScopeTrail.ignoresLibrary : IgnoresLibrary rules := fun _ => ⟨trivial, fun _ => rfl⟩

theorem sendRequest_triple (request : ScopeRequest) :
    rules.Triple Unfinished Unsent (sbBusCall (.startTransientUnit request)) fun _ =>
      Starting request.name := by
  have starting (trail : ScopeTrail) (unsent : Unsent trail) :
      Starting request.name ({ trail with name := some request.name }.waits true) := by
    refine ⟨rfl, ?_, unsent.2.1, unsent.2.2⟩
    simp only [ScopeTrail.waits, unsent.2.1, Bool.false_eq_true, ↓reduceIte]
  apply triple_sbBusCall (fun _ _ => trivial)
  · intro trail reply rc unsent
    rcases reply with _ | (rc | rc | text)
    case value.notSent =>
      have still : Unsent (trail.waits true) := unsent
      exact still.unfinished _
    all_goals exact (starting trail unsent).unfinished _
  · intro trail text unsent
    exact starting trail unsent

theorem Starting.waits {name : CString} {trail : ScopeTrail} (starting : Starting name trail) :
    Starting name (trail.waits true) := by
  refine ⟨starting.1, ?_, starting.2.2.1, starting.2.2.2⟩
  simp only [ScopeTrail.waits, starting.2.2.1, Bool.false_eq_true, ↓reduceIte]

theorem sbSdWaitForJob_triple (name jobObj : CString) :
    rules.Triple Unfinished (Starting name) (sbSdWaitForJob jobObj) fun _ => Starting name := by
  intro trail starting
  refine ⟨trivial, fun answer => ?_⟩
  have waited : Starting name (trail.waits true) := starting.waits
  cases answer with
  | cancelled => exact waited.unfinished (-Errno.eintr)
  | value rc =>
      change rules.Follows (trail.waits true)
        (if rc < 0 then throw rc else pure () : Fallible Unit).run _
      split
      · exact waited.unfinished rc
      · exact waited

/-- The scope has answered, and the last wait was for that answer. -/
def Found (path : CString) (trail : ScopeTrail) : Prop :=
  Known path trail ∧ ∃ name, Starting name trail

theorem getUnit_triple (name : CString) :
    rules.Triple Unfinished (Starting name) (sbBusCall (.getUnit name)) Found := by
  have answers (trail : ScopeTrail) (path : CString) (starting : Starting name trail) :
      Found path ((trail.found name (.value (.body path))).waits true) := by
    have found : trail.found name (.value (.body path)) = { trail with scopeObj := some path } := by
      simp only [ScopeTrail.found, starting.1, ↓reduceIte]
    rw [found]
    exact ⟨⟨rfl, starting.2.2.1⟩, name, Starting.waits starting⟩
  apply triple_sbBusCall (fun _ _ => trivial)
  · intro trail reply rc starting
    rcases reply with _ | (rc | rc | path)
    case value.body =>
      obtain ⟨_, _, answered⟩ := answers trail path starting
      exact answered.unfinished _
    all_goals exact starting.waits.unfinished _
  · exact answers

/-- After the request, an error return means that one of the three answers did
not come. -/
theorem startTransientScope_passes (pid : Pid) (thisUnit : CString) :
    rules.Triple Unfinished Unsent (startTransientScope pid thisUnit) fun scope =>
      Found scope.2 := by
  apply startTransientScope_triple Starting Found ScopeTrail.ignoresLibrary
    aside_ordinary.toAsking unsent_kept
  · exact fun _ rc unsent => unsent.unfinished rc
  · exact fun _ _ rc starting => starting.unfinished rc
  · exact fun _ _ rc found => found.2.elim fun _ starting => starting.unfinished rc
  · exact fun request _ => sendRequest_triple request
  · exact sbSdWaitForJob_triple
  · exact getUnit_triple

/-- What holds when a part of the main path ends with a `goto`. -/
def Leaves (trail : ScopeTrail) : Exit → Prop
  | .errCloseStream _ _ => trail.interrupted = false
  | .interrupt scopeObj _ => trail.interrupted = false ∧ LeavesWith trail scopeObj

theorem leaves_leave {trail : ScopeTrail} {scopeObj : Option CString}
    (running : trail.interrupted = false) (leaves : LeavesWith trail scopeObj) (rc : Int) :
    Leaves trail (leave scopeObj rc) := by
  unfold leave
  split
  · exact ⟨running, leaves⟩
  · exact running

theorem Settled.leaves_leave {scopeObj : CString} {trail : ScopeTrail}
    (settled : Settled scopeObj trail) (rc : Int) : Leaves trail (leave (some scopeObj) rc) :=
  Handler.leaves_leave settled.1.2 settled.leaves rc

theorem Unsent.leaves_unscoped {trail : ScopeTrail} (unsent : Unsent trail) {exit : Exit}
    (unscoped : exit.Unscoped) : Leaves trail exit := by
  cases exit with
  | errCloseStream rc clientError => exact unsent.2.1
  | interrupt scopeObj stream =>
      cases unscoped
      exact ⟨unsent.2.1, unsent.leaves⟩

/-- Up to the request nothing concerns a scope. -/
theorem unsent_triple {code : Body Unit} (only : Only Aside code.run)
    (fails : Fails Exit.Unscoped code) : rules.Triple Leaves Unsent code fun _ => Unsent := by
  intro trail unsent
  apply ((only.follows Unsent unsent_kept unsent).and_ends fails).mono
  rintro final (exit | _) ⟨unsent, unscoped⟩
  · exact unsent.leaves_unscoped (unscoped exit rfl)
  · exact unsent

theorem startScope_passes (pid : Pid) : rules.Triple Leaves Unsent (startScope pid) Known := by
  apply Discipline.Triple.mono _ fun path trail (found : Found path trail) => found.1
  apply startScope_triple (startTransientScope_passes pid)
  · exact fun trail rc unfinished => leaves_leave unfinished.1 unfinished.2 rc
  · exact fun trail unsent => unsent_kept trail .thisUnitName unsent trivial
  · exact fun path trail found => ⟨trivial, fun _ => found⟩

section Known

variable (scopeObj : CString)

theorem watchProcess_triple (pid : Pid) :
    rules.Triple Leaves (Known scopeObj) (watchProcess pid) fun _ => Known scopeObj := by
  intro trail known
  refine follows_ask.mpr ⟨trivial, fun (rc : Int) => ?_⟩
  split
  · exact known.2
  · exact follows_ask.mpr ⟨trivial, fun _ => ⟨trivial, fun _ => known⟩⟩

theorem getUnitCgroupId_passes (unitObj : CString) :
    rules.Triple (fun trail (_ : Int) => Settled scopeObj trail) (Known scopeObj)
      (getUnitCgroupId unitObj) fun _ => Known scopeObj := by
  intro trail known
  apply ((aside_ordinary.getUnitCgroupId unitObj).follows_pending (Settled scopeObj)
    (settled_kept scopeObj) rfl ⟨trivial, fun _ => known.waits⟩).mono
  rintro final (rc | cgroup) settled
  · exact settled
  · exact settled.1

theorem blockTraffic_triple :
    rules.Triple Leaves (Known scopeObj) (blockTraffic scopeObj) fun _ => Known scopeObj := by
  apply (triple_orLeave (getUnitCgroupId_passes scopeObj scopeObj)
    fun _ rc settled => settled.leaves_leave rc).bind
  intro cgroup trail known
  refine follows_ask.mpr ⟨trivial, fun (rc : Int) => ?_⟩
  split
  · exact known.2
  · exact follows_ask.mpr ⟨trivial, fun _ => known⟩

theorem readRequest_triple :
    rules.Triple Leaves (Known scopeObj) (readRequest scopeObj) fun _ => Known scopeObj := by
  intro trail known
  refine ⟨trivial, fun answer => ?_⟩
  have settled : Settled scopeObj (trail.waits false) := known.waits
  change Discipline.Onward _ _ (trail.waits false) (decodeRequest scopeObj answer)
  rcases decodeRequest_cases scopeObj answer with
    ⟨rc, clientError, same⟩ | ⟨rc, same⟩ | ⟨rc, buf, _, same⟩
  · exact same ▸ settled.1.2
  · exact same ▸ settled.leaves_leave rc
  · exact same ▸ settled.1

theorem setLimit_triple (cgroup : Limiter.CgroupId) (limit : RateLimit) :
    rules.Triple Leaves (Known scopeObj) (setLimit cgroup limit) fun _ => Known scopeObj := by
  intro trail known
  refine follows_ask.mpr ⟨trivial, fun _ => follows_ask.mpr ⟨trivial, fun (rc : Int) => ?_⟩⟩
  split
  · exact known.2
  · exact known

theorem proceed_triple (limit : RateLimit) :
    rules.Triple Leaves (Known scopeObj) (liftM (proceed limit) : Body Unit) fun _ =>
      Known scopeObj :=
  Discipline.triple_lift fun _ known =>
    (aside_ordinary.proceed limit trivial).follows (Known scopeObj) (known_kept scopeObj) known

theorem awaitExit_triple :
    rules.Triple Leaves (Known scopeObj) (awaitExit scopeObj) fun _ => Known scopeObj := by
  intro trail known
  refine follows_ask.mpr ⟨trivial, fun answer => ?_⟩
  have settled : Settled scopeObj (trail.waits false) := known.waits
  rcases answer with _ | _
  · exact ⟨settled.1.2, settled.leaves⟩
  · exact settled.1

end Known

theorem killScope_follows (trail : ScopeTrail) (scopeObj : CString) :
    rules.Follows trail (killScope scopeObj) fun final _ =>
      final = (trail.kill scopeObj).waits false := by
  refine ⟨trivial, fun reply => ?_⟩
  rcases reply with _ | (rc | rc | text) <;> rfl

def ScopeTrail.stages : Stages ScopeTrail where
  early := Unsent
  started := Known
  launched := Known
  ended trail := trail.interrupted = false
  leaves := Leaves

theorem ScopeTrail.stages_passed (host : Host) (pid : Pid) : stages.Passed rules host pid where
  names := unsent_triple (aside_ordinary.nameThisUnit host) (fails_nameThisUnit unscoped_leave host)
  checks := unsent_triple (aside_ordinary.checkOrigin aside_ordinary.toWriting pid trivial
    fun _ => trivial) (fails_checkOrigin unscoped_leave rfl pid)
  starts := startScope_passes pid
  watches scopeObj := watchProcess_triple scopeObj pid
  blocks := blockTraffic_triple
  hears scopeObj _ := readRequest_triple scopeObj
  limits := setLimit_triple
  proceeds scopeObj _ := proceed_triple scopeObj
  awaits := awaitExit_triple
  kills scopeObj := by
    apply Discipline.triple_lift
    intro trail known
    apply (killScope_follows trail scopeObj).mono
    rintro final _ rfl
    exact known.2

/-- A run that went through the interrupt label has killed the scope it had
asked for unless it was still starting. -/
def ScopeTrail.Accounted (trail : ScopeTrail) : Prop :=
  trail.interrupted = true → trail.name.isSome →
    (trail.killed = true ↔ trail.starting = false)

theorem accounted_of_running {trail : ScopeTrail} (running : trail.interrupted = false) :
    trail.Accounted := by
  intro interrupted
  rw [running] at interrupted
  cases interrupted

theorem running_follows {α : Type} {trail : ScopeTrail} (running : trail.interrupted = false)
    {code : Prog α} (only : Only Aside code) :
    rules.Follows trail code fun final _ => final.Accounted := by
  let inv := fun final : ScopeTrail => final.interrupted = false
  refine (only.follows inv (aside_kept inv fun _ holds => holds) running).mono ?_
  exact fun _ _ running => accounted_of_running running

theorem ScopeTrail.waits_of_interrupted {trail : ScopeTrail}
    (interrupted : trail.interrupted = true) (starting : Bool) : trail.waits starting = trail := by
  cases trail
  simp_all only [ScopeTrail.waits, ↓reduceIte]

/-- Past the interrupt label the trail only changes by the kill. -/
theorem interrupted_follows {α : Type} {trail : ScopeTrail} (interrupted : trail.interrupted = true)
    {code : Prog α} (only : Only Aside code) :
    rules.Follows trail code fun final _ => final = trail := by
  refine only.follows (fun final => final = trail) (fun state effect holds aside => ?_) rfl
  refine aside_kept (fun final => final = trail) ?_ state effect holds aside
  rintro _ rfl
  exact waits_of_interrupted interrupted false

theorem killKnown_follows {trail : ScopeTrail} {scopeObj : Option CString}
    (interrupted : trail.interrupted = true) (leaves : LeavesWith trail scopeObj) :
    rules.Follows trail (killKnown scopeObj) fun final _ => final.Accounted := by
  cases scopeObj with
  | none =>
      intro _ sent
      rw [leaves.1, leaves.2 sent]
      exact iff_of_false nofun nofun
  | some scopeObj =>
      refine (killScope_follows trail scopeObj).mono ?_
      rintro final _ rfl
      have interrupted : (trail.kill scopeObj).interrupted = true := interrupted
      rw [waits_of_interrupted interrupted]
      exact fun _ _ => iff_of_true (kill_killed leaves.1) leaves.2

theorem interruptLabel_follows {trail : ScopeTrail} (scopeObj : Option CString) (stream : Bool)
    (leaves : LeavesWith trail scopeObj) :
    rules.Follows trail (interruptLabel scopeObj stream) fun final _ => final.Accounted := by
  refine ⟨trivial, fun _ => ⟨trivial, fun reason => ?_⟩⟩
  have interrupted : { trail with interrupted := trail.interrupted || true }.interrupted = true :=
    Bool.or_true _
  refine (interrupted_follows interrupted (aside_ordinary.tellExit reason stream)).bind ?_
  rintro _ _ rfl
  exact killKnown_follows interrupted leaves

theorem atLabel_follows {trail : ScopeTrail} (host : Host) {exit : Exit}
    (leaves : Leaves trail exit) :
    rules.Follows trail (atLabel host (.error exit)) fun final _ => final.Accounted := by
  cases exit with
  | errCloseStream rc clientError =>
      exact running_follows leaves (aside_ordinary.errCloseStream host rc clientError)
  | interrupt scopeObj stream => exact interruptLabel_follows scopeObj stream leaves.2

theorem clientHandlerAsync_follows (host : Host) (pid : Pid) :
    rules.Follows fresh (clientHandlerAsync host pid) fun final _ => final.Accounted := by
  apply (stages_passed host pid).handler_follows
  · apply opens_of_neutral _ ⟨rfl, rfl, rfl⟩ (accounted_of_running rfl)
      (running_follows rfl aside_ordinary.reject)
    intro effect opening
    cases effect <;> first | exact ⟨trivial, fun _ => rfl⟩ | exact opening.elim
  · intro trail exit leaves
    exact atLabel_follows host leaves
  · exact fun _ running => accounted_of_running running

/-- In every complete run of the handler that goes through the interrupt label
after `StartTransientUnit` was sent, the scope is killed exactly if the last wait
before the label was not for the reply to that request, for the end of its job
or for the answer to `GetUnit`. -/
theorem interrupt_kills_scope_iff (host : Host) (pid : Pid)
    (events : List (Event Effect Response)) (final : Execution Effect Response Unit)
    (ran : Run.exec Execution.step (.start (clientHandlerAsync host pid)) events = some final)
    (ended : final.program.pending = none)
    (interrupted : (ScopeTrail.of final.history).interrupted = true)
    (sent : (ScopeTrail.of final.history).name.isSome) :
    (ScopeTrail.of final.history).killed = true ↔
      (ScopeTrail.of final.history).starting = false := by
  obtain ⟨_, accounted⟩ :=
    Execution.post_of_exec (clientHandlerAsync_follows host pid) ran ended
  exact accounted interrupted sent

/-- Calls into libraries that succeed. -/
def libraryOk (count : Nat) : List (Event Effect Response) :=
  List.replicate count ⟨.library, (0 : Int)⟩

def replied (call : BusCall) (text : CString) : Event Effect Response :=
  ⟨.busCall call, Awaited.value (BusReply.body text)⟩

/-- A property of a unit as systemd reports it and the handler reads it. -/
def reported (unitObj : CString) (kind member : String) (text : CString) :
    List (Event Effect Response) :=
  replied (.property unitObj (sdInterfaceName ++ ascii kind) (ascii member)) text :: libraryOk 3

def unitLocated (pid : Pid) (unitObj : CString) : List (Event Effect Response) :=
  replied (.getUnitByPID pid) unitObj :: libraryOk 2

/-- A connection is admitted; the daemon's unit is known to be `[100]`. -/
def admitted : List (Event Effect Response) :=
  [⟨.initMsgStream, (0 : Int)⟩, ⟨.registerCleanup .destroyMsgStream, ()⟩,
    ⟨.regStreamInterrupt (some .ioErr), ()⟩, ⟨.increaseNrTasks, true⟩,
    ⟨.registerCleanup .decreaseNrTasks, ()⟩, ⟨.thisUnitName, some [100]⟩]

/-- The client's unit is found, and its cgroup is not limited. -/
def originChecked (pid : Pid) (unitObj path : CString) (cgroup : Limiter.CgroupId) :
    List (Event Effect Response) :=
  unitLocated pid unitObj ++ [⟨.registerCleanup .free, ()⟩] ++
    reported unitObj "Unit" "Id" (ascii "s.scope") ++
    reported unitObj "Scope" "ControlGroup" path ++
    [⟨.cgPathGetCgroupid path, Except.ok cgroup⟩, ⟨.rateLimitCheck cgroup, (0 : Int)⟩]

/-- `start_transient_scope` up to the request. -/
def scopePrepared (pid : Pid) (unitObj random : CString) : List (Event Effect Response) :=
  [⟨.thisUnitName, some [100]⟩] ++ unitLocated pid unitObj ++
    reported unitObj "Unit" "Id" (ascii "s.scope") ++ reported unitObj "Scope" "Slice" [101] ++
    [⟨.randomize, Except.ok random⟩] ++ libraryOk 1 ++
    [⟨.matchJobRemoved, Awaited.value (0 : Int)⟩, ⟨.matchDisconnected, (0 : Int)⟩] ++ libraryOk 1

def scopeName (random : CString) : CString :=
  ascii "traffic-limitd-scope-" ++ random ++ ascii ".scope"

def scopeCall (pid : Pid) (random : CString) : BusCall :=
  .startTransientUnit
    { name := scopeName random, slice := [101], pid := pid, after := [100], bindsTo := [100] }

/-- The request is answered and the scope is found. -/
def scopeStarted (pid : Pid) (random scopeObj : CString) : List (Event Effect Response) :=
  [replied (scopeCall pid random) [102]] ++ libraryOk 1 ++
    [⟨.waitForJob [102], Awaited.value (0 : Int)⟩,
      replied (.getUnit (scopeName random)) scopeObj] ++
    libraryOk 2

def labelled (reason : InterruptReason) : List (Event Effect Response) :=
  [⟨.setInterruptDisabled true, ()⟩, ⟨.interruptReason, some reason⟩]

def scopeHost : Host := { selfPid := 1, strerror := fun _ => [] }

/-- The client hangs up while the handler waits for the reply to
`StartTransientUnit`: systemd has the request, and no one kills the scope. -/
theorem interrupt_orphans_scope :
    ∃ final ∈ Run.exec Execution.step (.start (clientHandlerAsync scopeHost 7))
        (admitted ++ originChecked 7 [1] [2] 5 ++ scopePrepared 7 [1] [49] ++
          [⟨.busCall (scopeCall 7 [49]), Awaited.cancelled⟩] ++ labelled .ioErr),
      final.program.pending = none ∧ (ScopeTrail.of final.history).interrupted = true ∧
        (ScopeTrail.of final.history).name = some (scopeName [49]) ∧
        (ScopeTrail.of final.history).killed = false := by
  decide +kernel

/-- The pidfd is open. -/
def processWatched (pid : Pid) : List (Event Effect Response) :=
  [⟨.registerCleanup .free, ()⟩, ⟨.registerCleanup .free, ()⟩, ⟨.initPidfdEvent pid, (0 : Int)⟩,
    ⟨.registerCleanup .destroyPidfdEvent, ()⟩, ⟨.regPidfdInterrupt (some .procEnd), ()⟩]

/-- The client hangs up as soon as the scope is known, and the scope is killed. -/
def hangUpKnown : List (Event Effect Response) :=
  admitted ++ originChecked 7 [1] [2] 5 ++ scopePrepared 7 [1] [49] ++
    scopeStarted 7 [49] [103] ++ processWatched 7 ++
    [⟨.busCall (.property [103] (sdInterfaceName ++ ascii "Unit") (ascii "Id")),
      Awaited.cancelled⟩] ++ labelled .ioErr ++ [replied (.kill [103]) []]

theorem interrupt_kills_scope_known :
    ∃ final ∈ Run.exec Execution.step (.start (clientHandlerAsync scopeHost 7)) hangUpKnown,
      (ScopeTrail.of final.history).killed = true := by
  have ends : ∃ final ∈ Run.exec Execution.step (.start (clientHandlerAsync scopeHost 7))
      hangUpKnown, final.program.pending = none ∧
        (ScopeTrail.of final.history).interrupted = true ∧
        (ScopeTrail.of final.history).name.isSome ∧
        (ScopeTrail.of final.history).starting = false := by decide +kernel
  obtain ⟨final, ran, ended, interrupted, sent, known⟩ := ends
  exact ⟨final, ran,
    (interrupt_kills_scope_iff scopeHost 7 hangUpKnown final ran ended interrupted sent).mpr known⟩

end TrafficLimitd.Handler
