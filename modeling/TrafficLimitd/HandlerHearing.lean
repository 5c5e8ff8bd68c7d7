import TrafficLimitd.HandlerDuties
import TrafficLimitd.HandlerRequest

set_option autoImplicit false

/- On whose word a limit is set. The handler reads one request; what it puts into the map
blocks all traffic or is what that request asks for, and the client is told to proceed
only if the request was accepted. -/
namespace TrafficLimitd.Handler.Hearing

open Coroutine
open Limiter (CgroupId)

/-- The return code of the read, unless it was interrupted, and its buffer. -/
abbrev Heard := Option (Int × List UInt8)

def read (heard : Heard) : Awaited (Int × List UInt8) → Heard
  | .value result => some result
  | .cancelled => heard

def after (heard : Heard) : (effect : Effect) → Response effect → Heard
  | .streamIo .read _ _, answer => read heard answer
  | _, _ => heard

/-- What was read has passed the tests, and this is the limit that it asks for. -/
def Asks (heard : Heard) (limit : RateLimit) : Prop :=
  ∃ count buf, heard = some (count, buf) ∧ Accepted count buf ∧ limit = Protocol.reqLimit buf

def may (heard : Heard) : Effect → Prop
  | .rateLimitSet _ limit => limit = ⟨0, 0⟩ ∨ Asks heard limit
  | .streamIo .read _ _ => heard = none
  | .streamIo .write buf _ => isProceed buf = true → ∃ limit, Asks heard limit
  | _ => True

def rules : Discipline Effect Response Heard where
  may := may
  after := after

def of (history : List (Event Effect Response)) : Heard := rules.reached none history

/-- There is no second request that could ask for something else. -/
theorem Asks.after {heard : Heard} {limit : RateLimit} (asks : Asks heard limit) (effect : Effect)
    (allowed : may heard effect) (answer : Response effect) :
    Asks (Hearing.after heard effect answer) limit := by
  cases effect with
  | streamIo direction buf usec =>
      cases direction with
      | write => exact asks
      | read =>
          have silent : heard = none := allowed
          obtain ⟨count, data, same, _⟩ := asks
          rw [silent] at same
          cases same
  | _ => exact asks

/-- A call that may be made and reads nothing. -/
def Steady (heard : Heard) : Effect → Prop
  | .streamIo .read _ _ => False
  | effect => may heard effect

theorem steady_same (heard : Heard) (effect : Effect) (steady : Steady heard effect) :
    rules.may heard effect ∧ ∀ answer, rules.after heard effect answer = heard := by
  cases effect with
  | streamIo direction buf usec =>
      cases direction with
      | read => exact steady.elim
      | write => exact ⟨steady, fun _ => rfl⟩
  | _ => exact ⟨steady, fun _ => rfl⟩

theorem steady_kept {heard : Heard} (state : Heard) (effect : Effect) (same : state = heard)
    (steady : Steady heard effect) :
    rules.may state effect ∧ ∀ answer, rules.after state effect answer = heard := by
  subst same
  exact steady_same state effect steady

theorem steady_follows {α : Type} {heard : Heard} {program : Prog α}
    (steady : Only (Steady heard) program) :
    rules.Follows heard program fun final _ => final = heard :=
  steady.follows (fun final => final = heard) steady_kept rfl

theorem steady_silent (heard : Heard) {buf : List UInt8} {usec : Nat}
    (silent : isProceed buf = false) : Steady heard (.streamIo .write buf usec) := by
  intro proceeds
  rw [silent] at proceeds
  cases proceeds

theorem steady_ordinary (heard : Heard) : Ordinary (Steady heard) where
  toAsking := .of_questions fun effect question => by
    cases effect <;> first | exact trivial | exact question.elim
  log text := steady_silent heard (isProceed_header _ _ text nofun)
  fail reason := steady_silent heard (isProceed_header _ _ _ nofun)
  empty := steady_silent heard (by decide)
  drain := trivial
  tail := trivial

/-- Code that reads nothing keeps what was heard. -/
theorem steady_triple {α : Type} {before : Heard → Prop} {code : Body α}
    (steady : ∀ heard, before heard → Only (Steady heard) code.run) :
    rules.Triple Anywhere before code fun _ => before := by
  intro heard holds
  apply (steady_follows (steady heard holds)).mono
  rintro _ result rfl
  cases result with
  | ok value => exact holds
  | error exit => trivial

theorem blockTraffic_steady (heard : Heard) (scopeObj : CString) :
    Only (Steady heard) (blockTraffic scopeObj).run := by
  apply Only.except_bind (only_orLeave _ ((steady_ordinary heard).getUnitCgroupId scopeObj))
  intro cgroup
  have sets : Only (Steady heard) (liftM (rateLimitSet cgroup ⟨0, 0⟩) : Body Int).run :=
    only_asks (.inl rfl)
  apply sets.except_bind
  intro rc
  have guards : Only (Steady heard) (do
      registerCleanup (.clearRateLimit cgroup)
      return cgroup : Body CgroupId).run :=
    Only.except_bind (only_asks trivial) fun _ => trivial
  split
  · exact Only.except_bind trivial fun _ => guards
  · exact guards

theorem readRequest_triple (scopeObj : CString) :
    rules.Triple Anywhere (· = none) (readRequest scopeObj) fun limit heard =>
      Asks heard limit := by
  rintro _ rfl
  refine ⟨rfl, fun answer => ?_⟩
  change Discipline.Onward _ _ _ (decodeRequest scopeObj answer)
  cases decoded : decodeRequest scopeObj answer with
  | error exit => trivial
  | ok limit =>
      obtain ⟨count, buf, rfl, accepted, same⟩ := accepted_of_decoded decoded
      exact ⟨count, buf, rfl, accepted, same⟩

def stages : Stages Heard where
  early := (· = none)
  heard _ _ limit heard := Asks heard limit
  launched _ _ := True

theorem stages_passed (host : Host) (pid : Pid) : stages.Passed rules host pid where
  names := steady_triple fun heard _ => (steady_ordinary heard).nameThisUnit host
  checks := steady_triple fun heard _ =>
    (steady_ordinary heard).checkOrigin (steady_ordinary heard).toWriting pid trivial
      fun _ => trivial
  starts := steady_triple fun heard _ => (steady_ordinary heard).startScope pid (fun _ => trivial)
    (fun _ => trivial) (fun _ => trivial) trivial
  watches _ := steady_triple fun _ _ => only_watchProcess pid trivial trivial trivial
  blocks scopeObj := steady_triple fun heard _ => blockTraffic_steady heard scopeObj
  hears scopeObj _ := readRequest_triple scopeObj
  limits _ cgroup limit := steady_triple fun _ asks =>
    only_setLimit cgroup limit trivial (.inr asks)
  proceeds _ _ limit := by
    have tells : rules.Triple Anywhere (Asks · limit) (liftM (proceed limit) : Body Unit)
        fun _ => (Asks · limit) :=
      steady_triple fun heard asks =>
        ((steady_ordinary heard).proceed limit fun _ => ⟨limit, asks⟩).except_lift
    exact tells.mono fun _ _ _ => trivial
  awaits scopeObj := steady_triple fun _ _ => only_awaitExit scopeObj trivial
  kills _ := steady_triple fun _ _ => (only_killScope trivial).except_lift

theorem clientHandlerAsync_follows (host : Host) (pid : Pid) :
    rules.Follows none (clientHandlerAsync host pid) fun _ _ => True := by
  have tells (heard : Heard) {program : Prog Unit} (steady : Only (Steady heard) program) :
      rules.Follows heard program fun _ _ => True :=
    (steady_follows steady).mono fun _ _ _ => trivial
  apply (stages_passed host pid).handler_follows
  · apply opens_of_neutral _ rfl trivial (tells none (steady_ordinary none).reject)
    intro effect opening
    cases effect <;> first | exact ⟨trivial, fun _ => rfl⟩ | exact opening.elim
  · intro heard exit _
    exact tells heard ((steady_ordinary heard).atLabel host _ (fun _ => trivial) trivial
      fun _ => trivial)
  · exact fun _ _ => trivial

/-- What any call leaves of a ledger. -/
structure Recorded (ledger : Ledger) (effect : Effect) (next : Ledger) : Prop where
  request : (∀ buf usec, effect ≠ .streamIo .read buf usec) → next.request = ledger.request
  proceeded : next.proceeded = (ledger.proceeded || writesProceed effect)
  killed : ledger.killed = true → next.killed = true
  cgroup : ∀ cgroup, ledger.cgroup = some cgroup → next.cgroup = some cgroup

theorem recorded_quiet {ledger : Ledger} {effect : Effect} (quiet : Ledger.Quiet effect)
    (answer : Response effect) : Recorded ledger effect (ledger.after effect answer) := by
  have keeps := (Ledger.after_quiet ledger effect quiet).2 answer
  refine ⟨fun _ => keeps.request, ?_, fun killed => keeps.killed.trans killed, keeps.cgroup⟩
  have silent : writesProceed effect = false := by
    cases effect with
    | streamIo direction buf usec =>
        cases direction with
        | read => rfl
        | write => exact quiet
    | _ => rfl
  rw [keeps.proceeded, silent, Bool.or_false]

theorem recorded_after (ledger : Ledger) (effect : Effect) (answer : Response effect) :
    Recorded ledger effect (ledger.after effect answer) := by
  have unchanged {effect : Effect} (silent : writesProceed effect = false) :
      Recorded ledger effect ledger :=
    ⟨fun _ => rfl, by rw [silent, Bool.or_false], id, fun _ => id⟩
  cases effect with
  | increaseNrTasks => exact ⟨fun _ => rfl, (Bool.or_false _).symm, id, fun _ => id⟩
  | registerCleanup cleanup => exact ⟨fun _ => rfl, (Bool.or_false _).symm, id, fun _ => id⟩
  | rateLimitSet cgroup limit =>
      simp only [Ledger.after, Ledger.install]
      split
      · exact unchanged rfl
      · exact ⟨fun _ => rfl, (Bool.or_false _).symm, id, fun _ => id⟩
  | streamIo direction buf usec =>
      cases direction with
      | write => exact ⟨fun _ => rfl, rfl, id, fun _ => id⟩
      | read =>
          cases answer with
          | cancelled => exact unchanged rfl
          | value result =>
              exact ⟨fun other => absurd rfl (other buf usec), (Bool.or_false _).symm, id,
                fun _ => id⟩
  | busCall call =>
      cases call with
      | getUnit name =>
          cases answer with
          | cancelled => exact unchanged rfl
          | value reply =>
              cases reply with
              | body path => exact ⟨fun _ => rfl, (Bool.or_false _).symm, id, fun _ => id⟩
              | _ => exact unchanged rfl
      | kill path =>
          refine ⟨fun _ => rfl, (Bool.or_false _).symm, fun killed => ?_, fun _ => id⟩
          simp [Ledger.after, killed]
      | _ => exact recorded_quiet (by trivial) answer
  | _ => exact recorded_quiet (by trivial) answer

/-- The request of the ledger follows what was read. -/
theorem request_after {ledger : Ledger} {heard : Heard}
    (same : ledger.request = heard.map fun result => Protocol.reqLimit result.2)
    (effect : Effect) (answer : Response effect) :
    (ledger.after effect answer).request =
      (after heard effect answer).map fun result => Protocol.reqLimit result.2 := by
  have recorded := recorded_after ledger effect answer
  cases effect with
  | streamIo direction buf usec =>
      cases direction with
      | write => exact same
      | read =>
          cases answer with
          | cancelled => exact same
          | value result => rfl
  | _ => exact (recorded.request nofun).trans same

theorem request_of (history : List (Event Effect Response)) :
    (Ledger.of history).request =
      (of history).map fun result => Protocol.reqLimit result.2 := by
  induction history with
  | nil => rfl
  | cons event earlier ih => exact request_after ih event.effect event.answer

end TrafficLimitd.Handler.Hearing
