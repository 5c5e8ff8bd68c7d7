import TrafficLimitd.HandlerPath

set_option autoImplicit false

/- The event sources of a task. Right after the handler has opened one, it registers the
cleanup that destroys it, so that none outlives the task. -/
namespace TrafficLimitd.Handler

open Coroutine

/-- The cleanup that the handler has to register next. -/
abbrev Owed := Option Cleanup

namespace Owed

def owe (owed : Owed) (cleanup : Cleanup) (rc : Int) : Owed :=
  if rc < 0 then owed else some cleanup

def after (owed : Owed) : (effect : Effect) → Response effect → Owed
  | .initMsgStream, rc => owed.owe .destroyMsgStream rc
  | .initPidfdEvent _, rc => owed.owe .destroyPidfdEvent rc
  | .registerCleanup cleanup, _ => if owed = some cleanup then none else owed
  | _, _ => owed

/-- While a cleanup is owed, it is the only thing to do. -/
def may (owed : Owed) (effect : Effect) : Prop :=
  ∀ cleanup, owed = some cleanup → effect = .registerCleanup cleanup

def rules : Discipline Effect Response Owed where
  may := may
  after := after

def of (history : List (Event Effect Response)) : Owed := rules.reached none history

/-- The calls that open no source. -/
def Aside : Effect → Prop
  | .initMsgStream | .initPidfdEvent _ => False
  | _ => True

theorem aside_ordinary : Ordinary Aside := .of_common fun effect common => by
  cases effect <;> first | exact trivial | exact common.elim

theorem after_aside (owed : Owed) {effect : Effect} (aside : Aside effect)
    (answer : Response effect) :
    rules.after owed effect answer = owed ∨ rules.after owed effect answer = none := by
  cases effect with
  | registerCleanup cleanup =>
      change (if owed = some cleanup then none else owed) = owed ∨
        (if owed = some cleanup then none else owed) = none
      split
      · exact Or.inr rfl
      · exact Or.inl rfl
  | _ => first | exact Or.inl rfl | exact aside.elim

theorem aside_kept (owed : Owed) (effect : Effect) (settled : owed = none)
    (aside : Aside effect) :
    rules.may owed effect ∧ ∀ answer, rules.after owed effect answer = none := by
  subst settled
  refine ⟨nofun, fun answer => ?_⟩
  rcases after_aside none aside answer with same | paid
  · exact same
  · exact paid

theorem aside_follows {α : Type} {program : Prog α} (only : Only Aside program) :
    rules.Follows none program fun final _ => final = none :=
  only.follows (fun owed => owed = none) aside_kept rfl

/-- Nothing is owed where the main path is left. -/
def Settles (owed : Owed) (_ : Exit) : Prop := owed = none

theorem aside_triple {α : Type} {code : Body α} (only : Only Aside code.run) :
    rules.Triple Settles (· = none) code fun _ => (· = none) :=
  only.triple aside_kept fun _ _ settled => settled

theorem watchProcess_triple (pid : Pid) :
    rules.Triple Settles (· = none) (watchProcess pid) fun _ => (· = none) := by
  rintro _ rfl
  refine follows_ask.mpr ⟨nofun, fun (rc : Int) => ?_⟩
  change rules.Follows (if rc < 0 then _ else _) (if rc < 0 then _ else _) _
  split
  · rfl
  · have registers : may (some .destroyPidfdEvent) (.registerCleanup .destroyPidfdEvent) :=
      fun cleanup same => congrArg Effect.registerCleanup (Option.some.inj same)
    exact ⟨registers, fun _ => ⟨nofun, fun _ => rfl⟩⟩

def stages : Stages Owed where
  early := (· = none)
  launched _ := (· = none)
  ended := (· = none)
  leaves := Settles

theorem stages_passed (host : Host) (pid : Pid) : stages.Passed rules host pid where
  names := aside_triple (aside_ordinary.nameThisUnit host)
  checks := aside_triple (aside_ordinary.checkOrigin aside_ordinary.toWriting pid trivial
    fun _ => trivial)
  starts := aside_triple (aside_ordinary.startScope pid (fun _ => trivial) (fun _ => trivial)
    (fun _ => trivial) trivial)
  watches _ := watchProcess_triple pid
  blocks scopeObj := aside_triple (aside_ordinary.blockTraffic scopeObj (fun _ _ => trivial)
    fun _ => trivial)
  hears scopeObj _ := aside_triple (only_readRequest scopeObj trivial)
  limits _ cgroup limit := aside_triple (only_setLimit cgroup limit trivial trivial)
  proceeds _ _ limit := aside_triple (aside_ordinary.proceed limit trivial).except_lift
  awaits scopeObj := aside_triple (only_awaitExit scopeObj trivial)
  kills _ := aside_triple (only_killScope trivial).except_lift

theorem opens : Opens rules none (· = none) (· = none) := by
  refine ⟨nofun, fun (rc : Int) => ?_⟩
  change if rc < 0 then rules.Follows (if rc < 0 then _ else _) _ _
    else rules.Follows (if rc < 0 then _ else _) _ _
  split
  · exact aside_follows (only_ask trivial)
  · have registers : may (some .destroyMsgStream) (.registerCleanup .destroyMsgStream) :=
      fun cleanup same => congrArg Effect.registerCleanup (Option.some.inj same)
    refine ⟨registers, fun _ => ⟨nofun, fun _ => ⟨nofun, fun (taken : Bool) => ?_⟩⟩⟩
    cases taken with
    | false => exact aside_follows aside_ordinary.reject
    | true => exact ⟨nofun, fun _ => rfl⟩

/-- The handler registers the cleanup of every source that it opens. -/
theorem clientHandlerAsync_follows (host : Host) (pid : Pid) :
    rules.Follows none (clientHandlerAsync host pid) fun final _ => final = none := by
  apply (stages_passed host pid).handler_follows opens
  · rintro _ exit rfl
    exact aside_follows (aside_ordinary.atLabel host _ (fun _ => trivial) trivial fun _ => trivial)
  · exact fun _ settled => settled

end Owed

end TrafficLimitd.Handler
