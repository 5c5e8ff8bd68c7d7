import TrafficLimitd.HandlerPath

set_option autoImplicit false

/- The watch on the client's process. The handler opens it once, and it waits for
the process at most once, with the watch open. -/
namespace TrafficLimitd.Handler

open Coroutine

structure Vigil where
  opened : Bool
  waited : Bool
deriving DecidableEq

namespace Vigil

def fresh : Vigil := ⟨false, false⟩

def keep (vigil : Vigil) (rc : Int) : Vigil :=
  if rc < 0 then vigil else { vigil with opened := true }

def after (vigil : Vigil) : (effect : Effect) → Response effect → Vigil
  | .initPidfdEvent _, rc => vigil.keep rc
  | .waitForExit, _ => { vigil with waited := true }
  | _, _ => vigil

def may (vigil : Vigil) : Effect → Prop
  | .initPidfdEvent _ => vigil = fresh
  | .waitForExit => vigil = ⟨true, false⟩
  | _ => True

def rules : Discipline Effect Response Vigil where
  may := may
  after := after

def of (history : List (Event Effect Response)) : Vigil := rules.reached fresh history

/-- The calls that have nothing to do with the watch. -/
def Aside : Effect → Prop
  | .initPidfdEvent _ | .waitForExit => False
  | _ => True

theorem aside_ordinary : Ordinary Aside := .of_common fun effect common => by
  cases effect <;> first | exact trivial | exact common.elim

theorem aside_same (vigil : Vigil) (effect : Effect) (aside : Aside effect) :
    rules.may vigil effect ∧ ∀ answer, rules.after vigil effect answer = vigil := by
  cases effect <;> first | exact ⟨trivial, fun _ => rfl⟩ | exact aside.elim

theorem aside_triple {ε α : Type} {code : ExceptT ε Prog α} (only : Only Aside code.run)
    {vigil : Vigil} :
    rules.Triple Anywhere (· = vigil) code fun _ => (· = vigil) :=
  only.triple_same aside_same fun _ => trivial

theorem watchProcess_triple (pid : Pid) :
    rules.Triple Anywhere (· = fresh) (watchProcess pid) fun _ => (· = ⟨true, false⟩) := by
  rintro _ rfl
  refine follows_ask.mpr ⟨rfl, fun (rc : Int) => ?_⟩
  change rules.Follows (if rc < 0 then _ else _) (if rc < 0 then _ else _) _
  split
  · exact trivial
  · exact ⟨trivial, fun _ => ⟨trivial, fun _ => rfl⟩⟩

theorem awaitExit_triple (scopeObj : CString) :
    rules.Triple Anywhere (· = ⟨true, false⟩) (awaitExit scopeObj) fun _ _ => True := by
  rintro _ rfl
  refine follows_ask.mpr ⟨rfl, fun (answer : Awaited Unit) => ?_⟩
  cases answer <;> exact trivial

/-- The code off the main path, where anything may have happened. -/
theorem aside_follows {α : Type} {program : Prog α} (only : Only Aside program) (vigil : Vigil) :
    rules.Follows vigil program fun _ _ => True :=
  (only.follows_same aside_same vigil).mono fun _ _ _ => trivial

def stages : Stages Vigil where
  early := (· = fresh)
  watched _ := (· = ⟨true, false⟩)
  launched _ := (· = ⟨true, false⟩)
  exited _ _ := True

theorem stages_passed (host : Host) (pid : Pid) : stages.Passed rules host pid where
  names := aside_triple (aside_ordinary.nameThisUnit host)
  checks := aside_triple (aside_ordinary.checkOrigin aside_ordinary.toWriting pid trivial
    fun _ => trivial)
  starts := aside_triple (aside_ordinary.startScope pid (fun _ => trivial) (fun _ => trivial)
    (fun _ => trivial) trivial)
  watches _ := watchProcess_triple pid
  blocks scopeObj := aside_triple (aside_ordinary.blockTraffic scopeObj (fun _ _ => trivial)
    fun _ => trivial)
  hears scopeObj _ := aside_triple (only_readRequest scopeObj trivial)
  limits _ cgroup limit := aside_triple (only_setLimit cgroup limit trivial trivial)
  proceeds _ _ limit := aside_triple (aside_ordinary.proceed limit trivial).except_lift
  awaits scopeObj := awaitExit_triple scopeObj
  kills _ := Discipline.triple_lift fun vigil _ => aside_follows (only_killScope trivial) vigil

/-- The handler keeps to the rules. -/
theorem clientHandlerAsync_follows (host : Host) (pid : Pid) :
    rules.Follows fresh (clientHandlerAsync host pid) fun _ _ => True := by
  apply (stages_passed host pid).handler_follows
  · apply opens_of_neutral _ rfl trivial (aside_follows aside_ordinary.reject fresh)
    intro effect opening
    cases effect <;> first | exact ⟨trivial, fun _ => rfl⟩ | exact opening.elim
  · intro vigil exit _
    exact aside_follows (aside_ordinary.atLabel host _ (fun _ => trivial) trivial fun _ => trivial)
      vigil
  · exact fun _ _ => trivial

end Vigil

end TrafficLimitd.Handler
