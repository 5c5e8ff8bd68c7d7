import TrafficLimitd.Coroutine

set_option autoImplicit false

/- Triples for code that may fail. Started where one condition holds, the code goes on with
a second one or fails with a third; what a sequence does is put together from what its
parts do. -/
namespace Coroutine

variable {E : Type} {R : E → Type} {S ε α β : Type}

namespace Discipline

/-- Code goes on with one condition or fails with another. -/
def Onward (fails : S → ε → Prop) (after : α → S → Prop) (state : S) : Except ε α → Prop
  | .ok value => after value state
  | .error error => fails state error

def Triple (rules : Discipline E R S) (fails : S → ε → Prop) (before : S → Prop)
    (code : ExceptT ε (Coro E R) α) (after : α → S → Prop) : Prop :=
  ∀ state, before state → rules.Follows state code.run (Onward fails after)

variable {rules : Discipline E R S} {fails : S → ε → Prop} {before : S → Prop}

theorem Triple.bind {code : ExceptT ε (Coro E R) α} {continuation : α → ExceptT ε (Coro E R) β}
    {middle : α → S → Prop} {after : β → S → Prop} (first : rules.Triple fails before code middle)
    (second : ∀ value, rules.Triple fails (middle value) (continuation value) after) :
    rules.Triple fails before (code >>= continuation) after := by
  intro state holds
  apply (first state holds).except_bind
  · intro between error failed
    exact failed
  · intro between value reached
    exact second value between reached

theorem Triple.mono {code : ExceptT ε (Coro E R) α} {after weaker : α → S → Prop}
    (triple : rules.Triple fails before code after)
    (implies : ∀ value state, after value state → weaker value state) :
    rules.Triple fails before code weaker := by
  intro state holds
  apply (triple state holds).mono
  intro final result reached
  cases result with
  | ok value => exact implies value final reached
  | error error => exact reached

theorem triple_pure {value : α} {after : α → S → Prop}
    (holds : ∀ state, before state → after value state) :
    rules.Triple fails before (pure value) after := holds

theorem triple_lift {program : Coro E R α} {after : α → S → Prop}
    (follows : ∀ state, before state →
      rules.Follows state program fun final value => after value final) :
    rules.Triple fails before (liftM program) after :=
  fun state holds => follows_except_lift.mpr (follows state holds)

end Discipline

/-- The invariant rule: code of calls that keep a condition goes on with it. -/
theorem Only.triple {kind : E → Prop} {rules : Discipline E R S} {fails : S → ε → Prop}
    {inv : S → Prop} {code : ExceptT ε (Coro E R) α}
    (kept : ∀ state effect, inv state → kind effect →
      rules.may state effect ∧ ∀ answer, inv (rules.after state effect answer))
    (only : Only kind code.run) (failed : ∀ state error, inv state → fails state error) :
    rules.Triple fails inv code fun _ => inv := by
  intro state holds
  apply (only.follows inv kept holds).mono
  intro final result still
  cases result with
  | ok value => exact still
  | error error => exact failed final error still

/-- The frame rule: code of calls that change nothing. -/
theorem Only.triple_same {kind : E → Prop} {rules : Discipline E R S} {fails : S → ε → Prop}
    {code : ExceptT ε (Coro E R) α}
    (same : ∀ state effect, kind effect →
      rules.may state effect ∧ ∀ answer, rules.after state effect answer = state)
    (only : Only kind code.run) {state : S} (failed : ∀ error, fails state error) :
    rules.Triple fails (· = state) code fun _ => (· = state) := by
  apply only.triple
  · rintro _ effect rfl is
    exact same _ effect is
  · rintro _ error rfl
    exact failed error

end Coroutine
