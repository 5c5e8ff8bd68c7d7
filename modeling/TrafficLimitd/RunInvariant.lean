import Mathlib.Algebra.GroupWithZero.Nat
import Mathlib.Data.List.Basic

set_option autoImplicit false

/- Finite runs of a labelled transition function. A label carries every choice
the environment makes in that step, so a run is a list of labels and a step
that is not possible returns `none`. -/
namespace Run

variable {σ ι : Type}

/-- The state after a list of steps, if every one of them is possible. -/
def exec (step : σ → ι → Option σ) : σ → List ι → Option σ
  | state, [] => some state
  | state, label :: rest => (step state label).bind fun next => exec step next rest

@[simp] theorem exec_nil (step : σ → ι → Option σ) (state : σ) :
    exec step state [] = some state := rfl

@[simp] theorem exec_cons (step : σ → ι → Option σ) (state : σ) (label : ι) (rest : List ι) :
    exec step state (label :: rest) =
      (step state label).bind fun next => exec step next rest := rfl

theorem exec_cons_eq_some {step : σ → ι → Option σ} {state final : σ} {label : ι}
    {rest : List ι} :
    exec step state (label :: rest) = some final ↔
      ∃ next, step state label = some next ∧ exec step next rest = some final := by
  rw [exec_cons]
  exact Option.bind_eq_some_iff

theorem exec_append (step : σ → ι → Option σ) (state : σ) (first second : List ι) :
    exec step state (first ++ second) =
      (exec step state first).bind fun middle => exec step middle second := by
  induction first generalizing state with
  | nil => rfl
  | cons label rest ih =>
      rw [List.cons_append, exec_cons, exec_cons, Option.bind_assoc]
      exact congrArg _ (funext fun next => ih next)

/-- Every step the run takes meets `ok`, a condition on the label and on the
state before the step. -/
def Meets (step : σ → ι → Option σ) (ok : σ → ι → Prop) : σ → List ι → Prop
  | _, [] => True
  | state, label :: rest =>
      ok state label ∧ ∀ next ∈ step state label, Meets step ok next rest

instance Meets.decide (step : σ → ι → Option σ) (ok : σ → ι → Prop)
    [∀ state label, Decidable (ok state label)] :
    ∀ state labels, Decidable (Meets step ok state labels)
  | _, [] => isTrue trivial
  | state, label :: rest =>
      have : DecidablePred fun next => Meets step ok next rest :=
        fun next => Meets.decide step ok next rest
      inferInstanceAs (Decidable (ok state label ∧ ∀ next ∈ step state label, _))

theorem Meets.append {step : σ → ι → Option σ} {ok : σ → ι → Prop} {state : σ}
    {first second : List ι} (met : Meets step ok state (first ++ second)) :
    Meets step ok state first ∧
      ∀ middle, exec step state first = some middle → Meets step ok middle second := by
  induction first generalizing state with
  | nil =>
      refine ⟨trivial, ?_⟩
      intro middle reached
      cases reached
      exact met
  | cons label rest ih =>
      refine ⟨⟨met.1, fun next taken => (ih (met.2 next taken)).1⟩, ?_⟩
      intro middle reached
      obtain ⟨next, taken, continued⟩ := exec_cons_eq_some.mp reached
      exact (ih (met.2 next taken)).2 middle continued

/-- The invariant rule: what one admissible step preserves, an admissible run
preserves. -/
theorem Meets.invariant {step : σ → ι → Option σ} {ok : σ → ι → Prop} (inv : σ → Prop)
    (preserved : ∀ state label next, inv state → ok state label →
      step state label = some next → inv next)
    {state final : σ} {labels : List ι} (initial : inv state)
    (met : Meets step ok state labels) (reached : exec step state labels = some final) :
    inv final := by
  induction labels generalizing state with
  | nil =>
      cases reached
      exact initial
  | cons label rest ih =>
      obtain ⟨next, taken, continued⟩ := exec_cons_eq_some.mp reached
      exact ih (preserved state label next initial met.1 taken) (met.2 next taken) continued

/-- The invariant rule for runs without a condition on their steps. -/
theorem exec_invariant {step : σ → ι → Option σ} (inv : σ → Prop)
    (preserved : ∀ state label next, inv state → step state label = some next → inv next)
    {state final : σ} {labels : List ι} (initial : inv state)
    (reached : exec step state labels = some final) : inv final := by
  induction labels generalizing state with
  | nil =>
      cases reached
      exact initial
  | cons label rest ih =>
      obtain ⟨next, taken, continued⟩ := exec_cons_eq_some.mp reached
      exact ih (preserved state label next initial taken) continued

/-- The rule for what ties the state to the steps that led to it. -/
theorem exec_history {step : σ → ι → Option σ} (inv : List ι → σ → Prop)
    (preserved : ∀ past state label next, inv past state → step state label = some next →
      inv (past ++ [label]) next)
    {past : List ι} {state final : σ} {labels : List ι} (initial : inv past state)
    (reached : exec step state labels = some final) : inv (past ++ labels) final := by
  induction labels generalizing past state with
  | nil =>
      cases reached
      rw [List.append_nil]
      exact initial
  | cons label rest ih =>
      obtain ⟨next, taken, continued⟩ := exec_cons_eq_some.mp reached
      rw [List.append_cons]
      exact ih (preserved past state label next initial taken) continued

/-- A quantity that no admissible step of a run decreases is not decreased by
the run, as long as an invariant of the run holds. -/
theorem Meets.monotone {step : σ → ι → Option σ} {ok : σ → ι → Prop} (inv : σ → Prop)
    (level : σ → Nat)
    (preserved : ∀ state label next, inv state → ok state label →
      step state label = some next → inv next)
    (raised : ∀ state label next, inv state → ok state label →
      step state label = some next → level state ≤ level next)
    {state final : σ} {labels : List ι} (initial : inv state)
    (met : Meets step ok state labels) (reached : exec step state labels = some final) :
    level state ≤ level final := by
  induction labels generalizing state with
  | nil =>
      cases reached
      exact Nat.le_refl _
  | cons label rest ih =>
      obtain ⟨next, taken, continued⟩ := exec_cons_eq_some.mp reached
      exact Nat.le_trans (raised state label next initial met.1 taken)
        (ih (preserved state label next initial met.1 taken) (met.2 next taken) continued)

/-- The rule of the potential: if every step lowers it by one, but for what its label
brings in, then a run is no longer than what its labels bring in. -/
theorem exec_potential {step : σ → ι → Option σ} (inv : σ → Prop) (potential : σ → Nat)
    (gain : ι → Nat)
    (preserved : ∀ state label next, inv state → step state label = some next → inv next)
    (paid : ∀ state label next, inv state → step state label = some next →
      potential next + 1 ≤ potential state + gain label)
    {state final : σ} {labels : List ι} (initial : inv state)
    (reached : exec step state labels = some final) :
    potential final + labels.length ≤ potential state + (labels.map gain).sum := by
  induction labels generalizing state with
  | nil =>
      cases reached
      exact Nat.le_refl _
  | cons label rest ih =>
      obtain ⟨next, taken, continued⟩ := exec_cons_eq_some.mp reached
      have first := paid state label next initial taken
      have later := ih (preserved state label next initial taken) continued
      simp only [List.length_cons, List.map_cons, List.sum_cons]
      omega

section Simulation

variable {τ κ : Type} {upper : σ → ι → Option σ} {lower : τ → κ → Option τ}

/-- A run above is a run below, if every step above is one from all related states. A step
above may be any number of steps below, also none. -/
theorem exec_simulates (related : σ → τ → Prop)
    (simulated : ∀ state label next below, related state below → upper state label = some next →
      ∃ labels after, exec lower below labels = some after ∧ related next after)
    {state final : σ} {below : τ} {labels : List ι} (initial : related state below)
    (reached : exec upper state labels = some final) :
    ∃ labels after, exec lower below labels = some after ∧ related final after := by
  induction labels generalizing state below with
  | nil =>
      cases reached
      exact ⟨[], below, rfl, initial⟩
  | cons label rest ih =>
      obtain ⟨next, taken, continued⟩ := exec_cons_eq_some.mp reached
      obtain ⟨first, middle, ran, holds⟩ := simulated state label next below initial taken
      obtain ⟨second, after, went, ends⟩ := ih holds continued
      refine ⟨first ++ second, after, ?_, ends⟩
      rw [exec_append, ran]
      exact went

end Simulation

end Run
