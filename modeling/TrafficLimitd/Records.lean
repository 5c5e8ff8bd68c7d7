import Mathlib.Tactic.Common

set_option autoImplicit false

/- Records one after the other in memory: each starts with a header that holds the length
of the whole record, and the next one starts behind its padding. A loop over them tests
what is left, reads the length, tests that, runs its body, and goes on. -/
namespace TrafficLimitd.Records

/-- The next multiple of four. -/
def align4 (len : Nat) : Nat := (len + 3) / 4 * 4

theorem le_align4 (len : Nat) : len ≤ align4 len := by
  unfold align4
  omega

structure Layout where
  header : Nat
  align : Nat → Nat
  header_pos : 0 < header
  le_align : ∀ len, len ≤ align len

namespace Layout

variable (layout : Layout)

/-- A record of the length `len` is whole within `left` bytes. -/
def Fits (len : Nat) (left : Int) : Prop :=
  layout.header ≤ len ∧ (len : Int) ≤ left

instance (len : Nat) (left : Int) : Decidable (layout.Fits len left) :=
  inferInstanceAs (Decidable (_ ∧ _))

section Loop

variable {ε σ β : Type}

/-- The loop over the records in `left` bytes from `place` on. A read or a body may
fail; a body may end the loop. What is `left` may be negative, behind a record whose
padding is missing. -/
def loop (read : Nat → Except ε Nat) (body : σ → Nat → Nat → Except ε (σ ⊕ β)) (finish : σ → β) :
    Nat → Nat → Int → σ → Option (Except ε β)
  | 0, _, _, _ => none
  | fuel + 1, place, left, state =>
      if left < layout.header then some (.ok (finish state))
      else
        match read place with
        | .error failure => some (.error failure)
        | .ok len =>
            if layout.Fits len left then
              match body state place len with
              | .error failure => some (.error failure)
              | .ok (.inr result) => some (.ok result)
              | .ok (.inl next) =>
                  loop read body finish fuel (place + layout.align len)
                    (left - layout.align len) next
            else some (.ok (finish state))

end Loop

/-- A point at which the loop stands: the record it looks at, the bytes that are left, and
what it has seen. -/
structure Visit (τ : Type) where
  place : Nat
  left : Int
  seen : τ
deriving DecidableEq, Repr

section Visits

variable {τ : Type} (len : Nat → Nat) (next : τ → Nat → Option τ)

/-- The points at which a loop stands that goes on after a record as `next` says, the last
one included. -/
def visits : Nat → Nat → Int → τ → List (Visit τ)
  | 0, _, _, _ => []
  | fuel + 1, place, left, seen =>
      ⟨place, left, seen⟩ ::
        if layout.Fits (len place) left then
          match next seen place with
          | none => []
          | some later =>
              visits fuel (place + layout.align (len place)) (left - layout.align (len place)) later
        else []

/-- The record looked at is whole. -/
def Whole (visit : Visit τ) : Prop :=
  layout.Fits (len visit.place) visit.left

instance (visit : Visit τ) : Decidable (layout.Whole len visit) :=
  inferInstanceAs (Decidable (layout.Fits _ _))

variable {layout len next} {fuel place : Nat} {left : Int} {seen : τ} {visit : Visit τ}

end Visits

section Rules

variable {layout} {ε σ β τ : Type} {read : Nat → Except ε Nat}
  {body : σ → Nat → Nat → Except ε (σ ⊕ β)} {finish : σ → β} {len : Nat → Nat} {stop : Int}

/-- One round, where the header of every record before `stop` can be read. -/
theorem loop_succ
    (reads : ∀ place : Nat, (place : Int) + layout.header ≤ stop → read place = .ok (len place))
    {fuel place : Nat} {left : Int} (upto : (place : Int) + left = stop) (state : σ) :
    layout.loop read body finish (fuel + 1) place left state =
      if layout.Fits (len place) left then
        match body state place (len place) with
        | .error failure => some (.error failure)
        | .ok (.inr result) => some (.ok result)
        | .ok (.inl next) =>
            layout.loop read body finish fuel (place + layout.align (len place))
              (left - layout.align (len place)) next
      else some (.ok (finish state)) := by
  rw [loop]
  by_cases short : left < layout.header
  · have unfit : ¬ layout.Fits (len place) left := by
      unfold Fits
      omega
    rw [if_pos short, if_neg unfit]
  · rw [if_neg short, reads place (by omega)]

variable {seen : σ → τ} {next : τ → Nat → Option τ} {safe : Nat → Prop}
  {result : Nat → β → Prop}

end Rules

end Layout

end TrafficLimitd.Records
