import Mathlib.Algebra.GroupWithZero.Nat
import Mathlib.Algebra.BigOperators.Group.List.Basic
import Mathlib.Algebra.Order.BigOperators.Group.List
import Mathlib.Data.List.Chain

set_option autoImplicit false

/- The ideal pacer. It serves items one at a time: an item leaves when it has
arrived and when the line is available, and then occupies the line for its own
delay. Times are natural numbers and nothing wraps. -/
namespace Pacing

variable {α : Type} (arrival delay departure : α → Nat)

/-- These items left one after the other, the line being available from
`avail` on before the first of them. -/
def Paced : Nat → List α → Prop
  | _, [] => True
  | avail, item :: rest =>
      departure item = max (arrival item) avail ∧
        Paced (departure item + delay item) rest

variable {arrival delay departure}

/-- Between two consecutive items the line is idle or the delay is exact. -/
theorem Paced.isChain {avail : Nat} {items : List α}
    (paced : Paced arrival delay departure avail items) :
    items.IsChain fun first second =>
      departure second = max (arrival second) (departure first + delay first) := by
  induction items generalizing avail with
  | nil => exact .nil
  | cons first rest ih =>
      cases rest with
      | nil => exact .singleton first
      | cons second rest => exact .cons_cons paced.2.1 (ih paced.2)

theorem Paced.next {avail : Nat} {items : List α}
    (paced : Paced arrival delay departure avail items) (index : Nat)
    (inside : index + 1 < items.length) :
    departure items[index + 1] =
      max (arrival items[index + 1]) (departure items[index] + delay items[index]) :=
  List.isChain_iff_getElem.mp paced.isChain index inside

theorem take_window_succ (items : List α) (start count : Nat)
    (inside : start + count < items.length) :
    (items.drop start).take (count + 1) =
      (items.drop start).take count ++ [items[start + count]] := by
  rw [List.take_add_one, List.getElem?_drop, List.getElem?_eq_getElem inside]
  rfl

/-- Over any window the line has been occupied for the delays of all its items. -/
theorem Paced.window {avail : Nat} {items : List α}
    (paced : Paced arrival delay departure avail items) (start count : Nat)
    (inside : start + count < items.length) :
    departure items[start] + (((items.drop start).take count).map delay).sum ≤
      departure items[start + count] := by
  induction count with
  | zero => simp
  | succ count ih =>
      have earlier := ih (by omega)
      have exact := paced.next (start + count) (by omega)
      rw [take_window_succ items start count (by omega), List.map_append, List.sum_append]
      simp only [List.map_cons, List.map_nil, List.sum_singleton]
      change _ ≤ departure items[start + count + 1]
      omega

/-- If each delay pays for the cost of its item up to half a unit, then the
delays of a list pay for its total cost up to half a unit for each item. -/
theorem cost_le_of_rounded (delay cost : α → Nat) (scale rate : Nat) (items : List α)
    (rounded : ∀ item ∈ items, 2 * scale * cost item ≤ rate * (2 * delay item + 1)) :
    2 * scale * (items.map cost).sum ≤
      rate * (2 * (items.map delay).sum + items.length) := by
  induction items with
  | nil => simp
  | cons item rest ih =>
      have head := rounded item (by simp)
      have tail := ih fun other member => rounded other (List.mem_cons_of_mem _ member)
      simp only [List.map_cons, List.sum_cons, List.length_cons]
      calc 2 * scale * (cost item + (rest.map cost).sum)
          = 2 * scale * cost item + 2 * scale * (rest.map cost).sum := Nat.mul_add _ _ _
        _ ≤ rate * (2 * delay item + 1) + rate * (2 * (rest.map delay).sum + rest.length) :=
          Nat.add_le_add head tail
        _ = rate * (2 * (delay item + (rest.map delay).sum) + (rest.length + 1)) := by
          rw [← Nat.mul_add]
          congr 1
          omega

/-- A window of a paced list carries no more than the rate allows for the time
between its first item and the item after it. -/
theorem Paced.window_cost {avail : Nat} {items : List α}
    (paced : Paced arrival delay departure avail items) (cost : α → Nat) (scale rate : Nat)
    (rounded : ∀ item ∈ items, 2 * scale * cost item ≤ rate * (2 * delay item + 1))
    (start count : Nat) (inside : start + count < items.length) :
    2 * scale * (((items.drop start).take count).map cost).sum ≤
      rate * (2 * (departure items[start + count] - departure items[start]) + count) := by
  have occupied := paced.window start count inside
  have paid := cost_le_of_rounded delay cost scale rate ((items.drop start).take count)
    fun item member => rounded item (List.mem_of_mem_drop (List.mem_of_mem_take member))
  have length : ((items.drop start).take count).length = count := by
    rw [List.length_take, List.length_drop]
    omega
  rw [length] at paid
  refine Nat.le_trans paid (Nat.mul_le_mul_left rate ?_)
  omega

end Pacing
