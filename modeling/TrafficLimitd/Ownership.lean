import Mathlib.Data.Multiset.AddSub
import Mathlib.Algebra.Order.Group.Multiset
import Mathlib.Algebra.Order.Sub.Basic
import Mathlib.Tactic.Abel
import TrafficLimitd.Coroutine

set_option autoImplicit false

/- Ownership in programs that call their environment. An account says of each call which
references it reads, gives up and brings in. A program is followed with what it owns, and a
reference that it forgets has to be excused by an answer that it was given. -/
namespace Ownership

open Coroutine

variable {E : Type} {R : E → Type} {Ref α β : Type}

/-- What a call does to the references of the program that makes it. `excuses` is the
number of references that the program may forget because of an answer. -/
structure Account (E : Type) (R : E → Type) (Ref : Type) where
  reads : E → List Ref
  drops : E → Multiset Ref
  gains : (effect : E) → R effect → Multiset Ref
  excuses : (effect : E) → R effect → Nat

/-- References, each as often as it is held, and excuses. -/
structure Assets (Ref : Type) where
  refs : Multiset Ref
  excused : Nat

variable [DecidableEq Ref] {account : Account E R Ref}

/-- A call may only read and give up references that are held. -/
def Account.rules (account : Account E R Ref) : Discipline E R (Assets Ref) where
  may assets effect :=
    (∀ ref ∈ account.reads effect, ref ∈ assets.refs) ∧ account.drops effect ≤ assets.refs
  after assets effect answer :=
    { refs := assets.refs - account.drops effect + account.gains effect answer
      excused := assets.excused + account.excuses effect answer }

/-- With what it owns at its start the program makes only calls that it may make, whatever
else is held, and it ends with what it owns then; what it has forgotten was excused. -/
def Account.Owns (account : Account E R Ref) (before : Assets Ref) (program : Coro E R α)
    (after : α → Assets Ref) : Prop :=
  ∀ frame excused, account.rules.Follows ⟨before.refs + frame, excused⟩ program
    fun final value => ∃ lost, final.refs = (after value).refs + lost + frame ∧
      excused + lost.card + (after value).excused ≤ final.excused + before.excused

namespace Account.Owns

variable {before : Assets Ref} {program : Coro E R α} {after : α → Assets Ref}

theorem pure {value : α} (same : before = after value) :
    account.Owns before (Pure.pure value) after := by
  intro frame excused
  refine ⟨0, ?_, ?_⟩
  · rw [← same, add_zero]
  · rw [← same, Multiset.card_zero]
    exact Nat.le_refl _

/-- The sequence rule with a fact about the result of the first part. -/
theorem bind_of_ends {continuation : α → Coro E R β} {middle : α → Assets Ref}
    {after : β → Assets Ref} {kind : α → Prop} (first : account.Owns before program middle)
    (ends : Ends kind program)
    (second : ∀ value, kind value → account.Owns (middle value) (continuation value) after) :
    account.Owns before (program >>= continuation) after := by
  intro frame excused
  apply ((first frame excused).and_ends ends).bind
  intro ⟨refs, between⟩ value ⟨⟨lost, held, enough⟩, is⟩
  obtain rfl : refs = (middle value).refs + (lost + frame) :=
    held.trans (add_assoc _ _ _)
  apply (second value is (lost + frame) between).mono
  intro final result ⟨more, held, still⟩
  refine ⟨lost + more, ?_, ?_⟩
  · rw [held]
    abel
  · rw [Multiset.card_add]
    have enough : excused + lost.card + (middle value).excused ≤ between + before.excused := enough
    omega

/-- The sequence rule. -/
theorem bind {continuation : α → Coro E R β} {middle : α → Assets Ref} {after : β → Assets Ref}
    (first : account.Owns before program middle)
    (second : ∀ value, account.Owns (middle value) (continuation value) after) :
    account.Owns before (program >>= continuation) after :=
  first.bind_of_ends (Ends.of_forall (fun _ => trivial) program) fun value _ => second value

/-- The same references with other excuses. -/
theorem mono {other : Assets Ref} {later : α → Assets Ref} {kind : α → Prop}
    (owns : account.Owns other program later) (ends : Ends kind program)
    (starts : before.refs = other.refs ∧ other.excused ≤ before.excused)
    (implies : ∀ value, kind value → (later value).refs = (after value).refs ∧
      (after value).excused ≤ (later value).excused) :
    account.Owns before program after := by
  intro frame excused
  rw [starts.1]
  apply ((owns frame excused).and_ends ends).mono
  intro final value ⟨⟨lost, held, enough⟩, is⟩
  obtain ⟨same, fewer⟩ := implies value is
  refine ⟨lost, ?_, ?_⟩
  · rw [held, same]
  · have more := starts.2
    omega

/-- The same assets written in another way. -/
theorem congr {other : Assets Ref} {later : α → Assets Ref}
    (owns : account.Owns other program later) (starts : before = other)
    (ends : ∀ value, later value = after value) : account.Owns before program after := by
  rw [starts, ← funext ends]
  exact owns

end Account.Owns

/-- A single call. -/
theorem Account.owns_perform (effect : E) {refs : Multiset Ref} (credit : Nat)
    (reads : ∀ ref ∈ account.reads effect, ref ∈ refs) (drops : account.drops effect ≤ refs) :
    account.Owns ⟨refs, credit⟩ (Coro.perform effect) fun answer =>
      ⟨refs - account.drops effect + account.gains effect answer,
        credit + account.excuses effect answer⟩ := by
  intro frame excused
  refine ⟨⟨?_, ?_⟩, ?_⟩
  · intro ref member
    exact Multiset.mem_add.mpr (Or.inl (reads ref member))
  · exact drops.trans (Multiset.le_add_right refs frame)
  · intro answer
    refine ⟨0, ?_, ?_⟩
    · change refs + frame - account.drops effect + account.gains effect answer = _
      rw [← tsub_add_eq_add_tsub drops, add_zero]
      exact add_right_comm _ _ _
    · rw [Multiset.card_zero]
      change excused + 0 + (credit + _) ≤ excused + _ + credit
      omega

end Ownership
