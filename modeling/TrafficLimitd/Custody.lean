import Mathlib.Data.List.AList
import Mathlib.Data.List.Perm.Subperm

set_option autoImplicit false

/- A table whose entries are in the care of parties, and a bounded number of
seats for them: a party sits down before it puts an entry into the table, and
takes the entry out before it rises. -/
namespace Custody

variable {K V : Type}

/-- A party: whether it has a seat, and the entry in its care. -/
@[ext] structure Holder (K V : Type) where
  seated : Bool
  entry : Option (K × V)

/-- A party that has just come. -/
def newcomer : Holder K V := ⟨false, none⟩

/-- The entry in the care of the party with this number. -/
def entryAt (holders : List (Holder K V)) (index : Nat) : Option (K × V) :=
  holders[index]?.bind Holder.entry

theorem entryAt_append (holders : List (Holder K V)) (index : Nat) :
    entryAt (holders ++ [newcomer]) index = entryAt holders index := by
  unfold entryAt
  rw [List.getElem?_append]
  split
  · rfl
  · rename_i outside
    rw [List.getElem?_eq_none (Nat.le_of_not_lt outside)]
    cases index - holders.length <;> rfl

theorem entryAt_set_self {holders : List (Holder K V)} {index : Nat} {holder : Holder K V}
    (here : holders[index]? = some holder) (moved : Holder K V) :
    entryAt (holders.set index moved) index = moved.entry := by
  rw [entryAt, List.getElem?_set_self (List.getElem?_eq_some_iff.mp here).1]
  rfl

theorem entryAt_set_ne (holders : List (Holder K V)) {index other : Nat} (moved : Holder K V)
    (different : other ≠ index) :
    entryAt (holders.set index moved) other = entryAt holders other := by
  rw [entryAt, List.getElem?_set_ne (Ne.symm different), entryAt]

theorem entryAt_eq {holders : List (Holder K V)} {index : Nat} {holder : Holder K V}
    (here : holders[index]? = some holder) : entryAt holders index = holder.entry := by
  rw [entryAt, here]
  rfl

structure Store (K V : Type) where
  holders : List (Holder K V)
  count : Nat
  table : AList fun _ : K => V

def Store.empty : Store K V := ⟨[], 0, ∅⟩

/-- Every entry of the table is in somebody's care. -/
def Owned (store : Store K V) : Prop :=
  ∀ key ∈ store.table, ∃ index value, entryAt store.holders index = some (key, value)

theorem empty_owned : Owned (Store.empty : Store K V) := nofun

/-- The owner of an entry that is left alone is as before. -/
theorem Owned.move {store : Store K V} (owned : Owned store) {index : Nat}
    {holder moved : Holder K V} (here : store.holders[index]? = some holder) (key : K)
    (present : key ∈ store.table)
    (own : ∀ value, holder.entry = some (key, value) → moved.entry = some (key, value)) :
    ∃ other value, entryAt (store.holders.set index moved) other = some (key, value) := by
  obtain ⟨other, value, found⟩ := owned key present
  refine ⟨other, value, ?_⟩
  by_cases same : other = index
  · rw [same, entryAt_eq here] at found
    rw [same, entryAt_set_self here]
    exact own value found
  · rw [entryAt_set_ne _ _ same]
    exact found

theorem countP_set_seated {holders : List (Holder K V)} {index : Nat} {holder : Holder K V}
    (here : holders[index]? = some holder) (moved : Holder K V) :
    (holders.set index moved).countP Holder.seated + holder.seated.toNat =
      holders.countP Holder.seated + moved.seated.toNat := by
  obtain ⟨inside, rfl⟩ := List.getElem?_eq_some_iff.mp here
  rw [List.countP_set inside]
  cases before : holders[index].seated with
  | false => cases moved.seated <;> simp
  | true =>
      have positive : 0 < holders.countP Holder.seated :=
        List.countP_pos_iff.mpr ⟨_, List.getElem_mem inside, before⟩
      cases moved.seated <;> simp <;> omega

variable [DecidableEq K]

/-- What parties do. `leaks` says whether an entry may be left behind. -/
inductive Step (bound : Nat) (leaks : Prop) : Store K V → Store K V → Prop
  | stay (store : Store K V) : Step bound leaks store store
  | enter (store : Store K V) :
      Step bound leaks store { store with holders := store.holders ++ [newcomer] }
  | sit {store : Store K V} {index : Nat} {holder : Holder K V}
      (here : store.holders[index]? = some holder) (standing : holder.seated = false)
      (room : store.count < bound) :
      Step bound leaks store
        { store with
          holders := store.holders.set index { holder with seated := true }
          count := store.count + 1 }
  | put {store : Store K V} {index : Nat} {holder : Holder K V} (key : K) (value : V)
      (here : store.holders[index]? = some holder) (seated : holder.seated = true)
      (own : ∀ old, holder.entry = some old → old.1 = key)
      (apart : ∀ other old, other ≠ index → entryAt store.holders other = some old →
        old.1 ≠ key) :
      Step bound leaks store
        { store with
          holders := store.holders.set index { holder with entry := some (key, value) }
          table := store.table.insert key value }
  | drop {store : Store K V} {index : Nat} {holder : Holder K V} {entry : K × V}
      (here : store.holders[index]? = some holder) (holds : holder.entry = some entry) :
      Step bound leaks store
        { store with
          holders := store.holders.set index { holder with entry := none }
          table := store.table.erase entry.1 }
  | leak {store : Store K V} {index : Nat} {holder : Holder K V}
      (here : store.holders[index]? = some holder) (allowed : leaks) :
      Step bound leaks store
        { store with holders := store.holders.set index { holder with entry := none } }
  | rise {store : Store K V} {index : Nat} {holder : Holder K V}
      (here : store.holders[index]? = some holder) (seated : holder.seated = true)
      (free : holder.entry = none) :
      Step bound leaks store
        { store with
          holders := store.holders.set index { holder with seated := false }
          count := store.count - 1 }

/-- Seats are counted, and every entry in a party's care is in the table and in
nobody else's care. -/
structure Balanced (bound : Nat) (store : Store K V) : Prop where
  counted : store.count = store.holders.countP Holder.seated
  bounded : store.count ≤ bound
  seated : ∀ holder ∈ store.holders, holder.entry.isSome → holder.seated = true
  kept : ∀ index entry, entryAt store.holders index = some entry →
    store.table.lookup entry.1 = some entry.2
  apart : ∀ first second entry other, entryAt store.holders first = some entry →
    entryAt store.holders second = some other → entry.1 = other.1 → first = second

theorem empty_balanced (bound : Nat) : Balanced bound (Store.empty : Store K V) where
  counted := rfl
  bounded := Nat.zero_le bound
  seated := nofun
  kept := nofun
  apart := nofun

/-- The invariant after one party has moved and the rest have not. -/
theorem Balanced.move {bound : Nat} {store : Store K V} (balanced : Balanced bound store)
    {index : Nat} {holder moved : Holder K V} (here : store.holders[index]? = some holder)
    {count : Nat} {table : AList fun _ : K => V}
    (counted : count + holder.seated.toNat = store.count + moved.seated.toNat)
    (bounded : count ≤ bound) (seated : moved.entry.isSome → moved.seated = true)
    (own : ∀ entry, moved.entry = some entry → table.lookup entry.1 = some entry.2)
    (others : ∀ other entry, other ≠ index → entryAt store.holders other = some entry →
      table.lookup entry.1 = some entry.2)
    (apart : ∀ other old entry, other ≠ index → entryAt store.holders other = some old →
      moved.entry = some entry → old.1 ≠ entry.1) :
    Balanced bound ⟨store.holders.set index moved, count, table⟩ where
  counted := by
    have changed := countP_set_seated here moved
    have before := balanced.counted
    change count = (store.holders.set index moved).countP Holder.seated
    omega
  bounded := bounded
  seated := by
    intro party present
    rcases List.mem_or_eq_of_mem_set present with old | rfl
    · exact balanced.seated party old
    · exact seated
  kept := by
    intro other entry found
    by_cases same : other = index
    · rw [same, entryAt_set_self here] at found
      exact own entry found
    · rw [entryAt_set_ne _ _ same] at found
      exact others other entry same found
  apart := by
    intro first second entry other one two same
    by_cases left : first = index
    · by_cases right : second = index
      · rw [left, right]
      · rw [left, entryAt_set_self here] at one
        rw [entryAt_set_ne _ _ right] at two
        exact absurd same.symm (apart second other entry right two one)
    · rw [entryAt_set_ne _ _ left] at one
      by_cases right : second = index
      · rw [right, entryAt_set_self here] at two
        exact absurd same (apart first entry other left one two)
      · rw [entryAt_set_ne _ _ right] at two
        exact balanced.apart first second entry other one two same

/-- The entries of the others are not the one that a party has. -/
theorem Balanced.other_key {bound : Nat} {store : Store K V} (balanced : Balanced bound store)
    {index other : Nat} {holder : Holder K V} {entry old : K × V}
    (here : store.holders[index]? = some holder) (holds : holder.entry = some entry)
    (different : other ≠ index) (found : entryAt store.holders other = some old) :
    old.1 ≠ entry.1 := by
  intro same
  exact different (balanced.apart other index old entry found
    ((entryAt_eq here).trans holds) same)

theorem Balanced.enter {bound : Nat} {store : Store K V} (balanced : Balanced bound store) :
    Balanced bound { store with holders := store.holders ++ [newcomer] } where
  counted := by
    rw [List.countP_append, ← balanced.counted]
    rfl
  bounded := balanced.bounded
  seated := by
    intro party present
    rcases List.mem_append.mp present with old | new
    · exact balanced.seated party old
    · cases List.mem_singleton.mp new
      nofun
  kept index entry found := balanced.kept index entry (entryAt_append _ index ▸ found)
  apart first second entry other one two :=
    balanced.apart first second entry other (entryAt_append _ first ▸ one)
      (entryAt_append _ second ▸ two)

theorem Balanced.positive {bound : Nat} {store : Store K V} (balanced : Balanced bound store)
    {index : Nat} {holder : Holder K V} (here : store.holders[index]? = some holder)
    (seated : holder.seated = true) : 0 < store.count := by
  rw [balanced.counted]
  exact List.countP_pos_iff.mpr ⟨holder, List.mem_of_getElem? here, seated⟩

/-- Every step keeps the balance. -/
theorem Balanced.step {bound : Nat} {leaks : Prop} {store next : Store K V}
    (balanced : Balanced bound store) (taken : Step bound leaks store next) :
    Balanced bound next := by
  cases taken with
  | stay => exact balanced
  | enter => exact balanced.enter
  | @sit index holder here standing room =>
      refine balanced.move here ?_ room (fun _ => rfl) ?_ ?_ ?_
      · simp [standing]
      · intro entry holds
        exact balanced.kept index entry ((entryAt_eq here).trans holds)
      · exact fun other entry _ found => balanced.kept other entry found
      · exact fun other old entry different found holds =>
          balanced.other_key here holds different found
  | @put index holder key value here seated own apart =>
      refine balanced.move here rfl balanced.bounded (fun _ => seated) ?_ ?_ ?_
      · rintro entry ⟨⟩
        exact AList.lookup_insert _
      · intro other entry different found
        rw [AList.lookup_insert_ne (apart other entry different found)]
        exact balanced.kept other entry found
      · rintro other old entry different found ⟨⟩
        exact apart other old different found
  | @drop index holder entry here holds =>
      refine balanced.move here rfl balanced.bounded nofun nofun ?_ nofun
      intro other old different found
      rw [AList.lookup_erase_ne (balanced.other_key here holds different found)]
      exact balanced.kept other old found
  | @leak index holder here allowed =>
      refine balanced.move here rfl balanced.bounded nofun nofun ?_ nofun
      exact fun other entry _ found => balanced.kept other entry found
  | @rise index holder here seated free =>
      have positive := balanced.positive here seated
      refine balanced.move here ?_ (Nat.le_trans (Nat.sub_le _ _) balanced.bounded) ?_ ?_ ?_ ?_
      · simp only [seated, Bool.toNat_true, Bool.toNat_false]
        omega
      · simp only [free, Option.isSome_none, Bool.false_eq_true, false_implies]
      · simp only [free, reduceCtorEq, false_implies, implies_true]
      · exact fun other entry _ found => balanced.kept other entry found
      · simp only [free, reduceCtorEq, false_implies, implies_true]

theorem Owned.step {bound : Nat} {store next : Store K V} (owned : Owned store)
    (taken : Step bound False store next) : Owned next := by
  intro key present
  cases taken with
  | stay => exact owned key present
  | enter =>
      obtain ⟨index, value, found⟩ := owned key present
      exact ⟨index, value, (entryAt_append _ index).trans found⟩
  | sit here standing room => exact owned.move here key present fun _ holds => holds
  | @put index holder new value here seated own apart =>
      by_cases same : key = new
      · refine ⟨index, value, ?_⟩
        rw [entryAt_set_self here, same]
      · refine owned.move here key ?_ fun old holds => absurd (own _ holds) same
        exact ((AList.mem_insert _).mp present).resolve_left same
  | @drop index holder entry here holds =>
      obtain ⟨different, before⟩ := AList.mem_erase.mp present
      refine owned.move here key before fun value same => ?_
      rw [holds] at same
      cases same
      exact absurd rfl different
  | leak here allowed => exact allowed.elim
  | rise here seated free => exact owned.move here key present fun _ holds => holds

/-- There are at most as many entries as seats taken. -/
theorem table_length_le {bound : Nat} {store : Store K V} (balanced : Balanced bound store)
    (owned : Owned store) : store.table.keys.length ≤ store.count := by
  let sitting := store.holders.filter Holder.seated
  have cared : store.table.keys ⊆ sitting.filterMap fun holder => holder.entry.map Prod.fst := by
    intro key present
    obtain ⟨index, value, found⟩ := owned key present
    obtain ⟨holder, here, holds⟩ := Option.bind_eq_some_iff.mp found
    have member := List.mem_of_getElem? here
    have seated := balanced.seated holder member (by rw [holds]; rfl)
    exact List.mem_filterMap.mpr
      ⟨holder, List.mem_filter.mpr ⟨member, seated⟩, by rw [holds]; rfl⟩
  calc store.table.keys.length
      ≤ (sitting.filterMap fun holder => holder.entry.map Prod.fst).length :=
        (List.subperm_of_subset store.table.keys_nodup cared).length_le
    _ ≤ sitting.length := List.length_filterMap_le _ _
    _ = store.count := by rw [balanced.counted, List.countP_eq_length_filter]

end Custody
