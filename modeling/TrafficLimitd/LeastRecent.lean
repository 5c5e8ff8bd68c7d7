import Mathlib.Data.List.Dedup
import Mathlib.Data.List.Nodup

set_option autoImplicit false

/- Caches that evict the entry used least recently. A cache of any capacity is the
front part of one and the same recency list, so what is evicted can be read off
the number of keys that were used since. -/
namespace LeastRecent

variable {κ ν : Type} [DecidableEq κ] {entries : List (κ × ν)} {capacity : Nat}

abbrev keys (entries : List (κ × ν)) : List κ := entries.map Prod.fst

/-- The key that is used comes to the front. -/
def bump (entries : List (κ × ν)) (used : κ × ν) : List (κ × ν) :=
  used :: entries.filter fun entry => entry.1 ≠ used.1

theorem bump_nodup (nodup : (keys entries).Nodup) (used : κ × ν) :
    (keys (bump entries used)).Nodup := by
  refine List.nodup_cons.mpr ⟨?_, nodup.sublist (List.filter_sublist.map _)⟩
  intro present
  obtain ⟨entry, kept, same⟩ := List.mem_map.mp present
  have different := (List.mem_filter.mp kept).2
  exact of_decide_eq_true different same

theorem filter_key_of_not_mem {key : κ} (absent : key ∉ keys entries) :
    (entries.filter fun entry => entry.1 ≠ key) = entries := by
  refine List.filter_eq_self.mpr fun entry present => decide_eq_true fun same => ?_
  exact absent (List.mem_map.mpr ⟨entry, present, same⟩)

/-- Taking one key out of a list takes at most one entry out of its front part. -/
theorem take_filter_key (nodup : (keys entries).Nodup) (key : κ) (count : Nat) :
    ((entries.take (count + 1)).filter fun entry => entry.1 ≠ key).take count =
      (entries.filter fun entry => entry.1 ≠ key).take count := by
  induction entries generalizing count with
  | nil => rfl
  | cons entry rest ih =>
      obtain ⟨fresh, nodup⟩ := List.nodup_cons.mp nodup
      rw [List.take_succ_cons]
      by_cases same : entry.1 = key
      · subst same
        have outside : entry.1 ∉ keys (rest.take count) :=
          fun present => fresh ((List.take_sublist count rest).map _ |>.mem present)
        simp only [List.filter_cons, ne_eq, not_true_eq_false, decide_false, Bool.false_eq_true,
          ↓reduceIte]
        rw [filter_key_of_not_mem outside, filter_key_of_not_mem fresh, List.take_take,
          Nat.min_self]
      · simp only [List.filter_cons, ne_eq, same, not_false_eq_true, decide_true, ↓reduceIte]
        cases count with
        | zero => rfl
        | succ count =>
            rw [List.take_succ_cons, List.take_succ_cons]
            exact congrArg _ (ih nodup count)

theorem take_bump (nodup : (keys entries).Nodup) (used : κ × ν) (capacity : Nat) :
    (bump (entries.take capacity) used).take capacity = (bump entries used).take capacity := by
  cases capacity with
  | zero => rfl
  | succ count =>
      rw [bump, bump, List.take_succ_cons, List.take_succ_cons]
      exact congrArg _ (take_filter_key nodup used.1 count)

/-- An entry that is not used sinks below those that are, each of which counts
once. -/
theorem foldl_bump_split {key : κ} {uses : List (κ × ν)} (unused : key ∉ keys uses) (value : ν)
    (front back : List (κ × ν)) :
    ∃ above below, uses.foldl bump (front ++ (key, value) :: back) =
        above ++ (key, value) :: below ∧
      ∀ other, other ∈ keys above ↔ other ∈ keys front ∨ other ∈ keys uses := by
  induction uses generalizing front back with
  | nil => exact ⟨front, back, rfl, fun other => by simp⟩
  | cons used rest ih =>
      obtain ⟨different, unused⟩ := not_or.mp (unused ∘ List.mem_cons.mpr)
      obtain ⟨above, below, final, members⟩ := ih unused
        (used :: front.filter fun entry => entry.1 ≠ used.1)
        (back.filter fun entry => entry.1 ≠ used.1)
      refine ⟨above, below, ?_, fun other => ?_⟩
      · rw [← final, List.foldl_cons, bump, List.filter_append, List.filter_cons]
        simp [different]
      · rw [members other]
        simp only [List.map_cons, List.mem_cons, List.mem_map, List.mem_filter, decide_eq_true_eq]
        by_cases same : other = used.1
        · simp [same]
        · constructor
          · rintro ((here | ⟨entry, ⟨present, _⟩, rfl⟩) | later)
            · exact absurd here same
            · exact Or.inl ⟨entry, present, rfl⟩
            · exact Or.inr (Or.inr later)
          · rintro (⟨entry, present, rfl⟩ | here | later)
            · exact Or.inl (Or.inr ⟨entry, ⟨present, same⟩, rfl⟩)
            · exact absurd here same
            · exact Or.inr later

structure Cache (κ ν : Type) [DecidableEq κ] (capacity : Nat) where
  entries : List (κ × ν)
  nodup : (keys entries).Nodup
  bounded : entries.length ≤ capacity

namespace Cache

def empty (κ ν : Type) [DecidableEq κ] (capacity : Nat) : Cache κ ν capacity where
  entries := []
  nodup := List.nodup_nil
  bounded := Nat.zero_le capacity

def lookup (cache : Cache κ ν capacity) (key : κ) : Option ν := cache.entries.lookup key

/-- An entry is read or written, and the last one falls out if there is no room. -/
def use (cache : Cache κ ν capacity) (used : κ × ν) : Cache κ ν capacity where
  entries := (bump cache.entries used).take capacity
  nodup := (bump_nodup cache.nodup used).sublist ((List.take_sublist _ _).map _)
  bounded := List.length_take_le _ _

variable {cache : Cache κ ν capacity} {key : κ} {value : ν}

theorem foldl_use_entries {recent : List (κ × ν)} (nodup : (keys recent).Nodup)
    (same : cache.entries = recent.take capacity) (uses : List (κ × ν)) :
    (uses.foldl use cache).entries = (uses.foldl bump recent).take capacity ∧
      (keys (uses.foldl bump recent)).Nodup := by
  induction uses generalizing cache recent with
  | nil => exact ⟨same, nodup⟩
  | cons used rest ih =>
      refine ih (bump_nodup nodup used) ?_
      change (bump cache.entries used).take capacity = _
      rw [same]
      exact take_bump nodup used capacity

theorem lookup_eq_some_of_mem (present : (key, value) ∈ cache.entries) :
    cache.lookup key = some value := by
  obtain ⟨above, below, split⟩ := List.append_of_mem present
  have nodup := cache.nodup
  rw [split, keys, List.map_append, List.map_cons] at nodup
  refine List.lookup_eq_some_iff.mpr ⟨above, below, split, fun entry earlier => ?_⟩
  have different := (List.nodup_append.mp nodup).2.2 entry.1
    (List.mem_map_of_mem earlier) key List.mem_cons_self
  simpa using Ne.symm different

theorem lookup_eq_none_of_not_mem (absent : key ∉ keys cache.entries) :
    cache.lookup key = none := by
  refine List.lookup_eq_none_iff.mpr fun entry present => ?_
  have different : key ≠ entry.1 := fun same => absent (same ▸ List.mem_map_of_mem present)
  simpa using different

theorem mem_of_lookup_eq_some (found : cache.lookup key = some value) :
    (key, value) ∈ cache.entries := by
  obtain ⟨above, below, split, _⟩ := List.lookup_eq_some_iff.mp found
  rw [split]
  exact List.mem_append_right _ List.mem_cons_self

theorem lookup_use_self (room : 0 < capacity) : (cache.use (key, value)).lookup key = some value := by
  refine lookup_eq_some_of_mem ?_
  obtain ⟨count, rfl⟩ : ∃ count, capacity = count + 1 := ⟨capacity - 1, by omega⟩
  exact List.mem_cons_self

/-- A use that evicts nothing leaves the other entries as they are. -/
theorem lookup_use_ne {used : κ × ν} (kept : keys cache.entries ⊆ keys (cache.use used).entries)
    (different : key ≠ used.1) : (cache.use used).lookup key = cache.lookup key := by
  have old : ∀ value, (key, value) ∈ (cache.use used).entries → (key, value) ∈ cache.entries := by
    intro value present
    rcases List.mem_cons.mp (List.mem_of_mem_take present) with same | before
    · exact absurd (congrArg Prod.fst same) different
    · exact (List.mem_filter.mp before).1
  cases found : cache.lookup key with
  | some value =>
      have present := kept (List.mem_map_of_mem (mem_of_lookup_eq_some found))
      obtain ⟨⟨_, after⟩, here, rfl⟩ := List.mem_map.mp present
      rw [lookup_eq_some_of_mem here, ← lookup_eq_some_of_mem (old after here)]
      exact found
  | none =>
      refine lookup_eq_none_of_not_mem fun present => ?_
      obtain ⟨⟨_, after⟩, here, rfl⟩ := List.mem_map.mp present
      rw [lookup_eq_some_of_mem (old after here)] at found
      cases found

/-- An entry that was just used and is not used again is kept exactly as long as
fewer other keys than there are places are used. -/
theorem lookup_foldl_use {rest uses : List (κ × ν)} (used : cache.entries = (key, value) :: rest)
    (unused : key ∉ keys uses) :
    (uses.foldl use cache).lookup key =
      if (keys uses).dedup.length < capacity then some value else none := by
  obtain ⟨above, below, split, members⟩ := foldl_bump_split unused value [] rest
  have whole : cache.entries = ([] ++ (key, value) :: rest).take capacity := by
    rw [List.nil_append, ← used, List.take_of_length_le cache.bounded]
  have nodup : (keys ([] ++ (key, value) :: rest)).Nodup := by
    rw [List.nil_append, ← used]
    exact cache.nodup
  obtain ⟨final, distinct⟩ := foldl_use_entries nodup whole uses
  rw [split] at final distinct
  have once : (keys above).Nodup := by
    rw [keys, List.map_append] at distinct
    exact (List.nodup_append.mp distinct).1
  have depth : (keys uses).dedup.length = above.length := by
    have same : (keys uses).dedup.Perm (keys above) := by
      refine (List.perm_ext_iff_of_nodup (List.nodup_dedup _) once).mpr fun other => ?_
      rw [List.mem_dedup, members]
      simp
    rw [same.length_eq, List.length_map]
  rw [depth]
  split
  · rename_i near
    refine lookup_eq_some_of_mem ?_
    rw [final, List.take_append]
    refine List.mem_append_right _ ?_
    obtain ⟨room, same⟩ : ∃ room, capacity - above.length = room + 1 :=
      ⟨capacity - above.length - 1, by omega⟩
    rw [same, List.take_succ_cons]
    exact List.mem_cons_self
  · rename_i far
    refine lookup_eq_none_of_not_mem ?_
    rw [final, List.take_append_of_le_length (Nat.le_of_not_lt far)]
    intro present
    have above := ((List.take_sublist _ _).map _).mem present
    exact unused (((members key).mp above).resolve_left (by simp))

end Cache

end LeastRecent
