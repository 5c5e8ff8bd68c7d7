import Mathlib.Data.List.TakeWhile

set_option autoImplicit false

/- Splitting a text at separators, and the scan of `strtok_r` that does it from left to
right: it skips separators, so that the empty fields between them are no tokens. -/
namespace Tokens

variable {α : Type} {sep : α → Bool} {text token later : List α}

/-- `strtok_r`: the next token, and what is left behind the separator that ends it. -/
def strtokR (sep : α → Bool) (text : List α) : Option (List α × List α) :=
  match text.dropWhile sep with
  | [] => none
  | first :: rest =>
      some ((first :: rest).takeWhile (!sep ·), ((first :: rest).dropWhile (!sep ·)).tail)

/-- The fields between the separators that are not empty. -/
def tokens (sep : α → Bool) (text : List α) : List (List α) :=
  (text.splitOnP sep).filter fun field => !field.isEmpty

theorem tokens_cons_sep {first : α} (separates : sep first = true) (text : List α) :
    tokens sep (first :: text) = tokens sep text := by
  have split : (first :: text).splitOnP sep = [] :: text.splitOnP sep := by
    rw [List.splitOnP_cons_eq_if_modifyHead, if_pos separates]
  rw [tokens, split]
  rfl

theorem tokens_dropWhile (sep : α → Bool) (text : List α) :
    tokens sep (text.dropWhile sep) = tokens sep text := by
  induction text with
  | nil => rfl
  | cons first rest ih =>
      by_cases separates : sep first = true
      · rw [List.dropWhile_cons_of_pos separates, ih, tokens_cons_sep separates]
      · rw [List.dropWhile_cons_of_neg separates]

/-- A word at the start of the text is its first token. -/
theorem tokens_word {word rest : List α} (nonempty : word ≠ [])
    (inside : ∀ letter ∈ word, sep letter = false)
    (ends : ∀ letter ∈ rest.head?, sep letter = true) :
    tokens sep (word ++ rest) = word :: tokens sep rest.tail := by
  have kept : word.isEmpty = false := by
    cases word with
    | nil => exact absurd rfl nonempty
    | cons _ _ => rfl
  cases rest with
  | nil =>
      rw [List.append_nil, tokens, List.splitOnP_eq_singleton inside]
      simp [tokens, kept]
  | cons letter rest =>
      rw [tokens, List.splitOnP_append_cons_of_forall_mem inside letter (ends letter rfl)]
      simp [tokens, kept]

theorem strtokR_eq_none : strtokR sep text = none ↔ text.dropWhile sep = [] := by
  unfold strtokR
  split <;> rename_i skipped <;> simp [skipped]

/-- What a call of `strtok_r` found: a word between separators. -/
theorem strtokR_eq_some (found : strtokR sep text = some (token, later)) :
    ∃ rest, text.dropWhile sep = token ++ rest ∧ token ≠ [] ∧
      (∀ letter ∈ token, sep letter = false) ∧ (∀ letter ∈ rest.head?, sep letter = true) ∧
      later = rest.tail := by
  unfold strtokR at found
  split at found
  · cases found
  · rename_i first rest skipped
    cases found
    have starts : sep first = false := by
      have head := List.head?_dropWhile_not sep text
      rw [skipped] at head
      exact head
    refine ⟨(first :: rest).dropWhile (!sep ·), ?_, ?_, fun letter member => ?_, ?_, rfl⟩
    · rw [skipped, List.takeWhile_append_dropWhile]
    · rw [List.takeWhile_cons_of_pos (by rw [starts]; rfl)]
      exact List.cons_ne_nil _ _
    · simpa using List.mem_takeWhile_imp member
    · intro letter here
      have stops := List.head?_dropWhile_not (!sep ·) (first :: rest)
      rw [here] at stops
      simpa using stops

theorem strtokR_length_lt (found : strtokR sep text = some (token, later)) :
    later.length < text.length := by
  obtain ⟨rest, skipped, nonempty, _, _, rfl⟩ := strtokR_eq_some found
  have shorter := (List.dropWhile_suffix sep (l := text)).length_le
  rw [skipped, List.length_append] at shorter
  have some := List.length_pos_iff.mpr nonempty
  rw [List.length_tail]
  omega

/-- The tokens of a text are what the calls of `strtok_r` find one after the other. -/
theorem tokens_eq (sep : α → Bool) (text : List α) :
    tokens sep text = match strtokR sep text with
      | none => []
      | some (token, later) => token :: tokens sep later := by
  split
  · rename_i nothing
    rw [← tokens_dropWhile, strtokR_eq_none.mp nothing]
    rfl
  · rename_i token later found
    obtain ⟨rest, skipped, nonempty, inside, ends, rfl⟩ := strtokR_eq_some found
    rw [← tokens_dropWhile, skipped, tokens_word nonempty inside ends]

theorem tokens_eq_nil_iff : tokens sep text = [] ↔ ∀ letter ∈ text, sep letter = true := by
  rw [← List.dropWhile_eq_nil_iff, ← strtokR_eq_none, tokens_eq]
  split <;> rename_i result <;> simp [result]

end Tokens
