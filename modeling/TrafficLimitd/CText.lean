import Mathlib.Data.Nat.Digits.Lemmas

set_option autoImplicit false

/- The bytes of a text that C code prints: what concatenation and decimal numbers come
to in UTF-8. -/
namespace CText

/-- The bytes of a string literal or of a formatted text. -/
def utf8 (text : String) : List UInt8 := text.toUTF8.toList

theorem loop_eq (bytes : ByteArray) (index : Nat) (taken : List UInt8) :
    ByteArray.toList.loop bytes index taken =
      taken.reverse ++ bytes.data.toList.drop index := by
  rw [ByteArray.toList.loop.eq_1]
  split
  · rename_i inside
    have bound : index < bytes.data.toList.length := inside
    have read : bytes.get! index = bytes.data.toList[index] := getElem!_pos bytes.data index inside
    rw [loop_eq bytes (index + 1), List.drop_eq_getElem_cons bound, List.reverse_cons,
      List.append_assoc, List.singleton_append, read]
  · rename_i outside
    have done : bytes.data.toList.length ≤ index := Nat.not_lt.mp outside
    rw [List.drop_eq_nil_of_le done, List.append_nil]
termination_by bytes.size - index

theorem utf8_eq (text : String) : utf8 text = text.toList.flatMap String.utf8EncodeChar := by
  have bytes : text.toByteArray = text.toList.utf8Encode := by
    rw [← String.toByteArray_ofList, String.ofList_toList]
  calc
    utf8 text = [].reverse ++ text.toByteArray.data.toList.drop 0 := loop_eq _ _ _
    _ = text.toList.utf8Encode.data.toList := by rw [bytes]; rfl
    _ = text.toList.flatMap String.utf8EncodeChar := List.toList_data_toByteArray ..

@[simp] theorem utf8_append (first second : String) :
    utf8 (first ++ second) = utf8 first ++ utf8 second := by
  rw [utf8_eq, utf8_eq, utf8_eq, String.toList_append, List.flatMap_append]

/-- A digit is one byte, and not NUL. -/
theorem encode_digit {char : Char} (digit : char.isDigit = true) :
    String.utf8EncodeChar char = [char.val.toUInt8] ∧ char.val.toUInt8 ≠ 0 := by
  have range : 48 ≤ char.val.toNat ∧ char.val.toNat ≤ 57 := by
    simpa [Char.isDigit, UInt32.le_iff_toNat_le] using digit
  have limit : (127 : UInt32).toNat = 127 := rfl
  have short : char.val ≤ 127 := UInt32.le_iff_toNat_le.mpr (by omega)
  refine ⟨String.utf8EncodeChar_eq_singleton (Char.utf8Size_eq_one_iff.mpr short), fun zero => ?_⟩
  have value := congrArg UInt8.toNat zero
  simp only [UInt32.toNat_toUInt8, UInt8.toNat_zero] at value
  omega

theorem utf8_repr (number : Nat) :
    utf8 number.repr = (Nat.toDigits 10 number).map fun char => char.val.toUInt8 := by
  rw [utf8_eq, Nat.repr, String.toList_ofList, List.map_eq_flatMap]
  apply List.flatMap_congr
  intro char member
  exact (encode_digit (Nat.isDigit_of_mem_toDigits (by decide) (by decide) member)).1

/-- A decimal number has no NUL and only so many digits. -/
theorem decimal_clean (number digits : Nat) (some : 0 < digits)
    (bound : number < 10 ^ digits) :
    0 ∉ utf8 number.repr ∧ (utf8 number.repr).length ≤ digits := by
  rw [utf8_repr]
  constructor
  · intro member
    obtain ⟨char, digit, zero⟩ := List.mem_map.mp member
    exact (encode_digit (Nat.isDigit_of_mem_toDigits (by decide) (by decide) digit)).2 zero
  · rw [List.length_map]
    exact (Nat.length_toDigits_le_iff (by decide) some).mpr bound

/-- The same with a sign. -/
theorem integer_clean (number : Int) (digits : Nat) (some : 0 < digits)
    (bound : number.natAbs < 10 ^ digits) :
    0 ∉ utf8 (toString number) ∧ (utf8 (toString number)).length ≤ digits + 1 := by
  have text : toString number = number.repr := rfl
  have sign : utf8 "-" = [45] := by decide +kernel
  rw [text, Int.repr_eq_if]
  split
  · have clean := decimal_clean number.toNat digits some (by omega)
    exact ⟨clean.1, Nat.le_succ_of_le clean.2⟩
  · have clean := decimal_clean (-number).toNat digits some (by omega)
    rw [utf8_append, sign]
    refine ⟨?_, ?_⟩
    · simpa using clean.1
    · simpa using clean.2

end CText
