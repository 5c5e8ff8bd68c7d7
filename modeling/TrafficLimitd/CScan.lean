import Mathlib.Data.List.TakeWhile
import Mathlib.Data.UInt

set_option autoImplicit false

/- Reading an unsigned number from a C string the way the C library does:
`strtoul` in base ten, and `sscanf` with the format `"%lu%c"`. Strings are the
bytes before the terminator. -/
namespace CScan

/-- `isspace` in the C locale. -/
def isSpace (byte : UInt8) : Bool := byte = 32 || (9 ≤ byte && byte ≤ 13)

/-- `isdigit`. -/
def isDigit (byte : UInt8) : Bool := 48 ≤ byte && byte ≤ 57

/-- The number that decimal digits denote. -/
def decimal (digits : List UInt8) : Nat :=
  digits.foldl (fun value byte => 10 * value + (byte.toNat - 48)) 0

inductive Sign
  | absent
  | plus
  | minus
deriving DecidableEq, Repr

def Sign.text : Sign → List UInt8
  | .absent => []
  | .plus => [43]
  | .minus => [45]

/-- The sign at the front of a string and what follows it. -/
def takeSign : List UInt8 → Sign × List UInt8
  | [] => (.absent, [])
  | byte :: rest =>
      if byte = 45 then (.minus, rest)
      else if byte = 43 then (.plus, rest)
      else (.absent, byte :: rest)

/-- What `strtoul` makes of a number and its sign: too large a number becomes
`ULONG_MAX`, and a minus negates modulo 2^64. -/
def Sign.strtoul (sign : Sign) (number : Nat) : UInt64 :=
  if 2 ^ 64 ≤ number then 18446744073709551615
  else if sign = .minus then -UInt64.ofNat number
  else UInt64.ofNat number

/-- `sscanf(string, "%lu%c", ...)`: nothing if no number was read, else the number and
the character after it, if the string goes on. -/
def scanLuC (string : List UInt8) : Option (UInt64 × Option UInt8) :=
  let signed := takeSign (string.dropWhile isSpace)
  let digits := signed.2.takeWhile isDigit
  if digits = [] then none
  else some (signed.1.strtoul (decimal digits), (signed.2.dropWhile isDigit).head?)

/-- A string that starts with a number: blanks, a sign, digits, and something that
does not go on with a digit. -/
structure Numeral (string : List UInt8) where
  blanks : List UInt8
  sign : Sign
  digits : List UInt8
  tail : List UInt8
  text : string = blanks ++ (sign.text ++ (digits ++ tail))
  blank : ∀ byte ∈ blanks, isSpace byte = true
  digit : ∀ byte ∈ digits, isDigit byte = true
  nonempty : digits ≠ []
  ends : ∀ byte ∈ tail.head?, isDigit byte = false

/-- The number that was written. -/
def Numeral.number {string : List UInt8} (numeral : Numeral string) : Nat :=
  decimal numeral.digits

theorem isDigit_bounds {byte : UInt8} (digit : isDigit byte = true) :
    48 ≤ byte.toNat ∧ byte.toNat ≤ 57 := by
  simp only [isDigit, Bool.and_eq_true, decide_eq_true_eq, UInt8.le_iff_toNat_le] at digit
  exact digit

/-- A digit is neither blank nor a sign. -/
theorem isDigit_plain {byte : UInt8} (digit : isDigit byte = true) :
    isSpace byte = false ∧ byte ≠ 45 ∧ byte ≠ 43 := by
  have range := isDigit_bounds digit
  have apart : ∀ other : UInt8, other.toNat < 48 → byte ≠ other := by
    intro other low same
    subst same
    omega
  refine ⟨?_, apart 45 (by decide), apart 43 (by decide)⟩
  have high : ¬ byte ≤ 13 := by
    intro low
    have := UInt8.le_iff_toNat_le.mp low
    have thirteen : (13 : UInt8).toNat = 13 := rfl
    omega
  simp [isSpace, apart 32 (by decide), high]

theorem takeSign_text (string : List UInt8) :
    string = (takeSign string).1.text ++ (takeSign string).2 := by
  cases string with
  | nil => rfl
  | cons byte rest =>
      simp only [takeSign]
      split
      · rename_i minus
        rw [minus]
        rfl
      · split
        · rename_i plus
          rw [plus]
          rfl
        · rfl

theorem takeSign_append (sign : Sign) {byte : UInt8} (rest : List UInt8)
    (digit : isDigit byte = true) :
    takeSign (sign.text ++ byte :: rest) = (sign, byte :: rest) := by
  have plain := (isDigit_plain digit).2
  cases sign with
  | absent => simp [Sign.text, takeSign, plain.1, plain.2]
  | plus => simp [Sign.text, takeSign]
  | minus => simp [Sign.text, takeSign]

theorem dropWhile_eq_self {p : UInt8 → Bool} {list : List UInt8}
    (stops : ∀ byte ∈ list.head?, p byte = false) : list.dropWhile p = list := by
  cases list with
  | nil => rfl
  | cons byte rest => simp [stops byte rfl]

theorem takeWhile_eq_nil {p : UInt8 → Bool} {list : List UInt8}
    (stops : ∀ byte ∈ list.head?, p byte = false) : list.takeWhile p = [] := by
  cases list with
  | nil => rfl
  | cons byte rest => simp [stops byte rfl]

theorem dropWhile_head (p : UInt8 → Bool) (list : List UInt8) :
    ∀ byte ∈ (list.dropWhile p).head?, p byte = false := by
  intro byte found
  have stops := List.head?_dropWhile_not p list
  rw [Option.mem_def.mp found] at stops
  exact stops

section Scan

variable {string : List UInt8}

/-- The parts of a numeral are what the reader finds, one after the other. -/
theorem Numeral.parts (numeral : Numeral string) :
    string.takeWhile isSpace = numeral.blanks ∧
      takeSign (string.dropWhile isSpace) = (numeral.sign, numeral.digits ++ numeral.tail) ∧
      (numeral.digits ++ numeral.tail).takeWhile isDigit = numeral.digits ∧
      (numeral.digits ++ numeral.tail).dropWhile isDigit = numeral.tail := by
  obtain ⟨blanks, sign, digits, tail, text, blank, digit, nonempty, ends⟩ := numeral
  dsimp only
  cases digits with
  | nil => exact absurd rfl nonempty
  | cons first rest =>
      have plain := isDigit_plain (digit first (by simp))
      have starts : ∀ byte ∈ (sign.text ++ (first :: rest ++ tail)).head?,
          isSpace byte = false := by
        cases sign with
        | absent => simp [Sign.text, plain.1]
        | plus => simp [Sign.text, isSpace]
        | minus => simp [Sign.text, isSpace]
      refine ⟨?_, ?_, ?_, ?_⟩
      · rw [text, List.takeWhile_append_of_pos blank, takeWhile_eq_nil starts, List.append_nil]
      · rw [text, List.dropWhile_append_of_pos blank, dropWhile_eq_self starts]
        exact takeSign_append sign _ (digit first (by simp))
      · rw [List.takeWhile_append_of_pos digit, takeWhile_eq_nil ends, List.append_nil]
      · rw [List.dropWhile_append_of_pos digit, dropWhile_eq_self ends]

/-- A string starts with a number in one way only. -/
theorem Numeral.unique (first second : Numeral string) : first = second := by
  obtain ⟨blanks, signs, digits, tails⟩ := first.parts
  obtain ⟨blanks', signs', digits', tails'⟩ := second.parts
  have signed := signs.symm.trans signs'
  have sameBlanks := blanks.symm.trans blanks'
  have sameSign := congrArg Prod.fst signed
  have sameRest := congrArg Prod.snd signed
  dsimp only at sameSign sameRest
  have sameDigits : first.digits = second.digits := by
    rw [← digits, ← digits', sameRest]
  have sameTail : first.tail = second.tail := by
    rw [← tails, ← tails', sameRest]
  cases first
  cases second
  dsimp only at sameBlanks sameSign sameDigits sameTail
  subst sameBlanks sameSign sameDigits sameTail
  rfl

/-- A numeral is read as it is written. -/
theorem Numeral.scan (numeral : Numeral string) :
    scanLuC string = some (numeral.sign.strtoul numeral.number, numeral.tail.head?) := by
  obtain ⟨_, signs, digits, tails⟩ := numeral.parts
  unfold scanLuC
  simp only [signs, digits, tails]
  rw [if_neg numeral.nonempty]
  rfl

/-- What is read as a number is a numeral. -/
theorem exists_numeral {result : UInt64 × Option UInt8} (read : scanLuC string = some result) :
    Nonempty (Numeral string) := by
  have text := takeSign_text (string.dropWhile isSpace)
  unfold scanLuC at read
  dsimp only at read
  split at read
  · exact absurd read nofun
  · rename_i nonempty
    refine ⟨string.takeWhile isSpace, (takeSign (string.dropWhile isSpace)).1,
      (takeSign (string.dropWhile isSpace)).2.takeWhile isDigit,
      (takeSign (string.dropWhile isSpace)).2.dropWhile isDigit, ?_,
      fun _ found => List.mem_takeWhile_imp found, fun _ found => List.mem_takeWhile_imp found,
      nonempty, dropWhile_head _ _⟩
    rw [List.takeWhile_append_dropWhile, ← text, List.takeWhile_append_dropWhile]

theorem scan_eq_none (none : ¬ Nonempty (Numeral string)) : scanLuC string = .none := by
  cases read : scanLuC string with
  | none => rfl
  | some result => exact absurd (exists_numeral read) none

end Scan

/-- A number that fits is read exactly when no minus stands before it. -/
theorem Sign.strtoul_toNat {sign : Sign} {number : Nat} (plain : sign ≠ .minus)
    (small : number < 2 ^ 64) : (sign.strtoul number).toNat = number := by
  rw [Sign.strtoul, if_neg (by omega), if_neg plain]
  exact Nat.mod_eq_of_lt small

end CScan
