import TrafficLimitd.ClientOptions
import TrafficLimitd.LimiterDelay

set_option autoImplicit false

/- The rates of the command line: which texts `parseRate` takes for which value, and
what the daemon is asked for. -/
namespace TrafficLimitd.Client

open CScan Limiter

/-- The suffixes of the usage text: none, or one of K, M, G, T in either case. -/
def rateUnit : List UInt8 → Option Nat
  | [] => some 1
  | [letter] =>
      if letter = 'T'.toUInt8 ∨ letter = 't'.toUInt8 then some (10 ^ 12)
      else if letter = 'G'.toUInt8 ∨ letter = 'g'.toUInt8 then some (10 ^ 9)
      else if letter = 'M'.toUInt8 ∨ letter = 'm'.toUInt8 then some (10 ^ 6)
      else if letter = 'K'.toUInt8 ∨ letter = 'k'.toUInt8 then some (10 ^ 3)
      else none
  | _ => none

/-- A decimal numeral, a suffix or none, and nothing else, with the value it stands
for. -/
def RateText (string : List UInt8) (value : Nat) : Prop :=
  ∃ digits suffix unit, string = digits ++ suffix ∧ digits ≠ [] ∧
    (∀ byte ∈ digits, isDigit byte = true) ∧ rateUnit suffix = some unit ∧
    value = decimal digits * unit

/-- `parseRate` takes the string exactly if it is the text of a rate below 2^64, for
its exact value, and otherwise leaves `*out_rate` as it is. -/
def ParsesExactly (string : List UInt8) : Prop :=
  ∀ outRate,
    ((parseRate string outRate).1 = .ok ↔ ∃ value, RateText string value ∧ value < 2 ^ 64) ∧
    (∀ value, RateText string value → value < 2 ^ 64 →
      (parseRate string outRate).2.toNat = value) ∧
    ((parseRate string outRate).1 ≠ .ok → (parseRate string outRate).2 = outRate)

/-- A numeral with blanks or a sign before it, with text after its suffix, or with a
value that takes more than 64 bits. -/
def Stray (string : List UInt8) : Prop :=
  ∃ (numeral : Numeral string) (unit : Nat), rateUnit (numeral.tail.take 1) = some unit ∧
    (numeral.blanks ≠ [] ∨ numeral.sign ≠ .absent ∨ 1 < numeral.tail.length ∨
      2 ^ 64 ≤ numeral.number * unit)

theorem rateUnit_length {suffix : List UInt8} {unit : Nat} (known : rateUnit suffix = some unit) :
    suffix.length ≤ 1 := by
  match suffix, known with
  | [], _ => simp
  | [_], _ => simp
  | _ :: _ :: _, known => simp [rateUnit] at known

theorem rateUnit_bounds {suffix : List UInt8} {unit : Nat} (known : rateUnit suffix = some unit) :
    0 < unit ∧ unit < 2 ^ 64 := by
  match suffix, known with
  | [], known =>
      cases known
      decide
  | [letter], known =>
      simp only [rateUnit] at known
      repeat' split at known
      all_goals cases known
      all_goals decide
  | _ :: _ :: _, known => simp [rateUnit] at known

/-- A suffix does not go on with a digit. -/
theorem rateUnit_ends {suffix : List UInt8} {unit : Nat} (known : rateUnit suffix = some unit) :
    ∀ byte ∈ suffix.head?, isDigit byte = false := by
  match suffix, known with
  | [], _ => simp
  | [letter], known =>
      intro byte same
      cases same
      simp only [rateUnit] at known
      repeat' split at known
      case isFalse => cases known
      all_goals
        rename_i either
        rcases either with rfl | rfl <;> rfl
  | _ :: _ :: _, known => simp [rateUnit] at known

/-- The fall-through switch multiplies by what the usage text says. -/
theorem multiplierOf_rate (tail : List UInt8) :
    multiplierOf rateMultiplier tail.head? = (rateUnit (tail.take 1)).map UInt64.ofNat := by
  cases tail with
  | nil => rfl
  | cons letter rest =>
      simp only [List.head?_cons, List.take_succ_cons, List.take_zero, multiplierOf,
        rateMultiplier, rateUnit]
      repeat' split
      all_goals rfl

section Parse

variable {string : List UInt8} {value : Nat}

theorem parseRate_numeral (numeral : Numeral string) (outRate : UInt64) :
    parseRate string outRate =
      match rateUnit (numeral.tail.take 1) with
      | none => (.invalidSuffix, outRate)
      | some unit => (.ok, numeral.sign.strtoul numeral.number * UInt64.ofNat unit) := by
  unfold parseRate
  simp only [numeral.scan, multiplierOf_rate]
  cases rateUnit (numeral.tail.take 1) <;> rfl

theorem parseRate_no_numeral (absent : ¬ Nonempty (Numeral string)) (outRate : UInt64) :
    parseRate string outRate = (.invalid, outRate) := by
  unfold parseRate
  rw [scan_eq_none absent]

/-- The text of a rate is a numeral with nothing around it but its suffix. -/
theorem RateText.numeral (text : RateText string value) :
    ∃ (numeral : Numeral string) (unit : Nat), numeral.blanks = [] ∧ numeral.sign = .absent ∧
      rateUnit numeral.tail = some unit ∧ value = numeral.number * unit := by
  obtain ⟨digits, suffix, unit, shape, nonempty, digit, known, exact⟩ := text
  refine ⟨⟨[], .absent, digits, suffix, shape, nofun, digit, nonempty, rateUnit_ends known⟩,
    unit, rfl, rfl, known, exact⟩

/-- The value of the text of a rate, read off its numeral. -/
theorem RateText.value_eq (text : RateText string value) (numeral : Numeral string) :
    ∃ unit, rateUnit (numeral.tail.take 1) = some unit ∧ value = numeral.number * unit := by
  obtain ⟨other, unit, _, _, known, exact⟩ := text.numeral
  rw [other.unique numeral] at known exact
  refine ⟨unit, ?_, exact⟩
  rw [List.take_of_length_le (rateUnit_length known)]
  exact known

/-- The text of a rate is no stray one unless its value is too large. -/
theorem RateText.not_stray (text : RateText string value) (small : value < 2 ^ 64) :
    ¬ Stray string := by
  obtain ⟨numeral, unit, noBlanks, noSign, known, exact⟩ := text.numeral
  have short := rateUnit_length known
  rintro ⟨other, unit', known', odd⟩
  rw [other.unique numeral] at known' odd
  rw [List.take_of_length_le short, known] at known'
  cases known'
  rcases odd with blanks | sign | long | large
  · exact blanks noBlanks
  · exact sign noSign
  · omega
  · omega

/-- A numeral with a suffix that is not stray is the text of a rate. -/
theorem rateText_of_not_stray (plain : ¬ Stray string) (numeral : Numeral string) {unit : Nat}
    (known : rateUnit (numeral.tail.take 1) = some unit) :
    numeral.sign = .absent ∧ numeral.number * unit < 2 ^ 64 ∧
      RateText string (numeral.number * unit) := by
  have blanks : numeral.blanks = [] := by
    by_contra some
    exact plain ⟨numeral, unit, known, .inl some⟩
  have sign : numeral.sign = .absent := by
    by_contra some
    exact plain ⟨numeral, unit, known, .inr (.inl some)⟩
  have short : numeral.tail.length ≤ 1 := by
    by_contra long
    exact plain ⟨numeral, unit, known, .inr (.inr (.inl (by omega)))⟩
  have small : numeral.number * unit < 2 ^ 64 := by
    by_contra large
    exact plain ⟨numeral, unit, known, .inr (.inr (.inr (by omega)))⟩
  rw [List.take_of_length_le short] at known
  refine ⟨sign, small, numeral.digits, numeral.tail, unit, ?_, numeral.nonempty, numeral.digit,
    known, rfl⟩
  have text := numeral.text
  rw [blanks, sign] at text
  exact text

/-- An unsigned numeral that fits is multiplied exactly. -/
theorem strtoul_mul_toNat {number unit : Nat} (small : number * unit < 2 ^ 64)
    (positive : 0 < unit) (bound : unit < 2 ^ 64) :
    (Sign.absent.strtoul number * UInt64.ofNat unit).toNat = number * unit := by
  have fits : number < 2 ^ 64 := Nat.lt_of_le_of_lt (Nat.le_mul_of_pos_right _ positive) small
  rw [UInt64.toNat_mul, Sign.strtoul_toNat (by decide) fits, UInt64.toNat_ofNat',
    Nat.mod_eq_of_lt bound, Nat.mod_eq_of_lt small]

/-- A refusal is right for what is not the text of a rate. -/
theorem parsesExactly_of_refused (code : ParseSuffixResult) (failed : code ≠ .ok)
    (refused : ∀ outRate, parseRate string outRate = (code, outRate))
    (none : ∀ value, ¬ RateText string value) : ParsesExactly string := by
  intro outRate
  rw [refused outRate]
  refine ⟨⟨fun accepted => absurd accepted failed, ?_⟩, ?_, fun _ => rfl⟩
  · rintro ⟨value, text, _⟩
    exact absurd text (none value)
  · intro value text
    exact absurd text (none value)

end Parse

/-- A stray numeral is accepted all the same. -/
theorem not_parsesExactly_of_stray {string : List UInt8} (stray : Stray string) :
    ¬ ParsesExactly string := by
  intro parses
  obtain ⟨numeral, unit, known, _⟩ := id stray
  have accepted : (parseRate string 0).1 = .ok := by
    rw [parseRate_numeral numeral, known]
  obtain ⟨value, text, small⟩ := (parses 0).1.mp accepted
  exact text.not_stray small stray

/-- `parseRate` accepts its grammar with the exact value on every string but the stray
ones, and on none of those. -/
theorem parseRate_exact_iff (string : List UInt8) : ParsesExactly string ↔ ¬ Stray string := by
  constructor
  · intro parses stray
    exact not_parsesExactly_of_stray stray parses
  · intro plain
    by_cases numeral : Nonempty (Numeral string)
    · obtain ⟨numeral⟩ := numeral
      cases known : rateUnit (numeral.tail.take 1) with
      | none =>
          refine parsesExactly_of_refused .invalidSuffix nofun (fun outRate => ?_) ?_
          · rw [parseRate_numeral numeral, known]
          · intro value text
            obtain ⟨unit, found, _⟩ := text.value_eq numeral
            cases known.symm.trans found
      | some unit =>
          intro outRate
          obtain ⟨sign, small, text⟩ := rateText_of_not_stray plain numeral known
          have bounds := rateUnit_bounds known
          rw [parseRate_numeral numeral, known, sign]
          refine ⟨⟨fun _ => ⟨_, text, small⟩, fun _ => rfl⟩, ?_, fun failed => absurd rfl failed⟩
          intro value other below
          obtain ⟨unit', found, same⟩ := other.value_eq numeral
          cases known.symm.trans found
          rw [same]
          exact strtoul_mul_toNat small bounds.1 bounds.2
    · refine parsesExactly_of_refused .invalid nofun (parseRate_no_numeral numeral) ?_
      intro value text
      obtain ⟨other, _⟩ := text.numeral
      exact numeral ⟨other⟩

theorem parseRate_exact_iff_tenM :
    RateText "10M".toUTF8.toList 10000000 ∧ ParsesExactly "10M".toUTF8.toList := by
  have text : RateText "10M".toUTF8.toList 10000000 :=
    ⟨[49, 48], [77], 1000000, by decide +kernel, by decide, by decide +kernel, by decide, by decide⟩
  exact ⟨text, (parseRate_exact_iff _).mpr (text.not_stray (by decide))⟩

/-- A negative rate becomes the largest one, a product wraps, and what follows the
suffix is ignored. -/
theorem parseRate_takes_strays :
    parseRate "-1".toUTF8.toList 0 = (.ok, 18446744073709551615) ∧
    parseRate "18446744073709552K".toUTF8.toList 0 = (.ok, 384) ∧
    parseRate "5Kib".toUTF8.toList 0 = (.ok, 5000) ∧
    ¬ ParsesExactly "-1".toUTF8.toList ∧ ¬ ParsesExactly "18446744073709552K".toUTF8.toList ∧
    ¬ ParsesExactly "5Kib".toUTF8.toList := by
  refine ⟨by decide +kernel, by decide +kernel, by decide +kernel, ?_, ?_, ?_⟩
  · apply not_parsesExactly_of_stray
    exact ⟨⟨[], .minus, [49], [], by decide +kernel, by decide +kernel, by decide +kernel,
      by decide, by decide +kernel⟩, 1, rfl, by decide⟩
  · apply not_parsesExactly_of_stray
    exact ⟨⟨[], .absent, "18446744073709552".toUTF8.toList, [75], by decide +kernel,
      by decide +kernel, by decide +kernel, by decide +kernel, by decide +kernel⟩, 1000, rfl,
      by decide +kernel⟩
  · apply not_parsesExactly_of_stray
    exact ⟨⟨[], .absent, [53], [75, 105, 98], by decide +kernel, by decide +kernel,
      by decide +kernel, by decide, by decide +kernel⟩, 1000, rfl, by decide⟩

/-- Which of the two rates an option is about. -/
inductive RateKind
  | bits
  | packets
deriving DecidableEq, Repr

def RateKind.arg : RateKind → Opt → Option (List UInt8)
  | .bits => Opt.bitRateArg
  | .packets => Opt.packetRateArg

def RateKind.rate : RateKind → RateLimit → UInt64
  | .bits, limit => limit.byteRate
  | .packets, limit => limit.packetRate

/-- The limit with this rate and some value for the other one. -/
def RateKind.limit : RateKind → UInt64 → UInt64 → RateLimit
  | .bits, rate, other => ⟨rate, other⟩
  | .packets, rate, other => ⟨other, rate⟩

/-- An accepted command line, the value that `parseRate` gave for its option, and the
limit in the request. -/
def Asked (kind : RateKind) (opts : List Opt) (value : UInt64) (limit : RateLimit) : Prop :=
  ∃ options arg, parseOptions opts = .ok options ∧ lastArg kind.arg opts = some arg ∧
    parseRate arg 0 = (.ok, value) ∧ limit = reqAttrLimit options

/-- A limit that is one, and no more than was asked for. -/
def RealLimit (value : UInt64) (limit : RateLimit) : Prop :=
  limit.byteRate ≠ 0 ∧ limit.byteRate ≠ rateUnlimited ∧ 8 * limit.byteRate.toNat ≤ value.toNat

/-- The second rate is no lower than the first and delays no packet for longer. -/
def RatesOrdered (kind : RateKind) (first second : RateLimit) : Prop :=
  kind.rate first ≤ kind.rate second ∧
    ∀ other len, other ≠ 0 → delayNs (kind.limit (kind.rate second) other) len ≤
      delayNs (kind.limit (kind.rate first) other) len

section Translation

variable {opts : List Opt} {value : UInt64} {limit : RateLimit}

theorem Asked.byteRate (asked : Asked .bits opts value limit) :
    limit.byteRate = if value / 8 = 0 then rateUnlimited else value / 8 := by
  obtain ⟨options, arg, parsed, given, accepted, rfl⟩ := asked
  obtain ⟨rate, again, set⟩ := (parseOptions_byteRate parsed).2 arg given
  rw [accepted] at again
  cases again
  rw [reqAttrLimit, set]

theorem Asked.packetRate (asked : Asked .packets opts value limit) :
    limit.packetRate = if value = 0 then rateUnlimited else value := by
  obtain ⟨options, arg, parsed, given, accepted, rfl⟩ := asked
  have again := (parseOptions_packetRate parsed).2 arg given
  rw [accepted] at again
  cases again
  rfl

theorem eighth_eq_zero : value / 8 = 0 ↔ value < 8 := by
  have eighth : (value / 8).toNat = value.toNat / 8 := UInt64.toNat_div value 8
  have eight : (8 : UInt64).toNat = 8 := rfl
  have zero : (0 : UInt64).toNat = 0 := rfl
  rw [UInt64.lt_iff_toNat_lt, ← UInt64.toNat_inj]
  omega

theorem Asked.realLimit_iff (asked : Asked .bits opts value limit) :
    RealLimit value limit ↔ 8 ≤ value := by
  have eight : (8 : UInt64).toNat = 8 := rfl
  unfold RealLimit
  rw [asked.byteRate]
  split
  · rename_i none
    have small := eighth_eq_zero.mp none
    rw [UInt64.lt_iff_toNat_lt] at small
    rw [UInt64.le_iff_toNat_le]
    constructor
    · intro real
      exact absurd rfl real.2.1
    · omega
  · rename_i some
    have large := eighth_eq_zero.not.mp some
    rw [UInt64.lt_iff_toNat_lt] at large
    have bound := value.toNat_lt
    have eighth : (value / 8).toNat = value.toNat / 8 := UInt64.toNat_div value 8
    refine ⟨fun _ => UInt64.le_iff_toNat_le.mpr (by omega), fun _ => ⟨some, ?_, by omega⟩⟩
    intro unlimited
    have same := congrArg UInt64.toNat unlimited
    rw [eighth, rateUnlimited_toNat] at same
    omega

/-- Rates in order delay packets in the reverse order. -/
theorem ratesOrdered_of_le {kind : RateKind} {first second : RateLimit}
    (nonzero : kind.rate first ≠ 0) (order : kind.rate first ≤ kind.rate second) :
    RatesOrdered kind first second := by
  refine ⟨order, fun other len some => ?_⟩
  cases kind with
  | bits => exact delayNs_anti len nonzero some order (UInt64.le_refl other)
  | packets => exact delayNs_anti len some nonzero (UInt64.le_refl other) order

end Translation

/-- A positive rate of the command line becomes a limit that keeps it, and the order of
rates is kept, exactly if a bit rate is at least one byte a second. -/
theorem rates_translated_iff (kind : RateKind) (low high : List Opt) (lowValue highValue : UInt64)
    (lowLimit highLimit : RateLimit) (lowAsked : Asked kind low lowValue lowLimit)
    (highAsked : Asked kind high highValue highLimit)
    (positive : 0 < lowValue) (order : lowValue ≤ highValue) :
    ((kind = .bits → RealLimit lowValue lowLimit ∧ RealLimit highValue highLimit) ∧
        RatesOrdered kind lowLimit highLimit) ↔
      (kind = .bits → 8 ≤ lowValue) := by
  cases kind with
  | packets =>
      refine ⟨fun _ => nofun, fun _ => ⟨nofun, ?_⟩⟩
      have lowPositive : lowValue ≠ 0 := (UInt64.ne_of_lt positive).symm
      have highPositive : highValue ≠ 0 := (UInt64.ne_of_lt (UInt64.lt_of_lt_of_le positive order)).symm
      have lowRate := lowAsked.packetRate
      have highRate := highAsked.packetRate
      rw [if_neg lowPositive] at lowRate
      rw [if_neg highPositive] at highRate
      apply ratesOrdered_of_le
      · change lowLimit.packetRate ≠ 0
        rw [lowRate]
        exact lowPositive
      · change lowLimit.packetRate ≤ highLimit.packetRate
        rw [lowRate, highRate]
        exact order
  | bits =>
      rw [lowAsked.realLimit_iff, highAsked.realLimit_iff]
      refine ⟨fun kept _ => (kept.1 rfl).1, fun enough => ?_⟩
      have lowEnough := enough rfl
      have highEnough := UInt64.le_trans lowEnough order
      have lowRate := lowAsked.byteRate
      have highRate := highAsked.byteRate
      rw [if_neg (eighth_eq_zero.not.mpr (UInt64.not_lt.mpr lowEnough))] at lowRate
      rw [if_neg (eighth_eq_zero.not.mpr (UInt64.not_lt.mpr highEnough))] at highRate
      refine ⟨fun _ => ⟨lowEnough, highEnough⟩, ?_⟩
      apply ratesOrdered_of_le
      · change lowLimit.byteRate ≠ 0
        rw [lowRate]
        exact eighth_eq_zero.not.mpr (UInt64.not_lt.mpr lowEnough)
      · change lowLimit.byteRate ≤ highLimit.byteRate
        rw [lowRate, highRate, UInt64.le_iff_toNat_le, UInt64.toNat_div, UInt64.toNat_div]
        exact Nat.div_le_div_right (UInt64.le_iff_toNat_le.mp order)

theorem rates_translated_iff_kilobit :
    RealLimit 8000 (reqAttrLimit ⟨0, 1000, -1⟩) ∧
      RatesOrdered .bits (reqAttrLimit ⟨0, 1000, -1⟩) (reqAttrLimit ⟨0, 125000, -1⟩) := by
  have low : Asked .bits [.bitRate "8K".toUTF8.toList] 8000 (reqAttrLimit ⟨0, 1000, -1⟩) :=
    ⟨⟨0, 1000, -1⟩, "8K".toUTF8.toList, by decide +kernel, by decide +kernel, by decide +kernel,
      rfl⟩
  have high : Asked .bits [.bitRate "1m".toUTF8.toList] 1000000 (reqAttrLimit ⟨0, 125000, -1⟩) :=
    ⟨⟨0, 125000, -1⟩, "1m".toUTF8.toList, by decide +kernel, by decide +kernel,
      by decide +kernel, rfl⟩
  have kept := (rates_translated_iff .bits _ _ 8000 1000000 _ _ low high (by decide)
    (by decide)).mpr (by decide)
  exact ⟨(kept.1 rfl).1, kept.2⟩

/-- Seven bits a second are sent as no limit, eight as one byte a second. -/
theorem slow_bit_rate_unlimited :
    Asked .bits [.bitRate "7".toUTF8.toList] 7 (reqAttrLimit ⟨0, 0, -1⟩) ∧
    Asked .bits [.bitRate "8".toUTF8.toList] 8 (reqAttrLimit ⟨0, 1, -1⟩) ∧
    (reqAttrLimit ⟨0, 0, -1⟩).byteRate = rateUnlimited ∧
    ¬ RealLimit 7 (reqAttrLimit ⟨0, 0, -1⟩) ∧
    ¬ RatesOrdered .bits (reqAttrLimit ⟨0, 0, -1⟩) (reqAttrLimit ⟨0, 1, -1⟩) := by
  refine ⟨⟨⟨0, 0, -1⟩, "7".toUTF8.toList, by decide +kernel, by decide +kernel, by decide +kernel,
    rfl⟩, ⟨⟨0, 1, -1⟩, "8".toUTF8.toList, by decide +kernel, by decide +kernel,
    by decide +kernel, rfl⟩, rfl, ?_, ?_⟩
  · intro real
    exact real.2.1 rfl
  · intro ordered
    exact absurd ordered.1 (by decide)

end TrafficLimitd.Client
