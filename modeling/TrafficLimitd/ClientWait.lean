import TrafficLimitd.ClientOptions

set_option autoImplicit false

/- The wait option: from its text to the flag of the request and the alarm. -/
namespace TrafficLimitd.Client

open CScan

/-- The suffixes of the usage text, after the numeral. -/
def timeUnit : Option UInt8 → Option Nat
  | none => some 1
  | some letter =>
      if letter = 'd'.toUInt8 ∨ letter = 'D'.toUInt8 then some 86400
      else if letter = 'h'.toUInt8 ∨ letter = 'H'.toUInt8 then some 3600
      else if letter = 'm'.toUInt8 ∨ letter = 'M'.toUInt8 then some 60
      else none

/-- The request carries `RATE_LIMIT_REQ_NOWAIT`. -/
def CarriesNowait (options : Options) : Prop := reqAttrFlags options &&& reqNowait ≠ 0

/-- What the usage text says of a number of seconds. -/
def AsksFor (options : Options) (seconds : Nat) : Prop :=
  options.waitTime.toInt = seconds ∧
  (0 < options.waitTime →
    (alarmSeconds options).map UInt32.toNat = some seconds ∧ ¬ CarriesNowait options) ∧
  (options.waitTime = 0 → CarriesNowait options)

/-- The usage text: a number of seconds is waited for, 0 means not to wait, and
without the option there is no bound. -/
def WaitHonoured (opts : List Opt) (options : Options) : Prop :=
  match lastArg Opt.waitArg opts with
  | none => alarmSeconds options = none ∧ ¬ CarriesNowait options
  | some arg => ∀ (numeral : Numeral arg) (unit : Nat), timeUnit numeral.tail.head? = some unit →
      AsksFor options (numeral.number * unit)

/-- The option is given, with a number of seconds that is positive and below 2^32. -/
def ModestWait (opts : List Opt) : Prop :=
  ∃ (arg : List UInt8) (numeral : Numeral arg) (unit : Nat),
    lastArg Opt.waitArg opts = some arg ∧ timeUnit numeral.tail.head? = some unit ∧
      0 < numeral.number * unit ∧ numeral.number * unit < 2 ^ 32

theorem timeUnit_bounds {suffix : Option UInt8} {unit : Nat} (known : timeUnit suffix = some unit) :
    0 < unit ∧ unit < 2 ^ 64 := by
  cases suffix with
  | none =>
      cases known
      decide
  | some letter =>
      simp only [timeUnit] at known
      repeat' split at known
      all_goals cases known
      all_goals decide

theorem multiplierOf_time (suffix : Option UInt8) :
    multiplierOf timeMultiplier suffix = (timeUnit suffix).map UInt64.ofNat := by
  cases suffix with
  | none => rfl
  | some letter =>
      simp only [multiplierOf, timeMultiplier, timeUnit]
      repeat' split
      all_goals rfl

/-- A word as the `int64_t` with the same bits. -/
theorem toInt64_toInt (word : UInt64) :
    word.toInt64.toInt =
      if word.toNat < 2 ^ 63 then (word.toNat : Int) else (word.toNat : Int) - 2 ^ 64 := by
  have same : word.toBitVec.toNat = word.toNat := rfl
  change word.toBitVec.toInt = _
  rw [BitVec.toInt_eq_toNat_cond, same]
  split <;> split <;> omega

theorem toInt64_neg_iff (word : UInt64) : word.toInt64 < 0 ↔ 2 ^ 63 ≤ word.toNat := by
  have bound := word.toNat_lt
  rw [Int64.lt_iff_toInt_lt, toInt64_toInt]
  change (if word.toNat < 2 ^ 63 then (word.toNat : Int) else _) < 0 ↔ _
  split <;> omega

section Wait

variable {arg : List UInt8} {options : Options}

/-- What `parseTime` stores for the numeral that it accepts. -/
theorem parseTime_numeral {time : Int64} (accepted : parseTime arg 0 = (.ok, time)) :
    ∃ (numeral : Numeral arg) (unit : Nat), timeUnit numeral.tail.head? = some unit ∧
      (numeral.sign.strtoul numeral.number).toNat < 2 ^ 63 ∧
      time = (numeral.sign.strtoul numeral.number * UInt64.ofNat unit).toInt64 := by
  cases read : scanLuC arg with
  | none => simp [parseTime, read] at accepted
  | some result =>
      obtain ⟨numeral⟩ := exists_numeral read
      unfold parseTime at accepted
      simp only [numeral.scan, multiplierOf_time] at accepted
      split at accepted
      · exact absurd accepted nofun
      · rename_i positive
        rw [toInt64_neg_iff] at positive
        cases known : timeUnit numeral.tail.head? with
        | none => simp [known] at accepted
        | some unit =>
            rw [known] at accepted
            exact ⟨numeral, unit, known, by omega, (congrArg Prod.snd accepted).symm⟩

/-- A small accepted number has no minus before it. -/
theorem strtoul_of_small {sign : Sign} {number : Nat} (positive : 0 < number)
    (small : number < 2 ^ 32) (accepted : (sign.strtoul number).toNat < 2 ^ 63) :
    (sign.strtoul number).toNat = number := by
  by_cases minus : sign = .minus
  · rw [Sign.strtoul, if_neg (by omega), if_pos minus, UInt64.toNat_neg, UInt64.toNat_ofNat',
      Nat.mod_eq_of_lt (a := number) (by omega)] at accepted
    change (2 ^ 64 - number) % 2 ^ 64 < 2 ^ 63 at accepted
    omega
  · exact Sign.strtoul_toNat minus (by omega)

theorem carriesNowait_iff : CarriesNowait options ↔ options.waitTime < 0 := by
  unfold CarriesNowait reqAttrFlags
  split
  · rename_i negative
    exact ⟨fun _ => negative, fun _ => by decide⟩
  · rename_i positive
    exact ⟨fun carried => absurd rfl carried, fun negative => absurd negative positive⟩

/-- The number of seconds, when it is positive and below 2^32. -/
theorem waitTime_of_modest {number unit : Nat} {word : UInt64} (value : word.toNat = number)
    (bound : unit < 2 ^ 64) (positive : 0 < number * unit) (small : number * unit < 2 ^ 32)
    (set : options.waitTime = (word * UInt64.ofNat unit).toInt64) :
    options.waitTime.toInt = (number * unit : Nat) ∧
      (alarmSeconds options).map UInt32.toNat = some (number * unit) ∧ 0 < options.waitTime := by
  have product : (word * UInt64.ofNat unit).toNat = number * unit := by
    rw [UInt64.toNat_mul, value, UInt64.toNat_ofNat', Nat.mod_eq_of_lt bound]
    exact Nat.mod_eq_of_lt (by omega)
  have exact : options.waitTime.toInt = (number * unit : Nat) := by
    rw [set, toInt64_toInt, product, if_pos (by omega)]
  have later : 0 < options.waitTime := by
    rw [Int64.lt_iff_toInt_lt, exact]
    change (0 : Int) < _
    omega
  refine ⟨exact, ?_, later⟩
  rw [alarmSeconds, if_pos later, set, UInt64.toUInt64_toInt64]
  change some (word * UInt64.ofNat unit).toUInt32.toNat = _
  rw [UInt64.toNat_toUInt32, product, Nat.mod_eq_of_lt small]

/-- Zero and negative values end with the wrong flag, so the alarm was set. -/
theorem AsksFor.modest {seconds : Nat} (asks : AsksFor options seconds) :
    0 < seconds ∧ seconds < 2 ^ 32 := by
  obtain ⟨exact, waits, refuses⟩ := asks
  have order : ¬ options.waitTime < 0 := by
    rw [Int64.lt_iff_toInt_lt, exact]
    change ¬ _ < (0 : Int)
    omega
  have some : options.waitTime ≠ 0 := by
    intro zero
    exact order (carriesNowait_iff.mp (refuses zero))
  have later : 0 < options.waitTime := by
    apply Int64.lt_of_le_of_ne (Int64.not_lt.mp order)
    exact some.symm
  have armed := (waits later).1
  rw [alarmSeconds, if_pos later] at armed
  rw [Int64.lt_iff_toInt_lt, exact] at later
  change (0 : Int) < _ at later
  constructor
  · omega
  · rw [← Option.some.inj armed]
    exact options.waitTime.toUInt64.toUInt32.toNat_lt

theorem asksFor_of_modest {sign : Sign} {number unit : Nat} {suffix : Option UInt8}
    (known : timeUnit suffix = some unit) (positive : 0 < number * unit)
    (small : number * unit < 2 ^ 32) (accepted : (sign.strtoul number).toNat < 2 ^ 63)
    (set : options.waitTime = (sign.strtoul number * UInt64.ofNat unit).toInt64) :
    AsksFor options (number * unit) := by
  have bounds := timeUnit_bounds known
  have below : number ≤ number * unit := Nat.le_mul_of_pos_right _ bounds.1
  have first : 0 < number := Nat.pos_of_mul_pos_right positive
  have value := strtoul_of_small first (by omega) accepted
  obtain ⟨exact, armed, later⟩ := waitTime_of_modest value bounds.2 positive small set
  refine ⟨exact, fun _ => ⟨armed, ?_⟩, ?_⟩
  · rw [carriesNowait_iff]
    exact Int64.lt_asymm later
  · intro zero
    rw [zero] at later
    exact absurd later (by decide)

end Wait

/-- The wait option means what the usage text says exactly when it is given and asks
for a positive number of seconds that `alarm` can take. -/
theorem wait_honoured_iff (opts : List Opt) (options : Options)
    (parsed : parseOptions opts = .ok options) : WaitHonoured opts options ↔ ModestWait opts := by
  unfold WaitHonoured
  cases given : lastArg Opt.waitArg opts with
  | none =>
      have initial := (parseOptions_waitTime parsed).1 given
      constructor
      · intro honoured
        have negative : options.waitTime < 0 := by
          rw [initial]
          decide
        exact absurd (carriesNowait_iff.mpr negative) honoured.2
      · rintro ⟨arg, _, _, found, _⟩
        rw [given] at found
        cases found
  | some arg =>
      have accepted := (parseOptions_waitTime parsed).2 arg given
      obtain ⟨numeral, unit, known, nonnegative, set⟩ := parseTime_numeral accepted
      constructor
      · intro honoured
        exact ⟨arg, numeral, unit, given, known, (honoured numeral unit known).modest⟩
      · rintro ⟨other, again, unit', found, known', positive, small⟩ numeral' unit'' known''
        rw [given] at found
        cases found
        rw [again.unique numeral] at known' positive small
        rw [numeral'.unique numeral] at known'' ⊢
        rw [known] at known' known''
        cases known'
        cases known''
        exact asksFor_of_modest known positive small nonnegative set

theorem wait_honoured_iff_twoMinutes :
    WaitHonoured [.wait "2m".toUTF8.toList] ⟨0, 0, 120⟩ := by
  have parsed : parseOptions [.wait "2m".toUTF8.toList] = .ok ⟨0, 0, 120⟩ := by decide +kernel
  apply (wait_honoured_iff _ _ parsed).mpr
  exact ⟨"2m".toUTF8.toList, ⟨[], .absent, [50], [109], by decide +kernel, by decide +kernel,
    by decide +kernel, by decide, by decide +kernel⟩, 60, by decide +kernel, by decide, by decide,
    by decide⟩

/-- Without the option the request says not to wait; with 0 it does not; and 2^32
seconds arm no alarm. -/
theorem wait_flag_reversed :
    (parseOptions [] = .ok .initial ∧ CarriesNowait .initial ∧ ¬ WaitHonoured [] .initial) ∧
    (parseOptions [.wait "0".toUTF8.toList] = .ok ⟨0, 0, 0⟩ ∧ ¬ CarriesNowait ⟨0, 0, 0⟩ ∧
      ¬ WaitHonoured [.wait "0".toUTF8.toList] ⟨0, 0, 0⟩) ∧
    (parseOptions [.wait "4294967296".toUTF8.toList] = .ok ⟨0, 0, 4294967296⟩ ∧
      alarmSeconds ⟨0, 0, 4294967296⟩ = some 0) := by
  have unflagged : ¬ CarriesNowait ⟨0, 0, 0⟩ := by
    rw [carriesNowait_iff]
    decide
  have flagged : CarriesNowait .initial := carriesNowait_iff.mpr (by decide)
  refine ⟨⟨rfl, flagged, fun honoured => honoured.2 flagged⟩,
    ⟨by decide +kernel, unflagged, ?_⟩, by decide +kernel, by decide⟩
  intro honoured
  have last : lastArg Opt.waitArg [.wait "0".toUTF8.toList] = some [48] := by decide +kernel
  rw [WaitHonoured, last] at honoured
  have parts := honoured ⟨[], .absent, [48], [], rfl, by decide +kernel, by decide +kernel,
    by decide, by decide +kernel⟩ 1 rfl
  exact unflagged (parts.2.2 rfl)

end TrafficLimitd.Client
