import Mathlib.Algebra.Order.Floor.Semifield
import Mathlib.Data.Rat.Floor
import TrafficLimitd.LimiterDelay

set_option autoImplicit false

/- The delays as exact rational numbers, rounded half up. -/
namespace TrafficLimitd.Limiter

/-- The quotient of `amount` by `rate` over the rationals, rounded to the nearest and half
of it upwards. -/
def exactDelay (amount rate : Nat) : Nat := ⌊(amount : ℚ) / rate + 1 / 2⌋₊

/-- The truncated half of an odd rate is as good as the exact half: the sum that is divided
lies half a unit below, and no multiple of the rate lies in between. -/
theorem rounded_eq_double (amount rate : Nat) :
    rounded amount rate = (2 * amount + rate) / (2 * rate) := by
  have halves : (2 * amount + rate) / 2 = amount + rate / 2 := by omega
  rw [rounded, ← halves, Nat.div_div_eq_div_mul]

theorem exactDelay_eq (amount rate : Nat) (positive : 0 < rate) :
    exactDelay amount rate = rounded amount rate := by
  have nonzero : (rate : ℚ) ≠ 0 := Nat.cast_ne_zero.mpr (Nat.ne_of_gt positive)
  have common : (amount : ℚ) / rate + 1 / 2 =
      ((2 * amount + rate : Nat) : ℚ) / ((2 * rate : Nat) : ℚ) := by
    push_cast
    field_simp
  rw [exactDelay, common, Nat.floor_div_natCast, Nat.floor_natCast, rounded_eq_double]

/-- A longer packet is never delayed for less. -/
theorem rounded_mono {small large : Nat} (rate : Nat) (order : small ≤ large) :
    rounded small rate ≤ rounded large rate :=
  Nat.div_le_div_right (Nat.add_le_add_right order _)

theorem delayNs_mono (limit : RateLimit) {short long : UInt32} (order : short ≤ long) :
    delayNs limit short ≤ delayNs limit long := by
  rw [UInt32.le_iff_toNat_le] at order
  have byte := rounded_mono limit.byteRate.toNat (Nat.mul_le_mul_right 1000000000 order)
  rw [UInt64.le_iff_toNat_le, delayNs_toNat, delayNs_toNat, delayNsByte_toNat, delayNsByte_toNat]
  omega

/-- The steps of the computation in 64-bit words: nothing under the division
wraps, nothing is divided by zero, and the sentinel gets what the division would give. -/
structure ExactSteps (limit : RateLimit) (len : UInt32) : Prop where
  product : (len.toUInt64 * nsPerSec).toNat = len.toNat * 1000000000
  byteSum : (len.toUInt64 * nsPerSec + limit.byteRate / 2).toNat =
    len.toNat * 1000000000 + limit.byteRate.toNat / 2
  pktSum : (nsPerSec + limit.packetRate / 2).toNat = 1000000000 + limit.packetRate.toNat / 2
  divisors : 0 < limit.byteRate.toNat ∧ 0 < limit.packetRate.toNat
  byteFormula : delayNsByte limit len =
    (len.toUInt64 * nsPerSec + limit.byteRate / 2) / limit.byteRate
  pktFormula : delayNsPkt limit = (nsPerSec + limit.packetRate / 2) / limit.packetRate

theorem exactSteps (limit : RateLimit) (len : UInt32)
    (byteRate : limit.byteRate ≠ 0) (packetRate : limit.packetRate ≠ 0) :
    ExactSteps limit len where
  product := by
    have lenBound := len.toNat_lt
    simp only [UInt64.toNat_mul, UInt32.toNat_toUInt64,
      show nsPerSec.toNat = 1000000000 from rfl]
    omega
  byteSum := byteSum_toNat len limit.byteRate
  pktSum := pktSum_toNat limit.packetRate
  divisors := ⟨toNat_ne_zero byteRate, toNat_ne_zero packetRate⟩
  byteFormula := by
    apply UInt64.toNat_inj.mp
    rw [delayNsByte_toNat, UInt64.toNat_div, byteSum_toNat, rounded]
  pktFormula := by
    apply UInt64.toNat_inj.mp
    rw [delayNsPkt_toNat, UInt64.toNat_div, pktSum_toNat, rounded]

/-- The delay of a packet is the larger of the two exact delays, for every length and all
rates that are not zero; it never shrinks with the length and never grows with a rate. -/
theorem delay_exact (limit : RateLimit) (len : UInt32)
    (byteRate : limit.byteRate ≠ 0) (packetRate : limit.packetRate ≠ 0) :
    (delayNs limit len).toNat =
        max (exactDelay (len.toNat * 1000000000) limit.byteRate.toNat)
          (exactDelay 1000000000 limit.packetRate.toNat) ∧
      ExactSteps limit len ∧
      (∀ longer : UInt32, len ≤ longer → delayNs limit len ≤ delayNs limit longer) ∧
      (∀ rate : UInt64, limit.byteRate ≤ rate →
        delayNs { limit with byteRate := rate } len ≤ delayNs limit len) ∧
      (∀ rate : UInt64, limit.packetRate ≤ rate →
        delayNs { limit with packetRate := rate } len ≤ delayNs limit len) := by
  refine ⟨?_, exactSteps limit len byteRate packetRate, ?_, ?_, ?_⟩
  · rw [exactDelay_eq _ _ (toNat_ne_zero byteRate), exactDelay_eq _ _ (toNat_ne_zero packetRate),
      delayNs_toNat, delayNsByte_toNat, delayNsPkt_toNat, Nat.max_comm]
  · intro longer order
    exact delayNs_mono limit order
  · intro rate higher
    exact delayNs_anti len byteRate packetRate higher (UInt64.le_refl _)
  · intro rate higher
    exact delayNs_anti len byteRate packetRate (UInt64.le_refl _) higher

/-- An odd rate of three bytes a second and the longest packet. -/
theorem delay_exact_odd :
    (delayNs ⟨3, rateUnlimited⟩ 4294967295).toNat =
      max (exactDelay (4294967295 * 1000000000) 3) (exactDelay 1000000000 18446744073709551615) :=
  (delay_exact ⟨3, rateUnlimited⟩ 4294967295 (by decide) (by decide)).1

end TrafficLimitd.Limiter
