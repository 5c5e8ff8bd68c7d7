import TrafficLimitd.LimiterProgram

set_option autoImplicit false

namespace TrafficLimitd.Limiter

/-- A rounding division: the quotient of `amount` by `rate` to the nearest. -/
def rounded (amount rate : Nat) : Nat := (amount + rate / 2) / rate

/-- A rounded quotient misses the exact one by at most one half. -/
theorem rounded_pays (amount rate : Nat) (positive : 0 < rate) :
    2 * amount ≤ rate * (2 * rounded amount rate + 1) := by
  have split := Nat.div_add_mod (amount + rate / 2) rate
  have remainder := Nat.mod_lt (amount + rate / 2) positive
  have scaled : rate * (2 * rounded amount rate + 1) =
      2 * (rate * ((amount + rate / 2) / rate)) + rate := by
    rw [rounded, Nat.mul_add, Nat.mul_one, Nat.mul_left_comm]
  rw [scaled]
  omega

theorem rounded_le (amount rate : Nat) (positive : 0 < rate) :
    rounded amount rate ≤ amount + 1 := by
  have half : rate / 2 ≤ rate := Nat.div_le_self rate 2
  calc rounded amount rate
      ≤ (amount * rate + rate) / rate := by
        apply Nat.div_le_div_right
        have := Nat.le_mul_of_pos_right amount positive
        omega
    _ = amount + 1 := by
        rw [← Nat.succ_mul, Nat.mul_div_cancel _ positive]

/-- A higher rate never gives a longer rounded quotient. -/
theorem rounded_anti (amount : Nat) {low high : Nat} (positive : 0 < low) (order : low ≤ high) :
    rounded amount high ≤ rounded amount low := by
  unfold rounded
  rw [Nat.le_div_iff_mul_le positive]
  have quotient := Nat.div_mul_le_self (amount + high / 2) high
  by_cases none : (amount + high / 2) / high = 0
  · rw [none]
    omega
  · -- Each unit of the quotient costs the whole difference of the rates.
    have gap : high - low ≤ (amount + high / 2) / high * (high - low) :=
      Nat.le_mul_of_pos_left _ (Nat.pos_of_ne_zero none)
    rw [Nat.mul_sub] at gap
    have smaller := Nat.mul_le_mul_left ((amount + high / 2) / high) order
    omega

theorem toNat_ne_zero {word : UInt64} (nonzero : word ≠ 0) : 0 < word.toNat := by
  apply Nat.pos_of_ne_zero
  intro zero
  exact nonzero (UInt64.toNat_inj.mp zero)

/-- The sum and the product under the division do not wrap, for any packet
length and any rate. -/
theorem byteSum_toNat (len : UInt32) (rate : UInt64) :
    (len.toUInt64 * nsPerSec + rate / 2).toNat = len.toNat * 1000000000 + rate.toNat / 2 := by
  have lenBound := len.toNat_lt
  have rateBound := rate.toNat_lt
  simp only [UInt64.toNat_add, UInt64.toNat_mul, UInt64.toNat_div, UInt32.toNat_toUInt64,
    show nsPerSec.toNat = 1000000000 from rfl, show (2 : UInt64).toNat = 2 from rfl]
  omega

theorem pktSum_toNat (rate : UInt64) :
    (nsPerSec + rate / 2).toNat = 1000000000 + rate.toNat / 2 := by
  have rateBound := rate.toNat_lt
  simp only [UInt64.toNat_add, UInt64.toNat_div,
    show nsPerSec.toNat = 1000000000 from rfl, show (2 : UInt64).toNat = 2 from rfl]
  omega

/-- The sentinel needs no special case: the general formula gives zero for it. -/
theorem delayNsByte_toNat (limit : RateLimit) (len : UInt32) :
    (delayNsByte limit len).toNat = rounded (len.toNat * 1000000000) limit.byteRate.toNat := by
  unfold delayNsByte rounded
  split
  · rename_i unlimited
    have lenBound := len.toNat_lt
    rw [unlimited, rateUnlimited_toNat, Nat.div_eq_of_lt (by omega)]
    rfl
  · rw [UInt64.toNat_div, byteSum_toNat]

theorem delayNsPkt_toNat (limit : RateLimit) :
    (delayNsPkt limit).toNat = rounded 1000000000 limit.packetRate.toNat := by
  unfold delayNsPkt rounded
  split
  · rename_i unlimited
    rw [unlimited, rateUnlimited_toNat, Nat.div_eq_of_lt (by omega)]
    rfl
  · rw [UInt64.toNat_div, pktSum_toNat]

theorem delayNs_toNat (limit : RateLimit) (len : UInt32) :
    (delayNs limit len).toNat =
      max (delayNsPkt limit).toNat (delayNsByte limit len).toNat := by
  unfold delayNs
  split
  · rename_i larger
    have order := UInt64.lt_iff_toNat_lt.mp larger
    omega
  · rename_i smaller
    have order := UInt64.lt_iff_toNat_lt.not.mp smaller
    omega

/-- Higher rates never delay a packet for longer. -/
theorem delayNs_anti {low high : RateLimit} (len : UInt32)
    (byteRate : low.byteRate ≠ 0) (packetRate : low.packetRate ≠ 0)
    (bytes : low.byteRate ≤ high.byteRate) (packets : low.packetRate ≤ high.packetRate) :
    delayNs high len ≤ delayNs low len := by
  rw [UInt64.le_iff_toNat_le] at bytes packets ⊢
  rw [delayNs_toNat, delayNs_toNat, delayNsPkt_toNat, delayNsPkt_toNat, delayNsByte_toNat,
    delayNsByte_toNat]
  have byte := rounded_anti (len.toNat * 1000000000) (toNat_ne_zero byteRate) bytes
  have pkt := rounded_anti 1000000000 (toNat_ne_zero packetRate) packets
  omega

/-- The charge for a packet pays for its bytes at the byte rate. -/
theorem delayNs_pays_bytes (limit : RateLimit) (len : UInt32) (nonzero : limit.byteRate ≠ 0) :
    2 * 1000000000 * len.toNat ≤
      limit.byteRate.toNat * (2 * (delayNs limit len).toNat + 1) := by
  have paid := rounded_pays (len.toNat * 1000000000) limit.byteRate.toNat (toNat_ne_zero nonzero)
  rw [← delayNsByte_toNat limit len] at paid
  have larger : (delayNsByte limit len).toNat ≤ (delayNs limit len).toNat := by
    rw [delayNs_toNat]
    exact Nat.le_max_right _ _
  calc 2 * 1000000000 * len.toNat
      = 2 * (len.toNat * 1000000000) := by omega
    _ ≤ limit.byteRate.toNat * (2 * (delayNsByte limit len).toNat + 1) := paid
    _ ≤ _ := Nat.mul_le_mul_left _ (by omega)

/-- The charge for a packet pays for one packet at the packet rate. -/
theorem delayNs_pays_packet (limit : RateLimit) (len : UInt32)
    (nonzero : limit.packetRate ≠ 0) :
    2 * 1000000000 * 1 ≤ limit.packetRate.toNat * (2 * (delayNs limit len).toNat + 1) := by
  have paid := rounded_pays 1000000000 limit.packetRate.toNat (toNat_ne_zero nonzero)
  rw [← delayNsPkt_toNat limit] at paid
  have larger : (delayNsPkt limit).toNat ≤ (delayNs limit len).toNat := by
    rw [delayNs_toNat]
    exact Nat.le_max_left _ _
  calc 2 * 1000000000 * 1
      ≤ limit.packetRate.toNat * (2 * (delayNsPkt limit).toNat + 1) := paid
    _ ≤ _ := Nat.mul_le_mul_left _ (by omega)

/-- One charge is at most the time of the largest packet at one byte a second. -/
theorem delayNs_lt (limit : RateLimit) (len : UInt32)
    (byteRate : limit.byteRate ≠ 0) (packetRate : limit.packetRate ≠ 0) :
    (delayNs limit len).toNat < 2 ^ 32 * 1000000000 := by
  have lenBound := len.toNat_lt
  have byte := rounded_le (len.toNat * 1000000000) limit.byteRate.toNat (toNat_ne_zero byteRate)
  have pkt := rounded_le 1000000000 limit.packetRate.toNat (toNat_ne_zero packetRate)
  rw [delayNs_toNat, delayNsPkt_toNat, delayNsByte_toNat]
  omega

end TrafficLimitd.Limiter
