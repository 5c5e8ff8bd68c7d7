import TrafficLimitd.LimiterDelay
import TrafficLimitd.Pacing

set_option autoImplicit false

namespace TrafficLimitd.Limiter

/-- `next_avail_ts` of a cgroup, counted as zero while it has no entry. -/
def Maps.avail (maps : Maps) (cgroup : CgroupId) : Nat :=
  ((maps.priv cgroup).map UInt64.toNat).getD 0

/-- What one packet of a limited cgroup does: it is dropped and nothing changes, the
line being taken for longer than the horizon, or it leaves when the ideal pacer would
let it go and is charged its delay. -/
theorem cgroupRateLimit_step (maps : Maps) (cgroup : CgroupId) (limit : RateLimit)
    (packet : Packet) (present : maps.rateLimit cgroup = some limit)
    (byteRate : limit.byteRate ≠ 0) (packetRate : limit.packetRate ≠ 0)
    (bounded : packet.now.toNat < 2 ^ 63) :
    packet.now.toNat + 2000000000 < maps.avail cgroup ∧
        cgroupRateLimit maps packet.now ⟨packet.len, cgroup⟩ = (maps, .shot) ∨
      maps.avail cgroup ≤ packet.now.toNat + 2000000000 ∧
        ∃ tstamp next, cgroupRateLimit maps packet.now ⟨packet.len, cgroup⟩ =
            (maps.setPriv cgroup next, .ok (some tstamp)) ∧
          tstamp.toNat = max packet.now.toNat (maps.avail cgroup) ∧
          next.toNat = tstamp.toNat + (delayNs limit packet.len).toNat := by
  have charge := delayNs_lt limit packet.len byteRate packetRate
  have idle : (packet.now + delayNs limit packet.len).toNat =
      packet.now.toNat + (delayNs limit packet.len).toNat := by
    rw [UInt64.toNat_add]
    omega
  have horizon : (packet.now + dropHorizon).toNat = packet.now.toNat + 2000000000 := by
    rw [UInt64.toNat_add, show dropHorizon.toNat = 2000000000 from rfl]
    omega
  have rates : ¬ (limit.byteRate = 0 ∨ limit.packetRate = 0) := by
    rintro (zero | zero)
    · exact byteRate zero
    · exact packetRate zero
  simp only [cgroupRateLimit, present, rates, ↓reduceIte]
  cases entry : maps.priv cgroup with
  | none =>
      have avail : maps.avail cgroup = 0 := by simp [Maps.avail, entry]
      refine Or.inr ⟨?_, packet.now, packet.now + delayNs limit packet.len, rfl, ?_, idle⟩
      · omega
      · omega
  | some next =>
      have avail : maps.avail cgroup = next.toNat := by simp [Maps.avail, entry]
      dsimp only
      split
      · rename_i early
        have before := UInt64.lt_iff_toNat_lt.mp early
        refine Or.inr ⟨?_, packet.now, packet.now + delayNs limit packet.len, rfl, ?_, idle⟩
        · omega
        · omega
      · rename_i late
        have after := UInt64.lt_iff_toNat_lt.not.mp late
        split
        · rename_i beyond
          have far := UInt64.lt_iff_toNat_lt.mp beyond
          exact Or.inl ⟨by omega, rfl⟩
        · rename_i within
          have near := UInt64.lt_iff_toNat_lt.not.mp within
          refine Or.inr ⟨by omega, next, next + delayNs limit packet.len, rfl, by omega, ?_⟩
          -- The horizon keeps the old value within two seconds of the clock.
          rw [UInt64.toNat_add]
          omega

/-- The pacer's view of a passed packet. -/
abbrev PacedBy (limit : RateLimit) : Nat → List Passed → Prop :=
  Pacing.Paced (fun item => item.packet.now.toNat)
    (fun item => (delayNs limit item.packet.len).toNat) (fun item => item.tstamp.toNat)

/-- The packets of a limited cgroup leave as from the ideal pacer. -/
theorem process_paced (maps : Maps) (cgroup : CgroupId) (limit : RateLimit)
    (packets : List Packet) (present : maps.rateLimit cgroup = some limit)
    (byteRate : limit.byteRate ≠ 0) (packetRate : limit.packetRate ≠ 0)
    (bounded : ∀ packet ∈ packets, packet.now.toNat < 2 ^ 63) :
    PacedBy limit (maps.avail cgroup) (passed packets (process cgroup maps packets).2) := by
  induction packets generalizing maps with
  | nil => trivial
  | cons packet rest ih =>
      have later : ∀ other ∈ rest, other.now.toNat < 2 ^ 63 :=
        fun other member => bounded other (List.mem_cons_of_mem _ member)
      rcases cgroupRateLimit_step maps cgroup limit packet present byteRate packetRate
        (bounded packet (by simp)) with ⟨_, dropped⟩ | ⟨_, tstamp, next, taken, leaves, charged⟩
      · simp only [process, dropped, passed, List.zip_cons_cons, List.filterMap_cons]
        exact ih maps present later
      · have tail := ih (maps.setPriv cgroup next) present later
        have avail : (maps.setPriv cgroup next).avail cgroup =
            tstamp.toNat + (delayNs limit packet.len).toNat := by
          simp [Maps.avail, charged]
        rw [avail] at tail
        simp only [process, taken, passed, List.zip_cons_cons, List.filterMap_cons]
        exact ⟨leaves, tail⟩

/-- Every packet has an answer, and none is answered `TC_ACT_OK` without a `tstamp`. -/
structure Stamps (packets : List Packet) (actions : List Action) : Prop where
  length_eq : actions.length = packets.length
  stamped : ∀ action ∈ actions, action = .shot ∨ ∃ tstamp, action = .ok (some tstamp)

/-- Of a limited cgroup no packet passes without a departure time. -/
theorem process_stamps (maps : Maps) (cgroup : CgroupId) (limit : RateLimit)
    (packets : List Packet) (present : maps.rateLimit cgroup = some limit)
    (byteRate : limit.byteRate ≠ 0) (packetRate : limit.packetRate ≠ 0)
    (bounded : ∀ packet ∈ packets, packet.now.toNat < 2 ^ 63) :
    Stamps packets (process cgroup maps packets).2 := by
  induction packets generalizing maps with
  | nil => exact ⟨rfl, fun action member => absurd member List.not_mem_nil⟩
  | cons packet rest ih =>
      have later : ∀ other ∈ rest, other.now.toNat < 2 ^ 63 :=
        fun other member => bounded other (List.mem_cons_of_mem _ member)
      rcases cgroupRateLimit_step maps cgroup limit packet present byteRate packetRate
        (bounded packet List.mem_cons_self) with ⟨_, dropped⟩ | ⟨_, tstamp, next, taken, _⟩
      · obtain ⟨length, stamped⟩ := ih maps present later
        simp only [process, dropped]
        exact ⟨congrArg (· + 1) length, List.forall_mem_cons.mpr ⟨.inl rfl, stamped⟩⟩
      · obtain ⟨length, stamped⟩ := ih (maps.setPriv cgroup next) present later
        simp only [process, taken]
        exact ⟨congrArg (· + 1) length, List.forall_mem_cons.mpr ⟨.inr ⟨tstamp, rfl⟩, stamped⟩⟩

/-- What packets that left one after the other carry: every window takes the delays of its
packets, and so has at most the configured bytes and packets, up to half a nanosecond of
rounding for each packet. -/
def Conforms (limit : RateLimit) (sent : List Passed) : Prop :=
  ∀ i j (_ : i < j) (_ : j < sent.length),
    let window := (sent.drop i).take (j - i)
    let elapsed := sent[j].tstamp.toNat - sent[i].tstamp.toNat
    sent[i].tstamp.toNat + (window.map fun p => (delayNs limit p.packet.len).toNat).sum ≤
      sent[j].tstamp.toNat ∧
    (limit.byteRate ≠ rateUnlimited →
      2 * 10 ^ 9 * (window.map fun p => p.packet.len.toNat).sum ≤
        limit.byteRate.toNat * (2 * elapsed + (j - i))) ∧
    (limit.packetRate ≠ rateUnlimited →
      2 * 10 ^ 9 * (j - i) ≤ limit.packetRate.toNat * (2 * elapsed + (j - i)))

theorem conforms_of_paced {limit : RateLimit} {avail : Nat} {sent : List Passed}
    (paced : PacedBy limit avail sent) (byteRate : limit.byteRate ≠ 0)
    (packetRate : limit.packetRate ≠ 0) : Conforms limit sent := by
  intro i j before inside
  obtain ⟨count, rfl⟩ : ∃ count, j = i + count := ⟨j - i, by omega⟩
  rw [Nat.add_sub_cancel_left]
  have occupied := paced.window i count inside
  have bytes := paced.window_cost (fun p => p.packet.len.toNat) 1000000000 limit.byteRate.toNat
    (fun p _ => delayNs_pays_bytes limit p.packet.len byteRate) i count inside
  have units := paced.window_cost (fun _ => 1) 1000000000 limit.packetRate.toNat
    (fun p _ => delayNs_pays_packet limit p.packet.len packetRate) i count inside
  have whole : (((sent.drop i).take count).map fun _ => 1).sum = count := by
    simp only [List.map_const', List.sum_replicate_nat, List.length_take, List.length_drop,
      Nat.mul_one]
    omega
  rw [whole] at units
  exact ⟨occupied, fun _ => bytes, fun _ => units⟩

/-- Rate conformance: each packet is dropped or stamped, the departure times are exactly
the pacer's, and every window carries at most the configured bytes and packets. -/
theorem process_rate_conformance (maps : Maps) (cgroup : CgroupId) (limit : RateLimit)
    (packets : List Packet) (present : maps.rateLimit cgroup = some limit)
    (byteRate : limit.byteRate ≠ 0) (packetRate : limit.packetRate ≠ 0)
    (bounded : ∀ packet ∈ packets, packet.now.toNat < 2 ^ 63) :
    let actions := (process cgroup maps packets).2
    let sent := passed packets actions
    Stamps packets actions ∧
    (∀ k (_ : k + 1 < sent.length),
      sent[k + 1].tstamp.toNat = max sent[k + 1].packet.now.toNat
        (sent[k].tstamp.toNat + (delayNs limit sent[k].packet.len).toNat)) ∧
    Conforms limit sent := by
  intro actions sent
  have paced : PacedBy limit (maps.avail cgroup) sent :=
    process_paced maps cgroup limit packets present byteRate packetRate bounded
  refine ⟨?_, paced.next, conforms_of_paced paced byteRate packetRate⟩
  exact process_stamps maps cgroup limit packets present byteRate packetRate bounded

/-- Three full-size packets at 1 Mbyte/s, 1 ms apart, then one after a pause. -/
theorem process_rate_conformance_backlog :
    let maps : Maps := ⟨fun _ => some ⟨1000000, rateUnlimited⟩, fun _ => none⟩
    let packets : List Packet := [⟨0, 1500⟩, ⟨1000000, 1500⟩, ⟨2000000, 1500⟩, ⟨9000000, 60⟩]
    let sent := passed packets (process 7 maps packets).2
    sent.map (fun p => p.tstamp.toNat) = [0, 1500000, 3000000, 9000000] ∧
    ∀ i j (_ : i < j) (_ : j < sent.length),
      2 * 10 ^ 9 * (((sent.drop i).take (j - i)).map fun p => p.packet.len.toNat).sum ≤
        1000000 * (2 * (sent[j].tstamp.toNat - sent[i].tstamp.toNat) + (j - i)) := by
  intro maps packets sent
  refine ⟨by decide, ?_⟩
  intro i j before inside
  exact ((process_rate_conformance maps 7 ⟨1000000, rateUnlimited⟩ packets rfl (by decide)
    (by decide) (by decide)).2.2 i j before inside).2.1 (by decide)

end TrafficLimitd.Limiter
