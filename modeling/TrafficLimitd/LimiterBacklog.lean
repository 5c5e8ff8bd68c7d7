import TrafficLimitd.LimiterConformance

set_option autoImplicit false

/- How far `next_avail_ts` can run ahead of the clock. The limit of the cgroup may
be replaced between two packets. -/
namespace TrafficLimitd.Limiter

/-- A packet with the limit that `rate_limit_map` holds for its cgroup by then. -/
structure Turn where
  limit : RateLimit
  packet : Packet
deriving DecidableEq, Repr

def Maps.setLimit (maps : Maps) (cgroup : CgroupId) (limit : RateLimit) : Maps :=
  { maps with rateLimit := fun key => if key = cgroup then some limit else maps.rateLimit key }

@[simp] theorem Maps.setLimit_priv (maps : Maps) (cgroup : CgroupId) (limit : RateLimit) :
    (maps.setLimit cgroup limit).priv = maps.priv := rfl

@[simp] theorem Maps.setLimit_avail (maps : Maps) (cgroup : CgroupId) (limit : RateLimit) :
    (maps.setLimit cgroup limit).avail = maps.avail := rfl

@[simp] theorem Maps.setLimit_rateLimit_self (maps : Maps) (cgroup : CgroupId)
    (limit : RateLimit) : (maps.setLimit cgroup limit).rateLimit cgroup = some limit := by
  simp only [Maps.setLimit, ↓reduceIte]

/-- One packet under its limit. -/
def serve (cgroup : CgroupId) (maps : Maps) (turn : Turn) : Maps × Action :=
  cgroupRateLimit (maps.setLimit cgroup turn.limit) turn.packet.now ⟨turn.packet.len, cgroup⟩

/-- The maps after the packets of one cgroup, one at a time. -/
def served (cgroup : CgroupId) (maps : Maps) (turns : List Turn) : Maps :=
  turns.foldl (fun maps turn => (serve cgroup maps turn).1) maps

theorem served_snoc (cgroup : CgroupId) (maps : Maps) (turns : List Turn) (turn : Turn) :
    served cgroup maps (turns ++ [turn]) = (serve cgroup (served cgroup maps turns) turn).1 := by
  rw [served, List.foldl_append]
  rfl

/-- With one limit throughout these are the maps that `process` ends with. -/
theorem served_eq_process (cgroup : CgroupId) (maps : Maps) (limit : RateLimit)
    (packets : List Packet) (present : maps.rateLimit cgroup = some limit) :
    served cgroup maps (packets.map (Turn.mk limit)) = (process cgroup maps packets).1 := by
  have same : ∀ other : Maps, other.rateLimit cgroup = some limit →
      other.setLimit cgroup limit = other := by
    intro other held
    refine congrArg (Maps.mk · other.priv) (funext fun key => ?_)
    by_cases this : key = cgroup
    · rw [if_pos this, this, held]
    · rw [if_neg this]
  have stays : ∀ (other : Maps) (now : TimeNs) (skb : SkBuff),
      (cgroupRateLimit other now skb).1.rateLimit = other.rateLimit := by
    intro other now skb
    unfold cgroupRateLimit
    repeat' split
    all_goals rfl
  induction packets generalizing maps with
  | nil => rfl
  | cons packet rest ih =>
      have next := ih (cgroupRateLimit maps packet.now ⟨packet.len, cgroup⟩).1
        (by rw [stays]; exact present)
      simp only [List.map_cons, served, List.foldl_cons, serve, process, same maps present]
        at next ⊢
      exact next

/-- `delay_ns` of a packet. -/
def Turn.delay (turn : Turn) : Nat := (delayNs turn.limit turn.packet.len).toNat

/-- The largest `delay_ns` of these packets. -/
def largestDelay (turns : List Turn) : Nat := (turns.map Turn.delay).foldr max 0

theorem largestDelay_snoc (turns : List Turn) (turn : Turn) :
    largestDelay (turns ++ [turn]) = max (largestDelay turns) turn.delay := by
  induction turns with
  | nil => simp [largestDelay]
  | cons first rest ih =>
      simp only [largestDelay, List.cons_append, List.map_cons, List.foldr_cons] at ih ⊢
      rw [ih, max_assoc]

/-- The sums and the product that the program computes for a packet are below 2^64,
the last of them in the branch that computes it. -/
structure NoWrap (limit : RateLimit) (packet : Packet) (entry : Option TimeNs) : Prop where
  byteProduct : packet.len.toNat * nsPerSec.toNat < 2 ^ 64
  byteSum : packet.len.toNat * nsPerSec.toNat + limit.byteRate.toNat / 2 < 2 ^ 64
  packetSum : nsPerSec.toNat + limit.packetRate.toNat / 2 < 2 ^ 64
  idle : packet.now.toNat + (delayNs limit packet.len).toNat < 2 ^ 64
  horizon : packet.now.toNat + dropHorizon.toNat < 2 ^ 64
  queued : ∀ next ∈ entry, ¬ next < packet.now → ¬ next > packet.now + dropHorizon →
    next.toNat + (delayNs limit packet.len).toNat < 2 ^ 64

theorem noWrap (limit : RateLimit) (packet : Packet) (entry : Option TimeNs)
    (byteRate : limit.byteRate ≠ 0) (packetRate : limit.packetRate ≠ 0)
    (bounded : packet.now.toNat < 2 ^ 63) : NoWrap limit packet entry := by
  have len := packet.len.toNat_lt
  have byteBound := limit.byteRate.toNat_lt
  have packetBound := limit.packetRate.toNat_lt
  have charge := delayNs_lt limit packet.len byteRate packetRate
  have second : nsPerSec.toNat = 1000000000 := rfl
  have twoSeconds : dropHorizon.toNat = 2000000000 := rfl
  have product : packet.len.toNat * nsPerSec.toNat = packet.len.toNat * 1000000000 := rfl
  constructor
  case queued =>
    intro next _ _ within
    have near := UInt64.lt_iff_toNat_lt.not.mp within
    rw [UInt64.toNat_add] at near
    omega
  all_goals omega

/-- The entry of the cgroup, if it has one yet, is at most the horizon and one delay
ahead of the last packet. -/
def Backlog (cgroup : CgroupId) (turns : List Turn) (maps : Maps) : Prop :=
  ∀ next ∈ maps.priv cgroup, ∃ last ∈ turns.getLast?,
    next.toNat ≤ last.packet.now.toNat + dropHorizon.toNat + largestDelay turns

section Step

variable {cgroup : CgroupId} {maps : Maps} {turns : List Turn} {turn : Turn}

/-- What a packet does, in the terms of the backlog. -/
theorem serve_cases (cgroup : CgroupId) (maps : Maps) (turn : Turn)
    (rates : turn.limit.byteRate ≠ 0 ∧ turn.limit.packetRate ≠ 0)
    (bounded : turn.packet.now.toNat < 2 ^ 63) :
    turn.packet.now.toNat + dropHorizon.toNat < maps.avail cgroup ∧
        serve cgroup maps turn = (maps.setLimit cgroup turn.limit, .shot) ∨
      maps.avail cgroup ≤ turn.packet.now.toNat + dropHorizon.toNat ∧
        ∃ tstamp next, serve cgroup maps turn =
            ((maps.setLimit cgroup turn.limit).setPriv cgroup next, .ok (some tstamp)) ∧
          tstamp.toNat = max turn.packet.now.toNat (maps.avail cgroup) ∧
          next.toNat = tstamp.toNat + turn.delay :=
  cgroupRateLimit_step (maps.setLimit cgroup turn.limit) cgroup turn.limit turn.packet
    (Maps.setLimit_rateLimit_self maps cgroup turn.limit) rates.1 rates.2 bounded

theorem avail_lt_iff {time : Nat} :
    time < maps.avail cgroup ↔ ∃ next ∈ maps.priv cgroup, time < next.toNat := by
  cases entry : maps.priv cgroup with
  | none => simp [Maps.avail, entry]
  | some next => simp [Maps.avail, entry]

theorem Backlog.avail_le (backlog : Backlog cgroup turns maps) {last : Turn}
    (found : last ∈ turns.getLast?) :
    maps.avail cgroup ≤ last.packet.now.toNat + dropHorizon.toNat + largestDelay turns := by
  apply Nat.le_of_not_lt
  intro ahead
  obtain ⟨next, entry, beyond⟩ := avail_lt_iff.mp ahead
  obtain ⟨other, same, bound⟩ := backlog next entry
  rw [Option.mem_unique same found] at bound
  omega

/-- The entry that a packet leaves behind. -/
theorem Backlog.next (backlog : Backlog cgroup turns maps)
    (rates : turn.limit.byteRate ≠ 0 ∧ turn.limit.packetRate ≠ 0)
    (bounded : turn.packet.now.toNat < 2 ^ 63)
    (clock : ∀ last ∈ turns.getLast?, last.packet.now ≤ turn.packet.now) :
    ∃ next ∈ (serve cgroup maps turn).1.priv cgroup,
      next.toNat ≤ turn.packet.now.toNat + dropHorizon.toNat + largestDelay (turns ++ [turn]) := by
  rw [largestDelay_snoc]
  rcases serve_cases cgroup maps turn rates bounded with
    ⟨far, dropped⟩ | ⟨near, tstamp, next, taken, leaves, charged⟩
  · obtain ⟨next, entry, _⟩ := avail_lt_iff.mp far
    obtain ⟨last, found, bound⟩ := backlog next entry
    have order := UInt64.le_iff_toNat_le.mp (clock last found)
    refine ⟨next, ?_, ?_⟩
    · rw [dropped]
      exact entry
    · omega
  · refine ⟨next, ?_, ?_⟩
    · rw [taken]
      exact Maps.setPriv_priv_self _ cgroup next
    · omega

theorem Backlog.step (backlog : Backlog cgroup turns maps)
    (rates : turn.limit.byteRate ≠ 0 ∧ turn.limit.packetRate ≠ 0)
    (bounded : turn.packet.now.toNat < 2 ^ 63)
    (clock : ∀ last ∈ turns.getLast?, last.packet.now ≤ turn.packet.now) :
    Backlog cgroup (turns ++ [turn]) (serve cgroup maps turn).1 := by
  obtain ⟨next, entry, bound⟩ := backlog.next rates bounded clock
  intro other found
  rw [Option.mem_unique found entry]
  exact ⟨turn, by simp, bound⟩

end Step

/-- The clock of a sequence does not go back at its last packet either. -/
theorem clock_last {turns : List Turn} {turn : Turn}
    (clock : (turns ++ [turn]).Pairwise fun first second => first.packet.now ≤ second.packet.now) :
    ∀ last ∈ turns.getLast?, last.packet.now ≤ turn.packet.now := by
  intro last found
  exact (List.pairwise_append.mp clock).2.2 last (List.mem_of_getLast? found) turn (by simp)

theorem served_backlog (cgroup : CgroupId) (maps : Maps) (turns : List Turn)
    (fresh : maps.priv cgroup = none)
    (rates : ∀ turn ∈ turns, turn.limit.byteRate ≠ 0 ∧ turn.limit.packetRate ≠ 0)
    (clock : turns.Pairwise fun first second => first.packet.now ≤ second.packet.now)
    (bounded : ∀ turn ∈ turns, turn.packet.now.toNat < 2 ^ 63) :
    Backlog cgroup turns (served cgroup maps turns) := by
  induction turns using List.reverseRecOn with
  | nil =>
      intro next entry
      change next ∈ maps.priv cgroup at entry
      rw [fresh] at entry
      exact absurd entry (Option.not_mem_none next)
  | append_singleton turns turn ih =>
      have before : Backlog cgroup turns (served cgroup maps turns) := by
        apply ih
        · exact fun other member => rates other (List.mem_append_left _ member)
        · exact (List.pairwise_append.mp clock).1
        · exact fun other member => bounded other (List.mem_append_left _ member)
      rw [served_snoc]
      exact before.step (rates turn (by simp)) (bounded turn (by simp)) (clock_last clock)

/-- The backlog of a cgroup is bounded: nothing wraps, `next_avail_ts` is never more
than the horizon and the largest delay ahead of the clock, a packet that passes leaves
within the horizon, exactly those that would leave later are dropped and leave no trace,
and after a pause of the horizon and the largest delay a packet leaves at once. -/
theorem backlog_bounded (maps : Maps) (cgroup : CgroupId) (turns : List Turn)
    (fresh : maps.priv cgroup = none)
    (rates : ∀ turn ∈ turns, turn.limit.byteRate ≠ 0 ∧ turn.limit.packetRate ≠ 0)
    (clock : turns.Pairwise fun first second => first.packet.now ≤ second.packet.now)
    (bounded : ∀ turn ∈ turns, turn.packet.now.toNat < 2 ^ 63)
    (earlier : List Turn) (turn : Turn) (later : List Turn)
    (place : turns = earlier ++ turn :: later) :
    let before := served cgroup maps earlier
    let result := serve cgroup before turn
    let now := turn.packet.now.toNat
    NoWrap turn.limit turn.packet (before.priv cgroup) ∧
    (∃ next ∈ result.1.priv cgroup,
      next.toNat ≤ now + dropHorizon.toNat + largestDelay (earlier ++ [turn])) ∧
    (∀ tstamp, result.2 = .ok tstamp →
      ∃ time ∈ tstamp, now ≤ time.toNat ∧ time.toNat ≤ now + dropHorizon.toNat) ∧
    (result.2 = .shot ↔ ∃ next ∈ before.priv cgroup, now + dropHorizon.toNat < next.toNat) ∧
    (result.2 = .shot → result.1 = before.setLimit cgroup turn.limit) ∧
    ∀ last ∈ earlier.getLast?,
      last.packet.now.toNat + dropHorizon.toNat + largestDelay earlier + 1 ≤ now →
        result.2 = .ok (some turn.packet.now) := by
  intro before result now
  have whole : turns = (earlier ++ [turn]) ++ later := by rw [place]; simp
  have past : earlier ++ [turn] ⊆ turns := by
    rw [whole]
    exact List.subset_append_left _ _
  have order := clock
  rw [whole] at order
  have here := (List.pairwise_append.mp order).1
  have member : turn ∈ turns := past (by simp)
  have backlog : Backlog cgroup earlier before := by
    apply served_backlog cgroup maps earlier fresh
    · exact fun other found => rates other (past (List.mem_append_left _ found))
    · exact (List.pairwise_append.mp here).1
    · exact fun other found => bounded other (past (List.mem_append_left _ found))
  refine ⟨noWrap _ _ _ (rates turn member).1 (rates turn member).2 (bounded turn member),
    backlog.next (rates turn member) (bounded turn member) (clock_last here), ?_⟩
  rw [← avail_lt_iff]
  rcases serve_cases cgroup before turn (rates turn member) (bounded turn member) with
    ⟨far, dropped⟩ | ⟨near, tstamp, next, taken, leaves, charged⟩
  · have answer : result = (before.setLimit cgroup turn.limit, .shot) := dropped
    rw [answer]
    refine ⟨nofun, ⟨fun _ => far, fun _ => rfl⟩, fun _ => rfl, ?_⟩
    intro last found pause
    have ahead := backlog.avail_le found
    omega
  · have answer : result =
        ((before.setLimit cgroup turn.limit).setPriv cgroup next, .ok (some tstamp)) := taken
    rw [answer]
    refine ⟨?_, ⟨nofun, ?_⟩, nofun, ?_⟩
    · intro stamped same
      cases same
      exact ⟨tstamp, rfl, by omega, by omega⟩
    · intro far
      omega
    · intro last found pause
      have ahead := backlog.avail_le found
      have prompt : tstamp.toNat = turn.packet.now.toNat := by omega
      rw [UInt64.toNat_inj.mp prompt]

/-- One byte a second: the second packet waits, the third is dropped, and after the
pause the next one leaves at once. -/
theorem backlog_bounded_slow :
    let limit : RateLimit := ⟨1, rateUnlimited⟩
    let earlier : List Turn := [⟨limit, 0, 2⟩, ⟨limit, 1000, 1⟩, ⟨limit, 2000, 1⟩]
    let turn : Turn := ⟨limit, 4000002001, 1⟩
    (serve 7 (served 7 ⟨fun _ => none, fun _ => none⟩ earlier) turn).2 =
      .ok (some turn.packet.now) := by
  intro limit earlier turn
  have result := backlog_bounded ⟨fun _ => none, fun _ => none⟩ 7 (earlier ++ [turn]) rfl
    (by decide) (by decide) (by decide) earlier turn [] rfl
  exact result.2.2.2.2.2 ⟨limit, 2000, 1⟩ rfl (by decide)

end TrafficLimitd.Limiter
