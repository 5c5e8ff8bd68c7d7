import TrafficLimitd.DaemonRoster
import TrafficLimitd.LeastRecent

set_option autoImplicit false

/- The classifier with the maps at the sizes that `open_and_load_bpf_obj` gives
them, and the daemon that sets and deletes limits meanwhile. Entries of
`rate_limit_priv_map` outlive their limits, and the oldest makes room. -/
namespace TrafficLimitd.Limiter.Evicting

open LeastRecent
open Daemon (LimitMap mapCapacity maxNrTasks)

abbrev PrivMap := Cache CgroupId TimeNs (mapCapacity maxNrTasks)

structure Maps where
  limits : LimitMap
  priv : PrivMap

def start : Maps := ⟨∅, .empty CgroupId TimeNs (mapCapacity maxNrTasks)⟩

namespace Maps

def usePriv (maps : Maps) (cgroup : CgroupId) (next : TimeNs) : Maps :=
  { maps with priv := maps.priv.use (cgroup, next) }

/-- The maps as the classifier sees them. -/
def view (maps : Maps) : Limiter.Maps where
  rateLimit := maps.limits.lookup
  priv := maps.priv.lookup

/-- Packets of the cgroup get as far as `rate_limit_priv_map`. -/
def Reaches (maps : Maps) (cgroup : CgroupId) : Prop :=
  ∃ limit ∈ maps.limits.lookup cgroup, ¬(limit.byteRate = 0 ∨ limit.packetRate = 0)

instance (maps : Maps) (cgroup : CgroupId) : Decidable (maps.Reaches cgroup) :=
  Option.decidableExistsMem (maps.limits.lookup cgroup)

end Maps

/-- `cgroup_rate_limit` on one packet; a lookup is a use of the entry. -/
def cgroupRateLimit (maps : Maps) (now : TimeNs) (skb : SkBuff) : Maps × Action :=
  match maps.limits.lookup skb.cgroup with
  | none => (maps, .ok none)
  | some limit =>
      if limit.byteRate = 0 ∨ limit.packetRate = 0 then (maps, .shot)
      else
        let delay := delayNs limit skb.len
        match maps.priv.lookup skb.cgroup with
        | some next =>
            if next < now then (maps.usePriv skb.cgroup (now + delay), .ok (some now))
            else if next > now + dropHorizon then (maps.usePriv skb.cgroup next, .shot)
            else (maps.usePriv skb.cgroup (next + delay), .ok (some next))
        | none => (maps.usePriv skb.cgroup (now + delay), .ok (some now))

/-- `cgroup_rate_limit_set` and `cgroup_rate_limit_unset` when they succeed, and a
packet. -/
inductive Event
  | set (cgroup : CgroupId) (limit : RateLimit)
  | unset (cgroup : CgroupId)
  | packet (now : TimeNs) (skb : SkBuff)

def step (maps : Maps) : Event → Maps
  | .set cgroup limit => { maps with limits := maps.limits.insert cgroup limit }
  | .unset cgroup => { maps with limits := maps.limits.erase cgroup }
  | .packet now skb => (cgroupRateLimit maps now skb).1

def run (maps : Maps) (events : List Event) : Maps := events.foldl step maps

/-- The cgroup that uses `rate_limit_priv_map` in this step. -/
def user (maps : Maps) : Event → List CgroupId
  | .packet _ skb => if maps.Reaches skb.cgroup then [skb.cgroup] else []
  | _ => []

def users : Maps → List Event → List CgroupId
  | _, [] => []
  | maps, event :: rest => user maps event ++ users (step maps event) rest

/-- The largest number of cgroups that are limited at one time. -/
def peak : Maps → List Event → Nat
  | maps, [] => maps.limits.keys.length
  | maps, event :: rest => max maps.limits.keys.length (peak (step maps event) rest)

variable {maps : Maps}

/-- A packet that gets that far leaves its cgroup's entry as the latest. -/
theorem cgroupRateLimit_reaching (now : TimeNs) {skb : SkBuff} (reaches : maps.Reaches skb.cgroup) :
    ∃ next, (cgroupRateLimit maps now skb).1 = maps.usePriv skb.cgroup next := by
  obtain ⟨limit, found, rates⟩ := reaches
  have found : maps.limits.lookup skb.cgroup = some limit := found
  simp only [cgroupRateLimit, found, rates, ↓reduceIte]
  split
  · split
    · exact ⟨_, rfl⟩
    · split <;> exact ⟨_, rfl⟩
  · exact ⟨_, rfl⟩

/-- Any other packet changes nothing. -/
theorem cgroupRateLimit_apart (now : TimeNs) {skb : SkBuff} (apart : ¬maps.Reaches skb.cgroup) :
    (cgroupRateLimit maps now skb).1 = maps := by
  unfold cgroupRateLimit
  split
  · rfl
  · rename_i limit found
    rw [if_pos]
    by_contra rates
    exact apart ⟨limit, found, rates⟩

/-- What happens to `rate_limit_priv_map` in a run is a list of uses. -/
theorem run_priv (maps : Maps) (events : List Event) :
    ∃ uses, keys uses = users maps events ∧
      (run maps events).priv = uses.foldl Cache.use maps.priv := by
  induction events generalizing maps with
  | nil => exact ⟨[], rfl, rfl⟩
  | cons event rest ih =>
      obtain ⟨uses, same, final⟩ := ih (step maps event)
      have final : (run maps (event :: rest)).priv = uses.foldl Cache.use (step maps event).priv :=
        final
      cases event with
      | set cgroup limit => exact ⟨uses, same, final⟩
      | unset cgroup => exact ⟨uses, same, final⟩
      | packet now skb =>
          have moved : step maps (.packet now skb) = (cgroupRateLimit maps now skb).1 := rfl
          by_cases reaches : maps.Reaches skb.cgroup
          · obtain ⟨next, used⟩ := cgroupRateLimit_reaching now reaches
            refine ⟨(skb.cgroup, next) :: uses, ?_, ?_⟩
            · rw [users, user, if_pos reaches, ← same]
              rfl
            · rw [final, moved, used]
              rfl
          · refine ⟨uses, ?_, ?_⟩
            · rw [users, user, if_neg reaches, ← same]
              rfl
            · rw [final, moved, cgroupRateLimit_apart now reaches]

/-- The answer to a packet while the cgroup's entry has a time to come. -/
theorem cgroupRateLimit_early {now next : TimeNs} {skb : SkBuff}
    (reaches : maps.Reaches skb.cgroup) (entry : maps.priv.lookup skb.cgroup = some next)
    (early : now < next) : (cgroupRateLimit maps now skb).2 ≠ .ok (some now) := by
  obtain ⟨limit, found, rates⟩ := reaches
  have found : maps.limits.lookup skb.cgroup = some limit := found
  have late : ¬next < now := fun before => UInt64.lt_irrefl _ (UInt64.lt_trans before early)
  simp only [cgroupRateLimit, found, rates, ↓reduceIte, entry, late]
  split
  · exact nofun
  · rintro ⟨⟩
    exact UInt64.lt_irrefl _ early

theorem cgroupRateLimit_fresh (now : TimeNs) {skb : SkBuff} (reaches : maps.Reaches skb.cgroup)
    (entry : maps.priv.lookup skb.cgroup = none) :
    (cgroupRateLimit maps now skb).2 = .ok (some now) := by
  obtain ⟨limit, found, rates⟩ := reaches
  have found : maps.limits.lookup skb.cgroup = some limit := found
  simp only [cgroupRateLimit, found, rates, ↓reduceIte, entry]

theorem usePriv_entries (maps : Maps) (cgroup : CgroupId) (next : TimeNs) :
    ∃ rest, (maps.usePriv cgroup next).priv.entries = (cgroup, next) :: rest := ⟨_, rfl⟩

/-- The entry that a packet left is there until as many other cgroups as there are
places have used the map. -/
theorem lookup_run (now : TimeNs) (skb : SkBuff) (reaches : maps.Reaches skb.cgroup)
    {later : List Event} (unused : skb.cgroup ∉ users (step maps (.packet now skb)) later) :
    let used := step maps (.packet now skb)
    ∃ next, used.priv.lookup skb.cgroup = some next ∧
      (run used later).priv.lookup skb.cgroup =
        if (users used later).dedup.length < mapCapacity maxNrTasks then some next else none := by
  intro used
  obtain ⟨next, moved⟩ : ∃ next, used = maps.usePriv skb.cgroup next :=
    cgroupRateLimit_reaching now reaches
  obtain ⟨rest, latest⟩ := usePriv_entries maps skb.cgroup next
  rw [← moved] at latest
  obtain ⟨uses, same, final⟩ := run_priv used later
  rw [← same] at unused ⊢
  refine ⟨next, ?_, ?_⟩
  · refine Cache.lookup_eq_some_of_mem ?_
    rw [latest]
    exact List.mem_cons_self
  · rw [final]
    exact Cache.lookup_foldl_use latest unused

/-- The entry of a limited cgroup is kept, and a packet that comes before its time
is not sent at once, exactly if fewer other cgroups than the map has places use it
between two packets of the cgroup. -/
theorem limited_entry_kept_iff (before later : List Event) (now : TimeNs) (skb : SkBuff)
    (reaches : (run start before).Reaches skb.cgroup)
    (unused : skb.cgroup ∉ users (step (run start before) (.packet now skb)) later) :
    let used := step (run start before) (.packet now skb)
    let final := run used later
    (final.priv.lookup skb.cgroup = used.priv.lookup skb.cgroup ↔
      (users used later).dedup.length < mapCapacity maxNrTasks) ∧
    ∀ next ∈ used.priv.lookup skb.cgroup, ∀ (early : TimeNs) (len : UInt32), early < next →
      final.Reaches skb.cgroup →
      ((cgroupRateLimit final early ⟨len, skb.cgroup⟩).2 ≠ .ok (some early) ↔
        (users used later).dedup.length < mapCapacity maxNrTasks) := by
  intro used final
  obtain ⟨next, left, found⟩ := lookup_run now skb reaches unused
  have left : used.priv.lookup skb.cgroup = some next := left
  have found : final.priv.lookup skb.cgroup =
    if (users used later).dedup.length < mapCapacity maxNrTasks then some next else none := found
  refine ⟨?_, ?_⟩
  · rw [left, found]
    split
    · rename_i few
      exact ⟨fun _ => few, fun _ => rfl⟩
    · rename_i many
      exact ⟨nofun, fun few => absurd few many⟩
  · intro known same early len before limited
    cases left.symm.trans same
    constructor
    · intro delayed
      by_contra many
      rw [if_neg many] at found
      exact delayed (cgroupRateLimit_fresh early limited found)
    · intro few
      rw [if_pos few] at found
      exact cgroupRateLimit_early limited found before

/-- A cgroup comes, sends one packet and goes. -/
def visit (cgroup : CgroupId) : List Event :=
  [.set cgroup ⟨rateUnlimited, rateUnlimited⟩, .packet 0 ⟨60, cgroup⟩, .unset cgroup]

theorem cgroupRateLimit_limits (maps : Maps) (now : TimeNs) (skb : SkBuff) :
    (cgroupRateLimit maps now skb).1.limits = maps.limits := by
  by_cases reaches : maps.Reaches skb.cgroup
  · obtain ⟨next, used⟩ := cgroupRateLimit_reaching now reaches
    rw [used]
    rfl
  · rw [cgroupRateLimit_apart now reaches]

theorem users_visits (maps : Maps) (cgroups : List CgroupId) :
    users maps (cgroups.flatMap visit) = cgroups := by
  induction cgroups generalizing maps with
  | nil => rfl
  | cons cgroup rest ih =>
      have limited : (step maps (.set cgroup ⟨rateUnlimited, rateUnlimited⟩)).Reaches cgroup :=
        ⟨⟨rateUnlimited, rateUnlimited⟩, AList.lookup_insert _, by decide⟩
      simp only [List.flatMap_cons, visit, List.cons_append, List.nil_append, users, user,
        if_pos limited, ih]

theorem limits_visit (maps : Maps) (cgroup : CgroupId) :
    (run maps (visit cgroup)).limits =
      (maps.limits.insert cgroup ⟨rateUnlimited, rateUnlimited⟩).erase cgroup :=
  congrArg (AList.erase cgroup) (cgroupRateLimit_limits _ 0 ⟨60, cgroup⟩)

theorem run_append (maps : Maps) (first second : List Event) :
    run maps (first ++ second) = run (run maps first) second := List.foldl_append

theorem lookup_visits (maps : Maps) {cgroup : CgroupId} {cgroups : List CgroupId}
    (absent : cgroup ∉ cgroups) :
    (run maps (cgroups.flatMap visit)).limits.lookup cgroup = maps.limits.lookup cgroup := by
  induction cgroups generalizing maps with
  | nil => rfl
  | cons visitor rest ih =>
      obtain ⟨different, absent⟩ := not_or.mp (absent ∘ List.mem_cons.mpr)
      rw [List.flatMap_cons, run_append, ih _ absent, limits_visit, AList.lookup_erase_ne different,
        AList.lookup_insert_ne different]

theorem peak_visits (maps : Maps) (cgroups : List CgroupId) :
    peak maps (cgroups.flatMap visit) ≤ maps.limits.keys.length + 1 := by
  induction cgroups generalizing maps with
  | nil => exact Nat.le_add_right _ _
  | cons visitor rest ih =>
      let limited := maps.limits.insert visitor ⟨rateUnlimited, rateUnlimited⟩
      have here : limited.keys.length ≤ maps.limits.keys.length + 1 := by
        rw [AList.keys_insert, List.length_cons]
        exact Nat.add_le_add_right (List.length_erase_le) 1
      have left : (limited.erase visitor).keys.length ≤ maps.limits.keys.length := by
        rw [AList.keys_erase, AList.keys_insert, List.erase_cons_head]
        exact List.length_erase_le
      have later := ih (run maps (visit visitor))
      rw [limits_visit] at later
      have same : (step (step maps (.set visitor ⟨rateUnlimited, rateUnlimited⟩))
          (.packet 0 ⟨60, visitor⟩)).limits = limited := cgroupRateLimit_limits _ _ _
      have after : peak (run maps (visit visitor)) (rest.flatMap visit) ≤
          maps.limits.keys.length + 1 := later.trans (Nat.add_le_add_right left 1)
      simp only [List.flatMap_cons, visit, List.cons_append, List.nil_append, peak, same]
      refine Nat.max_le.mpr ⟨Nat.le_add_right _ _, Nat.max_le.mpr ⟨here, Nat.max_le.mpr ⟨here, ?_⟩⟩⟩
      exact after

/-- Cgroup 0 may send a byte in a second, and has just sent 1500. -/
def packetSent : List Event := [.set 0 ⟨1, rateUnlimited⟩, .packet 0 ⟨1500, 0⟩]

/-- The cgroups 1, 2, … up to the given number. -/
def visitors (count : Nat) : List CgroupId := (List.range count).map fun index => .ofNat (index + 1)

theorem visitors_nodup {count : Nat} (few : count < 2 ^ 64) : (visitors count).Nodup := by
  refine List.Nodup.map_on (fun first inside second within same => ?_) List.nodup_range
  have values := congrArg UInt64.toNat same
  have inside := List.mem_range.mp inside
  have within := List.mem_range.mp within
  rw [UInt64.toNat_ofNat', UInt64.toNat_ofNat'] at values
  omega

theorem zero_not_mem_visitors {count : Nat} (few : count < 2 ^ 64) : 0 ∉ visitors count := by
  intro member
  obtain ⟨index, inside, same⟩ := List.mem_map.mp member
  have values := congrArg UInt64.toNat same
  have inside := List.mem_range.mp inside
  rw [UInt64.toNat_ofNat', UInt64.toNat_zero] at values
  omega

/-- So many visitors that the entry of cgroup 0 has no place left. -/
theorem evicted_by_visitors {count : Nat} (few : count < 2 ^ 64)
    (full : mapCapacity maxNrTasks ≤ count) :
    let final := run (run start packetSent) ((visitors count).flatMap visit)
    final.Reaches 0 ∧ final.priv.lookup 0 = none := by
  intro final
  have limited : (step start (.set 0 ⟨1, rateUnlimited⟩)).Reaches 0 := by decide
  have absent := zero_not_mem_visitors few
  have unused : 0 ∉ users (run start packetSent) ((visitors count).flatMap visit) := by
    rw [users_visits]
    exact absent
  refine ⟨?_, ?_⟩
  · unfold Maps.Reaches
    rw [lookup_visits _ absent]
    decide
  · obtain ⟨next, _, found⟩ := lookup_run 0 ⟨1500, 0⟩ limited unused
    rw [users_visits, (visitors_nodup few).dedup, visitors, List.length_map, List.length_range,
      if_neg (Nat.not_lt.mpr full)] at found
    exact found

/-- With never more than two cgroups limited at one time, the entry of cgroup 0 is
evicted 25 minutes before its time, and the cgroup may send at once again. -/
theorem limited_entry_evicted :
    let visits := (visitors (mapCapacity maxNrTasks)).flatMap visit
    let final := run (run start packetSent) visits
    peak (run start packetSent) visits ≤ 2 ∧
      (run start packetSent).priv.lookup 0 = some 1500000000000 ∧
      final.Reaches 0 ∧ final.priv.lookup 0 = none ∧
      (cgroupRateLimit final 0 ⟨1500, 0⟩).2 = .ok (some 0) := by
  intro visits final
  obtain ⟨reaches, evicted⟩ := evicted_by_visitors (by decide) (Nat.le_refl _)
  exact ⟨peak_visits _ _, by decide, reaches, evicted, cgroupRateLimit_fresh 0 reaches evicted⟩

/-- One visitor does no harm. -/
theorem limited_entry_kept_once :
    (run (run start packetSent) (visit 1)).priv.lookup 0 = some 1500000000000 := by
  have limited : (run start [.set 0 ⟨1, rateUnlimited⟩]).Reaches 0 := by decide
  have one : users (run start packetSent) (visit 1) = [1] := users_visits _ [1]
  have unused : 0 ∉ users (run start packetSent) (visit 1) := by
    rw [one]
    decide
  have kept := (limited_entry_kept_iff [.set 0 ⟨1, rateUnlimited⟩] (visit 1) 0 ⟨1500, 0⟩ limited
    unused).1.mpr
  refine (kept ?_).trans (by decide)
  change (users (run start packetSent) (visit 1)).dedup.length < _
  rw [one]
  decide

end TrafficLimitd.Limiter.Evicting
