import TrafficLimitd.LimiterEviction

set_option autoImplicit false

/- Packets of many cgroups in any order. The classifier reads and writes the
entries of the packet's own cgroup only, so as long as no entry is evicted a
cgroup is answered as if it were alone. -/
namespace TrafficLimitd.Limiter

/-- A packet of any cgroup, with the clock when it is seen. -/
structure Arrival where
  now : TimeNs
  skb : SkBuff
deriving DecidableEq, Repr

/-- The packets one after the other. -/
def classifyAll {σ : Type} (classify : σ → TimeNs → SkBuff → σ × Action) :
    σ → List Arrival → σ × List Action
  | maps, [] => (maps, [])
  | maps, arrival :: rest =>
      let next := classify maps arrival.now arrival.skb
      let tail := classifyAll classify next.1 rest
      (tail.1, next.2 :: tail.2)

/-- The packets of one cgroup. -/
def own (cgroup : CgroupId) (arrivals : List Arrival) : List Packet :=
  (arrivals.filter fun arrival => arrival.skb.cgroup = cgroup).map fun arrival =>
    ⟨arrival.now, arrival.skb.len⟩

/-- The answers to the packets of one cgroup. -/
def verdictsOf (cgroup : CgroupId) (arrivals : List Arrival) (actions : List Action) :
    List Action :=
  ((arrivals.zip actions).filter fun pair => pair.1.skb.cgroup = cgroup).map Prod.snd

/-- Two states of the maps are the same to one cgroup. -/
structure AgreeAt (cgroup : CgroupId) (first second : Maps) : Prop where
  rateLimit : first.rateLimit cgroup = second.rateLimit cgroup
  priv : first.priv cgroup = second.priv cgroup

variable {cgroup : CgroupId} {first second : Maps}

theorem AgreeAt.setPriv (agree : AgreeAt cgroup first second) (next : TimeNs) :
    AgreeAt cgroup (first.setPriv cgroup next) (second.setPriv cgroup next) :=
  ⟨agree.rateLimit, by rw [Maps.setPriv_priv_self, Maps.setPriv_priv_self]⟩

/-- A packet of the cgroup has the same answer in both and leaves them the same. -/
theorem AgreeAt.classify (agree : AgreeAt cgroup first second) (now : TimeNs) (len : UInt32) :
    (cgroupRateLimit first now ⟨len, cgroup⟩).2 = (cgroupRateLimit second now ⟨len, cgroup⟩).2 ∧
      AgreeAt cgroup (cgroupRateLimit first now ⟨len, cgroup⟩).1
        (cgroupRateLimit second now ⟨len, cgroup⟩).1 := by
  unfold cgroupRateLimit
  simp only [agree.rateLimit, agree.priv]
  split
  · exact ⟨rfl, agree⟩
  · split
    · exact ⟨rfl, agree⟩
    · split
      · split
        · exact ⟨rfl, agree.setPriv _⟩
        · split
          · exact ⟨rfl, agree⟩
          · exact ⟨rfl, agree.setPriv _⟩
      · exact ⟨rfl, agree.setPriv _⟩

theorem agreeAt_setPriv_ne (maps : Maps) {other : CgroupId} (different : cgroup ≠ other)
    (next : TimeNs) : AgreeAt cgroup (maps.setPriv other next) maps :=
  ⟨rfl, if_neg different⟩

/-- A packet of another cgroup changes nothing for this one. -/
theorem agreeAt_classify_ne (maps : Maps) (now : TimeNs) {skb : SkBuff}
    (different : cgroup ≠ skb.cgroup) : AgreeAt cgroup (cgroupRateLimit maps now skb).1 maps := by
  unfold cgroupRateLimit
  split
  · exact ⟨rfl, rfl⟩
  · split
    · exact ⟨rfl, rfl⟩
    · dsimp only
      split
      · split
        · exact agreeAt_setPriv_ne maps different _
        · split
          · exact ⟨rfl, rfl⟩
          · exact agreeAt_setPriv_ne maps different _
      · exact agreeAt_setPriv_ne maps different _

theorem AgreeAt.trans {third : Maps} (agree : AgreeAt cgroup first second)
    (next : AgreeAt cgroup second third) : AgreeAt cgroup first third :=
  ⟨agree.rateLimit.trans next.rateLimit, agree.priv.trans next.priv⟩

theorem verdictsOf_classifyAll (agree : AgreeAt cgroup first second) (arrivals : List Arrival) :
    verdictsOf cgroup arrivals (classifyAll cgroupRateLimit first arrivals).2 =
      (process cgroup second (own cgroup arrivals)).2 := by
  induction arrivals generalizing first second with
  | nil => rfl
  | cons arrival rest ih =>
      obtain ⟨now, len, sender⟩ := arrival
      by_cases same : sender = cgroup
      · subst same
        obtain ⟨answer, after⟩ := agree.classify now len
        have later := ih after
        simp only [classifyAll, verdictsOf, own, List.zip_cons_cons, List.filter_cons, decide_true,
          ↓reduceIte, List.map_cons, process, answer] at later ⊢
        rw [later]
      · have after : AgreeAt cgroup (cgroupRateLimit first now ⟨len, sender⟩).1 second :=
          (agreeAt_classify_ne first now (Ne.symm same)).trans agree
        have later := ih after
        simp only [classifyAll, verdictsOf, own, List.zip_cons_cons, List.filter_cons, same,
          decide_false, Bool.false_eq_true, ↓reduceIte] at later ⊢
        exact later

namespace Evicting

open LeastRecent

/-- No packet makes `rate_limit_priv_map` drop an entry. -/
def EvictsNothing : Maps → List Arrival → Prop
  | _, [] => True
  | maps, arrival :: rest =>
      keys maps.priv.entries ⊆
          keys (cgroupRateLimit maps arrival.now arrival.skb).1.priv.entries ∧
        EvictsNothing (cgroupRateLimit maps arrival.now arrival.skb).1 rest

variable {maps : Maps}

theorem view_usePriv {next : TimeNs}
    (kept : keys maps.priv.entries ⊆ keys (maps.usePriv cgroup next).priv.entries) :
    (maps.usePriv cgroup next).view = maps.view.setPriv cgroup next := by
  refine congrArg (Limiter.Maps.mk _) (funext fun key => ?_)
  by_cases same : key = cgroup
  · subst same
    exact (Cache.lookup_use_self (by decide)).trans (if_pos rfl).symm
  · exact (Cache.lookup_use_ne kept same).trans (if_neg same).symm

theorem setPriv_of_priv {view : Limiter.Maps} {next : TimeNs} (entry : view.priv cgroup = some next) :
    view.setPriv cgroup next = view := by
  refine congrArg (Limiter.Maps.mk _) (funext fun key => ?_)
  split
  · rename_i same
    rw [same, entry]
  · rfl

/-- Without evictions the classifier works as on maps without a bound. -/
theorem cgroupRateLimit_view (now : TimeNs) (skb : SkBuff)
    (kept : keys maps.priv.entries ⊆ keys (cgroupRateLimit maps now skb).1.priv.entries) :
    Limiter.cgroupRateLimit maps.view now skb =
      ((cgroupRateLimit maps now skb).1.view, (cgroupRateLimit maps now skb).2) := by
  have limits : maps.view.rateLimit skb.cgroup = maps.limits.lookup skb.cgroup := rfl
  have entries : maps.view.priv skb.cgroup = maps.priv.lookup skb.cgroup := rfl
  unfold cgroupRateLimit at kept ⊢
  unfold Limiter.cgroupRateLimit
  rw [limits, entries]
  cases limited : maps.limits.lookup skb.cgroup with
  | none => rfl
  | some limit =>
      rw [limited] at kept
      by_cases rates : limit.byteRate = 0 ∨ limit.packetRate = 0
      · simp only [rates, ↓reduceIte]
      · simp only [rates, ↓reduceIte] at kept ⊢
        cases entry : maps.priv.lookup skb.cgroup with
        | none =>
            simp only [entry] at kept ⊢
            rw [view_usePriv kept]
        | some next =>
            simp only [entry] at kept ⊢
            split
            · rename_i early
              rw [if_pos early] at kept
              rw [view_usePriv kept]
            · rename_i late
              rw [if_neg late] at kept
              split
              · rename_i far
                rw [if_pos far] at kept
                rw [view_usePriv kept, setPriv_of_priv entry]
              · rename_i near
                rw [if_neg near] at kept
                rw [view_usePriv kept]

theorem classifyAll_view {arrivals : List Arrival} (kept : EvictsNothing maps arrivals) :
    (classifyAll cgroupRateLimit maps arrivals).2 =
      (classifyAll Limiter.cgroupRateLimit maps.view arrivals).2 := by
  induction arrivals generalizing maps with
  | nil => rfl
  | cons arrival rest ih =>
      obtain ⟨here, later⟩ := kept
      simp only [classifyAll, cgroupRateLimit_view arrival.now arrival.skb here, ih later]

/-- Cgroups do not influence each other: in any sequence of packets in which nothing
is evicted, those of one cgroup are answered as they would be alone, and a packet of
a cgroup that has no limit or a rate of zero changes nothing. -/
theorem cgroups_isolated (maps : Maps) (arrivals : List Arrival) (cgroup : CgroupId)
    (kept : EvictsNothing maps arrivals) :
    verdictsOf cgroup arrivals (classifyAll cgroupRateLimit maps arrivals).2 =
        (process cgroup maps.view (own cgroup arrivals)).2 ∧
      ∀ now skb, (∀ limit ∈ maps.limits.lookup skb.cgroup,
        limit.byteRate = 0 ∨ limit.packetRate = 0) → (cgroupRateLimit maps now skb).1 = maps := by
  refine ⟨?_, fun now skb idle => ?_⟩
  · rw [classifyAll_view kept]
    exact verdictsOf_classifyAll ⟨rfl, rfl⟩ arrivals
  · refine cgroupRateLimit_apart now ?_
    rintro ⟨limit, found, rates⟩
    exact rates (idle limit found)

/-- Two limited cgroups take turns. -/
theorem cgroups_isolated_once :
    let maps : Maps := { start with
      limits := (AList.insert 1 ⟨1000, rateUnlimited⟩ ∅).insert 2 ⟨500, rateUnlimited⟩ }
    let arrivals : List Arrival := [⟨0, 1500, 1⟩, ⟨1, 1500, 2⟩, ⟨2, 1500, 1⟩]
    verdictsOf 1 arrivals (classifyAll cgroupRateLimit maps arrivals).2 =
      [.ok (some 0), .ok (some 1500000000)] := by
  intro maps arrivals
  have kept : EvictsNothing maps arrivals := by
    refine ⟨?_, ?_, ?_, trivial⟩ <;> decide
  exact (cgroups_isolated maps arrivals 1 kept).1.trans (by decide)

end Evicting

end TrafficLimitd.Limiter
