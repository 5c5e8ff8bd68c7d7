import TrafficLimitd.Protocol

set_option autoImplicit false

/- src/cgroup_rate_limit.bpf.c: the classifier that stamps each packet of a
limited cgroup with its departure time. All times are `__u64` nanoseconds and
wrap, as in the program. -/
namespace TrafficLimitd.Limiter

/-- `NS_PER_SEC`. -/
def nsPerSec : UInt64 := 1000000000

/-- `DROP_HORIZON`. -/
def dropHorizon : UInt64 := 2 * nsPerSec

/-- `time_ns_t`. -/
abbrev TimeNs := UInt64

/-- `cgroup_id_t`. -/
abbrev CgroupId := UInt64

/-- What the program reads of a `struct __sk_buff`. -/
structure SkBuff where
  len : UInt32
  cgroup : CgroupId
deriving DecidableEq, Repr

/-- `TC_ACT_OK` with the `tstamp` the program stored in the packet, if it stored
one, or `TC_ACT_SHOT`. -/
inductive Action
  | ok (tstamp : Option TimeNs)
  | shot
deriving DecidableEq, Repr

/-- `rate_limit_map`, and `rate_limit_priv_map` with the `next_avail_ts` of each
entry. Nothing is evicted from this view of the second map. -/
structure Maps where
  rateLimit : CgroupId → Option RateLimit
  priv : CgroupId → Option TimeNs

def Maps.setPriv (maps : Maps) (cgroup : CgroupId) (next : TimeNs) : Maps :=
  { maps with priv := fun key => if key = cgroup then some next else maps.priv key }

@[simp] theorem Maps.setPriv_rateLimit (maps : Maps) (cgroup : CgroupId) (next : TimeNs) :
    (maps.setPriv cgroup next).rateLimit = maps.rateLimit := rfl

@[simp] theorem Maps.setPriv_priv_self (maps : Maps) (cgroup : CgroupId) (next : TimeNs) :
    (maps.setPriv cgroup next).priv cgroup = some next := by
  simp only [Maps.setPriv, ↓reduceIte]

def delayNsByte (limit : RateLimit) (len : UInt32) : TimeNs :=
  if limit.byteRate = rateUnlimited then 0
  else (len.toUInt64 * nsPerSec + limit.byteRate / 2) / limit.byteRate

def delayNsPkt (limit : RateLimit) : TimeNs :=
  if limit.packetRate = rateUnlimited then 0
  else (nsPerSec + limit.packetRate / 2) / limit.packetRate

/-- `delay_ns`, the larger of the two delays. -/
def delayNs (limit : RateLimit) (len : UInt32) : TimeNs :=
  if delayNsPkt limit > delayNsByte limit len then delayNsPkt limit else delayNsByte limit len

/-- `cgroup_rate_limit` on one packet, with the reading of `bpf_ktime_get_ns`. -/
def cgroupRateLimit (maps : Maps) (now : TimeNs) (skb : SkBuff) : Maps × Action :=
  match maps.rateLimit skb.cgroup with
  | none => (maps, .ok none)
  | some limit =>
      if limit.byteRate = 0 ∨ limit.packetRate = 0 then (maps, .shot)
      else
        let delay := delayNs limit skb.len
        match maps.priv skb.cgroup with
        | some next =>
            if next < now then
              (maps.setPriv skb.cgroup (now + delay), .ok (some now))
            else if next > now + dropHorizon then (maps, .shot)
            else (maps.setPriv skb.cgroup (next + delay), .ok (some next))
        | none => (maps.setPriv skb.cgroup (now + delay), .ok (some now))

/-- A packet of the cgroup under consideration, with the clock when it is seen. -/
structure Packet where
  now : TimeNs
  len : UInt32
deriving DecidableEq, Repr

/-- The packets of one cgroup, one at a time. -/
def process (cgroup : CgroupId) : Maps → List Packet → Maps × List Action
  | maps, [] => (maps, [])
  | maps, packet :: rest =>
      let next := cgroupRateLimit maps packet.now ⟨packet.len, cgroup⟩
      let tail := process cgroup next.1 rest
      (tail.1, next.2 :: tail.2)

/-- A packet answered `TC_ACT_OK`, with its `tstamp`. -/
structure Passed where
  packet : Packet
  tstamp : TimeNs
deriving DecidableEq, Repr

/-- The packets that were stamped and answered `TC_ACT_OK`, in order. -/
def passed (packets : List Packet) (actions : List Action) : List Passed :=
  (packets.zip actions).filterMap fun
    | (packet, .ok (some tstamp)) => some ⟨packet, tstamp⟩
    | _ => none

end TrafficLimitd.Limiter
