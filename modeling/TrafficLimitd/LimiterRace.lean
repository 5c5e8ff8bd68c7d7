import TrafficLimitd.LimiterConformance
import TrafficLimitd.RunInvariant

set_option autoImplicit false

/- Several CPUs inside `cgroup_rate_limit` for packets of one cgroup. Each map
lookup, each load and store of `priv->next_avail_ts`, each atomic addition and
each map update is one step; the steps of different CPUs interleave freely. -/
namespace TrafficLimitd.Limiter.Race

/-- Where one instance stands. The values are its local variables. -/
inductive Instance
  | lookupLimit (len : UInt32)
  | lookupPriv (delay : TimeNs)
  | readClock (delay : TimeNs) (found : Bool)
  | load (delay now : TimeNs)
  | store (delay now : TimeNs)
  | fetchAdd (delay tstamp : TimeNs)
  | update (delay now : TimeNs)
  | done (action : Action)
deriving DecidableEq, Repr

/-- The cgroup's entry of either map, the clock, and one instance for each
packet that has been seen. -/
structure State where
  limit : Option RateLimit
  next : Option TimeNs
  clock : TimeNs
  instances : List Instance
deriving DecidableEq, Repr

/-- `next_avail_ts`, an absent entry counted as zero. -/
def avail (next : Option TimeNs) : Nat := (next.map UInt64.toNat).getD 0

inductive Label
  | setLimit (limit : Option RateLimit)
  | tick (now : TimeNs)
  | packet (len : UInt32)
  | step (cpu : Nat)
deriving DecidableEq, Repr

/-- One atomic step of an instance: the new entry and where it goes on. -/
def Instance.step (state : State) : Instance → Option (Option TimeNs × Instance)
  | .lookupLimit len =>
      match state.limit with
      | none => some (state.next, .done (.ok none))
      | some limit =>
          if limit.byteRate = 0 ∨ limit.packetRate = 0 then some (state.next, .done .shot)
          else some (state.next, .lookupPriv (delayNs limit len))
  | .lookupPriv delay => some (state.next, .readClock delay state.next.isSome)
  | .readClock delay true => some (state.next, .load delay state.clock)
  | .readClock delay false => some (state.next, .update delay state.clock)
  | .load delay now =>
      state.next.map fun next =>
        if next < now then (some next, .store delay now)
        else if next > now + dropHorizon then (some next, .done .shot)
        else (some next, .fetchAdd delay next)
  | .store delay now => some (some (now + delay), .done (.ok (some now)))
  | .fetchAdd delay tstamp =>
      state.next.map fun next => (some (next + delay), .done (.ok (some tstamp)))
  | .update delay now => some (some (now + delay), .done (.ok (some now)))
  | .done _ => none

def step (state : State) : Label → Option State
  | .setLimit limit => some { state with limit := limit }
  | .tick now => if state.clock ≤ now then some { state with clock := now } else none
  | .packet len => some { state with instances := state.instances ++ [.lookupLimit len] }
  | .step cpu =>
      (state.instances[cpu]?).bind fun running =>
        (running.step state).map fun result =>
          { state with next := result.1, instances := state.instances.set cpu result.2 }

/-- The state before the first packet. -/
def start (limit : Option RateLimit) : State := ⟨limit, none, 0, []⟩

/-- The instance on this CPU, running without interference, ends with this
entry and this action. -/
def EndsAlone (state : State) (cpu : Nat) (next : Option TimeNs) (action : Action) : Prop :=
  ∃ count final, Run.exec step state (List.replicate count (.step cpu)) = some final ∧
    final.next = next ∧ final.instances[cpu]? = some (.done action)

theorem EndsAlone.done {state : State} {cpu : Nat} {action : Action}
    (present : state.instances[cpu]? = some (.done action)) :
    EndsAlone state cpu state.next action :=
  ⟨0, state, rfl, rfl, present⟩

theorem EndsAlone.step {state : State} {cpu : Nat} {running after : Instance}
    {moved next : Option TimeNs} {action : Action}
    (present : state.instances[cpu]? = some running)
    (taken : running.step state = some (moved, after))
    (rest : ∀ final : State, final.limit = state.limit → final.clock = state.clock →
      final.next = moved → final.instances[cpu]? = some after →
      EndsAlone final cpu next action) :
    EndsAlone state cpu next action := by
  have inside := (List.getElem?_eq_some_iff.mp present).1
  obtain ⟨count, final, reached, entry, finished⟩ := rest
    { state with next := moved, instances := state.instances.set cpu after } rfl rfl rfl
    (List.getElem?_set_self inside)
  refine ⟨count + 1, final, ?_, entry, finished⟩
  rw [List.replicate_succ, Run.exec_cons, Race.step, present, Option.bind_some, taken]
  exact reached

/-- The last three branches of `cgroupRateLimit`, from the load on. -/
theorem load_endsAlone (state : State) (cpu : Nat) (delay now entry : TimeNs)
    (found : state.next = some entry)
    (present : state.instances[cpu]? = some (.load delay now)) :
    if entry < now then EndsAlone state cpu (some (now + delay)) (.ok (some now))
    else if entry > now + dropHorizon then EndsAlone state cpu (some entry) .shot
    else EndsAlone state cpu (some (entry + delay)) (.ok (some entry)) := by
  have loaded : Instance.step state (.load delay now) = some
      (if entry < now then (some entry, .store delay now)
        else if entry > now + dropHorizon then (some entry, .done .shot)
        else (some entry, .fetchAdd delay entry)) := by
    simp only [Instance.step, found, Option.map_some]
  split
  · rename_i early
    rw [if_pos early] at loaded
    refine .step present loaded fun first _ _ _ here => ?_
    refine .step here rfl fun second _ _ next here => ?_
    rw [← next]
    exact .done here
  · rename_i late
    rw [if_neg late] at loaded
    split
    · rename_i beyond
      rw [if_pos beyond] at loaded
      refine .step present loaded fun first _ _ next here => ?_
      rw [← next]
      exact .done here
    · rename_i within
      rw [if_neg within] at loaded
      refine .step present loaded fun first _ _ next here => ?_
      have added : Instance.step first (.fetchAdd delay entry) =
          some (some (entry + delay), .done (.ok (some entry))) := by
        simp only [Instance.step, next, Option.map_some]
      refine .step here added fun second _ _ next here => ?_
      rw [← next]
      exact .done here

/-- Without interference the steps of an instance are `cgroupRateLimit`. -/
theorem lookupLimit_endsAlone (state : State) (cpu : Nat) (len : UInt32) (maps : Maps)
    (cgroup : CgroupId) (limits : maps.rateLimit cgroup = state.limit)
    (entries : maps.priv cgroup = state.next)
    (present : state.instances[cpu]? = some (.lookupLimit len)) :
    EndsAlone state cpu ((cgroupRateLimit maps state.clock ⟨len, cgroup⟩).1.priv cgroup)
      (cgroupRateLimit maps state.clock ⟨len, cgroup⟩).2 := by
  unfold cgroupRateLimit
  cases configured : state.limit with
  | none =>
      have taken : Instance.step state (.lookupLimit len) =
          some (state.next, .done (.ok none)) := by simp only [Instance.step, configured]
      rw [limits, configured]
      refine .step present taken fun final _ _ next here => ?_
      dsimp only
      rw [entries, ← next]
      exact .done here
  | some limit =>
      rw [limits, configured]
      dsimp only
      split
      · rename_i zero
        have taken : Instance.step state (.lookupLimit len) = some (state.next, .done .shot) := by
          simp only [Instance.step, configured, zero, ↓reduceIte]
        refine .step present taken fun final _ _ next here => ?_
        rw [entries, ← next]
        exact .done here
      · rename_i rates
        have taken : Instance.step state (.lookupLimit len) =
            some (state.next, .lookupPriv (delayNs limit len)) := by
          simp only [Instance.step, configured, rates, ↓reduceIte]
        refine .step present taken fun first _ clock next here => ?_
        refine .step here rfl fun second _ clock' next' here => ?_
        rw [next] at next' here
        rw [clock] at clock'
        rw [entries]
        cases entry : state.next with
        | none =>
            rw [entry] at here
            refine .step here rfl fun third _ _ _ here => ?_
            refine .step here rfl fun fourth _ _ last here => ?_
            rw [clock'] at last here
            rw [Maps.setPriv_priv_self, ← last]
            exact .done here
        | some entry' =>
            rw [entry] at here next'
            refine .step here rfl fun third _ _ found here => ?_
            rw [next'] at found
            rw [clock'] at here
            have ended := load_endsAlone third cpu _ _ entry' found here
            dsimp only
            by_cases early : entry' < state.clock
            · rw [if_pos early] at ended ⊢
              rwa [Maps.setPriv_priv_self]
            · rw [if_neg early] at ended ⊢
              by_cases beyond : entry' > state.clock + dropHorizon
              · rw [if_pos beyond] at ended ⊢
                rwa [entries, entry]
              · rw [if_neg beyond] at ended ⊢
                rwa [Maps.setPriv_priv_self]

/-- The plain write this instance is about to make rests on a test that it has
already made: the entry was below its clock, or there was no entry. -/
def Instance.pending : Instance → Bool
  | .store _ _ => true
  | .update _ _ => true
  | .readClock _ found => !found
  | _ => false

/-- The addition an instance is about to make to its clock or to the entry does
not wrap. -/
def Instance.Fits (next : Option TimeNs) : Instance → Prop
  | .store delay now => now.toNat + delay.toNat < 2 ^ 64
  | .update delay now => now.toNat + delay.toNat < 2 ^ 64
  | .fetchAdd delay _ => avail next + delay.toNat < 2 ^ 64
  | _ => True

instance Instance.Fits.decide (next : Option TimeNs) :
    ∀ running, Decidable (Instance.Fits next running)
  | .store _ _ => inferInstanceAs (Decidable (_ < _))
  | .update _ _ => inferInstanceAs (Decidable (_ < _))
  | .fetchAdd _ _ => inferInstanceAs (Decidable (_ < _))
  | .lookupLimit _ => isTrue trivial
  | .lookupPriv _ => isTrue trivial
  | .readClock _ _ => isTrue trivial
  | .load _ _ => isTrue trivial
  | .done _ => isTrue trivial

/-- The instance writes the entry in its next step. -/
def Instance.writes : Instance → Bool
  | .store _ _ => true
  | .fetchAdd _ _ => true
  | .update _ _ => true
  | _ => false

/-- No instance writes the entry while another stands between its test and its
plain write, and no addition wraps. -/
def Unraced (state : State) : Label → Prop
  | .step cpu => ∀ running ∈ state.instances[cpu]?, running.writes = true →
      running.Fits state.next ∧ ∀ other < state.instances.length, other ≠ cpu →
        ∀ waiting ∈ state.instances[other]?, waiting.pending = false
  | _ => True

instance Unraced.decide (state : State) : ∀ label, Decidable (Unraced state label)
  | .step cpu => inferInstanceAs (Decidable (∀ running ∈ state.instances[cpu]?, _ → _))
  | .setLimit _ => isTrue trivial
  | .tick _ => isTrue trivial
  | .packet _ => isTrue trivial

/-- What a pending plain write relies on is still so. -/
def Instance.Valid (next : Option TimeNs) : Instance → Prop
  | .store _ now => ∃ entry, next = some entry ∧ entry < now
  | .update _ _ => next = none
  | .readClock _ false => next = none
  | _ => True

def Invariant (state : State) : Prop :=
  ∀ running ∈ state.instances, running.Valid state.next

theorem start_invariant (limit : Option RateLimit) : Invariant (start limit) := by
  intro running member
  cases member

theorem Instance.valid_of_idle {running : Instance} (idle : running.pending = false)
    (next : Option TimeNs) : running.Valid next := by
  cases running with
  | store delay now => cases idle
  | update delay now => cases idle
  | readClock delay found =>
      cases found with
      | true => trivial
      | false => cases idle
  | _ => trivial

/-- A step that does not write leaves the entry alone, and what it then relies
on has just been tested. -/
theorem Instance.step_reads {state : State} {running after : Instance} {next : Option TimeNs}
    (taken : running.step state = some (next, after)) (reads : running.writes = false)
    (valid : running.Valid state.next) : next = state.next ∧ after.Valid state.next := by
  cases running with
  | store delay now => cases reads
  | fetchAdd delay tstamp => cases reads
  | update delay now => cases reads
  | done action => cases taken
  | lookupLimit len =>
      simp only [Instance.step] at taken
      split at taken
      · cases taken
        exact ⟨rfl, trivial⟩
      · split at taken <;> cases taken <;> exact ⟨rfl, trivial⟩
  | lookupPriv delay =>
      cases taken
      refine ⟨rfl, ?_⟩
      cases state.next with
      | none => rfl
      | some entry => trivial
  | readClock delay found =>
      cases found with
      | true =>
          cases taken
          exact ⟨rfl, trivial⟩
      | false =>
          cases taken
          exact ⟨rfl, valid⟩
  | load delay now =>
      obtain ⟨entry, present, result⟩ := Option.map_eq_some_iff.mp taken
      split at result
      · rename_i early
        cases result
        exact ⟨present.symm, entry, present, early⟩
      · split at result <;> cases result <;> exact ⟨present.symm, trivial⟩

/-- A write whose test still holds and whose sum fits does not lower the entry,
and its instance relies on nothing afterwards. -/
theorem Instance.step_writes {state : State} {running after : Instance} {next : Option TimeNs}
    (taken : running.step state = some (next, after)) (writes : running.writes = true)
    (valid : running.Valid state.next) (fits : running.Fits state.next) :
    avail state.next ≤ avail next ∧ after.pending = false := by
  cases running with
  | store delay now =>
      obtain ⟨entry, present, early⟩ := valid
      cases taken
      have below := UInt64.lt_iff_toNat_lt.mp early
      change now.toNat + delay.toNat < 2 ^ 64 at fits
      refine ⟨?_, rfl⟩
      simp only [avail, present, Option.map_some, Option.getD_some, UInt64.toNat_add,
        Nat.mod_eq_of_lt fits]
      omega
  | fetchAdd delay tstamp =>
      obtain ⟨entry, present, result⟩ := Option.map_eq_some_iff.mp taken
      cases result
      simp only [Instance.Fits, avail, present, Option.map_some, Option.getD_some] at fits
      refine ⟨?_, rfl⟩
      simp only [avail, present, Option.map_some, Option.getD_some, UInt64.toNat_add,
        Nat.mod_eq_of_lt fits]
      omega
  | update delay now =>
      have absent : state.next = none := valid
      refine ⟨?_, ?_⟩
      · simp [avail, absent]
      · cases taken
        rfl
  | lookupLimit len => cases writes
  | lookupPriv delay => cases writes
  | readClock delay found => cases writes
  | load delay now => cases writes
  | done action => cases writes

/-- One step of the machine keeps every pending test true and does not lower
the entry. -/
theorem step_unraced (state : State) (label : Label) (final : State)
    (inv : Invariant state) (unraced : Unraced state label)
    (taken : step state label = some final) :
    Invariant final ∧ avail state.next ≤ avail final.next := by
  cases label with
  | setLimit limit =>
      cases taken
      exact ⟨inv, Nat.le_refl _⟩
  | tick now =>
      simp only [step] at taken
      split at taken
      · cases taken
        exact ⟨inv, Nat.le_refl _⟩
      · cases taken
  | packet len =>
      cases taken
      refine ⟨?_, Nat.le_refl _⟩
      intro running member
      rcases List.mem_append.mp member with old | fresh
      · exact inv running old
      · rw [List.mem_singleton.mp fresh]
        trivial
  | step cpu =>
      obtain ⟨running, present, moved⟩ := Option.bind_eq_some_iff.mp taken
      obtain ⟨⟨next, after⟩, result, rfl⟩ := Option.map_eq_some_iff.mp moved
      have valid := inv running (List.mem_of_getElem? present)
      cases writes : running.writes with
      | false =>
          obtain ⟨same, tested⟩ := Instance.step_reads result writes valid
          subst same
          refine ⟨?_, Nat.le_refl _⟩
          intro other member
          rcases List.mem_or_eq_of_mem_set member with old | fresh
          · exact inv other old
          · rw [fresh]
            exact tested
      | true =>
          obtain ⟨fits, alone⟩ := unraced running present writes
          obtain ⟨raised, idle⟩ := Instance.step_writes result writes valid fits
          refine ⟨?_, raised⟩
          intro other member
          obtain ⟨index, found⟩ := List.mem_iff_getElem?.mp member
          apply Instance.valid_of_idle
          by_cases same : index = cpu
          · subst same
            rw [List.getElem?_set_self (List.getElem?_eq_some_iff.mp present).1] at found
            cases found
            exact idle
          · rw [List.getElem?_set_ne (Ne.symm same)] at found
            exact alone index (List.getElem?_eq_some_iff.mp found).1 same other found

/-- In a run in which no write falls between another instance's test and its
plain write, `next_avail_ts` never decreases. -/
theorem next_avail_monotone (limit : Option RateLimit) (before after : List Label)
    (earlier later : State)
    (unraced : Run.Meets step Unraced (start limit) (before ++ after))
    (reached : Run.exec step (start limit) before = some earlier)
    (continued : Run.exec step earlier after = some later) :
    avail earlier.next ≤ avail later.next := by
  obtain ⟨first, rest⟩ := unraced.append
  have inv : Invariant earlier := first.invariant Invariant
    (fun state label next inv ok taken => (step_unraced state label next inv ok taken).1)
    (start_invariant limit) reached
  exact (rest earlier reached).monotone Invariant (fun state => avail state.next)
    (fun state label next inv ok taken => (step_unraced state label next inv ok taken).1)
    (fun state label next inv ok taken => (step_unraced state label next inv ok taken).2)
    inv continued

/-- At 1 Mbyte/s, a packet of 60 bytes at time zero opens the entry, and at
0.1 s a packet of 1500 bytes and one of 60 bytes arrive on two CPUs. -/
def arrivals : List Label :=
  [.packet 60, .step 0, .step 0, .step 0, .step 0, .tick 100000000, .packet 1500, .packet 60]

def arrived : State where
  limit := some ⟨1000000, rateUnlimited⟩
  next := some 60000
  clock := 100000000
  instances := [.done (.ok (some 0)), .lookupLimit 1500, .lookupLimit 60]

/-- The second CPU runs after the first: it finds the entry in the future and
adds to it. -/
theorem next_avail_monotone_serial :
    let serial := List.replicate 5 (Label.step 1) ++ List.replicate 5 (Label.step 2)
    let final : State := { arrived with
      next := some 101560000
      instances := [.done (.ok (some 0)), .done (.ok (some 100000000)),
        .done (.ok (some 101500000))] }
    Run.exec step (start arrived.limit) arrivals = some arrived ∧
      Run.exec step arrived serial = some final ∧ avail arrived.next ≤ avail final.next := by
  intro serial final
  have reached : Run.exec step (start arrived.limit) arrivals = some arrived := by decide
  have continued : Run.exec step arrived serial = some final := by decide
  exact ⟨reached, continued, next_avail_monotone arrived.limit arrivals serial arrived final
    (by decide) reached continued⟩

/-- Both CPUs find the entry in the past before either stores, and the short
packet stores last: it erases the charge of the long one. -/
theorem next_avail_erased :
    ¬ ∀ (limit : Option RateLimit) (before after : List Label) (earlier later : State),
      Run.exec step (start limit) before = some earlier →
      Run.exec step earlier after = some later → avail earlier.next ≤ avail later.next := by
  intro monotone
  have kept := monotone arrived.limit
    (arrivals ++ List.replicate 4 (.step 1) ++ List.replicate 4 (.step 2) ++ [.step 1]) [.step 2]
    { arrived with
      next := some 101500000
      instances := [.done (.ok (some 0)), .done (.ok (some 100000000)), .store 60000 100000000] }
    { arrived with
      next := some 100060000
      instances := [.done (.ok (some 0)), .done (.ok (some 100000000)),
        .done (.ok (some 100000000))] } (by decide) (by decide)
  exact absurd kept (by decide)

end TrafficLimitd.Limiter.Race
