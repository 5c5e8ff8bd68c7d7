import TrafficLimitd.LimiterConformance
import TrafficLimitd.SystemRequest

set_option autoImplicit false

/- From the command line to the packets. The classifier reads the daemon's map while the
daemon and its clients go on; what it does to the packets of one scope is what the client
of that scope has asked for, from before it runs its command until the scope is killed. -/
namespace TrafficLimitd

namespace Daemon

open Coroutine Handler
open Limiter (CgroupId)

/-- How a task can have gone on: what it said it has said, a scope that is alive was
alive, and the scope's cgroup is the same. -/
structure Job.Later (job next : Job) : Prop where
  told : job.told = true → next.told = true
  alive : next.ledger.killed = false → job.ledger.killed = false
  cgroup : ∀ cgroup, job.ledger.cgroup = some cgroup → next.ledger.cgroup = some cgroup

theorem Job.Later.refl (job : Job) : job.Later job := ⟨id, id, fun _ => id⟩

theorem Job.Later.trans {first second third : Job} (left : first.Later second)
    (right : second.Later third) : first.Later third where
  told told := right.told (left.told told)
  alive alive := left.alive (right.alive alive)
  cgroup cgroup same := right.cgroup cgroup (left.cgroup cgroup same)

theorem Job.later_perform {job : Job} {event : Event Effect Response} {rest : Prog Unit}
    (advanced : job.program.advance event = some rest) : job.Later (job.perform event rest) := by
  have recorded := Hearing.recorded_after job.ledger event.effect event.answer
  refine ⟨fun told => Job.told_perform told advanced, fun alive => ?_, recorded.cgroup⟩
  apply Bool.eq_false_of_not_eq_true
  intro killed
  cases (recorded.killed killed).symm.trans alive

theorem Job.later_clean (job : Job) (cleanup : Cleanup) (rest : List Cleanup) :
    job.Later (job.clean cleanup rest) := ⟨id, id, fun _ => id⟩

theorem Roster.step_later {host : Host} {roster next : Roster} {move : Move} {id : TaskId}
    {job : Job} (taken : roster.step host move = some next) (present : roster.jobs[id]? = some job) :
    ∃ after, next.jobs[id]? = some after ∧ job.Later after := by
  have set {other : TaskId} {current moved : Job} (here : roster.jobs[other]? = some current)
      (later : current.Later moved) :
      ∃ after, (roster.jobs.set other moved)[id]? = some after ∧ job.Later after := by
    by_cases same : other = id
    · subst same
      cases here.symm.trans present
      rw [List.getElem?_set_self (List.getElem?_eq_some_iff.mp present).1]
      exact ⟨moved, rfl, later⟩
    · rw [List.getElem?_set_ne same]
      exact ⟨job, present, Job.Later.refl job⟩
  cases move with
  | stay =>
      cases taken
      exact ⟨job, present, Job.Later.refl job⟩
  | create pid =>
      cases taken
      refine ⟨job, ?_, Job.Later.refl job⟩
      exact (List.getElem?_append_left (List.getElem?_eq_some_iff.mp present).1).trans present
  | perform other event =>
      obtain ⟨current, rest, here, advanced, _, rfl⟩ := Roster.perform_eq_some.mp taken
      have jobs := Roster.observe_jobs roster event.effect event.answer
      simp only [Roster.setJob, jobs]
      exact set here (Job.later_perform advanced)
  | cleanup other deleted =>
      obtain ⟨current, cleanup, rest, here, _, _, rfl⟩ := Roster.cleanup_eq_some.mp taken
      have jobs := Roster.clean_jobs roster deleted cleanup
      simp only [Roster.setJob, jobs]
      exact set here (current.later_clean cleanup rest)

end Daemon

namespace System

open Coroutine Handler
open Daemon (TaskId Job)
open Limiter (CgroupId Action Arrival Packet Passed)

theorem after_options (peer : Peer) (effect : Effect) (answer : Response effect) :
    (peer.after effect answer).options = peer.options := by
  rcases after_cases peer effect answer with same | same <;> rw [same]

theorem send_options {peer sent : Peer} (sends : peer.send = some sent) :
    sent.options = peer.options := by
  unfold Peer.send at sends
  split at sends <;> cases sends
  rfl

theorem run_options {peer moved : Peer} {label : Client.Label} (ran : peer.run label = some moved) :
    moved.options = peer.options := by
  unfold Peer.run at ran
  split at ran
  · obtain ⟨_, taken⟩ := Option.ite_none_right_eq_some.mp ran
    obtain ⟨_, _, rfl⟩ := Option.map_eq_some_iff.mp taken
    rfl
  · cases ran

/-- The programs at the other ends stay what they are. -/
def SamePrograms (state next : State) : Prop :=
  ∀ (id : TaskId) (peer : Peer), state.peers[id]? = some peer →
    ∃ moved, next.peers[id]? = some moved ∧ moved.options = peer.options

theorem samePrograms_refl (state : State) : SamePrograms state state :=
  fun _ peer here => ⟨peer, here, rfl⟩

theorem samePrograms_set {state : State} {id : TaskId} {peer moved : Peer}
    (here : state.peers[id]? = some peer) (same : moved.options = peer.options) :
    SamePrograms state (state.setPeer id moved) := by
  intro other otherPeer found
  simp only [State.setPeer]
  by_cases equal : id = other
  · subst equal
    cases here.symm.trans found
    rw [List.getElem?_set_self (List.getElem?_eq_some_iff.mp here).1]
    exact ⟨moved, rfl, same⟩
  · rw [List.getElem?_set_ne equal]
    exact ⟨otherPeer, found, rfl⟩

/-- What a step leaves alone: the programs at the other ends, the daemon unless the step is
one of its own, and `rate_limit_priv_map` unless there is a packet. -/
structure Frame (host : Host) (state : State) (label : Label) (next : State) : Prop where
  programs : SamePrograms state next
  daemon : next.daemon = state.daemon ∨
    ∃ own, Daemon.step host state.daemon own = some next.daemon
  priv : (∀ arrival, label ≠ .packet arrival) → next.priv = state.priv

section Step

variable {host : Host} {state next : State} {label : Label} {id : TaskId}

theorem step_frame (taken : step host state label = some next) : Frame host state label next := by
  cases label with
  | daemon own =>
      cases own with
      | perform event =>
          obtain ⟨id, _, taken⟩ := Option.bind_eq_some_iff.mp taken
          obtain ⟨peer, here, taken⟩ := Option.bind_eq_some_iff.mp taken
          obtain ⟨_, taken⟩ := Option.ite_none_right_eq_some.mp taken
          obtain ⟨daemon, stepped, rfl⟩ := Option.map_eq_some_iff.mp taken
          exact ⟨samePrograms_set here (after_options peer _ _), Or.inr ⟨_, stepped⟩, fun _ => rfl⟩
      | accept pid => cases taken
      | _ =>
          obtain ⟨daemon, stepped, rfl⟩ := Option.map_eq_some_iff.mp taken
          exact ⟨samePrograms_refl state, Or.inr ⟨_, stepped⟩, fun _ => rfl⟩
  | connect pid options =>
      obtain ⟨daemon, stepped, rfl⟩ := Option.map_eq_some_iff.mp taken
      refine ⟨fun id peer here => ⟨peer, ?_, rfl⟩, Or.inr ⟨_, stepped⟩, fun _ => rfl⟩
      exact (List.getElem?_append_left (List.getElem?_eq_some_iff.mp here).1).trans here
  | send id =>
      obtain ⟨peer, here, taken⟩ := Option.bind_eq_some_iff.mp taken
      obtain ⟨sent, sends, rfl⟩ := Option.map_eq_some_iff.mp taken
      exact ⟨samePrograms_set here (send_options sends), Or.inl rfl, fun _ => rfl⟩
  | transmit id =>
      simp only [step, State.transmit] at taken
      split at taken
      · rename_i here
        obtain ⟨_, taken⟩ := Option.ite_none_left_eq_some.mp taken
        obtain ⟨daemon, stepped, rfl⟩ := Option.map_eq_some_iff.mp taken
        exact ⟨samePrograms_set here rfl, Or.inr ⟨_, stepped⟩, fun _ => rfl⟩
      · cases taken
  | client id label =>
      obtain ⟨peer, here, taken⟩ := Option.bind_eq_some_iff.mp taken
      obtain ⟨moved, ran, rfl⟩ := Option.map_eq_some_iff.mp taken
      exact ⟨samePrograms_set here (run_options ran), Or.inl rfl, fun _ => rfl⟩
  | packet arrival =>
      cases taken
      exact ⟨samePrograms_refl state, Or.inl rfl, fun other => absurd rfl (other arrival)⟩

theorem step_later {job : Job} (taken : step host state label = some next)
    (present : state.daemon.roster.jobs[id]? = some job) :
    ∃ after, next.daemon.roster.jobs[id]? = some after ∧ job.Later after := by
  rcases (step_frame taken).daemon with same | ⟨own, stepped⟩
  · rw [same]
    exact ⟨job, present, .refl job⟩
  · exact Daemon.Roster.step_later (Daemon.step_refines stepped) present

end Step

/-- The task has told this client to proceed, and this is the cgroup of its scope. -/
structure Served (id : TaskId) (options : Client.Options) (cgroup : CgroupId) (state : State) :
    Prop where
  runs : ∃ peer, state.peers[id]? = some peer ∧ peer.options = some options
  told : ∃ job, state.daemon.roster.jobs[id]? = some job ∧ job.told = true ∧
    job.ledger.cgroup = some cgroup

/-- The task has not called `Kill` for the scope. A call that systemd refuses, or that
could not be sent, counts as one. -/
def Alive (id : TaskId) (state : State) : Prop :=
  ∀ job ∈ state.daemon.roster.jobs[id]?, job.ledger.killed = false

instance (id : TaskId) (state : State) : Decidable (Alive id state) :=
  Option.decidableForallMem state.daemon.roster.jobs[id]?

section Served

variable {host : Host} {state next final : State} {label : Label} {labels : List Label}
  {id : TaskId} {options : Client.Options} {cgroup : CgroupId}

theorem Served.step (served : Served id options cgroup state)
    (taken : step host state label = some next) : Served id options cgroup next := by
  obtain ⟨⟨peer, here, runs⟩, job, present, told, resolved⟩ := served
  obtain ⟨moved, there, same⟩ := (step_frame taken).programs id peer here
  obtain ⟨after, later, goes⟩ := step_later taken present
  exact ⟨⟨moved, there, same.trans runs⟩, after, later, goes.told told, goes.cgroup cgroup resolved⟩

theorem alive_of_step (taken : step host state label = some next) (alive : Alive id next) :
    Alive id state := by
  intro job present
  obtain ⟨after, later, goes⟩ := step_later taken present
  exact goes.alive (alive after later)

theorem alive_of_exec (went : Run.exec (step host) state labels = some final)
    (alive : Alive id final) : Alive id state := by
  induction labels generalizing state with
  | nil =>
      cases went
      exact alive
  | cons label rest ih =>
      obtain ⟨next, taken, continued⟩ := Run.exec_cons_eq_some.mp went
      exact alive_of_step taken (ih continued)

/-- A client that is served is limited as its options say. -/
theorem Served.limited (served : Served id options cgroup state) (linked : Linked state)
    (alive : Alive id state) :
    state.daemon.roster.limits.lookup cgroup = some (Client.reqAttrLimit options) := by
  obtain ⟨⟨peer, here, runs⟩, job, present, told, resolved⟩ := served
  obtain ⟨found, known, holds⟩ := linked.limited here present runs told (alive job present)
  cases known.symm.trans resolved
  exact holds

end Served

/-- The packets of one cgroup in the traffic of a run, and how they were answered. -/
def packetsOf (cgroup : CgroupId) (traffic : List (Arrival × Action)) : List Packet :=
  Limiter.own cgroup (traffic.map Prod.fst)

def answersOf (cgroup : CgroupId) (traffic : List (Arrival × Action)) : List Action :=
  Limiter.verdictsOf cgroup (traffic.map Prod.fst) (traffic.map Prod.snd)

/-- The step drops no entry of `rate_limit_priv_map`. -/
def State.EvictsNothing (state : State) : Label → Prop
  | .packet arrival => LeastRecent.keys state.priv.entries ⊆
      LeastRecent.keys (state.classify arrival).1.priv.entries
  | _ => True

instance (state : State) : DecidablePred state.EvictsNothing
  | .packet arrival => inferInstanceAs (Decidable (LeastRecent.keys state.priv.entries ⊆
      LeastRecent.keys (state.classify arrival).1.priv.entries))
  | .daemon _ | .connect _ _ | .send _ | .transmit _ | .client _ _ => isTrue trivial

section Traffic

variable {host : Host} {state next final : State} {labels : List Label} {cgroup : CgroupId}

theorem traffic_packet (arrival : Arrival) (rest : List Label) :
    traffic host state (.packet arrival :: rest) =
      (arrival, (state.classify arrival).2) :: traffic host (state.packet arrival) rest := rfl

theorem traffic_other {label : Label} (other : ∀ arrival, label ≠ .packet arrival)
    (taken : step host state label = some next) (rest : List Label) :
    traffic host state (label :: rest) = traffic host next rest := by
  cases label with
  | packet arrival => exact absurd rfl (other arrival)
  | _ => simp only [traffic, taken, Option.elim_some]

theorem maps_packet (state : State) (arrival : Arrival) :
    (state.packet arrival).maps = (state.classify arrival).1 := by
  have limits : (state.classify arrival).1.limits = state.maps.limits :=
    Limiter.Evicting.cgroupRateLimit_limits state.maps arrival.now arrival.skb
  rw [State.maps, State.packet]
  exact congrArg (fun limits => Limiter.Evicting.Maps.mk limits _) limits.symm

/-- A packet is answered as on maps without a bound. -/
theorem classify_view {arrival : Arrival} (kept : state.EvictsNothing (.packet arrival)) :
    Limiter.cgroupRateLimit state.maps.view arrival.now arrival.skb =
      ((state.packet arrival).maps.view, (state.classify arrival).2) := by
  rw [maps_packet]
  exact Limiter.Evicting.cgroupRateLimit_view arrival.now arrival.skb kept

theorem packetsOf_cons (arrival : Arrival) (action : Action) (rest : List (Arrival × Action)) :
    packetsOf cgroup ((arrival, action) :: rest) =
      if arrival.skb.cgroup = cgroup then ⟨arrival.now, arrival.skb.len⟩ :: packetsOf cgroup rest
      else packetsOf cgroup rest := by
  simp only [packetsOf, Limiter.own, List.map_cons, List.filter_cons, decide_eq_true_eq]
  split <;> rfl

theorem answersOf_cons (arrival : Arrival) (action : Action) (rest : List (Arrival × Action)) :
    answersOf cgroup ((arrival, action) :: rest) =
      if arrival.skb.cgroup = cgroup then action :: answersOf cgroup rest
      else answersOf cgroup rest := by
  simp only [answersOf, Limiter.verdictsOf, List.map_cons, List.zip_cons_cons, List.filter_cons,
    decide_eq_true_eq]
  split <;> rfl

/-- The packets of a client that is served are answered as if it were alone with its limit,
in whatever happens besides. -/
theorem answersOf_served {id : TaskId} {options : Client.Options} {maps : Limiter.Maps}
    (served : Served id options cgroup state) (linked : Linked state)
    (distinct : Run.Meets (step host) State.DistinctScopes state labels)
    (kept : Run.Meets (step host) State.EvictsNothing state labels)
    (went : Run.exec (step host) state labels = some final) (alive : Alive id final)
    (agree : Limiter.AgreeAt cgroup state.maps.view maps) :
    answersOf cgroup (traffic host state labels) =
      (Limiter.process cgroup maps (packetsOf cgroup (traffic host state labels))).2 := by
  induction labels generalizing state maps with
  | nil => rfl
  | cons label rest ih =>
      obtain ⟨next, taken, continued⟩ := Run.exec_cons_eq_some.mp went
      have linkedNext := linked.step distinct.1 taken
      have later (maps : Limiter.Maps) := @ih next maps (served.step taken) linkedNext
        (distinct.2 next taken) (kept.2 next taken) continued
      by_cases other : ∀ arrival, label ≠ .packet arrival
      · rw [traffic_other other taken]
        apply later maps
        have before := served.limited linked (alive_of_exec went alive)
        have after := (served.step taken).limited linkedNext (alive_of_exec continued alive)
        refine ⟨?_, ?_⟩
        · exact (after.trans before.symm).trans agree.rateLimit
        · rw [← agree.priv, State.maps, (step_frame taken).priv other]
          rfl
      · simp only [not_forall, not_not] at other
        obtain ⟨arrival, rfl⟩ := other
        cases taken
        have view := classify_view kept.1
        rw [traffic_packet, packetsOf_cons, answersOf_cons]
        obtain ⟨now, len, sender⟩ := arrival
        by_cases same : sender = cgroup
        · subst same
          obtain ⟨answer, after⟩ := agree.classify now len
          rw [view] at answer after
          simp only [↓reduceIte, Limiter.process]
          rw [later _ after, answer]
        · have apart : cgroup ≠ (⟨len, sender⟩ : Limiter.SkBuff).cgroup := Ne.symm same
          have after := Limiter.agreeAt_classify_ne state.maps.view now apart
          rw [view] at after
          simp only [same, ↓reduceIte]
          exact later maps (after.trans agree)

end Traffic

/-- The rates that a client asks for are not zero. -/
theorem reqAttrLimit_ne_zero (options : Client.Options) :
    (Client.reqAttrLimit options).byteRate ≠ 0 ∧ (Client.reqAttrLimit options).packetRate ≠ 0 := by
  have rate (rate : UInt64) : (if rate = 0 then rateUnlimited else rate) ≠ 0 := by
    split
    · decide
    · assumption
  exact ⟨rate options.byteRate, rate options.packetRate⟩

/-- From the command line to the packets: from the time at which the task is about to tell
its client to proceed until it kills the scope, and whatever else happens meanwhile, each
packet of the scope is dropped or leaves as from the ideal pacer for exactly the limit in
the options of that client, so that every window of them carries no more than that. -/
theorem served_client_paced (host : Host) (before during : List Label) (state final : State)
    (distinct : Run.Meets (step host) State.DistinctScopes start (before ++ during))
    (ran : Run.exec (step host) start before = some state)
    (kept : Run.Meets (step host) State.EvictsNothing state during)
    (went : Run.exec (step host) state during = some final) (id : TaskId) (peer : Peer)
    (options : Client.Options) (job : Job) (cgroup : CgroupId)
    (here : state.peers[id]? = some peer) (runs : peer.options = some options)
    (present : state.daemon.roster.jobs[id]? = some job) (told : job.told = true)
    (resolved : job.ledger.cgroup = some cgroup) (alive : Alive id final)
    (clock : ∀ answered ∈ traffic host state during, answered.1.now.toNat < 2 ^ 63) :
    let answered := traffic host state during
    let sent := Limiter.passed (packetsOf cgroup answered) (answersOf cgroup answered)
    Limiter.Stamps (packetsOf cgroup answered) (answersOf cgroup answered) ∧
      Limiter.PacedBy (Client.reqAttrLimit options) (state.maps.view.avail cgroup) sent ∧
      Limiter.Conforms (Client.reqAttrLimit options) sent := by
  intro answered sent
  obtain ⟨earlier, later⟩ := distinct.append
  have linked := linked_of_exec earlier ran
  have served : Served id options cgroup state := ⟨⟨peer, here, runs⟩, job, present, told, resolved⟩
  have alone : answersOf cgroup answered =
      (Limiter.process cgroup state.maps.view (packetsOf cgroup answered)).2 :=
    answersOf_served served linked (later state ran) kept went alive ⟨rfl, rfl⟩
  obtain ⟨byteRate, packetRate⟩ := reqAttrLimit_ne_zero options
  have bounded : ∀ packet ∈ packetsOf cgroup answered, packet.now.toNat < 2 ^ 63 := by
    intro packet member
    simp only [packetsOf, Limiter.own, List.mem_map, List.mem_filter] at member
    obtain ⟨arrival, ⟨⟨pair, present, rfl⟩, _⟩, rfl⟩ := member
    exact clock pair present
  have limited : state.maps.view.rateLimit cgroup = some (Client.reqAttrLimit options) :=
    served.limited linked (alive_of_exec went alive)
  simp only [sent, alone]
  have paced := Limiter.process_paced state.maps.view cgroup _ _ limited byteRate packetRate bounded
  refine ⟨?_, paced, Limiter.conforms_of_paced paced byteRate packetRate⟩
  exact Limiter.process_stamps state.maps.view cgroup _ _ limited byteRate packetRate bounded

/-- Two packets of the scope, and between them one of another cgroup and a step of the
task. -/
def twoPackets : List Label :=
  [.packet ⟨0, 1500, 6⟩, .daemon .resume, .packet ⟨5, 1500, 9⟩, .packet ⟨10, 1500, 6⟩]

theorem served_client_paced_once :
    ∃ state ∈ Run.exec (step scopeHost) start admittedClient,
      let answered := traffic scopeHost state twoPackets
      let sent := Limiter.passed (packetsOf 6 answered) (answersOf 6 answered)
      sent.map (fun p => p.tstamp.toNat) = [0, 1500000000] ∧
        Limiter.Stamps (packetsOf 6 answered) (answersOf 6 answered) ∧
        Limiter.Conforms (Client.reqAttrLimit fewOptions) sent := by
  have distinct : Run.Meets (step scopeHost) State.DistinctScopes start
      (admittedClient ++ twoPackets) := by
    decide +kernel
  have ends : ∃ state ∈ Run.exec (step scopeHost) start admittedClient,
      Run.Meets (step scopeHost) State.EvictsNothing state twoPackets ∧
      (∃ final ∈ Run.exec (step scopeHost) state twoPackets, Alive 0 final) ∧
      (∃ peer ∈ state.peers[0]?, peer.options = some fewOptions) ∧
      (∃ job ∈ state.daemon.roster.jobs[0]?, job.told = true ∧ job.ledger.cgroup = some 6) ∧
      (∀ answered ∈ traffic scopeHost state twoPackets, answered.1.now.toNat < 2 ^ 63) ∧
      let answered := traffic scopeHost state twoPackets
      (Limiter.passed (packetsOf 6 answered) (answersOf 6 answered)).map
        (fun p => p.tstamp.toNat) = [0, 1500000000] := by
    decide +kernel
  obtain ⟨state, ran, kept, ⟨final, went, alive⟩, ⟨peer, here, runs⟩, ⟨job, present, told,
    resolved⟩, clock, times⟩ := ends
  obtain ⟨stamps, _, conforms⟩ := served_client_paced scopeHost admittedClient twoPackets state
    final distinct ran kept went 0 peer fewOptions job 6 here runs present told resolved alive clock
  exact ⟨state, ran, times, stamps, conforms⟩

theorem classify_blocked {state : State} {arrival : Arrival}
    (blocked : state.daemon.roster.limits.lookup arrival.skb.cgroup = some ⟨0, 0⟩) :
    (state.classify arrival).2 = .shot := by
  have found : state.maps.limits.lookup arrival.skb.cgroup = some ⟨0, 0⟩ := blocked
  simp only [State.classify, Limiter.Evicting.cgroupRateLimit, found, true_or, ↓reduceIte]

/-- A scope fails closed: from the first entry that the task makes for the cgroup of its
scope until it deletes that entry, either the entry is what the client has asked for, or it
blocks all traffic, every packet is dropped and the client has not been told to proceed. -/
theorem scope_fails_closed (host : Host) (labels : List Label) (state : State)
    (distinct : Run.Meets (step host) State.DistinctScopes start labels)
    (ran : Run.exec (step host) start labels = some state) (id : TaskId) (peer : Peer)
    (options : Client.Options) (job : Job) (cgroup : CgroupId) (limit : RateLimit)
    (here : state.peers[id]? = some peer) (runs : peer.options = some options)
    (present : state.daemon.roster.jobs[id]? = some job)
    (installed : job.ledger.installed = some (cgroup, limit))
    (held : .clearRateLimit cgroup ∉ job.ran) :
    job.ledger.cgroup = some cgroup ∧ state.daemon.roster.limits.lookup cgroup = some limit ∧
      (limit = Client.reqAttrLimit options ∨
        limit = ⟨0, 0⟩ ∧ job.told = false ∧
          ∀ arrival : Arrival, arrival.skb.cgroup = cgroup → (state.classify arrival).2 = .shot) := by
  have linked := linked_of_exec distinct ran
  have member := List.mem_of_getElem? present
  have sound := linked.kept.sound job member
  have found : state.daemon.roster.limits.lookup cgroup = some limit :=
    linked.kept.balanced.kept id (cgroup, limit)
      ((Custody.entryAt_eq (Daemon.Roster.holder_at present)).trans
        (Job.entry_eq_some installed held))
  refine ⟨(sound.sound.placed cgroup limit installed).2, found, ?_⟩
  rcases (linked.heedful job member).granted cgroup limit installed with blocks | asks
  · subst blocks
    refine Or.inr ⟨rfl, ?_, fun arrival sender => classify_blocked (sender ▸ found)⟩
    apply Bool.eq_false_of_not_eq_true
    intro told
    obtain ⟨_, limit, _, requested, guarded, _⟩ := sound.confirms told
    cases installed.symm.trans guarded
    obtain ⟨asked, asks⟩ := (linked.heedful job member).asked told
    obtain ⟨rfl, request⟩ := linked.request here present runs asks
    have zero : Client.reqAttrLimit options = ⟨0, 0⟩ :=
      Option.some.inj (request.symm.trans requested)
    exact (reqAttrLimit_ne_zero options).1 (congrArg RateLimit.byteRate zero)
  · exact Or.inl (linked.request here present runs asks).1

/-- The scope's traffic is blocked and the request is not yet read. -/
def blockedClient : List Label :=
  [.connect 7 (some fewOptions), .send 0] ++
    (.resume :: Daemon.script 0 (Daemon.limitedClient.dropLast.dropLast.dropLast)).map .daemon

theorem scope_fails_closed_once :
    ∃ state ∈ Run.exec (step scopeHost) start blockedClient,
      ∃ job ∈ state.daemon.roster.jobs[0]?, job.told = false ∧
        (state.classify ⟨0, 1500, 6⟩).2 = .shot := by
  have distinct : Run.Meets (step scopeHost) State.DistinctScopes start blockedClient := by
    decide +kernel
  have ends : ∃ state ∈ Run.exec (step scopeHost) start blockedClient,
      (∃ peer ∈ state.peers[0]?, peer.options = some fewOptions) ∧
      ∃ job ∈ state.daemon.roster.jobs[0]?, job.ledger.installed = some (6, ⟨0, 0⟩) ∧
        .clearRateLimit 6 ∉ job.ran := by
    decide +kernel
  obtain ⟨state, ran, ⟨peer, here, runs⟩, job, present, installed, held⟩ := ends
  obtain ⟨_, _, asked | ⟨_, untold, shot⟩⟩ := scope_fails_closed scopeHost blockedClient state
    distinct ran 0 peer fewOptions job 6 ⟨0, 0⟩ here runs present installed held
  · exact absurd asked (by decide)
  · exact ⟨state, ran, job, present, untold, shot ⟨0, 1500, 6⟩ rfl⟩

end System

end TrafficLimitd
