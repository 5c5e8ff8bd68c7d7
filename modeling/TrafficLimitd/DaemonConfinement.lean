import TrafficLimitd.DaemonOrder
import TrafficLimitd.DaemonAccounts
import TrafficLimitd.HandlerScope

set_option autoImplicit false

/- What the daemon guarantees over whole runs: a client that may proceed is
limited as it asked until its scope is killed, and the counter and the map agree
with the tasks. -/
namespace TrafficLimitd.Daemon

open Coroutine Handler Custody
open Limiter (CgroupId)

/-- Only the keys that are there are looked at, not all there could be. -/
instance Roster.DistinctScopes.decide (roster : Roster) :
    ∀ move, Decidable (roster.DistinctScopes move)
  | .perform id event =>
      have : DecidablePred fun cgroup => ∀ other < roster.jobs.length, other ≠ id →
          ∀ entry ∈ entryAt roster.store.holders other, entry.1 ≠ cgroup := fun _ => inferInstance
      Option.decidableForallMem (limitedBy event.effect)
  | .stay | .create _ | .cleanup _ _ => isTrue trivial

instance Roster.DeletesPresent.decide (roster : Roster) :
    ∀ move, Decidable (roster.DeletesPresent move)
  | .cleanup id deleted =>
      have : DecidablePred fun job => ∀ cgroup ∈ clearedBy job, cgroup ∈ roster.limits →
          deleted = true := fun job => Option.decidableForallMem (clearedBy job)
      Option.decidableForallMem roster.jobs[id]?
  | .stay | .create _ | .perform _ _ => isTrue trivial

/-- Systemd reports distinct cgroups: the one that the step limits is not one
whose limit another task has set and not yet cleared. -/
def State.DistinctScopes (state : State) (label : Label) : Prop :=
  state.roster.DistinctScopes (state.move label)

/-- A present key that the step deletes is deleted. -/
def State.DeletesPresent (state : State) (label : Label) : Prop :=
  state.roster.DeletesPresent (state.move label)

instance (state : State) (label : Label) : Decidable (state.DistinctScopes label) :=
  Roster.DistinctScopes.decide state.roster (state.move label)

instance (state : State) (label : Label) : Decidable (state.DeletesPresent label) :=
  Roster.DeletesPresent.decide state.roster (state.move label)

variable {host : Host} {labels : List Label} {state : State}

theorem kept_of_exec (distinct : Run.Meets (step host) State.DistinctScopes start labels)
    (ran : Run.exec (step host) start labels = some state) : state.roster.Kept := by
  let inv := fun state : State => state.roster.Kept
  have starts : inv start := Roster.empty_kept
  refine distinct.invariant inv ?_ starts ran
  intro state label next kept apart taken
  exact kept.step apart (step_refines taken)

theorem orderly_of_exec (ran : Run.exec (step host) start labels = some state) : state.Orderly :=
  Run.exec_invariant State.Orderly (fun _ _ _ orderly taken => orderly.step taken)
    start_orderly ran

namespace Roster

variable {roster next : Roster} {id : TaskId} {job : Job}

/-- In a kept roster the client of a task that told it to proceed is limited as
it asked, until the task kills it. -/
theorem Kept.limited (kept : roster.Kept) (present : roster.jobs[id]? = some job)
    (told : job.told = true) (alive : job.ledger.killed = false) :
    ∃ cgroup limit, job.ledger.cgroup = some cgroup ∧ job.ledger.request = some limit ∧
      roster.limits.lookup cgroup = some limit := by
  have sound := kept.sound job (List.mem_of_getElem? present)
  obtain ⟨cgroup, limit, resolved, requested, holds⟩ := sound.confirmed told alive
  refine ⟨cgroup, limit, resolved, requested, ?_⟩
  exact kept.balanced.kept id (cgroup, limit) ((entryAt_eq (holder_at present)).trans holds)

theorem mem_observe (effect : Effect) (answer : Response effect) {cgroup : CgroupId}
    (present : cgroup ∈ roster.limits) : cgroup ∈ (roster.observe effect answer).limits := by
  unfold observe
  split
  · split <;> exact present
  · split
    · exact present
    · exact (AList.mem_insert _).mpr (Or.inr present)
  · exact present

/-- Only the cleanups of a task whose scope was killed take its entry away. -/
theorem Kept.killed_of_removed (kept : roster.Kept) {move : Move}
    (taken : roster.step host move = some next) (present : roster.jobs[id]? = some job)
    (told : job.told = true) {cgroup : CgroupId} (resolved : job.ledger.cgroup = some cgroup)
    (before : cgroup ∈ roster.limits) (after : cgroup ∉ next.limits) :
    job.ledger.killed = true := by
  cases move with
  | stay =>
      cases taken
      exact absurd before after
  | create pid =>
      cases taken
      exact absurd before after
  | perform other event =>
      obtain ⟨_, _, _, _, _, rfl⟩ := perform_eq_some.mp taken
      exact absurd (mem_observe event.effect event.answer before) after
  | cleanup other deleted =>
      have distinct : roster.DistinctScopes (.cleanup other deleted) := trivial
      have keptNext := kept.step distinct taken
      obtain ⟨cleaner, cleanup, rest, here, ended, pending, rfl⟩ := cleanup_eq_some.mp taken
      by_cases same : other = id
      · rw [same, present] at here
        cases here
        exact (kept.sound job (List.mem_of_getElem? present)).killed_of_ended ended told
      · by_contra alive
        have unmoved : ((roster.clean deleted cleanup).setJob other
            (cleaner.clean cleanup rest)).jobs[id]? = some job := by
          change ((roster.clean deleted cleanup).jobs.set other _)[id]? = some job
          rw [List.getElem?_set_ne same, clean_jobs, present]
        obtain ⟨key, limit, known, _, found⟩ :=
          keptNext.limited unmoved told (Bool.eq_false_of_not_eq_true alive)
        cases known.symm.trans resolved
        refine after (AList.lookup_isSome.mp ?_)
        rw [found]
        rfl

end Roster

/-- Confinement: along any run of the daemon in which systemd reports distinct
cgroups, the client of every task that has begun to write `RATE_LIMIT_PROCEED` is
limited as its request says until its scope is killed, and the entry is deleted
only after that. -/
theorem proceeding_client_confined (host : Host) (labels : List Label) (state : State)
    (distinct : Run.Meets (step host) State.DistinctScopes start labels)
    (ran : Run.exec (step host) start labels = some state) :
    (∀ (id : TaskId) (job : Job), state.roster.jobs[id]? = some job → job.told = true →
      job.ledger.killed = false →
      ∃ cgroup limit, job.ledger.cgroup = some cgroup ∧ job.ledger.request = some limit ∧
        state.roster.limits.lookup cgroup = some limit) ∧
    ∀ label next, step host state label = some next →
      ∀ (id : TaskId) (job : Job) (cgroup : CgroupId),
        state.roster.jobs[id]? = some job → job.told = true →
        job.ledger.cgroup = some cgroup → cgroup ∈ state.roster.limits →
        cgroup ∉ next.roster.limits → job.ledger.killed = true := by
  have kept := kept_of_exec distinct ran
  refine ⟨fun id job present told alive => kept.limited present told alive, ?_⟩
  intro label next taken id job cgroup present told resolved before after
  exact kept.killed_of_removed (step_refines taken) present told resolved before after

/-- The labels with which a task that is not alone in being ready has these
answers; a call that may wait does. -/
def script (id : TaskId) (events : List (Event Effect Response)) : List Label :=
  events.flatMap fun event =>
    if event.effect.waits then [.block, .reply id, .resume, .perform event] else [.perform event]

/-- The first connection finds the daemon's unit without a name. -/
def admittedFirst : List (Event Effect Response) :=
  [⟨.initMsgStream, (0 : Int)⟩, ⟨.registerCleanup .destroyMsgStream, ()⟩,
    ⟨.regStreamInterrupt (some .ioErr), ()⟩, ⟨.increaseNrTasks, true⟩,
    ⟨.registerCleanup .decreaseNrTasks, ()⟩, ⟨.thisUnitName, none⟩] ++
    unitLocated 1 [99] ++ reported [99] "Unit" "Id" [100] ++
    [⟨.thisUnitName, none⟩, ⟨.setThisUnitName [100], ()⟩]

/-- The scope's cgroup is found and nothing may pass. -/
def trafficBlocked (scopeObj path : CString) (cgroup : CgroupId) :
    List (Event Effect Response) :=
  reported scopeObj "Unit" "Id" (ascii "s.scope") ++
    reported scopeObj "Scope" "ControlGroup" path ++
    [⟨.cgPathGetCgroupid path, Except.ok cgroup⟩, ⟨.rateLimitSet cgroup ⟨0, 0⟩, (0 : Int)⟩,
      ⟨.registerCleanup (.clearRateLimit cgroup), ()⟩]

def requestMsg (limit : RateLimit) : List UInt8 :=
  Protocol.header expectedMsgLen .req ++ Protocol.leBytes 8 limit.byteRate.toNat ++
    Protocol.leBytes 8 limit.packetRate.toNat ++ Protocol.leBytes 8 0

/-- The request is read and its limit is set. -/
def limitSet (cgroup : CgroupId) (limit : RateLimit) : List (Event Effect Response) :=
  [⟨.streamIo .read (List.replicate expectedMsgLen 0) maxIoUsec,
      Awaited.value ((expectedMsgLen : Int), requestMsg limit)⟩,
    ⟨.regStreamInterrupt none, ()⟩, ⟨.rateLimitSet cgroup limit, (0 : Int)⟩]

/-- A client of process 7 up to the two messages that let it proceed. -/
def limitedClient : List (Event Effect Response) :=
  admittedFirst ++ originChecked 7 [1] [2] 5 ++ scopePrepared 7 [1] [49] ++
    scopeStarted 7 [49] [103] ++ processWatched 7 ++ trafficBlocked [103] [3] 6 ++
    limitSet 6 ⟨1000, 10⟩

def written (buf : List UInt8) (usec : Nat) : Event Effect Response :=
  ⟨.streamIo .write buf usec, Awaited.value ((buf.length : Int), buf)⟩

def startLogged : List (Event Effect Response) :=
  libraryOk 1 ++ [written (logMsg (startText ⟨1000, 10⟩)) maxIoUsec]

theorem proceeding_client_confined_once :
    ∃ state ∈ Run.exec (step scopeHost) start
        ([.accept 7, .resume] ++ script 0 (limitedClient ++ startLogged) ++ [.block]),
      state.roster.limits.lookup 6 = some ⟨1000, 10⟩ := by
  let labels := [.accept 7, .resume] ++ script 0 (limitedClient ++ startLogged) ++ [.block]
  have distinct : Run.Meets (step scopeHost) State.DistinctScopes start labels := by
    decide +kernel
  have ends : ∃ state ∈ Run.exec (step scopeHost) start labels,
      ∃ job ∈ state.roster.jobs[0]?, job.told = true ∧ job.ledger.killed = false ∧
        job.ledger.cgroup = some 6 ∧ job.ledger.request = some ⟨1000, 10⟩ := by decide +kernel
  obtain ⟨state, ran, job, present, told, alive, cgroup, request⟩ := ends
  obtain ⟨key, limit, resolved, requested, found⟩ :=
    (proceeding_client_confined scopeHost labels state distinct ran).1 0 job present told alive
  cases resolved.symm.trans cgroup
  cases requested.symm.trans request
  exact ⟨state, ran, found⟩

/-- The two assumptions under which the map is accounted for. -/
def State.Accountable (state : State) (label : Label) : Prop :=
  state.DistinctScopes label ∧ state.DeletesPresent label

instance (state : State) (label : Label) : Decidable (state.Accountable label) :=
  inferInstanceAs (Decidable (_ ∧ _))

theorem owned_of_exec (met : Run.Meets (step host) State.Accountable start labels)
    (ran : Run.exec (step host) start labels = some state) :
    state.roster.Kept ∧ Owned state.roster.store := by
  let inv := fun state : State => state.roster.Kept ∧ Owned state.roster.store
  have starts : inv start := ⟨Roster.empty_kept, empty_owned⟩
  refine met.invariant inv ?_ starts ran
  intro state label next ⟨kept, owned⟩ ⟨distinct, deletes⟩ taken
  have refines := step_refines taken
  exact ⟨kept.step distinct refines, kept.owned_step owned distinct deletes refines⟩

/-- The task passed the test against `MAX_NR_TASKS` and has not yet run its
`decrease_nr_tasks`. -/
def Job.counted (job : Job) : Bool :=
  job.ledger.counted && decide (.decreaseNrTasks ∉ job.ran)

theorem Roster.Kept.nrTasks_eq {roster : Roster} (kept : roster.Kept) :
    roster.nrTasks = roster.jobs.countP Job.counted := by
  have counted := kept.balanced.counted
  rw [Roster.store, List.countP_map] at counted
  exact counted

/-- A task that has left the list of all tasks is not counted. -/
theorem uncounted_of_freed (orderly : state.Orderly) (kept : state.roster.Kept)
    (freed : ∀ thread ∈ state.threads, thread.freed = true) (job : Job)
    (present : job ∈ state.roster.jobs) : job.counted = false := by
  obtain ⟨id, inside, here⟩ := List.getElem_of_mem present
  have bound : id < state.threads.length := orderly.aligned ▸ inside
  have task : state.task id = some (job, state.threads[id]) :=
    State.task_eq_some.mpr ⟨List.getElem?_eq_some_iff.mpr ⟨inside, here⟩,
      List.getElem?_eq_getElem bound⟩
  have fits := orderly.fits id _ task
  obtain ⟨ended, finished⟩ := fits.closed (fits.freed (freed _ (List.getElem_mem bound)))
  exact congrArg Holder.seated ((kept.sound job present).done ended finished)

theorem LimitMap.eq_empty {limits : LimitMap} (bare : limits.keys.length = 0) : limits = ∅ := by
  refine AList.ext ?_
  rw [AList.keys, List.keys, List.length_map] at bare
  exact List.eq_nil_of_length_eq_zero bare

/-- Accounting: the counter counts the tasks that it should, the map has no more
keys than that, neither outgrows its bound, `decrease_nr_tasks` does not abort,
and without tasks both are empty. -/
theorem tasks_accounted (host : Host) (labels : List Label) (state : State)
    (met : Run.Meets (step host) State.Accountable start labels)
    (ran : Run.exec (step host) start labels = some state) :
    state.roster.nrTasks = state.roster.jobs.countP Job.counted ∧
      state.roster.limits.keys.length ≤ state.roster.nrTasks ∧
      state.roster.nrTasks ≤ maxNrTasks ∧
      state.roster.aborted = false ∧
      state.roster.limits.keys.length ≤ mapCapacity maxNrTasks ∧
      ((∀ thread ∈ state.threads, thread.freed = true) →
        state.roster.nrTasks = 0 ∧ state.roster.limits = ∅) := by
  obtain ⟨kept, owned⟩ := owned_of_exec met ran
  have keys : state.roster.limits.keys.length ≤ state.roster.nrTasks :=
    table_length_le kept.balanced owned
  have bounded : state.roster.nrTasks ≤ maxNrTasks := kept.balanced.bounded
  refine ⟨kept.nrTasks_eq, keys, bounded, kept.alive, ?_, fun freed => ?_⟩
  · exact (keys.trans bounded).trans (Nat.le_add_right _ _)
  · have zero : state.roster.nrTasks = 0 := by
      rw [kept.nrTasks_eq]
      refine List.countP_eq_zero.mpr fun job present => ?_
      rw [uncounted_of_freed (orderly_of_exec ran) kept freed job present]
      exact Bool.false_ne_true
    exact ⟨zero, LimitMap.eq_empty (Nat.le_zero.mp (zero ▸ keys))⟩

/-- The client proceeds, its process ends, its scope is killed and the task is
over. -/
def clientDone : List Label :=
  script 0 (startLogged ++ [written proceedMsg maxIoUsec, ⟨.drainStream, (0 : Int)⟩, written [] 0,
    ⟨.shutdownTail, (0 : Int)⟩]) ++
  [.block, .processExit 0, .resume, .perform ⟨.waitForExit, Awaited.value ()⟩] ++
  script 0 [replied (.kill [103]) []] ++ List.replicate 7 (.cleanup true) ++
  [.finish, .endHandler 0]

theorem tasks_accounted_once :
    ∃ state ∈ Run.exec (step scopeHost) start
        ([.accept 7, .resume] ++ script 0 limitedClient ++ clientDone),
      state.threads.length = 1 ∧ state.roster.nrTasks = 0 ∧ state.roster.limits = ∅ := by
  let labels := [.accept 7, .resume] ++ script 0 limitedClient ++ clientDone
  have met : Run.Meets (step scopeHost) State.Accountable start labels := by decide +kernel
  have ends : ∃ state ∈ Run.exec (step scopeHost) start labels,
      state.threads.length = 1 ∧ ∀ thread ∈ state.threads, thread.freed = true := by
    decide +kernel
  obtain ⟨state, ran, one, freed⟩ := ends
  obtain ⟨_, _, _, _, _, empty⟩ := tasks_accounted scopeHost labels state met ran
  exact ⟨state, ran, one, empty freed⟩

end TrafficLimitd.Daemon
