import TrafficLimitd.Custody
import TrafficLimitd.DaemonRoster

set_option autoImplicit false

/- Every move of a connection is a move of a party that keeps its accounts: the
counter counts the seats, and the map holds the entries in the care of tasks. -/
namespace TrafficLimitd.Daemon

open Coroutine Handler Custody
open Limiter (CgroupId)

section Order

open Ledger (Ordered)

/-- What has run of an ordered list of cleanups does not come again, and the
count is given back last. -/
theorem Ordered.append {first second : List Cleanup} (ordered : Ordered (first ++ second)) :
    Ordered second ∧
      (.decreaseNrTasks ∈ first →
        .decreaseNrTasks ∉ second ∧ ∀ cgroup, .clearRateLimit cgroup ∉ second) ∧
      ∀ cgroup, .clearRateLimit cgroup ∈ first → ∀ other, .clearRateLimit other ∉ second := by
  induction first with
  | nil => exact ⟨ordered, nofun, nofun⟩
  | cons cleanup rest ih =>
      rw [List.cons_append] at ordered
      cases cleanup with
      | clearRateLimit cgroup =>
          obtain ⟨_, uncleared, ordered⟩ := ordered
          obtain ⟨tail, counts, _⟩ := ih ordered
          refine ⟨tail, fun present => counts (by simpa using present), fun _ _ other later => ?_⟩
          exact uncleared other (List.mem_append_right _ later)
      | decreaseNrTasks =>
          obtain ⟨uncounted, uncleared, ordered⟩ := ordered
          obtain ⟨tail, _, _⟩ := ih ordered
          refine ⟨tail, fun _ => ⟨fun later => uncounted (List.mem_append_right _ later),
            fun other later => uncleared other (List.mem_append_right _ later)⟩,
            fun _ _ other later => uncleared other (List.mem_append_right _ later)⟩
      | _ =>
          obtain ⟨tail, counts, clears⟩ := ih ordered
          exact ⟨tail, fun present => counts (by simpa using present),
            fun cgroup present => clears cgroup (by simpa using present)⟩

end Order

namespace Job

/-- A task at any point of its life: it keeps to the rules, and the cleanups that
it has run and those it has not are what it registered. -/
structure Sound (job : Job) : Prop where
  follows : Ledger.rules.Follows job.ledger job.program fun final _ => final.Closed
  sound : job.ledger.Sound
  registered : job.ran.reverse ++ job.cleanups = job.ledger.registered
  unwinding : job.ran ≠ [] → job.program = .pure ()

theorem newJob_sound (host : Host) (pid : Pid) : (newJob host pid).Sound where
  follows := Ledger.clientHandlerAsync_follows host pid
  sound := Ledger.blank_sound
  registered := rfl
  unwinding := nofun

variable {job : Job}

/-- Nothing has been cleaned up while the handler runs. -/
theorem Sound.ran_nil (sound : job.Sound) {event : Event Effect Response} {rest : Prog Unit}
    (taken : job.program.advance event = some rest) : job.ran = [] := by
  by_contra started
  rw [sound.unwinding started] at taken
  cases taken

theorem Sound.may (sound : job.Sound) {event : Event Effect Response} {rest : Prog Unit}
    (taken : job.program.advance event = some rest) : job.ledger.may event.effect :=
  (sound.follows.advance taken).1

/-- A task's list of cleanups is what it registers. -/
theorem Sound.registered_perform (sound : job.Sound) {event : Event Effect Response}
    {rest : Prog Unit} (taken : job.program.advance event = some rest) :
    job.registers event.effect = (job.ledger.after event.effect event.answer).registered := by
  have registered : job.cleanups = job.ledger.registered := by
    have all := sound.registered
    rw [sound.ran_nil taken] at all
    exact all
  obtain ⟨effect, answer⟩ := event
  cases effect with
  | registerCleanup cleanup => exact congrArg _ registered
  | increaseNrTasks => exact registered
  | rateLimitSet cgroup limit =>
      simp only [Job.registers, Ledger.after, Ledger.install]
      split <;> exact registered
  | _ => exact registered.trans (Ledger.same_after job.ledger _ rfl answer).registered.symm

theorem Sound.perform (sound : job.Sound) {event : Event Effect Response} {rest : Prog Unit}
    (taken : job.program.advance event = some rest) : (job.perform event rest).Sound := by
  have unran := sound.ran_nil taken
  obtain ⟨may, follows⟩ := sound.follows.advance taken
  refine ⟨follows, sound.sound.after event.effect may event.answer, ?_, fun started => ?_⟩
  · change job.ran.reverse ++ job.registers event.effect = _
    rw [unran, sound.registered_perform taken]
    rfl
  · exact absurd unran started

/-- At the end of the handler every debt is registered. -/
theorem Sound.closed (sound : job.Sound) (ended : job.program = .pure ()) : job.ledger.Closed := by
  have follows := sound.follows
  rw [ended] at follows
  exact follows

theorem Sound.clean (sound : job.Sound) (ended : job.program = .pure ()) {cleanup : Cleanup}
    {rest : List Cleanup} (pending : job.cleanups = cleanup :: rest) :
    (job.clean cleanup rest).Sound := by
  refine ⟨sound.follows, sound.sound, ?_, fun _ => ended⟩
  have registered := sound.registered
  rw [pending] at registered
  change (cleanup :: job.ran).reverse ++ rest = job.ledger.registered
  rw [List.reverse_cons, List.append_assoc, List.singleton_append, registered]

/-- A task as a party: it has a seat as long as it is counted, and its entry of
the map is in its care until it has tried to delete it. -/
def holder (job : Job) : Holder CgroupId RateLimit where
  seated := job.ledger.counted && decide (.decreaseNrTasks ∉ job.ran)
  entry := job.ledger.installed.filter fun entry => decide (.clearRateLimit entry.1 ∉ job.ran)

theorem holder_of_ran_nil (unran : job.ran = []) :
    job.holder = ⟨job.ledger.counted, job.ledger.installed⟩ := by
  unfold holder
  rw [unran]
  cases job.ledger.installed <;> simp

/-- Between two calls that change nothing on the account the party is the same. -/
theorem holder_perform_other (sound : job.Sound) {event : Event Effect Response}
    {rest : Prog Unit} (taken : job.program.advance event = some rest)
    (other : Ledger.Accounting event.effect = false) :
    (job.perform event rest).holder = job.holder := by
  have same := Ledger.same_after job.ledger event.effect other event.answer
  have unran := sound.ran_nil taken
  rw [holder_of_ran_nil unran, holder_of_ran_nil (show (job.perform event rest).ran = [] from unran)]
  change Holder.mk (job.ledger.after event.effect event.answer).counted
    (job.ledger.after event.effect event.answer).installed = _
  rw [same.counted, same.installed]

theorem entry_eq_none
    (cleared : ∀ entry, job.ledger.installed = some entry → .clearRateLimit entry.1 ∈ job.ran) :
    job.holder.entry = none := by
  refine Option.filter_eq_none_iff.mpr fun entry installed kept => ?_
  exact of_decide_eq_true kept (cleared entry installed)

theorem entry_eq_some {entry : CgroupId × RateLimit}
    (installed : job.ledger.installed = some entry)
    (uncleared : .clearRateLimit entry.1 ∉ job.ran) : job.holder.entry = some entry :=
  Option.filter_eq_some_iff.mpr ⟨installed, decide_eq_true uncleared⟩

theorem seated_eq_true (counted : job.ledger.counted = true)
    (first : .decreaseNrTasks ∉ job.ran) : job.holder.seated = true := by
  simp only [holder, counted, first, not_false_eq_true, decide_true, Bool.and_self]

theorem holder_clean_decrease (job : Job) (rest : List Cleanup) :
    (job.clean .decreaseNrTasks rest).holder = { job.holder with seated := false } := by
  simp [holder, clean, ledger]

theorem holder_clean_clear {cgroup : CgroupId} {limit : RateLimit} (rest : List Cleanup)
    (installed : job.ledger.installed = some (cgroup, limit)) :
    (job.clean (.clearRateLimit cgroup) rest).holder = { job.holder with entry := none } := by
  have gone : (job.clean (.clearRateLimit cgroup) rest).holder.entry = none := by
    refine entry_eq_none fun entry same => ?_
    rw [show (job.clean (.clearRateLimit cgroup) rest).ledger.installed = _ from installed] at same
    cases same
    exact List.mem_cons_self
  have seated : (job.clean (.clearRateLimit cgroup) rest).holder.seated = job.holder.seated := by
    simp [holder, clean, ledger]
  exact Holder.ext seated gone

theorem holder_clean_other {cleanup : Cleanup} (rest : List Cleanup)
    (uncounted : cleanup ≠ .decreaseNrTasks)
    (unlimited : ∀ cgroup, cleanup ≠ .clearRateLimit cgroup) :
    (job.clean cleanup rest).holder = job.holder := by
  have seat : .decreaseNrTasks ≠ cleanup := uncounted.symm
  have guard : ∀ cgroup, .clearRateLimit cgroup ≠ cleanup := fun cgroup => (unlimited cgroup).symm
  simp [holder, clean, ledger, seat, guard]

/-- When it is the turn of the counter, the task is counted and its limit is
cleared. -/
theorem Sound.rising (sound : job.Sound) (ended : job.program = .pure ()) {rest : List Cleanup}
    (pending : job.cleanups = .decreaseNrTasks :: rest) :
    job.holder.seated = true ∧ job.holder.entry = none := by
  have registered := sound.registered
  rw [pending] at registered
  have ordered := sound.sound.ordered
  rw [← registered] at ordered
  obtain ⟨later, counts, _⟩ := Ordered.append ordered
  have seat : .decreaseNrTasks ∈ job.ledger.registered := by
    rw [← registered]
    exact List.mem_append_right _ List.mem_cons_self
  have first : .decreaseNrTasks ∉ job.ran := fun ran =>
    (counts (List.mem_reverse.mpr ran)).1 List.mem_cons_self
  refine ⟨seated_eq_true (sound.sound.seated seat) first, entry_eq_none fun entry installed => ?_⟩
  have guard := (sound.closed ended).1.2 entry.1 entry.2 installed
  rw [← registered] at guard
  rcases List.mem_append.mp guard with ran | left
  · exact List.mem_reverse.mp ran
  · exact absurd (by simpa using left) (later.2.1 entry.1)

/-- When it is the turn of the limit, the entry is in the task's care. -/
theorem Sound.clearing (sound : job.Sound) {cgroup : CgroupId} {rest : List Cleanup}
    (pending : job.cleanups = .clearRateLimit cgroup :: rest) :
    ∃ limit, job.ledger.installed = some (cgroup, limit) ∧
      job.holder.entry = some (cgroup, limit) := by
  have registered := sound.registered
  rw [pending] at registered
  have ordered := sound.sound.ordered
  rw [← registered] at ordered
  obtain ⟨_, _, clears⟩ := Ordered.append ordered
  have guard : .clearRateLimit cgroup ∈ job.ledger.registered := by
    rw [← registered]
    exact List.mem_append_right _ List.mem_cons_self
  obtain ⟨limit, installed⟩ := sound.sound.owned cgroup guard
  refine ⟨limit, installed, entry_eq_some installed fun ran => ?_⟩
  exact clears cgroup (List.mem_reverse.mpr ran) cgroup List.mem_cons_self

/-- A task that has run all its cleanups has neither a seat nor an entry. -/
theorem Sound.done (sound : job.Sound) (ended : job.program = .pure ())
    (finished : job.cleanups = []) : job.holder = newcomer := by
  have registered := sound.registered
  rw [finished, List.append_nil] at registered
  obtain ⟨⟨seat, guard⟩, _⟩ := sound.closed ended
  have gone : job.holder.entry = none := by
    refine entry_eq_none fun entry installed => List.mem_reverse.mp ?_
    rw [registered]
    exact guard entry.1 entry.2 installed
  have risen : job.holder.seated = false := by
    cases counted : job.ledger.counted with
    | false => simp only [holder, counted, Bool.false_and]
    | true =>
        have ran : .decreaseNrTasks ∈ job.ran := by
          rw [← List.mem_reverse, registered]
          exact seat counted
        simp only [holder, ran, not_true_eq_false, decide_false, Bool.and_false]
  exact Holder.ext risen gone

/-- The task has told its client to proceed, or is about to. -/
def told (job : Job) : Bool :=
  job.ledger.proceeded || job.program.pending.any writesProceed

theorem Sound.confirms (sound : job.Sound) (told : job.told = true) : job.ledger.Confirms := by
  rcases Bool.or_eq_true_iff.mp told with went | writing
  · exact sound.sound.confirmed went
  · obtain ⟨effect, pending, proceeds⟩ := (Option.any_eq_true _ _).mp writing
    have may := sound.follows.may_pending pending
    unfold writesProceed at proceeds
    split at proceeds
    · exact may proceeds
    · cases proceeds

theorem Sound.killed_of_ended (sound : job.Sound) (ended : job.program = .pure ())
    (told : job.told = true) : job.ledger.killed = true := by
  refine (sound.closed ended).2 ?_
  simpa [Job.told, ended] using told

/-- A client that was told to proceed and not yet killed is limited as it
asked. -/
theorem Sound.confirmed (sound : job.Sound) (told : job.told = true)
    (alive : job.ledger.killed = false) :
    ∃ cgroup limit, job.ledger.cgroup = some cgroup ∧ job.ledger.request = some limit ∧
      job.holder.entry = some (cgroup, limit) := by
  obtain ⟨cgroup, limit, resolved, requested, installed, _⟩ := sound.confirms told
  refine ⟨cgroup, limit, resolved, requested, entry_eq_some installed fun ran => ?_⟩
  have ended := sound.unwinding (List.ne_nil_of_mem ran)
  rw [sound.killed_of_ended ended told] at alive
  cases alive

theorem newJob_holder (host : Host) (pid : Pid) : (newJob host pid).holder = newcomer := rfl

end Job

namespace Roster

def store (roster : Roster) : Store CgroupId RateLimit :=
  ⟨roster.jobs.map Job.holder, roster.nrTasks, roster.limits⟩

/-- The cgroup that a call limits. -/
def limitedBy : Effect → Option CgroupId
  | .rateLimitSet cgroup _ => some cgroup
  | _ => none

/-- The cgroup whose limit the next cleanup clears. -/
def clearedBy (job : Job) : Option CgroupId :=
  match job.cleanups with
  | .clearRateLimit cgroup :: _ => some cgroup
  | _ => none

/-- A cgroup that a task limits is not one whose limit is another task's. -/
def DistinctScopes (roster : Roster) : Move → Prop
  | .perform id event => ∀ cgroup ∈ limitedBy event.effect, ∀ other < roster.jobs.length,
      other ≠ id → ∀ entry ∈ entryAt roster.store.holders other, entry.1 ≠ cgroup
  | _ => True

/-- A key that is present can be deleted. -/
def DeletesPresent (roster : Roster) : Move → Prop
  | .cleanup id deleted => ∀ job ∈ roster.jobs[id]?, ∀ cgroup ∈ clearedBy job,
      cgroup ∈ roster.limits → deleted = true
  | _ => True

variable {roster next : Roster} {id : TaskId} {job : Job}

theorem holder_at (present : roster.jobs[id]? = some job) :
    roster.store.holders[id]? = some job.holder := by
  change (roster.jobs.map Job.holder)[id]? = _
  rw [List.getElem?_map, present]
  rfl

theorem store_setJob (roster : Roster) (id : TaskId) (job : Job) :
    (roster.setJob id job).store =
      { roster.store with holders := roster.store.holders.set id job.holder } := by
  simp only [store, setJob, List.map_set]

/-- A move that changes nothing on the account. -/
theorem store_setJob_same (present : roster.jobs[id]? = some job) {moved : Job}
    (same : moved.holder = job.holder) : (roster.setJob id moved).store = roster.store := by
  obtain ⟨inside, here⟩ := List.getElem?_eq_some_iff.mp (holder_at present)
  rw [store_setJob, same, ← here, List.set_getElem_self]

section Performs

variable {leaks : Prop} {rest : Prog Unit}

theorem performs_increaseNrTasks {answer : Bool} (sound : job.Sound)
    (present : roster.jobs[id]? = some job)
    (taken : job.program.advance ⟨.increaseNrTasks, answer⟩ = some rest)
    (answered : roster.answers .increaseNrTasks answer = true) :
    Step maxNrTasks leaks roster.store
      ((roster.observe .increaseNrTasks answer).setJob id
        (job.perform ⟨.increaseNrTasks, answer⟩ rest)).store := by
  have before := Job.holder_of_ran_nil (sound.ran_nil taken)
  have after : (job.perform ⟨.increaseNrTasks, answer⟩ rest).holder =
      ⟨job.ledger.counted || answer, job.ledger.installed⟩ :=
    Job.holder_of_ran_nil (sound.ran_nil taken)
  cases answer with
  | false =>
      change Step _ _ _ (roster.setJob id _).store
      rw [store_setJob_same present (after.trans (before ▸ Holder.ext (Bool.or_false _) rfl))]
      exact .stay _
  | true =>
      have standing : job.holder.seated = false := by
        rw [before]
        exact sound.may taken
      have room : roster.nrTasks < maxNrTasks := by
        have equal : (true == decide (roster.nrTasks < maxNrTasks)) = true := answered
        exact of_decide_eq_true (eq_of_beq equal).symm
      have sits : (job.perform ⟨.increaseNrTasks, true⟩ rest).holder =
          { job.holder with seated := true } :=
        after.trans (before ▸ Holder.ext (Bool.or_true _) rfl)
      rw [store_setJob, sits]
      exact .sit (holder_at present) standing room

theorem performs_rateLimitSet {cgroup : CgroupId} {limit : RateLimit} {rc : Int}
    (sound : job.Sound) (present : roster.jobs[id]? = some job)
    (taken : job.program.advance ⟨.rateLimitSet cgroup limit, rc⟩ = some rest)
    (distinct : roster.DistinctScopes (.perform id ⟨.rateLimitSet cgroup limit, rc⟩)) :
    Step maxNrTasks leaks roster.store
      ((roster.observe (.rateLimitSet cgroup limit) rc).setJob id
        (job.perform ⟨.rateLimitSet cgroup limit, rc⟩ rest)).store := by
  have before := Job.holder_of_ran_nil (sound.ran_nil taken)
  have after : (job.perform ⟨.rateLimitSet cgroup limit, rc⟩ rest).holder =
      ⟨(job.ledger.install cgroup limit rc).counted, (job.ledger.install cgroup limit rc).installed⟩ :=
    Job.holder_of_ran_nil (sound.ran_nil taken)
  obtain ⟨resolved, seat, _, _⟩ := sound.may taken
  by_cases failed : rc < 0
  · rw [Ledger.install_failed _ _ _ failed, ← before] at after
    rw [show roster.observe (.rateLimitSet cgroup limit) rc = roster from if_pos failed,
      store_setJob_same present after]
    exact .stay _
  · have puts : (job.perform ⟨.rateLimitSet cgroup limit, rc⟩ rest).holder =
        { job.holder with entry := some (cgroup, limit) } := by
      rw [after, before, Ledger.install_ok _ _ _ failed]
    have updates : roster.observe (.rateLimitSet cgroup limit) rc =
        { roster with limits := roster.limits.insert cgroup limit } := if_neg failed
    rw [updates, store_setJob, puts]
    refine .put cgroup limit (holder_at present) ?_ ?_ ?_
    · rw [before]
      exact sound.sound.seated seat
    · rw [before]
      intro old installed
      have known := (sound.sound.placed old.1 old.2 installed).2
      exact Option.some.inj (known.symm.trans resolved)
    · intro other old different found
      obtain ⟨_, here, _⟩ := Option.bind_eq_some_iff.mp found
      have inside := (List.getElem?_eq_some_iff.mp here).1
      rw [store, List.length_map] at inside
      exact distinct cgroup rfl other inside different old found

/-- A call is a move of its party: taking a seat, putting an entry into the map,
or nothing. -/
theorem performs {event : Event Effect Response} (sound : job.Sound)
    (present : roster.jobs[id]? = some job) (taken : job.program.advance event = some rest)
    (answered : roster.answers event.effect event.answer = true)
    (distinct : roster.DistinctScopes (.perform id event)) :
    Step maxNrTasks leaks roster.store
      ((roster.observe event.effect event.answer).setJob id (job.perform event rest)).store := by
  obtain ⟨effect, answer⟩ := event
  cases effect with
  | increaseNrTasks => exact performs_increaseNrTasks sound present taken answered
  | rateLimitSet cgroup limit => exact performs_rateLimitSet sound present taken distinct
  | registerCleanup cleanup =>
      have same : (job.perform ⟨.registerCleanup cleanup, answer⟩ rest).holder = job.holder :=
        (Job.holder_of_ran_nil (sound.ran_nil taken)).trans
          (Job.holder_of_ran_nil (sound.ran_nil taken)).symm
      change Step _ _ _ (roster.setJob id _).store
      rw [store_setJob_same present same]
      exact .stay _
  | _ =>
      change Step _ _ _ (roster.setJob id _).store
      rw [store_setJob_same present (Job.holder_perform_other sound taken rfl)]
      exact .stay _

end Performs

/-- A cleanup is a move of its party: taking its entry out of the map, leaving it
behind, rising, or nothing. -/
theorem cleans {leaks : Prop} {cleanup : Cleanup} {rest : List Cleanup} {deleted : Bool}
    (sound : job.Sound) (balanced : Balanced maxNrTasks roster.store)
    (present : roster.jobs[id]? = some job) (ended : job.program = .pure ())
    (pending : job.cleanups = cleanup :: rest)
    (tolerated : roster.DeletesPresent (.cleanup id deleted) ∨ leaks) :
    Step maxNrTasks leaks roster.store
        ((roster.clean deleted cleanup).setJob id (job.clean cleanup rest)).store ∧
      (roster.clean deleted cleanup).aborted = roster.aborted := by
  have here := holder_at present
  cases cleanup with
  | decreaseNrTasks =>
      obtain ⟨seated, free⟩ := sound.rising ended pending
      have positive : 0 < roster.nrTasks := balanced.positive here seated
      have lowers : roster.clean deleted .decreaseNrTasks =
          { roster with nrTasks := roster.nrTasks - 1 } := if_pos positive
      rw [lowers, store_setJob, Job.holder_clean_decrease]
      exact ⟨.rise here seated free, rfl⟩
  | clearRateLimit cgroup =>
      obtain ⟨limit, installed, holds⟩ := sound.clearing pending
      cases deleted with
      | true =>
          rw [store_setJob, Job.holder_clean_clear rest installed]
          exact ⟨.drop here holds, rfl⟩
      | false =>
          have allowed : leaks := by
            refine tolerated.resolve_left fun deletes => ?_
            have known := balanced.kept id (cgroup, limit) ((entryAt_eq here).trans holds)
            have key : cgroup ∈ roster.limits := AList.lookup_isSome.mp (by
              rw [show roster.limits.lookup cgroup = some limit from known]
              rfl)
            have clears : clearedBy job = some cgroup := by
              rw [clearedBy, pending]
            cases deletes job present cgroup clears key
          rw [store_setJob, Job.holder_clean_clear rest installed]
          exact ⟨.leak here allowed, rfl⟩
  | _ =>
      refine ⟨?_, rfl⟩
      change Step _ _ _ (roster.setJob id _).store
      rw [store_setJob_same present]
      · exact .stay _
      · exact Job.holder_clean_other rest nofun nofun

/-- Every task is sound, the accounts are balanced, and nothing has aborted. -/
structure Kept (roster : Roster) : Prop where
  sound : ∀ job ∈ roster.jobs, job.Sound
  balanced : Balanced maxNrTasks roster.store
  alive : roster.aborted = false

theorem empty_kept : Kept empty where
  sound := nofun
  balanced := empty_balanced maxNrTasks
  alive := rfl

theorem sound_setJob {moved : Job} (sound : ∀ job ∈ roster.jobs, job.Sound)
    (movedSound : moved.Sound) : ∀ job ∈ (roster.setJob id moved).jobs, job.Sound := by
  intro job present
  rcases List.mem_or_eq_of_mem_set present with old | rfl
  · exact sound job old
  · exact movedSound

/-- One move of a roster that is kept. -/
theorem Kept.simulates {leaks : Prop} {host : Host} {move : Move} (kept : Kept roster)
    (distinct : roster.DistinctScopes move) (tolerated : roster.DeletesPresent move ∨ leaks)
    (taken : roster.step host move = some next) :
    Step maxNrTasks leaks roster.store next.store ∧ next.aborted = roster.aborted ∧
      ∀ job ∈ next.jobs, job.Sound := by
  cases move with
  | stay =>
      cases taken
      exact ⟨.stay _, rfl, kept.sound⟩
  | create pid =>
      cases taken
      refine ⟨?_, rfl, fun job present => ?_⟩
      · have entered : (roster.create host pid).store =
            { roster.store with holders := roster.store.holders ++ [newcomer] } := by
          simp only [store, create, List.map_append, List.map_cons, List.map_nil,
            Job.newJob_holder]
        rw [entered]
        exact .enter _
      · rcases List.mem_append.mp present with old | new
        · exact kept.sound job old
        · cases List.mem_singleton.mp new
          exact Job.newJob_sound host pid
  | perform id event =>
      obtain ⟨job, rest, present, advanced, answered, rfl⟩ := perform_eq_some.mp taken
      have sound := kept.sound job (List.mem_of_getElem? present)
      refine ⟨performs sound present advanced answered distinct,
        observe_aborted roster event.effect event.answer, sound_setJob ?_ (sound.perform advanced)⟩
      rw [observe_jobs]
      exact kept.sound
  | cleanup id deleted =>
      obtain ⟨job, cleanup, rest, present, ended, pending, rfl⟩ := cleanup_eq_some.mp taken
      have sound := kept.sound job (List.mem_of_getElem? present)
      obtain ⟨moves, alive⟩ := cleans sound kept.balanced present ended pending tolerated
      refine ⟨moves, alive, sound_setJob ?_ (sound.clean ended pending)⟩
      rw [clean_jobs]
      exact kept.sound

theorem Kept.step {host : Host} {move : Move} (kept : Kept roster)
    (distinct : roster.DistinctScopes move) (taken : roster.step host move = some next) :
    Kept next := by
  obtain ⟨moves, alive, sound⟩ := kept.simulates distinct (Or.inr trivial) taken
  exact ⟨sound, kept.balanced.step moves, alive.trans kept.alive⟩

theorem Kept.owned_step {host : Host} {move : Move} (kept : Kept roster)
    (owned : Owned roster.store) (distinct : roster.DistinctScopes move)
    (deletes : roster.DeletesPresent move) (taken : roster.step host move = some next) :
    Owned next.store :=
  owned.step (kept.simulates distinct (Or.inl deletes) taken).1

end Roster

end TrafficLimitd.Daemon
