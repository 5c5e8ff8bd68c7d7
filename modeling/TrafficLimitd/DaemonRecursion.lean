import TrafficLimitd.DaemonConfinement
import TrafficLimitd.DaemonWorld

set_option autoImplicit false

/- Recursive limiting. The check of a task and its request to systemd are several
waits apart, and in between the process may get into a cgroup that is limited:
whether that happens depends on the moment at which limits are first set. -/
namespace TrafficLimitd.Daemon

open Coroutine Handler
open Limiter (CgroupId)

def Job.origin (manager : Manager) (job : Job) : Origin := Origin.of manager job.pid job.history

namespace World

variable (manager : Manager) (world : World)

/-- The process is not in a cgroup that is limited. -/
def Clear (pid : Pid) : Prop :=
  ∀ unit ∈ world.unitOf pid, manager.cgroup unit ∉ world.limits

/-- What systemd said about the process is still so, or does no harm. -/
def Standing (pid : Pid) (unit : CString) : Prop :=
  world.unitOf pid = some unit ∨ world.Clear manager pid

/-- The task has not sent its request, and what it has learnt about its process
cannot tell it of a new limit: it has passed the check, or the process is no longer
in the unit that systemd named. -/
def Exposed (id : TaskId) (job : Job) : Prop :=
  (job.origin manager).sent = false ∧
    ((job.origin manager).passed = true ∨
      (∃ unit ∈ (job.origin manager).located, world.unitOf job.pid ≠ some unit) ∨
      (job.program.pending = some (.busCall (.getUnitByPID job.pid)) ∧
        ∃ unit ∈ world.located id, world.unitOf job.pid ≠ some unit))

/-- A call that limits a cgroup for the first time finds in it neither the process
of an exposed task nor one that is about to be moved, and the check does not fail
on a cgroup that is limited. -/
def apart : (effect : Effect) → Response effect → Prop
  | .rateLimitSet cgroup _, (rc : Int) => 0 ≤ rc → cgroup ∉ world.limits →
      (∀ id < world.daemon.roster.jobs.length, ∀ job ∈ world.daemon.roster.jobs[id]?,
        world.Exposed manager id job →
          ∀ unit ∈ world.unitOf job.pid, manager.cgroup unit ≠ cgroup) ∧
      ∀ pid ∈ world.queued, ∀ unit ∈ world.unitOf pid, manager.cgroup unit ≠ cgroup
  | .rateLimitCheck cgroup, (rc : Int) => rc < 0 → cgroup ∉ world.limits
  | _, _ => True

def Apart (world : World) : Action → Prop
  | .daemon (.perform event) => world.apart manager event.effect event.answer
  | _ => True

/-- A task and what the world holds for it. -/
structure Watched (id : TaskId) (job : Job) : Prop where
  follows : (Origin.rules manager job.pid).Follows (job.origin manager) job.program fun _ _ => True
  trusting : (job.origin manager).misled = false
  passed : (job.origin manager).sent = false → (job.origin manager).passed = true →
    world.Clear manager job.pid
  located : (job.origin manager).sent = false → ∀ unit ∈ (job.origin manager).located,
    world.Standing manager job.pid unit
  answered : (job.origin manager).sent = false →
    job.program.pending = some (.busCall (.getUnitByPID job.pid)) →
    ∀ unit ∈ world.located id, world.Standing manager job.pid unit

/-- No task is about to move a process out of a cgroup that is limited. -/
structure Guarded (world : World) : Prop where
  tasks : ∀ (id : TaskId) (job : Job), world.daemon.roster.jobs[id]? = some job →
    world.Watched manager id job
  queue : ∀ pid ∈ world.queued, world.Clear manager pid

variable {manager world} {next : World} {id : TaskId} {job : Job}

theorem start_guarded (unitOf : Pid → Option CString) : (start unitOf).Guarded manager where
  tasks id job present := absurd present (by simp [start, Daemon.start, Roster.empty])
  queue := nofun

/-- A task to which nothing happens stays watched if its process stays where it is
and, while the task is exposed, out of limits. -/
theorem Watched.frame (watched : world.Watched manager id job)
    (unit : next.unitOf job.pid = world.unitOf job.pid)
    (located : ∀ unit ∈ next.located id, unit ∈ world.located id)
    (clear : world.Exposed manager id job → world.Clear manager job.pid →
      next.Clear manager job.pid) : next.Watched manager id job := by
  have stands : ∀ named, (world.unitOf job.pid ≠ some named → world.Exposed manager id job) →
      world.Standing manager job.pid named → next.Standing manager job.pid named := by
    intro named exposed standing
    by_cases same : world.unitOf job.pid = some named
    · exact Or.inl (unit.trans same)
    · exact Or.inr (clear (exposed same) (standing.resolve_left same))
  refine ⟨watched.follows, watched.trusting, ?_, ?_, ?_⟩
  · intro unsent passed
    exact clear ⟨unsent, Or.inl passed⟩ (watched.passed unsent passed)
  · intro unsent named known
    refine stands named (fun moved => ?_) (watched.located unsent named known)
    exact ⟨unsent, Or.inr (Or.inl ⟨named, known, moved⟩)⟩
  · intro unsent asks named answer
    refine stands named (fun moved => ?_) (watched.answered unsent asks named (located _ answer))
    exact ⟨unsent, Or.inr (Or.inr ⟨asks, named, located _ answer, moved⟩)⟩

/-- Nothing can happen to a task whose process is out of limits. -/
theorem Watched.of_clear (watched : world.Watched manager id job)
    (clear : next.Clear manager job.pid) : next.Watched manager id job :=
  ⟨watched.follows, watched.trusting, fun _ _ => clear, fun _ _ _ => Or.inr clear,
    fun _ _ _ _ => Or.inr clear⟩

theorem unitOf_relocate_ne {pid other : Pid} (different : other ≠ pid) (unit : Option CString) :
    (world.relocate pid unit).unitOf other = world.unitOf other :=
  Function.update_of_ne different _ _

theorem clear_relocate_self {pid : Pid} {unit : Option CString}
    (new : ∀ named ∈ unit, manager.cgroup named ∉ world.limits) :
    (world.relocate pid unit).Clear manager pid := by
  intro named here
  have here : Function.update world.unitOf pid unit pid = some named := here
  rw [Function.update_self] at here
  exact new named here

theorem clear_relocate_ne {pid other : Pid} (different : other ≠ pid) {unit : Option CString}
    (clear : world.Clear manager other) : (world.relocate pid unit).Clear manager other := by
  intro named here
  have here : (world.relocate pid unit).unitOf other = some named := here
  rw [unitOf_relocate_ne different] at here
  exact clear named here

/-- A connection or a request is about the process. -/
def Concerns (world : World) (pid : Pid) : Prop :=
  pid ∈ world.queued ∨ ∃ job ∈ world.daemon.roster.jobs, job.pid = pid

/-- A process is moved, starts or ends, and is out of limits then if it matters. -/
theorem Guarded.relocate (guarded : world.Guarded manager) (pid : Pid) {unit : Option CString}
    (new : world.Concerns pid → ∀ named ∈ unit, manager.cgroup named ∉ world.limits) :
    (world.relocate pid unit).Guarded manager := by
  refine ⟨fun id job present => ?_, fun other waits => ?_⟩
  · have watched := guarded.tasks id job present
    by_cases here : job.pid = pid
    · have concerns : world.Concerns pid := Or.inr ⟨job, List.mem_of_getElem? present, here⟩
      exact watched.of_clear (here ▸ clear_relocate_self (new concerns))
    · exact watched.frame (unitOf_relocate_ne here unit) (fun _ known => known)
        fun _ clear => clear_relocate_ne here clear
  · by_cases here : other = pid
    · subst here
      exact clear_relocate_self (new (Or.inl waits))
    · exact clear_relocate_ne here (guarded.queue other waits)

/-- Deleting limits keeps a process out of them. -/
theorem Clear.mono {pid : Pid} (clear : world.Clear manager pid)
    (unit : next.unitOf pid = world.unitOf pid)
    (limits : ∀ cgroup ∈ next.limits, cgroup ∈ world.limits) : next.Clear manager pid := by
  intro named here present
  rw [unit] at here
  exact clear named here (limits _ present)

/-- The tasks and the processes stay where they are, and no limit is added. -/
theorem Guarded.steady (guarded : world.Guarded manager)
    (tasks : ∀ (id : TaskId) (job : Job), next.daemon.roster.jobs[id]? = some job →
      world.Watched manager id job)
    (units : next.unitOf = world.unitOf) (limits : ∀ cgroup ∈ next.limits, cgroup ∈ world.limits)
    (located : ∀ id, ∀ unit ∈ next.located id, unit ∈ world.located id)
    (queued : ∀ pid ∈ next.queued, pid ∈ world.queued ∨ world.Clear manager pid) :
    next.Guarded manager where
  tasks id job present := (tasks id job present).frame (congrFun units job.pid) (located id)
    fun _ clear => clear.mono (congrFun units job.pid) limits
  queue pid waits :=
    ((queued pid waits).elim (guarded.queue pid) fun clear => clear).mono (congrFun units pid) limits

/-- A request is taken off the queue. -/
theorem Guarded.dequeue (guarded : world.Guarded manager) (index : Nat) :
    Guarded manager { world with queued := world.queued.eraseIdx index } :=
  guarded.steady guarded.tasks rfl (fun _ known => known) (fun _ _ known => known)
    fun _ waits => Or.inl (List.mem_of_mem_eraseIdx waits)

theorem Guarded.locate (guarded : world.Guarded manager) (taken : world.locate id = some next) :
    next.Guarded manager := by
  unfold World.locate at taken
  split at taken
  · rename_i pid asks
    obtain ⟨_, taken⟩ := Option.ite_none_right_eq_some.mp taken
    obtain ⟨unit, found, rfl⟩ := Option.map_eq_some_iff.mp taken
    refine ⟨fun other job present => ?_, guarded.queue⟩
    have watched := guarded.tasks other job present
    refine ⟨watched.follows, watched.trusting, watched.passed, watched.located, ?_⟩
    intro unsent pending named answer
    by_cases same : other = id
    · subst same
      have about : pid = job.pid := by
        have here : world.daemon.roster.jobs[other]? = some job := present
        rw [State.pending, here, Option.bind_some, pending] at asks
        cases asks
        rfl
      have newest : Function.update world.located other (some unit) other = some named := answer
      rw [Function.update_self] at newest
      cases newest
      exact Or.inl (about ▸ found)
    · have known : Function.update world.located id (some unit) other = some named := answer
      rw [Function.update_of_ne same] at known
      exact watched.answered unsent pending named known
  · cases taken

section Perform

variable {effect : Effect} {answer : Response effect} {rest : Prog Unit}

/-- True answers do not mislead. -/
theorem trusting_after {origin : Origin} (trusting : origin.misled = false)
    (honest : world.honest manager id effect answer = true) (pid : Pid) :
    (origin.after manager pid effect answer).misled = false := by
  have trusts : ∀ reported : Bool, reported = true → (origin.trust reported).misled = false :=
    fun reported kept => Bool.or_eq_false_iff.mpr ⟨trusting, kept ▸ rfl⟩
  cases effect with
  | busCall call =>
      cases call with
      | getUnitByPID about =>
          change (origin.locate (decide (about = pid)) answer).misled = false
          rcases origin.locate_cases (decide (about = pid)) answer with same | ⟨_, _, _, same⟩ <;>
            rw [same] <;> exact trusting
      | property unitObj interface member => exact trusts _ honest
      | startTransientUnit request =>
          change (origin.send answer).misled = false
          rcases origin.send_cases answer with same | same <;> rw [same] <;> exact trusting
      | _ => exact trusting
  | cgPathGetCgroupid path => exact trusts _ honest
  | _ => exact trusting

/-- A call keeps a process out of limits if it sets none on the cgroup of it. -/
theorem Clear.observe {pid : Pid} (clear : world.Clear manager pid)
    (unit : next.unitOf pid = world.unitOf pid)
    (limits : next.limits = (world.daemon.roster.observe effect answer).limits)
    (avoids : ∀ cgroup limit (rc : Int),
      (⟨effect, answer⟩ : Event Effect Response) = ⟨.rateLimitSet cgroup limit, rc⟩ → 0 ≤ rc →
      cgroup ∉ world.limits → ∀ unit ∈ world.unitOf pid, manager.cgroup unit ≠ cgroup) :
    next.Clear manager pid := by
  intro named here
  rw [unit] at here
  have old := clear named here
  rw [limits]
  unfold Roster.observe
  split
  · split <;> exact old
  · rename_i cgroup limit rc
    split
    · exact old
    · rename_i succeeded
      intro new
      rcases (AList.mem_insert _).mp new with same | known
      · refine avoids cgroup limit rc rfl (Int.not_lt.mp succeeded) (same ▸ old) named here same
      · exact old known
  · exact old

theorem exposed_avoids (apart : world.apart manager effect answer)
    (present : world.daemon.roster.jobs[id]? = some job) (exposed : world.Exposed manager id job) :
    ∀ cgroup limit (rc : Int),
      (⟨effect, answer⟩ : Event Effect Response) = ⟨.rateLimitSet cgroup limit, rc⟩ → 0 ≤ rc →
      cgroup ∉ world.limits → ∀ unit ∈ world.unitOf job.pid, manager.cgroup unit ≠ cgroup := by
  rintro cgroup limit rc ⟨⟩ succeeded new
  exact (apart succeeded new).1 id (List.getElem?_eq_some_iff.mp present).1 job present exposed

theorem queued_avoids (apart : world.apart manager effect answer) {pid : Pid}
    (waits : pid ∈ world.queued) :
    ∀ cgroup limit (rc : Int),
      (⟨effect, answer⟩ : Event Effect Response) = ⟨.rateLimitSet cgroup limit, rc⟩ → 0 ≤ rc →
      cgroup ∉ world.limits → ∀ unit ∈ world.unitOf pid, manager.cgroup unit ≠ cgroup := by
  rintro cgroup limit rc ⟨⟩ succeeded new
  exact (apart succeeded new).2 pid waits

/-- A task that passes the check has a process out of limits. -/
theorem Watched.checked {cgroup : CgroupId} {rc : Int} (watched : world.Watched manager id job)
    (may : (job.origin manager).may manager job.pid (.rateLimitCheck cgroup))
    (answered : world.daemon.roster.answers (.rateLimitCheck cgroup) rc = true)
    (apart : world.apart manager (.rateLimitCheck cgroup) rc)
    (unsent : (job.origin manager).sent = false) (passes : rc ≤ 0) :
    world.Clear manager job.pid := by
  have absent : cgroup ∉ world.limits := by
    rcases Bool.or_eq_true_iff.mp answered with failed | found
    · exact apart (of_decide_eq_true failed)
    · intro present
      have present : cgroup ∈ world.daemon.roster.limits := present
      rw [if_pos present] at found
      rw [of_decide_eq_true found] at passes
      exact absurd passes (by decide)
  obtain ⟨_, misled | ⟨unit, located, rfl⟩⟩ := may
  · rw [watched.trusting] at misled
    cases misled
  · rcases watched.located unsent unit located with here | clear
    · intro named found
      cases here.symm.trans found
      exact absent
    · exact clear

/-- The task that makes a call stays watched. -/
theorem Watched.perform (watched : world.Watched manager id job)
    (advanced : job.program.advance ⟨effect, answer⟩ = some rest)
    (answered : world.daemon.roster.answers effect answer = true)
    (honest : world.honest manager id effect answer = true)
    (apart : world.apart manager effect answer) (unit : next.unitOf job.pid = world.unitOf job.pid)
    (limits : next.limits = (world.daemon.roster.observe effect answer).limits)
    (used : next.located id = none) :
    next.Watched manager id (job.perform ⟨effect, answer⟩ rest) := by
  obtain ⟨may, follows⟩ := watched.follows.advance advanced
  have pending := Coro.advance_pending advanced
  have may : (job.origin manager).may manager job.pid effect := may
  -- a limit is only set by a task that has sent its request
  have keeps : (job.origin manager).sent = false → world.Clear manager job.pid →
      next.Clear manager job.pid := by
    intro unsent clear
    refine clear.observe unit limits ?_
    rintro cgroup limit rc ⟨⟩
    rw [show (job.origin manager).sent = true from may] at unsent
    cases unsent
  have stands : (job.origin manager).sent = false → ∀ named,
      world.Standing manager job.pid named → next.Standing manager job.pid named :=
    fun unsent _ standing => standing.imp unit.trans (keeps unsent)
  let origin := (job.origin manager).after manager job.pid effect answer
  suffices both : (origin.sent = false → origin.passed = true → next.Clear manager job.pid) ∧
      (origin.sent = false → ∀ named ∈ origin.located, next.Standing manager job.pid named) by
    refine ⟨follows, trusting_after watched.trusting honest job.pid, both.1, both.2, ?_⟩
    intro _ _ named known
    rw [used] at known
    cases known
  have same : (job.origin manager).sent = false → (job.origin manager).passed = true →
      next.Clear manager job.pid := fun unsent passed => keeps unsent (watched.passed unsent passed)
  have named : (job.origin manager).sent = false → ∀ unit ∈ (job.origin manager).located,
      next.Standing manager job.pid unit :=
    fun unsent unit known => stands unsent unit (watched.located unsent unit known)
  cases effect with
  | rateLimitCheck cgroup =>
      refine ⟨fun unsent passed => keeps unsent ?_, named⟩
      rcases Origin.check_passed passed with passed | passes
      · exact watched.passed unsent passed
      · exact watched.checked may answered apart unsent passes
  | busCall call =>
      cases call with
      | getUnitByPID about =>
          rcases (job.origin manager).locate_cases (decide (about = job.pid)) answer with
            unnoted | ⟨unit, own, body, noted⟩
          · rw [show origin = job.origin manager from unnoted]
            exact ⟨same, named⟩
          · rw [show origin = _ from noted]
            refine ⟨same, fun unsent found known => stands unsent found ?_⟩
            cases known
            subst body
            rw [of_decide_eq_true own] at pending
            exact watched.answered unsent pending unit (eq_of_beq honest)
      | startTransientUnit request =>
          rcases (job.origin manager).send_cases answer with unsent | sent
          · rw [show origin = job.origin manager from unsent]
            exact ⟨same, named⟩
          · rw [show origin = _ from sent]
            exact ⟨nofun, nofun⟩
      | _ => exact ⟨same, named⟩
  | _ => exact ⟨same, named⟩

end Perform

theorem answersAfter_le {label : Label} {unit : CString}
    (known : unit ∈ world.answersAfter label id) : unit ∈ world.located id := by
  unfold answersAfter at known
  split at known
  · split at known
    · cases known
    · exact known
  · split at known
    · cases known
    · exact known
  · exact known

/-- A task that sends its request has a process out of limits. -/
theorem Watched.sends (watched : world.Watched manager id job) {request : ScopeRequest}
    (pending : job.program.pending = some (.busCall (.startTransientUnit request))) :
    request.pid = job.pid ∧ world.Clear manager request.pid := by
  obtain ⟨passed, unsent, own⟩ := watched.follows.may_pending pending
  exact ⟨own, own ▸ watched.passed unsent passed⟩

theorem Guarded.sends (guarded : world.Guarded manager) {pid : Pid} {label : Label}
    (sent : pid ∈ world.sends label) : world.Clear manager pid := by
  unfold World.sends at sent
  split at sent
  · unfold requestOf at sent
    split at sent
    · rename_i request found
      cases List.mem_singleton.mp sent
      obtain ⟨id, _, pending⟩ := Option.bind_eq_some_iff.mp found
      obtain ⟨job, present, pending⟩ := Option.bind_eq_some_iff.mp pending
      exact ((guarded.tasks id job present).sends pending).2
    · cases sent
  · cases sent

theorem Guarded.stay {host : Host} {label : Label} (guarded : world.Guarded manager)
    (stays : world.daemon.move label = .stay)
    (taken : world.run manager host label = some next) : next.Guarded manager := by
  obtain ⟨_, taken⟩ := Option.ite_none_right_eq_some.mp taken
  obtain ⟨daemon, moved, rfl⟩ := Option.map_eq_some_iff.mp taken
  have refines := step_refines moved
  rw [stays] at refines
  have same : world.daemon.roster = daemon.roster := Option.some.inj refines
  refine guarded.steady (fun id job present => ?_) rfl (fun cgroup known => ?_)
    (fun _ _ known => answersAfter_le known) fun pid waits => ?_
  · exact guarded.tasks id job (same ▸ present)
  · have known : cgroup ∈ daemon.roster.limits := known
    rw [← same] at known
    exact known
  · exact (List.mem_append.mp waits).imp_right guarded.sends

theorem Guarded.perform {host : Host} {event : Event Effect Response}
    (guarded : world.Guarded manager) (apart : world.apart manager event.effect event.answer)
    (taken : world.run manager host (.perform event) = some next) : next.Guarded manager := by
  obtain ⟨allowed, taken⟩ := Option.ite_none_right_eq_some.mp taken
  obtain ⟨daemon, moved, rfl⟩ := Option.map_eq_some_iff.mp taken
  obtain ⟨_, moved⟩ := Option.ite_none_left_eq_some.mp moved
  obtain ⟨id, thread, roster, current, _, _, _, performed, rfl⟩ := State.perform_eq_some moved
  obtain ⟨job, rest, here, advanced, answered, rfl⟩ := Roster.perform_eq_some.mp performed
  have honest : world.honest manager id event.effect event.answer = true := by
    rw [allows, current] at allowed
    exact allowed
  refine ⟨fun other found present => ?_, fun pid waits => ?_⟩
  · have present : ((world.daemon.roster.observe event.effect event.answer).jobs.set id
        (job.perform event rest))[other]? = some found := present
    rw [Roster.observe_jobs] at present
    by_cases same : other = id
    · subst same
      rw [List.getElem?_set_self (List.getElem?_eq_some_iff.mp here).1] at present
      cases present
      exact (guarded.tasks other job here).perform advanced answered honest apart rfl rfl
        (if_pos current)
    · rw [List.getElem?_set_ne (Ne.symm same)] at present
      have located : ∀ unit ∈ world.answersAfter (.perform event) other,
          unit ∈ world.located other := fun _ known => answersAfter_le known
      exact (guarded.tasks other found present).frame rfl located
        fun exposed clear => clear.observe rfl rfl (exposed_avoids apart present exposed)
  · have waits : pid ∈ world.queued := by simpa [World.sends] using waits
    exact (guarded.queue pid waits).observe rfl rfl (queued_avoids apart waits)

theorem Guarded.cleanup {host : Host} {deleted : Bool} (guarded : world.Guarded manager)
    (taken : world.run manager host (.cleanup deleted) = some next) : next.Guarded manager := by
  obtain ⟨_, taken⟩ := Option.ite_none_right_eq_some.mp taken
  obtain ⟨daemon, moved, rfl⟩ := Option.map_eq_some_iff.mp taken
  obtain ⟨_, moved⟩ := Option.ite_none_left_eq_some.mp moved
  obtain ⟨id, thread, job, first, rest, _, _, here, _, _, _, rfl⟩ := State.cleanup_eq_some moved
  refine guarded.steady (fun other found present => ?_) rfl (fun cgroup known => ?_)
    (fun _ _ known => known) fun pid waits => Or.inl (by simpa [World.sends] using waits)
  · have present : ((world.daemon.roster.clean deleted first).jobs.set id
        (job.clean first rest))[other]? = some found := present
    rw [Roster.clean_jobs] at present
    by_cases same : other = id
    · subst same
      rw [List.getElem?_set_self (List.getElem?_eq_some_iff.mp here).1] at present
      cases present
      have watched := guarded.tasks other job here
      exact ⟨watched.follows, watched.trusting, watched.passed, watched.located, watched.answered⟩
    · rw [List.getElem?_set_ne (Ne.symm same)] at present
      exact guarded.tasks other found present
  · have known : cgroup ∈ (world.daemon.roster.clean deleted first).limits := known
    unfold Roster.clean at known
    split at known
    · split at known <;> exact known
    · split at known
      · exact (AList.mem_erase.mp known).2
      · exact known
    · exact known

theorem watched_new (manager : Manager) (world : World) (host : Host) (pid : Pid) (id : TaskId) :
    world.Watched manager id (newJob host pid) where
  follows := Origin.clientHandlerAsync_follows manager host pid
  trusting := rfl
  passed := nofun
  located := nofun
  answered := nofun

theorem Guarded.accept {host : Host} {pid : Pid} (guarded : world.Guarded manager)
    (taken : world.run manager host (.accept pid) = some next) : next.Guarded manager := by
  obtain ⟨_, taken⟩ := Option.ite_none_right_eq_some.mp taken
  obtain ⟨daemon, moved, rfl⟩ := Option.map_eq_some_iff.mp taken
  have refines := step_refines moved
  have same : world.daemon.roster.create host pid = daemon.roster := Option.some.inj refines
  refine guarded.steady (fun id job present => ?_) rfl (fun cgroup known => ?_)
    (fun _ _ known => known) fun pid waits => Or.inl (by simpa [World.sends] using waits)
  · have present : daemon.roster.jobs[id]? = some job := present
    rw [← same] at present
    rcases getElem?_snoc present with old | ⟨_, rfl⟩
    · exact guarded.tasks id job old
    · exact watched_new manager world host pid id
  · have known : cgroup ∈ daemon.roster.limits := known
    rw [← same] at known
    exact known

theorem Guarded.run {host : Host} {label : Label} (guarded : world.Guarded manager)
    (apart : world.Apart manager (.daemon label))
    (taken : world.run manager host label = some next) : next.Guarded manager := by
  cases label with
  | perform event => exact guarded.perform apart taken
  | cleanup deleted => exact guarded.cleanup taken
  | accept pid => exact guarded.accept taken
  | _ => exact guarded.stay rfl taken

theorem Guarded.step {host : Host} {action : Action} (guarded : world.Guarded manager)
    (apart : world.Apart manager action) (taken : step manager host world action = some next) :
    next.Guarded manager := by
  cases action with
  | daemon label => exact guarded.run apart taken
  | locate id => exact guarded.locate taken
  | move index unit =>
      obtain ⟨pid, _, taken⟩ := Option.bind_eq_some_iff.mp taken
      obtain ⟨⟨_, new⟩, ⟨⟩⟩ := Option.ite_none_right_eq_some.mp taken
      refine (guarded.relocate pid ?_).dequeue index
      rintro _ _ ⟨⟩
      exact new
  | refuse index =>
      cases taken
      exact guarded.dequeue index
  | spawn pid unit =>
      obtain ⟨⟨_, unqueued, unheld⟩, ⟨⟩⟩ := Option.ite_none_right_eq_some.mp taken
      refine guarded.relocate pid ?_
      rintro (waits | ⟨job, present, own⟩)
      · exact absurd waits unqueued
      · exact absurd own (unheld job present)
  | exit pid =>
      cases taken
      exact guarded.relocate pid fun _ => nofun

instance (pid : Pid) : Decidable (world.Clear manager pid) :=
  inferInstanceAs (Decidable (∀ unit ∈ world.unitOf pid, manager.cgroup unit ∉ world.limits))

instance : Decidable (world.Exposed manager id job) := inferInstanceAs (Decidable (_ ∧ (_ ∨ _ ∨ _)))

instance apart.decide (manager : Manager) (world : World) :
    ∀ effect answer, Decidable (world.apart manager effect answer)
  | .rateLimitSet cgroup _, (rc : Int) =>
      inferInstanceAs (Decidable (0 ≤ rc → cgroup ∉ world.limits →
        (∀ id < world.daemon.roster.jobs.length, ∀ job ∈ world.daemon.roster.jobs[id]?,
          world.Exposed manager id job →
            ∀ unit ∈ world.unitOf job.pid, manager.cgroup unit ≠ cgroup) ∧
        ∀ pid ∈ world.queued, ∀ unit ∈ world.unitOf pid, manager.cgroup unit ≠ cgroup))
  | .rateLimitCheck cgroup, (rc : Int) =>
      inferInstanceAs (Decidable (rc < 0 → cgroup ∉ world.limits))
  | .initMsgStream, _ | .closeFd, _ | .regStreamInterrupt _, _ | .streamIo _ _ _, _
  | .drainStream, _ | .shutdownTail, _ | .increaseNrTasks, _ | .registerCleanup _, _
  | .thisUnitName, _ | .setThisUnitName _, _ | .busCall _, _ | .matchJobRemoved, _
  | .matchDisconnected, _ | .waitForJob _, _ | .randomize, _ | .library, _
  | .cgPathGetCgroupid _, _ | .initPidfdEvent _, _ | .regPidfdInterrupt _, _
  | .waitForExit, _ | .setInterruptDisabled _, _ | .interruptReason, _ => isTrue trivial

instance Apart.decide (manager : Manager) (world : World) :
    ∀ action, Decidable (world.Apart manager action)
  | .daemon (.perform event) => apart.decide manager world event.effect event.answer
  | .daemon .resume | .daemon .block | .daemon (.cleanup _) | .daemon .finish
  | .daemon (.accept _) | .daemon (.reply _) | .daemon (.hangUp _) | .daemon (.processExit _)
  | .daemon .exitSignal | .daemon (.endHandler _) | .locate _ | .move _ _ | .refuse _
  | .spawn _ _ | .exit _ => isTrue trivial

end World

/-- In a run that limits no cgroup under the feet of a task past its check, a task
that is at its `StartTransientUnit` asks for its own process, and that process is in
no cgroup that is limited; nor is it when systemd moves it. -/
theorem transient_unit_unlimited (manager : Manager) (host : Host)
    (unitOf : Pid → Option CString) (actions : List Action) (world : World)
    (met : Run.Meets (World.step manager host) (World.Apart manager) (World.start unitOf) actions)
    (ran : Run.exec (World.step manager host) (World.start unitOf) actions = some world) :
    (∀ (id : TaskId) (job : Job) (request : ScopeRequest),
      world.daemon.roster.jobs[id]? = some job →
      job.program.pending = some (.busCall (.startTransientUnit request)) →
      request.pid = job.pid ∧
        ∀ unit ∈ world.unitOf request.pid, manager.cgroup unit ∉ world.limits) ∧
    ∀ (index : Nat) (pid : Pid) (unit : CString) (next : World), world.queued[index]? = some pid →
      world.step manager host (.move index unit) = some next →
      ∀ former ∈ world.unitOf pid, manager.cgroup former ∉ world.limits := by
  have guarded : world.Guarded manager :=
    met.invariant (World.Guarded manager) (fun _ _ _ guarded apart => guarded.step apart)
      (World.start_guarded unitOf) ran
  refine ⟨fun id job request present pending => ?_, fun index pid unit next queued _ => ?_⟩
  · exact (guarded.tasks id job present).sends pending
  · exact guarded.queue pid (List.mem_of_getElem? queued)

/-- The clients start out in cgroup 5; the scope of the first has cgroup 6. -/
def scopeManager : Manager where
  controlGroup unit := if unit = [103] then [3] else [2]
  cgroupId path := if path = [3] then 6 else 5

def scopeUnits : Pid → Option CString
  | 1 => some [99]
  | 7 | 8 => some [1]
  | _ => none

/-- The actions with which a task has these answers; systemd gets to each
`GetUnitByPID` at once. -/
def dialogue (id : TaskId) (events : List (Event Effect Response)) : List Action :=
  events.flatMap fun event =>
    match event.effect with
    | .busCall (.getUnitByPID _) =>
        [.daemon .block, .locate id, .daemon (.reply id), .daemon .resume, .daemon (.perform event)]
    | _ => (script id [event]).map .daemon

/-- A task that waits for the first answer has these. -/
def answered (id : TaskId) : List (Event Effect Response) → List Action
  | [] => []
  | event :: rest =>
      [.daemon (.reply id), .daemon .resume, .daemon (.perform event)] ++ dialogue id rest

def connected (pid : Pid) : List Action := [.daemon (.accept pid), .daemon .resume]

/-- The request for the process of the first connection is on its way. -/
def scopeRequested : List Action :=
  connected 7 ++
    dialogue 0 (admittedFirst ++ originChecked 7 [1] [2] 5 ++ scopePrepared 7 [1] [49]) ++
    [.daemon .block]

/-- The first request is carried out and the scope is limited. -/
def scopeLimited : List Action :=
  .move 0 [103] ::
    answered 0 (scopeStarted 7 [49] [103] ++ processWatched 7 ++ trafficBlocked [103] [3] 6) ++
    [.daemon .block]

/-- A second connection of the same process passes its check before that. -/
def checkedBefore : List Action :=
  connected 7 ++
    dialogue 1 (admitted ++ originChecked 7 [1] [2] 5 ++ [⟨.thisUnitName, some [100]⟩]) ++
    [.daemon .block]

/-- It asks for a scope for a process that is limited. -/
theorem transient_unit_limited :
    ∃ world ∈ Run.exec (World.step scopeManager scopeHost) (World.start scopeUnits)
        (scopeRequested ++ checkedBefore ++ scopeLimited ++ [.locate 1] ++
          answered 1 (scopePrepared 7 [103] [50]).tail),
      world.daemon.current = some 1 ∧
      (∃ job ∈ world.daemon.roster.jobs[1]?, job.pid = 7 ∧
        job.program.pending = some (.busCall (scopeCall 7 [50]))) ∧
      (∃ unit ∈ world.unitOf 7, scopeManager.cgroup unit ∈ world.limits) ∧
      ∃ next ∈ world.step scopeManager scopeHost (.daemon .block), next.queued = [7] := by
  decide +kernel

/-- A connection of another process after that. -/
def otherRequested : List Action :=
  scopeRequested ++ scopeLimited ++ connected 8 ++
    dialogue 1 (admitted ++ originChecked 8 [1] [2] 5 ++ scopePrepared 8 [1] [50])

theorem transient_unit_unlimited_once :
    ∃ world ∈ Run.exec (World.step scopeManager scopeHost) (World.start scopeUnits) otherRequested,
      6 ∈ world.limits ∧ ∃ unit ∈ world.unitOf 8, scopeManager.cgroup unit ∉ world.limits := by
  have met : Run.Meets (World.step scopeManager scopeHost) (World.Apart scopeManager)
      (World.start scopeUnits) otherRequested := by decide +kernel
  have ends : ∃ world ∈ Run.exec (World.step scopeManager scopeHost) (World.start scopeUnits)
      otherRequested, 6 ∈ world.limits ∧ world.unitOf 8 = some [1] ∧
        ∃ job ∈ world.daemon.roster.jobs[1]?,
          job.program.pending = some (.busCall (scopeCall 8 [50])) := by decide +kernel
  obtain ⟨world, ran, limited, located, job, present, pending⟩ := ends
  have unlimited := ((transient_unit_unlimited scopeManager scopeHost scopeUnits otherRequested world
    met ran).1 1 job _ present pending).2
  exact ⟨world, ran, limited, [1], located, unlimited [1] located⟩

end TrafficLimitd.Daemon
