import TrafficLimitd.SchedulerEvents

set_option autoImplicit false

/- The events that the tasks' code waits for. `se_task_usleep`, `sb_bus_call` and
`start_transient_scope` keep theirs in a stack frame, a stream and a pidfd have
theirs on the heap. Only the task that initialised an event waits for it, and
nothing calls `s_task_join`. -/
namespace TrafficLimitd.Scheduler

open CircularList (Links)

/-- `owners` has for each event the task that initialised it. -/
structure Program where
  state : State
  owners : List TaskId

/-- `init` is an `s_event_init` of the running task. -/
inductive Action
  | init
  | step (label : Label)
deriving DecidableEq, Repr

namespace Program

def start : Program := ⟨Scheduler.start, []⟩

variable (program : Program)

/-- The waits that the code has. -/
def allows : Label → Bool
  | .wait (.join _) => false
  | .wait (.other event) =>
      match program.owners[event]? with
      | some owner => program.state.running == some owner
      | none => false
  | _ => true

def step : Action → Option Program
  | .init => program.state.running.map fun id => { program with owners := program.owners ++ [id] }
  | .step label =>
      if program.allows label then
        (Scheduler.step program.state label).map fun state => { program with state := state }
      else none

end Program

/-- What happens between two dispatches of the event loop. -/
def Action.betweenDispatches : Action → Bool
  | .init | .step .turn | .step (.wait _) | .step .openSource | .step (.setInterruptDisabled _)
  | .step .finish => true
  | _ => false

/-- How often the task is resumed. -/
def resumptions (id : TaskId) : Program → List Action → Nat
  | _, [] => 0
  | program, action :: rest =>
      match program.step action with
      | none => 0
      | some next =>
          (if program.state.current ≠ .task id ∧ next.state.current = .task id then 1 else 0) +
            resumptions id next rest

variable {queues after : Queues} {state next : State} {id : TaskId} {event : EventId}

/-- The task is in some queue. -/
def Queues.Queued (queues : Queues) (id : TaskId) : Prop :=
  .task id ∈ queues.active ∨ ∃ event, id ∈ queues.waiting event

section Queued

theorem Queues.Queued.wake (queued : queues.Queued id) (event : EventId) :
    (queues.wake event).Queued id := by
  rcases queued with active | ⟨other, waits⟩
  · exact Or.inl (List.mem_append_left _ active)
  · by_cases same : other = event
    · subst same
      exact Or.inl (List.mem_append_right _ (List.mem_map_of_mem waits))
    · exact Or.inr ⟨other, by simpa [Queues.wake, same] using waits⟩

theorem Queues.Queued.cancel (queued : queues.Queued id) (other : TaskId) :
    (queues.cancel other).Queued id := by
  by_cases same : id = other
  · exact Or.inl (List.mem_append_right _ (by simp [same]))
  · rcases queued with active | ⟨event, waits⟩
    · refine Or.inl (List.mem_append_left _ ?_)
      exact (List.mem_erase_of_ne (by simpa using same)).mpr active
    · exact Or.inr ⟨event, (List.mem_erase_of_ne same).mpr waits⟩

theorem Queues.Queued.interrupt (queued : queues.Queued id) (other : TaskId) :
    (queues.interrupt other).Queued id := by
  unfold Queues.interrupt
  cases queues.tasks[other]? with
  | none => exact queued
  | some task =>
      dsimp only
      split
      · exact queued
      · exact queued.cancel other

theorem Queues.Queued.interrupt_each (queued : queues.Queued id) (ids : List TaskId) :
    (ids.foldl Queues.interrupt queues).Queued id := by
  induction ids generalizing queues with
  | nil => exact queued
  | cons other rest ih => exact ih (queued.interrupt other)

theorem Queues.Queued.enqueue (queued : queues.Queued id) (event : EventId) (other : TaskId) :
    (queues.enqueue event other).Queued id := by
  rcases queued with active | ⟨before, waits⟩
  · exact Or.inl active
  · refine Or.inr ⟨before, ?_⟩
    simp only [Queues.enqueue, Function.update_apply]
    split
    · rename_i same
      exact List.mem_append_left _ (same ▸ waits)
    · exact waits

theorem Queues.Queued.switch (queued : queues.Queued id) (switched : queues.switch = some after) :
    after.current = .task id ∨ after.Queued id := by
  obtain ⟨runner, rest, active, rfl⟩ := Queues.switch_eq_some switched
  rcases queued with ready | waits
  · rw [active] at ready
    rcases List.mem_cons.mp ready with rfl | later
    · exact Or.inl rfl
    · exact Or.inr (Or.inl later)
  · exact Or.inr (Or.inr waits)

end Queued

/-- A task that is not closed runs or is queued. -/
def Queues.Placed (queues : Queues) : Prop :=
  ∀ (id : TaskId) task, queues.tasks[id]? = some task → task.closed = false →
    queues.current = .task id ∨ queues.Queued id

theorem placed_of_switch
    (queued : ∀ (id : TaskId) task, queues.tasks[id]? = some task → task.closed = false →
      queues.Queued id)
    (switched : queues.switch = some after) : after.Placed := by
  intro id task found opened
  rw [(switch_keeps switched).1] at found
  exact (queued id task found opened).switch switched

theorem Queues.Placed.queued (placed : queues.Placed) (main : queues.current = .main)
    {task : TaskState} (found : queues.tasks[id]? = some task) (opened : task.closed = false) :
    queues.Queued id := by
  refine (placed id task found opened).resolve_left ?_
  rw [main]
  nofun

/-- A running task changes a flag of its own. -/
theorem Queues.Placed.setFlag (placed : queues.Placed) (other : TaskId)
    (change : TaskState → TaskState) (kept : ∀ task, (change task).closed = task.closed) :
    (queues.modifyTask other change).Placed := by
  intro id task found opened
  rcases modifyTask_lookup found with ⟨rfl, before, foundBefore, rfl⟩ | ⟨-, unchanged⟩
  · exact placed id before foundBefore ((kept before).symm.trans opened)
  · exact placed id task unchanged opened

theorem Queues.Placed.turn (placed : queues.Placed) (main : queues.current = .main)
    (switched : (queues.ready .main).switch = some after) : after.Placed := by
  apply placed_of_switch _ switched
  intro id task found opened
  exact (placed.queued main found opened).imp_left fun active => List.mem_append_left _ active

theorem Queues.Placed.wait (placed : queues.Placed) {running : TaskId}
    (runs : queues.running = some running)
    (switched : (queues.enqueue event running).switch = some after) : after.Placed := by
  apply placed_of_switch _ switched
  intro id task found opened
  rcases placed id task found opened with current | queued
  · obtain rfl : running = id := by
      simpa using (current_of_running runs).1.symm.trans current
    exact Or.inr ⟨event, by simp [Queues.enqueue]⟩
  · exact queued.enqueue event running

theorem Queues.Placed.finish (placed : queues.Placed) {running : TaskId}
    (runs : queues.running = some running)
    (switched : ((queues.modifyTask running fun task =>
      { task with deferred := true, sources := false, closed := true }).wake
        (.join running)).switch = some after) : after.Placed := by
  apply placed_of_switch _ switched
  intro id task found opened
  rcases modifyTask_lookup found with ⟨rfl, before, -, rfl⟩ | ⟨different, unchanged⟩
  · cases opened
  · refine Queues.Queued.wake ?_ (.join running)
    refine (placed id task unchanged opened).resolve_left fun current => different ?_
    simpa using current.symm.trans (current_of_running runs).1

theorem Queues.Placed.create (placed : queues.Placed) (main : queues.current = .main) :
    queues.create.Placed := by
  intro id task found opened
  right
  rcases create_lookup found with before | ⟨rfl, -⟩
  · exact (placed.queued main before opened).imp_left fun active => List.mem_append_left _ active
  · exact Or.inl (List.mem_append_right _ (by simp))

theorem Queues.Placed.wake (placed : queues.Placed) (main : queues.current = .main)
    (event : EventId) : (queues.wake event).Placed := by
  intro id task found opened
  exact Or.inr ((placed.queued main found opened).wake event)

theorem Queues.Placed.interrupt (placed : queues.Placed) (main : queues.current = .main)
    (other : TaskId) : (queues.interrupt other).Placed := by
  intro id task found opened
  rw [interrupt_tasks] at found
  exact Or.inr ((placed.queued main found opened).interrupt other)

theorem Queues.Placed.interrupt_each (placed : queues.Placed) (main : queues.current = .main)
    (ids : List TaskId) : (ids.foldl Queues.interrupt queues).Placed := by
  intro id task found opened
  rw [interrupt_each_tasks] at found
  exact Or.inr ((placed.queued main found opened).interrupt_each ids)

/-- Every step keeps the tasks in their places. -/
theorem Queues.Placed.step {label : Label} (placed : queues.Placed)
    (taken : queues.step label = some after) : after.Placed := by
  have mainRuns (quiescent : queues.idle = true) : queues.current = .main := by
    simp_all [Queues.idle]
  cases Queues.moves_of_step taken with
  | turn main busy switched => exact placed.turn main switched
  | wait event id running switched => exact placed.wait running switched
  | openSource id => exact placed.setFlag id _ fun _ => rfl
  | setInterruptDisabled disabled id => exact placed.setFlag id _ fun _ => rfl
  | finish id running switched => exact placed.finish running switched
  | create quiescent => exact placed.create (mainRuns quiescent)
  | set event quiescent => exact placed.wake (mainRuns quiescent) event
  | hangUp event id quiescent =>
      have main := mainRuns quiescent
      exact (placed.wake main event).interrupt main id
  | interrupt id quiescent => exact placed.interrupt (mainRuns quiescent) id
  | exitSignal quiescent =>
      split
      · exact placed
      · have requested : { queues with exitRequested := true }.Placed := placed
        exact requested.interrupt_each (mainRuns quiescent) queues.all
  | endHandler id =>
      have erased : { queues with all := queues.all.erase id }.Placed := placed
      exact erased.setFlag id _ fun _ => rfl

/-- Nobody waits for the end of a task, and an event has no waiter but its owner. -/
structure Private (owners : List TaskId) (queues : Queues) : Prop where
  joins : ∀ id, queues.waiting (.join id) = []
  own : ∀ event id, id ∈ queues.waiting (.other event) → owners[event]? = some id

theorem interrupt_waiting {other : TaskId} (member : id ∈ (queues.interrupt other).waiting event) :
    id ∈ queues.waiting event := by
  unfold Queues.interrupt at member
  cases found : queues.tasks[other]? with
  | none => simpa [found] using member
  | some task =>
      rw [found] at member
      dsimp only at member
      split at member
      · exact member
      · exact List.mem_of_mem_erase member

theorem interrupt_each_waiting {ids : List TaskId}
    (member : id ∈ (ids.foldl Queues.interrupt queues).waiting event) :
    id ∈ queues.waiting event := by
  induction ids generalizing queues with
  | nil => exact member
  | cons other rest ih => exact interrupt_waiting (ih member)

theorem wake_waiting {set : EventId} (member : id ∈ (queues.wake set).waiting event) :
    id ∈ queues.waiting event := by
  simp only [Queues.wake, Function.update_apply] at member
  split at member
  · cases member
  · exact member

/-- A task gets into the queue of an event only by its own wait. -/
theorem waiting_of_step {label : Label} (taken : queues.step label = some after)
    (member : id ∈ after.waiting event) :
    id ∈ queues.waiting event ∨ label = .wait event ∧ queues.running = some id := by
  cases Queues.moves_of_step taken with
  | turn main busy switched =>
      rw [(switch_keeps switched).2.2] at member
      exact Or.inl member
  | wait waited running runs switched =>
      rw [(switch_keeps switched).2.2] at member
      simp only [Queues.enqueue, Function.update_apply] at member
      split at member
      · rename_i same
        subst same
        rcases List.mem_append.mp member with before | new
        · exact Or.inl before
        · obtain rfl := List.mem_singleton.mp new
          exact Or.inr ⟨rfl, runs⟩
      · exact Or.inl member
  | finish running runs switched =>
      rw [(switch_keeps switched).2.2] at member
      have before := wake_waiting member
      exact Or.inl before
  | openSource | setInterruptDisabled | create | endHandler => exact Or.inl member
  | set => exact Or.inl (wake_waiting member)
  | hangUp => exact Or.inl (wake_waiting (interrupt_waiting member))
  | interrupt => exact Or.inl (interrupt_waiting member)
  | exitSignal =>
      split at member
      · exact Or.inl member
      · have before := interrupt_each_waiting member
        exact Or.inl before

/-- One if the task is ready. -/
def Queues.pending (queues : Queues) (id : TaskId) : Nat :=
  if .task id ∈ queues.active then 1 else 0

/-- A switch resumes the task that it takes out of the ready queue. -/
theorem pending_switch (id : TaskId) (nodup : queues.active.Nodup)
    (inactive : queues.current = .task id → .task id ∉ queues.active)
    (switched : queues.switch = some after) :
    (if queues.current ≠ .task id ∧ after.current = .task id then 1 else 0) + after.pending id =
      queues.pending id := by
  obtain ⟨runner, rest, active, rfl⟩ := Queues.switch_eq_some switched
  rw [active] at nodup inactive
  by_cases chosen : runner = .task id
  · subst chosen
    have other : queues.current ≠ .task id := fun same => inactive same List.mem_cons_self
    have once : .task id ∉ rest := (List.nodup_cons.mp nodup).1
    simp [Queues.pending, active, other, once]
  · have skipped : ¬Runner.task id = runner := fun same => chosen same.symm
    simp [Queues.pending, active, chosen, skipped]

/-- Between two dispatches a ready task is resumed or still ready. -/
theorem pending_step {label : Label} {owners : List TaskId} (valid : queues.Valid)
    (nodup : queues.active.Nodup) (priv : Private owners queues)
    (between : (Action.step label).betweenDispatches = true)
    (taken : queues.step label = some after) :
    (if queues.current ≠ .task id ∧ after.current = .task id then 1 else 0) + after.pending id =
      queues.pending id := by
  have unchanged (change : TaskState → TaskState) (running : TaskId) :
      (if queues.current ≠ .task id ∧ (queues.modifyTask running change).current = .task id
        then 1 else 0) + (queues.modifyTask running change).pending id = queues.pending id := by
    rw [if_neg fun both => both.1 both.2, Nat.zero_add]
    rfl
  cases Queues.moves_of_step taken with
  | turn main busy switched =>
      have off : .main ∉ queues.active := fun ready => valid.mainReady.mp ready main
      have distinct : (queues.ready .main).active.Nodup := by
        simpa [Queues.ready, List.nodup_append] using ⟨nodup, fun runner member same =>
          off (same ▸ member)⟩
      have counted := pending_switch id distinct
        (fun runs => by simp [Queues.ready, main] at runs) switched
      rw [show (queues.ready .main).pending id = queues.pending id by
        simp [Queues.pending, Queues.ready]] at counted
      exact counted
  | wait event running runs switched =>
      have counted := pending_switch id (by exact nodup) (by exact valid.currentInactive id)
        switched
      exact counted
  | openSource running => exact unchanged _ running
  | setInterruptDisabled disabled running => exact unchanged _ running
  | finish running runs switched =>
      have woken : ((queues.modifyTask running fun task =>
          { task with deferred := true, sources := false, closed := true }).wake
            (.join running)).active = queues.active := by
        simp [Queues.wake, Queues.modifyTask, priv.joins running]
      have counted := pending_switch id (woken ▸ nodup)
        (by rw [woken]; exact valid.currentInactive id) switched
      rw [Queues.pending, Queues.pending, woken] at counted
      exact counted
  | create | set | hangUp | interrupt | exitSignal | endHandler => cases between

theorem Private.step {program : Program} {label : Label} (priv : Private program.owners queues)
    (implements : Implements program.state queues) (allowed : program.allows label = true)
    (taken : queues.step label = some after) : Private program.owners after := by
  constructor
  · intro id
    rw [List.eq_nil_iff_forall_not_mem]
    intro waiter member
    rcases waiting_of_step taken member with before | ⟨rfl, -⟩
    · rw [priv.joins id] at before
      cases before
    · cases allowed
  · intro event id member
    rcases waiting_of_step taken member with before | ⟨rfl, runs⟩
    · exact priv.own event id before
    · simp only [Program.allows, implements.running, runs] at allowed
      split at allowed
      · rename_i owner owned
        rw [owned]
        simpa using (eq_of_beq allowed).symm
      · cases allowed

/-- What holds of the program in every state of a run. -/
structure Settled (program : Program) (queues : Queues) : Prop where
  rings : Rings program.state queues
  valid : queues.Valid
  placed : queues.Placed
  priv : Private program.owners queues

theorem start_settled : Settled .start .start where
  rings := ⟨start_implements,
    ⟨⟨[], ⟨Links.reads_nil.mpr rfl, fun _ _ => rfl⟩, fun _ waited => absurd rfl waited, nofun⟩,
      nofun⟩⟩
  valid := by refine ⟨⟨?_, ?_, ?_⟩, ?_, ?_, ?_⟩ <;> simp [Queues.start]
  placed := by simp [Queues.Placed, Queues.start]
  priv := ⟨fun _ => rfl, nofun⟩

/-- The queues follow a step of the scheduler. -/
theorem Settled.follows {program later : Program} {label : Label}
    (settled : Settled program queues) (taken : program.step (.step label) = some later) :
    ∃ after, queues.step label = some after ∧ Settled later after := by
  simp only [Program.step, Option.ite_none_right_eq_some, Option.map_eq_some_iff] at taken
  obtain ⟨allowed, next, stepped, rfl⟩ := taken
  obtain ⟨after, moved, rings, valid⟩ := settled.rings.step settled.valid stepped
  exact ⟨after, moved, rings, valid, settled.placed.step moved,
    settled.priv.step settled.rings.toImplements allowed moved⟩

theorem Settled.step {program later : Program} {action : Action} (settled : Settled program queues)
    (taken : program.step action = some later) : ∃ after, Settled later after ∧
      (action.betweenDispatches = true → ∀ id,
        (if program.state.current ≠ .task id ∧ later.state.current = .task id then 1 else 0) +
          after.pending id = queues.pending id) := by
  cases action with
  | init =>
      obtain ⟨running, runs, rfl⟩ := Option.map_eq_some_iff.mp taken
      refine ⟨queues, ⟨settled.rings, settled.valid, settled.placed, settled.priv.joins, ?_⟩, ?_⟩
      · intro event id member
        have owned := settled.priv.own event id member
        exact List.getElem?_append_left (List.getElem?_eq_some_iff.mp owned).1 ▸ owned
      · intro _ id
        rw [if_neg fun both => both.1 both.2, Nat.zero_add]
  | step label =>
      obtain ⟨after, moved, stays⟩ := settled.follows taken
      refine ⟨after, stays, ?_⟩
      intro between id
      rw [settled.rings.current, stays.rings.current]
      exact pending_step settled.valid settled.rings.toImplements.active_nodup settled.priv between
        moved

theorem settled_of_exec {actions : List Action} {program : Program}
    (reached : Run.exec Program.step .start actions = some program) :
    ∃ queues, Settled program queues := by
  refine Run.exec_invariant (fun program => ∃ queues, Settled program queues) ?_
    ⟨_, start_settled⟩ reached
  rintro program action later ⟨queues, settled⟩ taken
  obtain ⟨after, stays, -⟩ := settled.step taken
  exact ⟨after, stays⟩

/-- The heads of the rings that a task's node can be in. -/
def Node.IsQueue : Node → Prop
  | .activeTasks | .waitList _ => True
  | _ => False

theorem Settled.in_one_ring {program : Program} (settled : Settled program queues)
    (queued : queues.Queued id) :
    ∃! head, Node.IsQueue head ∧ program.state.links.Holds head (.task id) := by
  have implements := settled.rings.toImplements
  have activeIff : program.state.links.Holds .activeTasks (.task id) ↔
      .task id ∈ queues.active := by
    rw [implements.active.holds_iff]
    exact List.mem_map_of_injective Runner.node_injective (a := .task id)
  have waitingIff (event : EventId) : program.state.links.Holds (.waitList event) (.task id) ↔
      id ∈ queues.waiting event := by
    rw [(implements.waiting event).holds_iff]
    simp
  rcases queued with active | ⟨event, waits⟩
  · refine ⟨.activeTasks, ⟨trivial, activeIff.mpr active⟩, ?_⟩
    rintro head ⟨queue, held⟩
    cases head with
    | activeTasks => rfl
    | waitList event => exact absurd ((waitingIff event).mp held) (implements.not_waiting active event)
    | _ => cases queue
  · refine ⟨.waitList event, ⟨trivial, (waitingIff event).mpr waits⟩, ?_⟩
    rintro head ⟨queue, held⟩
    cases head with
    | activeTasks => exact absurd waits (implements.not_waiting (activeIff.mp held) event)
    | waitList other =>
        have known := settled.rings.recalls other id ((waitingIff other).mp held)
        rw [settled.rings.recalls event id waits] at known
        rw [Option.some.inj known]
    | _ => cases queue

theorem Settled.self_iff {program : Program} (settled : Settled program queues) (event : EventId) :
    program.state.links.Holds .waitingEvents (.self event) ↔
      ¬program.state.links.Alone (.waitList event) := by
  obtain ⟨events, tracks⟩ := settled.rings.ring
  rw [tracks.reads.holds_iff, (settled.rings.waiting event).alone_iff, List.map_eq_nil_iff]
  constructor
  · intro listed
    refine (tracks.tight event ?_).resolve_right id
    simpa using listed
  · intro waited
    exact List.mem_map_of_mem (tracks.waited event waited)

/-- While its owner runs an event has no waiter and is in no ring. -/
theorem Settled.own_event_unlinked {program : Program} (settled : Settled program queues)
    {event : Nat} (runs : program.state.running = some id)
    (owned : program.owners[event]? = some id) :
    program.state.links.Alone (.waitList (.other event)) ∧
      program.state.links.Alone (.self (.other event)) := by
  have unwaited : queues.waiting (.other event) = [] := by
    rw [List.eq_nil_iff_forall_not_mem]
    intro waiter member
    obtain rfl : id = waiter :=
      Option.some.inj (owned.symm.trans (settled.priv.own event waiter member))
    rw [settled.rings.toImplements.running] at runs
    exact settled.valid.currentAwake id (current_of_running runs).1 _ member
  obtain ⟨events, tracks⟩ := settled.rings.ring
  constructor
  · rw [(settled.rings.waiting _).alone_iff, unwaited]
    rfl
  · refine tracks.off _ fun listed => ?_
    exact (tracks.tight _ listed).resolve_right (fun never => never) unwaited

/-- Up to the next dispatch a task is resumed as often as it is ready. -/
theorem Settled.resumptions_eq {program final : Program} {actions : List Action}
    (settled : Settled program queues)
    (between : ∀ action ∈ actions, action.betweenDispatches = true)
    (ran : Run.exec Program.step program actions = some final) (idle : final.state.idle = true) :
    resumptions id program actions = queues.pending id := by
  induction actions generalizing program queues with
  | nil =>
      cases ran
      rw [settled.rings.toImplements.idle] at idle
      have none : queues.active = [] := by simp_all [Queues.idle]
      simp [resumptions, Queues.pending, none]
  | cons action rest ih =>
      obtain ⟨next, taken, continued⟩ := Run.exec_cons_eq_some.mp ran
      rw [List.forall_mem_cons] at between
      obtain ⟨after, stays, counted⟩ := settled.step taken
      rw [← counted between.1 id, resumptions, taken]
      dsimp only
      rw [ih stays between.2 continued]

/-- A hang-up sets an event and cancels the wait of a task, which is then ready once. -/
theorem Settled.hangUp {program woken : Program} {task : TaskState}
    (settled : Settled program queues)
    (taken : program.step (.step (.hangUp event id)) = some woken)
    (found : program.state.tasks[id]? = some task) (enabled : task.interruptDisabled = false) :
    ∃ after, Settled woken after ∧ after.pending id = 1 := by
  obtain ⟨after, moved, stays⟩ := settled.follows taken
  refine ⟨after, stays, ?_⟩
  cases Queues.moves_of_step moved
  rw [settled.rings.tasks] at found
  have ready : .task id ∈ ((queues.wake event).interrupt id).active := by
    simp [Queues.interrupt, Queues.wake, found, enabled, Queues.cancel, Queues.ready]
  rw [Queues.pending, if_pos ready]

/-- In every state of every run a task that neither runs nor is closed has its node
in exactly one ring, the active list or the `wait_list` of one event. An event is on
the list of waiting events exactly if its `wait_list` is not empty. While the task runs
whose code initialised an event, as it does when the function returns that waited for
it, the event is in no ring and has no task on its `wait_list`. And a task whose event
is set and whose wait is cancelled in one dispatch is resumed once before the next. -/
theorem stack_events_unlinked (actions : List Action) (program : Program)
    (reached : Run.exec Program.step .start actions = some program) :
    (∀ (id : TaskId) task, program.state.tasks[id]? = some task → task.closed = false →
      program.state.current ≠ .task id →
      ∃! head, Node.IsQueue head ∧ program.state.links.Holds head (.task id)) ∧
    (∀ event, program.state.links.Holds .waitingEvents (.self event) ↔
      ¬program.state.links.Alone (.waitList event)) ∧
    (∀ (id : TaskId) (event : Nat), program.state.running = some id →
      program.owners[event]? = some id →
      program.state.links.Alone (.waitList (.other event)) ∧
        program.state.links.Alone (.self (.other event))) ∧
    (∀ event (id : TaskId) task woken own final,
      program.step (.step (.hangUp event id)) = some woken →
      program.state.tasks[id]? = some task → task.interruptDisabled = false →
      (∀ action ∈ own, action.betweenDispatches = true) →
      Run.exec Program.step woken own = some final → final.state.idle = true →
      resumptions id woken own = 1) := by
  obtain ⟨queues, settled⟩ := settled_of_exec reached
  refine ⟨?_, settled.self_iff, ?_, ?_⟩
  · intro id task found opened elsewhere
    rw [settled.rings.tasks] at found
    rw [settled.rings.current] at elsewhere
    exact settled.in_one_ring ((settled.placed id task found opened).resolve_left elsewhere)
  · intro id event runs owned
    exact settled.own_event_unlinked runs owned
  · intro event id task woken own final taken found enabled between ran idle
    obtain ⟨after, stays, once⟩ := settled.hangUp taken found enabled
    rw [stays.resumptions_eq between ran idle, once]

/-- A task waits for an event of its own; a hang-up sets the event and cancels the
wait, and the task runs again. -/
def hungUp : List Action :=
  [.step .create, .step .turn, .init, .step .openSource, .step (.wait (.other 0)),
    .step (.hangUp (.other 0) 0), .step .turn]

theorem stack_events_unlinked_hungUp :
    ∃ program ∈ Run.exec Program.step .start hungUp,
      program.state.running = some 0 ∧ program.owners[0]? = some 0 ∧
        program.state.links.Alone (.waitList (.other 0)) ∧
        program.state.links.Alone (.self (.other 0)) := by
  have present : (Run.exec Program.step .start hungUp).isSome := by decide +kernel
  have resumed : ∀ program ∈ Run.exec Program.step .start hungUp,
      program.state.running = some 0 ∧ program.owners[0]? = some 0 := by decide +kernel
  obtain ⟨runs, owned⟩ := resumed _ (Option.get_mem present)
  exact ⟨_, Option.get_mem present, runs, owned,
    (stack_events_unlinked _ _ (Option.some_get present).symm).2.2.1 0 0 runs owned⟩

end TrafficLimitd.Scheduler
