import TrafficLimitd.SchedulerRefinement

set_option autoImplicit false

/- The ring of the events that are waited for. An event joins it with its first
waiter and leaves it with its last one, whether the event is set or the wait is
cancelled. -/
namespace TrafficLimitd.Scheduler

open CircularList (Links)

/-- The ring of waiting events holds these events, and the others are in no
ring. -/
structure Listed (links : Links Node) (events : List EventId) : Prop where
  reads : links.Reads .waitingEvents (events.map .self)
  off : ∀ event, event ∉ events → links.Alone (.self event)

section Listed

variable {links : Links Node} {events : List EventId}

theorem not_mem_events {node : Node} (inside : ¬node.Outside) (events : List EventId) :
    node ∉ Node.waitingEvents :: events.map Node.self := by
  simp only [List.mem_cons, List.mem_map, not_or, not_exists, not_and]
  exact ⟨by rintro rfl; exact inside trivial, by rintro event - rfl; exact inside trivial⟩

theorem Listed.attach (listed : Listed links events) (first second : Node)
    (firstIn : ¬first.Outside) (secondIn : ¬second.Outside) :
    Listed (links.toggleConnect first second) events where
  reads := listed.reads.toggleConnect (not_mem_events firstIn _) (not_mem_events secondIn _)
  off event absent := (listed.off event absent).toggleConnect
    (by rintro rfl; exact firstIn trivial) (by rintro rfl; exact secondIn trivial)

theorem Listed.detach (listed : Listed links events) (node : Node) (inside : ¬node.Outside) :
    Listed (links.detach node) events where
  reads := detach_reads_of_not_mem listed.reads (not_mem_events inside _)
  off event absent := (listed.off event absent).detach (by rintro rfl; exact inside trivial)

theorem Listed.remove (listed : Listed links events) (event : EventId) :
    Listed (links.detach (.self event)) (events.erase event) where
  reads := by
    have detached := listed.reads.detach (show Node.self event ≠ .waitingEvents by simp)
    rwa [← List.map_erase (fun _ _ => Node.self.inj)] at detached
  off other absent := by
    by_cases same : other = event
    · exact same ▸ links.detach_alone _
    · refine (listed.off other ?_).detach (by simpa using same)
      exact fun member => absent ((List.mem_erase_of_ne same).mpr member)

theorem Listed.insert (listed : Listed links events) {event : EventId} (absent : event ∉ events) :
    Listed ((links.detach (.self event)).toggleConnect .waitingEvents (.self event))
      (events ++ [event]) := by
  have detached := listed.remove event
  rw [List.erase_of_not_mem absent] at detached
  constructor
  · simpa using detached.reads.push (detached.off event absent) (by simp)
  · intro other gone
    simp only [List.mem_append, List.mem_singleton, not_or] at gone
    exact (detached.off other gone.1).toggleConnect (by simp) (by simpa using gone.2)

theorem Listed.nodup (listed : Listed links events) : events.Nodup :=
  List.Nodup.of_map _ (List.nodup_cons.mp listed.reads.1).2

/-- The runner that is handed over to leaves no ring but its own. -/
theorem Listed.sTaskCallNext {state next : State} (listed : Listed state.links events)
    (called : state.sTaskCallNext = some next) :
    Listed next.links events ∧ next.waits = state.waits := by
  unfold State.sTaskCallNext at called
  split at called
  · cases called
    exact ⟨listed, rfl⟩
  · obtain ⟨runner, parent, rfl⟩ := Option.map_eq_some_iff.mp called
    have inside : ¬(state.links.next .activeTasks).Outside := by
      intro outside
      cases node : state.links.next .activeTasks <;>
        simp [node, State.parent, Node.Outside] at parent outside
    exact ⟨listed.detach _ inside, rfl⟩

end Listed

/-- The events on the ring are those with waiters; `slack` tells which one may be on
it without any. -/
structure Tracks (links : Links Node) (queues : Queues) (slack : EventId → Prop)
    (events : List EventId) : Prop extends Listed links events where
  waited : ∀ event, queues.waiting event ≠ [] → event ∈ events
  tight : ∀ event ∈ events, queues.waiting event ≠ [] ∨ slack event

/-- Every event with waiters is on the ring of waiting events and no other is, and a
task that waits knows its event. -/
structure Tracked (state : State) (queues : Queues) : Prop where
  ring : ∃ events, Tracks state.links queues (fun _ => False) events
  recalls : ∀ event id, id ∈ queues.waiting event → (state.waits id).event = some event

structure Rings (state : State) (queues : Queues) : Prop extends
  Implements state queues, Tracked state queues

variable {state next : State} {queues after : Queues} {event : EventId} {events : List EventId}

theorem Implements.waitList_isEmpty (implements : Implements state queues) (event : EventId) :
    state.isEmpty (.waitList event) = true ↔ queues.waiting event = [] := by
  unfold State.isEmpty
  rw [decide_eq_true_iff, (implements.waiting event).alone_iff, List.map_eq_nil_iff]

theorem Tracks.addToWaitingList (implements : Implements state queues)
    (tracks : Tracks state.links queues (fun _ => False) events) (event : EventId) :
    ∃ more, Tracks (state.sEventAddToWaitingList event).links queues (· = event) more ∧
      event ∈ more := by
  unfold State.sEventAddToWaitingList
  split
  · rename_i empty
    have unwaited := (implements.waitList_isEmpty event).mp empty
    have absent : event ∉ events := by
      intro listed
      exact (tracks.tight event listed).elim (fun waited => waited unwaited) id
    refine ⟨events ++ [event], ⟨tracks.toListed.insert absent, ?_, ?_⟩, by simp⟩
    · intro other waited
      exact List.mem_append_left _ (tracks.waited other waited)
    · intro other listed
      rcases List.mem_append.mp listed with before | new
      · exact Or.inl ((tracks.tight other before).resolve_right id)
      · exact Or.inr (List.mem_singleton.mp new)
  · rename_i occupied
    have waited : queues.waiting event ≠ [] := fun none =>
      occupied ((implements.waitList_isEmpty event).mpr none)
    refine ⟨events, ⟨tracks.toListed, tracks.waited, ?_⟩, tracks.waited event waited⟩
    intro other listed
    exact Or.inl ((tracks.tight other listed).resolve_right id)

theorem Tracks.removeFromWaitingList (implements : Implements state queues)
    (tracks : Tracks state.links queues (· = event) events) :
    ∃ fewer, Tracks (state.sEventRemoveFromWaitingList event).links queues (fun _ => False)
      fewer := by
  unfold State.sEventRemoveFromWaitingList
  split
  · rename_i empty
    have unwaited := (implements.waitList_isEmpty event).mp empty
    refine ⟨events.erase event, tracks.toListed.remove event, ?_, ?_⟩
    · intro other waited
      have different : other ≠ event := by
        rintro rfl
        exact waited unwaited
      exact (List.mem_erase_of_ne different).mpr (tracks.waited other waited)
    · intro other listed
      have different : other ≠ event := by
        rintro rfl
        exact tracks.nodup.not_mem_erase listed
      exact Or.inl ((tracks.tight other (List.mem_of_mem_erase listed)).resolve_right different)
  · rename_i occupied
    refine ⟨events, tracks.toListed, tracks.waited, ?_⟩
    intro other listed
    rcases tracks.tight other listed with waited | rfl
    · exact Or.inl waited
    · exact Or.inl fun none => occupied ((implements.waitList_isEmpty other).mpr none)

section Fields

@[simp] theorem clearWaitingEvent_links (state : State) :
    state.clearWaitingEvent.links = state.links := by
  unfold State.clearWaitingEvent
  split <;> rfl

@[simp] theorem addToWaitingList_waits (state : State) (event : EventId) :
    (state.sEventAddToWaitingList event).waits = state.waits := by
  unfold State.sEventAddToWaitingList
  split <;> rfl

@[simp] theorem removeFromWaitingList_waits (state : State) (event : EventId) :
    (state.sEventRemoveFromWaitingList event).waits = state.waits := by
  unfold State.sEventRemoveFromWaitingList
  split <;> rfl

/-- Only the running task forgets its event. -/
theorem clearWaitingEvent_waits {id : TaskId} (other : state.current ≠ .task id) :
    state.clearWaitingEvent.waits id = state.waits id := by
  unfold State.clearWaitingEvent
  split
  · rfl
  · rename_i running current
    have different : id ≠ running := by
      rintro rfl
      exact other current
    simp [State.setWait, Function.update_of_ne different]

end Fields

theorem Rings.sEventSet (rings : Rings state queues)
    (awake : ∀ id, queues.current = .task id → ∀ event, id ∉ queues.waiting event)
    (event : EventId) : Rings (state.sEventSet event) (queues.wake event) := by
  obtain ⟨events, tracks⟩ := rings.ring
  refine ⟨rings.toImplements.sEventSet event, ⟨?_, ?_⟩⟩
  · have moved := clearWaitingEvent_implements (rings.toImplements.wake event)
    refine Tracks.removeFromWaitingList moved (⟨?_, ?_, ?_⟩ : Tracks _ _ _ events)
    · rw [clearWaitingEvent_links]
      exact (tracks.toListed.attach .activeTasks (.waitList event) (fun outside => outside)
        fun outside => outside).detach (.waitList event) fun outside => outside
    · intro other waited
      simp only [Queues.wake, Function.update_apply] at waited
      split at waited
      · exact absurd rfl waited
      · exact tracks.waited other waited
    · intro other listed
      by_cases same : other = event
      · exact Or.inr same
      · left
        simpa [Queues.wake, same] using (tracks.tight other listed).resolve_right id
  · intro other id waits
    have before : id ∈ queues.waiting other := by
      simp only [Queues.wake, Function.update_apply] at waits
      split at waits
      · cases waits
      · exact waits
    have notRunning : state.current ≠ .task id := by
      rw [rings.current]
      exact fun runs => awake id runs other before
    unfold State.sEventSet
    rw [removeFromWaitingList_waits, clearWaitingEvent_waits (by exact notRunning)]
    exact rings.recalls other id before

/-- `s_task_cancel_wait` up to its look at the task's event. -/
def State.resume (state : State) (id : TaskId) : State :=
  (((state.setWait id { state.waits id with cancelled := true }).detach (.task id)).attach
    .activeTasks (.task id)).clearWaitingEvent

theorem sTaskCancelWait_eq (state : State) (id : TaskId) :
    state.sTaskCancelWait id =
      match (state.waits id).event with
      | none => state.resume id
      | some event => (state.resume id).sEventRemoveFromWaitingList event := by
  unfold State.sTaskCancelWait State.resume
  have read : ((((state.setWait id { state.waits id with cancelled := true }).detach
      (.task id)).attach .activeTasks (.task id)).waits id).event = (state.waits id).event := by
    simp [State.setWait, State.attach, State.detach]
  dsimp only
  rewrite [read]
  cases (state.waits id).event <;> rfl

theorem Implements.resume (implements : Implements state queues) (id : TaskId) :
    Implements (state.resume id) (queues.cancel id) := by
  have marked : Implements
      (state.setWait id { state.waits id with cancelled := true }) queues :=
    implements.congr rfl rfl rfl rfl
  exact clearWaitingEvent_implements ((marked.remove id).ready (.task id) (Links.detach_alone _ _))

theorem resume_event {id other : TaskId} (sleeps : state.current ≠ .task other) :
    ((state.resume id).waits other).event = (state.waits other).event := by
  unfold State.resume
  rw [clearWaitingEvent_waits (by exact sleeps)]
  simp only [State.attach, State.detach, State.setWait, Function.update_apply]
  split
  · rename_i same
    rw [same]
  · rfl

/-- Only the event of the cancelled task can have lost its last waiter. -/
theorem Rings.resume_tracks (rings : Rings state queues) (id : TaskId)
    (tracks : Tracks state.links queues (fun _ => False) events) :
    Tracks (state.resume id).links (queues.cancel id)
      (fun event => (state.waits id).event = some event) events := by
  refine ⟨?_, ?_, ?_⟩
  · unfold State.resume
    rw [clearWaitingEvent_links]
    exact (tracks.toListed.detach (.task id) fun outside => outside).attach .activeTasks (.task id)
      (fun outside => outside) fun outside => outside
  · intro event waited
    apply tracks.waited event
    intro none
    exact waited (by simp [Queues.cancel, Queues.remove, Queues.ready, none])
  · intro event listed
    by_cases waits : id ∈ queues.waiting event
    · exact Or.inr (rings.recalls event id waits)
    · left
      simpa [Queues.cancel, Queues.remove, Queues.ready, List.erase_of_not_mem waits] using
        (tracks.tight event listed).resolve_right fun never => never

theorem Rings.sTaskCancelWait (rings : Rings state queues)
    (awake : ∀ id, queues.current = .task id → ∀ event, id ∉ queues.waiting event)
    (id : TaskId) : Rings (state.sTaskCancelWait id) (queues.cancel id) := by
  obtain ⟨events, tracks⟩ := rings.ring
  have slack := rings.resume_tracks id tracks
  have recalls (event : EventId) (other : TaskId)
      (waits : other ∈ (queues.cancel id).waiting event) :
      ((state.resume id).waits other).event = some event := by
    have before : other ∈ queues.waiting event := List.mem_of_mem_erase waits
    have sleeps : state.current ≠ .task other := by
      rw [rings.current]
      exact fun runs => awake other runs event before
    rw [resume_event sleeps]
    exact rings.recalls event other before
  refine ⟨rings.toImplements.sTaskCancelWait id, ⟨?_, ?_⟩⟩
  · rw [sTaskCancelWait_eq]
    cases known : (state.waits id).event with
    | none =>
        refine ⟨events, slack.toListed, slack.waited, fun event listed => Or.inl ?_⟩
        refine (slack.tight event listed).resolve_right ?_
        rw [known]
        nofun
    | some event =>
        have only : Tracks (state.resume id).links (queues.cancel id) (· = event) events := by
          refine ⟨slack.toListed, slack.waited, fun other listed => ?_⟩
          refine (slack.tight other listed).imp_right fun same => ?_
          exact Option.some.inj (same.symm.trans known)
        exact only.removeFromWaitingList (rings.toImplements.resume id)
  · intro event other waits
    rw [sTaskCancelWait_eq]
    cases (state.waits id).event with
    | none => exact recalls event other waits
    | some removed =>
        dsimp only
        rw [removeFromWaitingList_waits]
        exact recalls event other waits

theorem Rings.interruptTask (rings : Rings state queues)
    (awake : ∀ id, queues.current = .task id → ∀ event, id ∉ queues.waiting event)
    (id : TaskId) : Rings (state.interruptTask id) (queues.interrupt id) := by
  unfold State.interruptTask Queues.interrupt
  rw [rings.tasks]
  cases queues.tasks[id]? with
  | none => exact rings
  | some task =>
      dsimp only
      split
      · exact rings
      · exact rings.sTaskCancelWait awake id

/-- Steps that move no event and change no wait. -/
theorem Tracked.congr {other : State} {otherQueues : Queues} (tracked : Tracked state queues)
    (links : ∀ events, Listed state.links events → Listed other.links events)
    (waits : ∀ id, (other.waits id).event = (state.waits id).event)
    (waiting : otherQueues.waiting = queues.waiting) : Tracked other otherQueues := by
  obtain ⟨events, tracks⟩ := tracked.ring
  refine ⟨⟨events, links events tracks.toListed, ?_, ?_⟩, ?_⟩
  · rw [waiting]
    exact tracks.waited
  · rw [waiting]
    exact tracks.tight
  · rw [waiting]
    intro event id member
    rw [waits id]
    exact tracked.recalls event id member

theorem Tracked.sTaskCallNext (tracked : Tracked state queues)
    (called : state.sTaskCallNext = some next) (switched : queues.switch = some after) :
    Tracked next after := by
  refine tracked.congr ?_ ?_ (switch_keeps switched).2.2
  · intro events listed
    exact (listed.sTaskCallNext called).1
  · obtain ⟨events, tracks⟩ := tracked.ring
    rw [(tracks.toListed.sTaskCallNext called).2]
    exact fun _ => rfl

theorem Tracked.sTaskNext {id : TaskId} (tracked : Tracked state queues)
    (called : state.sTaskNext id = some next) (switched : queues.switch = some after) :
    Tracked next after := by
  have cleared : Tracked (state.setWait id { state.waits id with cancelled := false }) queues := by
    refine tracked.congr (fun _ listed => listed) ?_ rfl
    intro other
    simp only [State.setWait, Function.update_apply]
    split
    · rename_i same
      rw [same]
    · rfl
  exact cleared.sTaskCallNext called switched

/-- `s_event_wait` up to the switch: the event has a waiter that knows it. -/
theorem Rings.waits (rings : Rings state queues) (valid : queues.Valid) {id : TaskId}
    (runs : queues.current = .task id) (taken : state.sEventWait id event = some next)
    (switched : (queues.enqueue event id).switch = some after) : Tracked next after := by
  obtain ⟨events, tracks⟩ := rings.ring
  obtain ⟨more, added, joined⟩ := Tracks.addToWaitingList rings.toImplements tracks event
  refine Tracked.sTaskNext ⟨⟨more, ?_, ?_, ?_⟩, ?_⟩ taken switched
  · exact (added.toListed.detach (.task id) fun outside => outside).attach (.waitList event)
      (.task id) (fun outside => outside) fun outside => outside
  · intro other waited
    by_cases same : other = event
    · exact same ▸ joined
    · refine added.waited other ?_
      simpa [Queues.enqueue, same] using waited
  · intro other listed
    left
    by_cases same : other = event
    · simp [Queues.enqueue, same]
    · simpa [Queues.enqueue, same] using (added.tight other listed).resolve_right same
  · intro other waiter member
    have awake := valid.currentAwake id runs
    simp only [Queues.enqueue, Function.update_apply] at member
    simp only [State.setWait, State.attach, State.detach, addToWaitingList_waits,
      Function.update_apply]
    by_cases self : waiter = id
    · subst self
      split at member
      · rename_i same
        rw [if_pos rfl, same]
      · exact absurd member (awake other)
    · rw [if_neg self]
      refine rings.recalls other waiter ?_
      split at member
      · rename_i same
        have before : waiter ∈ queues.waiting event := by simpa [self] using member
        exact same ▸ before
      · exact member

namespace Rings

variable (rings : Rings state queues) (valid : queues.Valid)

include rings

/-- A change of the tasks' records concerns no event. -/
theorem modifyTask (id : TaskId) (change : TaskState → TaskState) :
    Rings (state.modifyTask id change) (queues.modifyTask id change) :=
  ⟨rings.toImplements.modifyTask id change,
    rings.toTracked.congr (fun _ listed => listed) (fun _ => rfl) rfl⟩

theorem turn (taken : Scheduler.step state .turn = some next)
    (switched : (queues.ready .main).switch = some after) : Tracked next after := by
  simp only [Scheduler.step, Option.ite_none_right_eq_some] at taken
  have queued : Tracked (state.attach .activeTasks .mainTask) (queues.ready .main) :=
    rings.toTracked.congr (fun _ listed => listed.attach .activeTasks .mainTask
      (fun outside => outside) fun outside => outside) (fun _ => rfl) rfl
  exact queued.sTaskCallNext taken.2 switched

/-- A step in which the task that runs changes something about itself. -/
theorem modify {label : Label} {id : TaskId} (change : TaskState → TaskState)
    (changed : Scheduler.step state label =
      state.running.map fun id => state.modifyTask id change)
    (running : queues.running = some id) (taken : Scheduler.step state label = some next) :
    Tracked next (queues.modifyTask id change) := by
  rw [changed, rings.toImplements.running, running, Option.map_some, Option.some.injEq] at taken
  subst taken
  exact (rings.modifyTask id change).toTracked

theorem create (taken : Scheduler.step state .create = some next) :
    Tracked next queues.create := by
  simp only [Scheduler.step, Option.ite_none_right_eq_some, Option.some.injEq] at taken
  obtain ⟨-, rfl⟩ := taken
  refine rings.toTracked.congr ?_ (fun _ => rfl) rfl
  intro events listed
  exact (listed.attach .allTasks (.listNode state.tasks.length) (fun outside => outside)
    fun outside => outside).attach .activeTasks (.task state.tasks.length)
      (fun outside => outside) fun outside => outside

theorem endHandler {id : TaskId} (taken : Scheduler.step state (.endHandler id) = some next) :
    Tracked next ({ queues with all := queues.all.erase id }.modifyTask id fun task =>
      { task with deferred := false, freed := task.freed + 1 }) := by
  simp only [Scheduler.step, Option.ite_none_right_eq_some, Option.some.injEq] at taken
  obtain ⟨-, rfl⟩ := taken
  exact rings.toTracked.congr (fun _ listed => listed.detach (.listNode id)
    fun outside => outside) (fun _ => rfl) rfl

include valid

theorem wait {id : TaskId} (running : queues.running = some id)
    (taken : Scheduler.step state (.wait event) = some next)
    (switched : (queues.enqueue event id).switch = some after) : Tracked next after := by
  rw [Scheduler.step, rings.toImplements.running, running, Option.bind_some] at taken
  exact rings.waits valid (current_of_running running).1 taken switched

theorem finish {id : TaskId} (running : queues.running = some id)
    (taken : Scheduler.step state .finish = some next)
    (switched : ((queues.modifyTask id fun task =>
      { task with deferred := true, sources := false, closed := true }).wake (.join id)).switch =
        some after) : Tracked next after := by
  rw [Scheduler.step, rings.toImplements.running, running, Option.bind_some] at taken
  have closed := rings.modifyTask id fun task =>
    { task with deferred := true, sources := false, closed := true }
  exact (closed.sEventSet valid.currentAwake (.join id)).toTracked.sTaskNext taken switched

theorem set (taken : Scheduler.step state (.set event) = some next) :
    Tracked next (queues.wake event) := by
  simp only [Scheduler.step, Option.ite_none_right_eq_some, Option.some.injEq] at taken
  obtain ⟨-, rfl⟩ := taken
  exact (rings.sEventSet valid.currentAwake event).toTracked

theorem hangUp {id : TaskId} (quiescent : queues.idle = true)
    (taken : Scheduler.step state (.hangUp event id) = some next) :
    Tracked next ((queues.wake event).interrupt id) := by
  simp only [Scheduler.step, Option.ite_none_right_eq_some, Option.some.injEq] at taken
  obtain ⟨-, rfl⟩ := taken
  have woken := (valid.idle quiescent).wake event
  exact ((rings.sEventSet valid.currentAwake event).interruptTask woken.valid.currentAwake
    id).toTracked

theorem interrupt {id : TaskId} (taken : Scheduler.step state (.interrupt id) = some next) :
    Tracked next (queues.interrupt id) := by
  simp only [Scheduler.step, Option.ite_none_right_eq_some, Option.some.injEq] at taken
  obtain ⟨-, rfl⟩ := taken
  exact (rings.interruptTask valid.currentAwake id).toTracked

theorem exitSignal (quiescent : queues.idle = true)
    (taken : Scheduler.step state .exitSignal = some next) :
    Tracked next (if queues.exitRequested then queues
      else queues.all.foldl Queues.interrupt { queues with exitRequested := true }) := by
  simp only [Scheduler.step, Option.ite_none_right_eq_some, Option.some.injEq] at taken
  obtain ⟨-, rfl⟩ := taken
  have idle := valid.idle quiescent
  have walked := exitReqHandler_keeps (fun state queues => Rings state queues ∧ queues.Idle)
    (fun _ _ given => given.1.toImplements)
    (fun _ _ id given =>
      ⟨given.1.interruptTask given.2.valid.currentAwake id, given.2.interrupt id⟩)
    valid ⟨rings, idle⟩
    ⟨⟨{ rings.toImplements with exitRequested := rfl },
      rings.toTracked.congr (fun _ listed => listed) (fun _ => rfl) rfl⟩,
      ⟨⟨idle.all, idle.active, idle.waiting⟩, idle.current, idle.mainOff⟩⟩
  exact walked.1.toTracked

/-- Every step keeps the rings in order. -/
theorem step {label : Label} (taken : Scheduler.step state label = some next) :
    ∃ after, queues.step label = some after ∧ Rings next after ∧ after.Valid := by
  obtain ⟨after, stepped, implemented, stillValid⟩ := step_refines rings.toImplements valid taken
  refine ⟨after, stepped, ⟨implemented, ?_⟩, stillValid⟩
  cases Queues.moves_of_step stepped with
  | turn main busy switched => exact rings.turn taken switched
  | wait event id running switched => exact rings.wait valid running taken switched
  | openSource id running => exact rings.modify _ rfl running taken
  | setInterruptDisabled disabled id running => exact rings.modify _ rfl running taken
  | finish id running switched => exact rings.finish valid running taken switched
  | create => exact rings.create taken
  | set => exact rings.set valid taken
  | hangUp event id quiescent => exact rings.hangUp valid quiescent taken
  | interrupt => exact rings.interrupt valid taken
  | exitSignal quiescent => exact rings.exitSignal valid quiescent taken
  | endHandler => exact rings.endHandler taken

end Rings

end TrafficLimitd.Scheduler
