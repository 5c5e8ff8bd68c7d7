import TrafficLimitd.DaemonConfinement

set_option autoImplicit false

/- src/main.c: the loop of `main` around the daemon. An iteration runs every ready
task, dispatches one event source, and then looks at the tasks that are left: it
asks sd-event to exit, or it switches the sleep timer on or off. -/
namespace TrafficLimitd.Daemon

open Coroutine Handler

/-- `g_exit_req`. -/
inductive ExitReq
  | noExit
  | exitReqSent
  | waitTasks
deriving DecidableEq

inductive Enabled
  | off
  | oneshot
deriving DecidableEq

/-- The states of sd-event: after `sd_event_exit` it dispatches exit sources only,
and without one left it is finished. -/
inductive EventLoop
  | running
  | exiting
  | finished
deriving DecidableEq

/-- Where `main` is: in `s_task_main_loop_once` or before `sd_event_run`, after
`sd_event_run`, behind the loop, or returned from within it. -/
inductive Phase
  | tasks
  | dispatched
  | left
  | failed
deriving DecidableEq

/-- `rounds` counts the completed iterations; `exits` has the length of `all_tasks`
at each call of `sd_event_exit`. -/
structure Loop where
  daemon : State
  exitReq : ExitReq
  sleepTimer : Enabled
  eventLoop : EventLoop
  phase : Phase
  rounds : Nat
  exits : List Nat

/-- Whether the step is one of an event handler, not of a task. -/
def Label.dispatched : Label → Bool
  | .resume | .perform _ | .block | .cleanup _ | .finish => false
  | _ => true

/-- `exit_req_handler`, as far as it concerns `g_exit_req`. -/
def ExitReq.after : ExitReq → Label → ExitReq
  | .noExit, .exitSignal => .exitReqSent
  | exitReq, _ => exitReq

/-- The length of `all_tasks`: a task leaves it when it is freed. -/
def State.nrAllTasks (state : State) : Nat := (state.threads.map Thread.freed).count false

def State.isTaskEmpty (state : State) : Bool := state.nrAllTasks == 0

/-- `other` is an event source whose handler concerns no task; `exitSource` is a run
of sd-event after `sd_event_exit`, with an exit source to dispatch or none left;
`fail` is an error of `sd_event_run`. `check` is the rest of the iteration. A call of
sd-event that does not succeed is the choice `false`. -/
inductive LoopLabel
  | run (label : Label)
  | dispatch (label : Label)
  | sleepTimer (exited : Bool)
  | other
  | exitSource (left : Bool)
  | fail
  | stale
  | check (succeeds : Bool)

namespace Loop

def start : Loop :=
  { daemon := Daemon.start, exitReq := .noExit, sleepTimer := .off, eventLoop := .running,
    phase := .tasks, rounds := 0, exits := [] }

def sdEventExit (loop : Loop) (succeeds : Bool) : Loop :=
  { loop with
    eventLoop := if succeeds then .exiting else loop.eventLoop
    exits := loop.daemon.nrAllTasks :: loop.exits }

/-- The result of `sd_event_exit` is ignored. -/
def sleepTimerHandler (loop : Loop) (exited : Bool) : Loop :=
  if loop.daemon.isTaskEmpty then loop.sdEventExit exited else loop

/-- All ready tasks have run, and sd-event is asked for an event. -/
def idle (loop : Loop) : Bool := decide (loop.phase = .tasks) && loop.daemon.idle

/-- An event source can be dispatched. -/
def mayDispatch (loop : Loop) : Bool := loop.idle && decide (loop.eventLoop = .running)

/-- The branches after `sd_event_run`. -/
def branch (loop : Loop) : Loop :=
  if loop.exitReq = .exitReqSent ∧ loop.daemon.isTaskEmpty then
    { loop.sdEventExit true with exitReq := .waitTasks }
  else if loop.daemon.isTaskEmpty then
    if loop.sleepTimer = .off then { loop with sleepTimer := .oneshot } else loop
  else if loop.sleepTimer ≠ .off then { loop with sleepTimer := .off } else loop

/-- The same when a call of sd-event does not succeed; `main` returns. -/
def brokenBranch (loop : Loop) : Loop :=
  if loop.exitReq = .exitReqSent ∧ loop.daemon.isTaskEmpty then loop.sdEventExit false else loop

def check (loop : Loop) (succeeds : Bool) : Loop :=
  if succeeds then { loop.branch with phase := .tasks, rounds := loop.rounds + 1 }
  else { loop.brokenBranch with phase := .failed }

def step (host : Host) (loop : Loop) : LoopLabel → Option Loop
  | .run label =>
      if loop.phase = .tasks ∧ label.dispatched = false then
        (Daemon.step host loop.daemon label).map fun daemon => { loop with daemon := daemon }
      else none
  | .dispatch label =>
      if loop.mayDispatch ∧ label.dispatched then
        (Daemon.step host loop.daemon label).map fun daemon =>
          { loop with
            daemon := daemon
            exitReq := loop.exitReq.after label
            phase := .dispatched }
      else none
  | .sleepTimer exited =>
      if loop.mayDispatch ∧ loop.sleepTimer = .oneshot then
        some { { loop with sleepTimer := .off }.sleepTimerHandler exited with phase := .dispatched }
      else none
  | .other => if loop.mayDispatch then some { loop with phase := .dispatched } else none
  | .exitSource left =>
      if loop.idle ∧ loop.eventLoop = .exiting then
        some { loop with
          eventLoop := if left then .exiting else .finished
          phase := .dispatched }
      else none
  | .fail => if loop.idle then some { loop with phase := .failed } else none
  | .stale =>
      if loop.idle ∧ loop.eventLoop = .finished then some { loop with phase := .left } else none
  | .check succeeds => if loop.phase = .dispatched then some (loop.check succeeds) else none

end Loop

namespace State

variable {host : Host} {state next : State} {label : Label} {id : TaskId} {thread : Thread}

theorem freed_of_isTaskEmpty (empty : state.isTaskEmpty = true)
    (there : state.threads[id]? = some thread) : thread.freed = true := by
  have nobody : (state.threads.map Thread.freed).count false = 0 := eq_of_beq empty
  by_contra live
  have listed : thread.freed ∈ state.threads.map Thread.freed :=
    List.mem_map_of_mem (List.mem_of_getElem? there)
  rw [Bool.eq_false_of_not_eq_true live] at listed
  exact List.count_eq_zero.mp nobody listed

theorem Orderly.closed_of_freed (orderly : state.Orderly)
    (there : state.threads[id]? = some thread) (freed : thread.freed = true) :
    thread.closed = true := by
  have inside : id < state.roster.jobs.length :=
    orderly.aligned ▸ (List.getElem?_eq_some_iff.mp there).1
  have present := task_eq_some.mpr ⟨List.getElem?_eq_getElem inside, there⟩
  exact (orderly.fits id _ present).freed freed

/-- Without a task there is nothing to run. -/
theorem no_run_of_isTaskEmpty (orderly : state.Orderly) (empty : state.isTaskEmpty = true)
    (free : state.current = none) (runs : label.dispatched = false)
    (taken : Daemon.step host state label = some next) : False := by
  have nobody : ∀ id, state.current ≠ some id := by
    intro id runs
    rw [free] at runs
    cases runs
  obtain ⟨_, taken⟩ := Option.ite_none_left_eq_some.mp taken
  cases label with
  | resume =>
      obtain ⟨id, rest, _, _, alive, _⟩ := resume_eq_some taken
      obtain ⟨thread, there, alive⟩ := (Option.any_eq_true _ _).mp alive
      rw [orderly.closed_of_freed there (freed_of_isTaskEmpty empty there)] at alive
      cases alive
  | perform event =>
      obtain ⟨id, _, _, current, _⟩ := perform_eq_some taken
      exact nobody id current
  | block =>
      obtain ⟨id, _, _, _, current, _⟩ := block_eq_some taken
      exact nobody id current
  | cleanup deleted =>
      obtain ⟨id, _, _, _, _, current, _⟩ := cleanup_eq_some taken
      exact nobody id current
  | finish =>
      obtain ⟨id, _, _, current, _⟩ := finish_eq_some taken
      exact nobody id current
  | _ => cases runs

theorem map_freed_set {threads : List Thread} {moved : Thread} (there : threads[id]? = some thread)
    (same : moved.freed = thread.freed) :
    (threads.set id moved).map Thread.freed = threads.map Thread.freed := by
  obtain ⟨inside, here⟩ := List.getElem?_eq_some_iff.mp there
  have held : (threads.map Thread.freed)[id]? = some moved.freed := by
    rw [List.getElem?_map, there, same]
    rfl
  obtain ⟨within, here⟩ := List.getElem?_eq_some_iff.mp held
  rw [List.map_set, ← here, List.set_getElem_self within]

/-- Only event handlers create and free tasks. -/
theorem nrAllTasks_run (runs : label.dispatched = false)
    (taken : Daemon.step host state label = some next) : next.nrAllTasks = state.nrAllTasks := by
  have same : next.threads.map Thread.freed = state.threads.map Thread.freed → _ :=
    congrArg (List.count false)
  obtain ⟨_, taken⟩ := Option.ite_none_left_eq_some.mp taken
  cases label with
  | resume =>
      obtain ⟨_, _, _, _, _, rfl⟩ := resume_eq_some taken
      rfl
  | perform event =>
      obtain ⟨_, thread, _, _, there, _, _, _, rfl⟩ := perform_eq_some taken
      exact same (map_freed_set there (thread.observe_life event.effect event.answer).2)
  | block =>
      obtain ⟨_, thread, _, effect, _, there, _, _, _, _, rfl⟩ := block_eq_some taken
      exact same (map_freed_set there (thread.block_life effect).2)
  | cleanup deleted =>
      obtain ⟨_, thread, _, first, _, _, there, _, _, _, _, rfl⟩ := cleanup_eq_some taken
      exact same (map_freed_set there (thread.clean_life first).2.1)
  | finish =>
      obtain ⟨_, thread, _, _, there, _, _, _, rfl⟩ := finish_eq_some taken
      exact same (map_freed_set there rfl)
  | _ => cases runs

/-- An event handler runs no task. -/
theorem current_dispatched (dispatched : label.dispatched = true)
    (taken : Daemon.step host state label = some next) : next.current = state.current := by
  obtain ⟨_, taken⟩ := Option.ite_none_left_eq_some.mp taken
  cases label with
  | accept pid =>
      obtain ⟨_, taken⟩ := Option.ite_none_right_eq_some.mp taken
      exact (accept_appends taken).2.2.2
  | exitSignal =>
      obtain ⟨_, ⟨⟩⟩ := Option.ite_none_right_eq_some.mp taken
      exact (handled_exitReqHandler state).sameWork.current
  | reply _ =>
      exact (handled_dispatch (Option.ite_none_right_eq_some.mp taken).2).sameWork.current
  | hangUp _ =>
      exact (handled_dispatch (Option.ite_none_right_eq_some.mp taken).2).sameWork.current
  | processExit _ =>
      exact (handled_dispatch (Option.ite_none_right_eq_some.mp taken).2).sameWork.current
  | endHandler _ =>
      exact (handled_dispatch (Option.ite_none_right_eq_some.mp taken).2).sameWork.current
  | _ => cases dispatched

end State

namespace Loop

variable {host : Host} {loop next : Loop}

/-- What holds between any two steps of the loop. -/
structure Settled (loop : Loop) : Prop where
  orderly : loop.daemon.Orderly
  exits : ∀ count ∈ loop.exits, count = 0
  between : loop.phase = .dispatched → loop.daemon.current = none
  stopped : loop.eventLoop ≠ .running →
    loop.daemon.isTaskEmpty = true ∧ loop.daemon.current = none
  timer : loop.phase = .tasks → loop.rounds ≠ 0 → loop.exitReq = .noExit →
    (loop.sleepTimer = .oneshot ↔ loop.daemon.isTaskEmpty = true)
  finished : loop.phase = .left → loop.eventLoop = .finished

theorem start_settled : start.Settled where
  orderly := start_orderly
  exits := nofun
  between := nofun
  stopped running := absurd rfl running
  timer _ begun := absurd rfl begun
  finished := nofun

theorem current_of_idle (idle : loop.idle = true) :
    loop.phase = .tasks ∧ loop.daemon.current = none := by
  obtain ⟨phase, idle⟩ := Bool.and_eq_true_iff.mp idle
  obtain ⟨free, _⟩ := Bool.and_eq_true_iff.mp idle
  exact ⟨of_decide_eq_true phase, Option.isNone_iff_eq_none.mp free⟩

theorem running_of_mayDispatch (may : loop.mayDispatch = true) :
    loop.daemon.current = none ∧ loop.eventLoop = .running := by
  obtain ⟨idle, running⟩ := Bool.and_eq_true_iff.mp may
  exact ⟨(current_of_idle idle).2, of_decide_eq_true running⟩

/-- `sd_event_exit` without a task. -/
theorem exits_sdEventExit (settled : loop.Settled) (empty : loop.daemon.isTaskEmpty = true)
    (succeeds : Bool) : ∀ count ∈ (loop.sdEventExit succeeds).exits, count = 0 := by
  intro count called
  rcases List.mem_cons.mp called with rfl | before
  · exact eq_of_beq empty
  · exact settled.exits count before

theorem Settled.run {label : Label} (settled : loop.Settled) (runs : label.dispatched = false)
    {daemon : State} (taken : Daemon.step host loop.daemon label = some daemon)
    (phase : loop.phase = .tasks) : Settled { loop with daemon := daemon } where
  orderly := settled.orderly.step taken
  exits := settled.exits
  between dispatched := by
    rw [show loop.phase = .dispatched from dispatched] at phase
    cases phase
  stopped stops := by
    obtain ⟨empty, free⟩ := settled.stopped stops
    exact (State.no_run_of_isTaskEmpty settled.orderly empty free runs taken).elim
  timer := by
    rw [State.isTaskEmpty, State.nrAllTasks_run runs taken]
    exact settled.timer
  finished := settled.finished

/-- The next iteration begins with the right timer. -/
theorem Settled.nextRound (settled : loop.Settled) {timer : Enabled}
    (right : timer = .oneshot ↔ loop.daemon.isTaskEmpty = true) :
    Settled { loop with sleepTimer := timer, phase := .tasks, rounds := loop.rounds + 1 } :=
  ⟨settled.orderly, settled.exits, nofun, settled.stopped, fun _ _ _ => right, nofun⟩

theorem Settled.branch (settled : loop.Settled) (phase : loop.phase = .dispatched) :
    Settled { loop.branch with phase := .tasks, rounds := loop.rounds + 1 } := by
  unfold Loop.branch
  split
  · rename_i sent
    refine ⟨settled.orderly, exits_sdEventExit settled sent.2 true, nofun, fun _ => ?_, nofun, nofun⟩
    exact ⟨sent.2, settled.between phase⟩
  · split
    · rename_i empty
      split
      · exact settled.nextRound ⟨fun _ => empty, fun _ => rfl⟩
      · rename_i on
        refine settled.nextRound ⟨fun _ => empty, fun _ => ?_⟩
        cases timer : loop.sleepTimer with
        | off => exact absurd timer on
        | oneshot => rfl
    · rename_i busy
      split
      · exact settled.nextRound ⟨nofun, fun empty => absurd empty busy⟩
      · rename_i off
        refine settled.nextRound ⟨fun on => ?_, fun empty => absurd empty busy⟩
        rw [Decidable.not_not.mp off] at on
        cases on

theorem Settled.check (settled : loop.Settled) (phase : loop.phase = .dispatched)
    (succeeds : Bool) : (loop.check succeeds).Settled := by
  cases succeeds with
  | true => exact settled.branch phase
  | false =>
      change Settled { loop.brokenBranch with phase := .failed }
      unfold Loop.brokenBranch
      split
      · rename_i sent
        refine ⟨settled.orderly, exits_sdEventExit settled sent.2 false, nofun, settled.stopped,
          nofun, nofun⟩
      · exact ⟨settled.orderly, settled.exits, nofun, settled.stopped, nofun, nofun⟩

theorem Settled.sleepTimer (settled : loop.Settled) (may : loop.mayDispatch = true)
    (exited : Bool) :
    Settled { { loop with sleepTimer := .off }.sleepTimerHandler exited with
      phase := .dispatched } := by
  obtain ⟨free, running⟩ := running_of_mayDispatch may
  unfold sleepTimerHandler
  split
  · rename_i empty
    refine ⟨settled.orderly, exits_sdEventExit settled empty exited, fun _ => free, fun _ => ?_,
      nofun, nofun⟩
    exact ⟨empty, free⟩
  · exact ⟨settled.orderly, settled.exits, fun _ => free, settled.stopped, nofun, nofun⟩

theorem Settled.step {label : LoopLabel} (settled : loop.Settled)
    (taken : Loop.step host loop label = some next) : next.Settled := by
  cases label with
  | run label =>
      obtain ⟨⟨phase, runs⟩, taken⟩ := Option.ite_none_right_eq_some.mp taken
      obtain ⟨daemon, moved, rfl⟩ := Option.map_eq_some_iff.mp taken
      exact settled.run runs moved phase
  | dispatch label =>
      obtain ⟨⟨may, dispatched⟩, taken⟩ := Option.ite_none_right_eq_some.mp taken
      obtain ⟨daemon, moved, rfl⟩ := Option.map_eq_some_iff.mp taken
      obtain ⟨free, running⟩ := running_of_mayDispatch may
      refine ⟨settled.orderly.step moved, settled.exits, fun _ => ?_, fun stops => ?_, nofun, nofun⟩
      · exact (State.current_dispatched dispatched moved).trans free
      · exact absurd running stops
  | sleepTimer exited =>
      obtain ⟨⟨may, _⟩, ⟨⟩⟩ := Option.ite_none_right_eq_some.mp taken
      exact settled.sleepTimer may exited
  | other =>
      obtain ⟨may, ⟨⟩⟩ := Option.ite_none_right_eq_some.mp taken
      obtain ⟨free, _⟩ := running_of_mayDispatch may
      exact ⟨settled.orderly, settled.exits, fun _ => free, settled.stopped, nofun, nofun⟩
  | exitSource left =>
      obtain ⟨⟨idle, exiting⟩, ⟨⟩⟩ := Option.ite_none_right_eq_some.mp taken
      have stops : loop.eventLoop ≠ .running := by
        rw [exiting]
        nofun
      refine ⟨settled.orderly, settled.exits, fun _ => (current_of_idle idle).2, fun _ => ?_, nofun,
        nofun⟩
      exact settled.stopped stops
  | fail =>
      obtain ⟨_, ⟨⟩⟩ := Option.ite_none_right_eq_some.mp taken
      exact ⟨settled.orderly, settled.exits, nofun, settled.stopped, nofun, nofun⟩
  | stale =>
      obtain ⟨⟨_, finished⟩, ⟨⟩⟩ := Option.ite_none_right_eq_some.mp taken
      exact ⟨settled.orderly, settled.exits, nofun, settled.stopped, nofun, fun _ => finished⟩
  | check succeeds =>
      obtain ⟨phase, ⟨⟩⟩ := Option.ite_none_right_eq_some.mp taken
      exact settled.check phase succeeds

theorem settled_of_exec {labels : List LoopLabel}
    (ran : Run.exec (Loop.step host) start labels = some loop) : loop.Settled :=
  Run.exec_invariant Settled (fun _ _ _ settled taken => settled.step taken) start_settled ran

end Loop

/-- The daemon exits without a task only: `sd_event_exit` is called with an empty
`all_tasks`, between two events the sleep timer is on exactly if `all_tasks` is empty
as long as no exit is requested, and no task is left behind the loop. -/
theorem exits_without_tasks (host : Host) (labels : List LoopLabel) (loop : Loop)
    (ran : Run.exec (Loop.step host) Loop.start labels = some loop) :
    (∀ count ∈ loop.exits, count = 0) ∧
    (loop.phase = .tasks → loop.rounds ≠ 0 → loop.exitReq = .noExit →
      (loop.sleepTimer = .oneshot ↔ loop.daemon.isTaskEmpty = true)) ∧
    (loop.phase = .left → loop.daemon.isTaskEmpty = true) := by
  have settled := Loop.settled_of_exec ran
  refine ⟨settled.exits, settled.timer, fun left => (settled.stopped ?_).1⟩
  rw [settled.finished left]
  nofun

/-- One connection whose stream cannot be set up, and 20 seconds without another. -/
def shortLife : List LoopLabel :=
  [.dispatch (.accept 7), .check true, .run .resume, .run (.perform ⟨.initMsgStream, (-1 : Int)⟩),
    .run (.perform ⟨.closeFd, ()⟩), .run .finish, .dispatch (.endHandler 0), .check true,
    .sleepTimer true, .check true, .exitSource false, .check true, .stale]

theorem exits_without_tasks_once :
    ∃ loop ∈ Run.exec (Loop.step scopeHost) Loop.start shortLife,
      loop.exits = [0] ∧ loop.daemon.isTaskEmpty = true := by
  have ends : ∃ loop ∈ Run.exec (Loop.step scopeHost) Loop.start shortLife,
      loop.exits = [0] ∧ loop.phase = .left := by decide +kernel
  obtain ⟨loop, ran, called, behind⟩ := ends
  exact ⟨loop, ran, called, (exits_without_tasks scopeHost shortLife loop ran).2.2 behind⟩

namespace State

variable {state : State}

/-- Without a task there is nothing to interrupt. -/
theorem interruptAllTasks_of_isTaskEmpty (empty : state.isTaskEmpty = true) :
    state.interruptAllTasks = state := by
  refine List.foldl_fixed' (fun id => if_neg fun live => ?_) _
  obtain ⟨thread, there, live⟩ := (Option.any_eq_true _ _).mp live
  rw [freed_of_isTaskEmpty empty there] at live
  cases live

theorem exitReqHandler_of_isTaskEmpty (empty : state.isTaskEmpty = true) :
    state.exitReqHandler.isTaskEmpty = true := by
  unfold exitReqHandler
  split
  · exact empty
  · have same : { state with exitRequested := true }.isTaskEmpty = true := empty
    rw [interruptAllTasks_of_isTaskEmpty same]
    exact empty

end State

namespace Loop

variable {host : Host} {loop next : Loop}

/-- The loop is about to end, and no connection is accepted any more. -/
structure Closing (count : Nat) (loop : Loop) : Prop where
  settled : loop.Settled
  threads : loop.daemon.threads.length = count
  ending : loop.eventLoop ≠ .running ∨ loop.phase = .failed ∨
    loop.phase = .dispatched ∧ loop.exitReq = .exitReqSent ∧ loop.daemon.isTaskEmpty = true

theorem check_daemon (loop : Loop) (succeeds : Bool) :
    (loop.check succeeds).daemon = loop.daemon := by
  unfold check branch brokenBranch
  split_ifs <;> rfl

/-- sd-event does not go back. -/
theorem branch_eventLoop (stops : loop.eventLoop ≠ .running) : loop.branch.eventLoop ≠ .running := by
  unfold branch
  split_ifs
  · nofun
  all_goals exact stops

theorem branch_exits (sent : loop.exitReq = .exitReqSent)
    (empty : loop.daemon.isTaskEmpty = true) : loop.branch.eventLoop ≠ .running := by
  rw [branch, if_pos ⟨sent, empty⟩]
  nofun

theorem Closing.check {count : Nat} (closing : Closing count loop)
    (phase : loop.phase = .dispatched) (succeeds : Bool) :
    Closing count (loop.check succeeds) := by
  refine ⟨closing.settled.check phase succeeds, ?_, ?_⟩
  · rw [check_daemon]
    exact closing.threads
  · cases succeeds with
    | false => exact Or.inr (Or.inl rfl)
    | true =>
        refine Or.inl ?_
        rcases closing.ending with stops | failed | ⟨_, sent, empty⟩
        · exact branch_eventLoop stops
        · rw [failed] at phase
          cases phase
        · exact branch_exits sent empty

theorem Closing.step {count : Nat} {label : LoopLabel} (closing : Closing count loop)
    (taken : Loop.step host loop label = some next) : Closing count next := by
  have settled := closing.settled.step taken
  -- Only sd-event in its exit can still be in the middle of an iteration.
  have stops : loop.phase = .tasks → loop.eventLoop ≠ .running := by
    intro phase
    rcases closing.ending with stops | failed | ⟨dispatched, _⟩
    · exact stops
    · rw [failed] at phase
      cases phase
    · rw [dispatched] at phase
      cases phase
  cases label with
  | run label =>
      obtain ⟨⟨phase, runs⟩, taken⟩ := Option.ite_none_right_eq_some.mp taken
      obtain ⟨daemon, moved, rfl⟩ := Option.map_eq_some_iff.mp taken
      obtain ⟨empty, free⟩ := closing.settled.stopped (stops phase)
      exact (State.no_run_of_isTaskEmpty closing.settled.orderly empty free runs moved).elim
  | dispatch label =>
      obtain ⟨⟨may, _⟩, _⟩ := Option.ite_none_right_eq_some.mp taken
      obtain ⟨idle, running⟩ := Bool.and_eq_true_iff.mp may
      exact absurd (of_decide_eq_true running) (stops (current_of_idle idle).1)
  | sleepTimer exited =>
      obtain ⟨⟨may, _⟩, _⟩ := Option.ite_none_right_eq_some.mp taken
      obtain ⟨idle, running⟩ := Bool.and_eq_true_iff.mp may
      exact absurd (of_decide_eq_true running) (stops (current_of_idle idle).1)
  | other =>
      obtain ⟨may, _⟩ := Option.ite_none_right_eq_some.mp taken
      obtain ⟨idle, running⟩ := Bool.and_eq_true_iff.mp may
      exact absurd (of_decide_eq_true running) (stops (current_of_idle idle).1)
  | exitSource left =>
      obtain ⟨_, ⟨⟩⟩ := Option.ite_none_right_eq_some.mp taken
      refine ⟨settled, closing.threads, Or.inl ?_⟩
      cases left <;> nofun
  | fail =>
      obtain ⟨_, ⟨⟩⟩ := Option.ite_none_right_eq_some.mp taken
      exact ⟨settled, closing.threads, Or.inr (Or.inl rfl)⟩
  | stale =>
      obtain ⟨⟨idle, _⟩, ⟨⟩⟩ := Option.ite_none_right_eq_some.mp taken
      exact ⟨settled, closing.threads, Or.inl (stops (current_of_idle idle).1)⟩
  | check succeeds =>
      obtain ⟨phase, ⟨⟩⟩ := Option.ite_none_right_eq_some.mp taken
      exact closing.check phase succeeds

/-- A loop that is told to exit without a task is about to end. -/
theorem closing_exitSignal (settled : loop.Settled) (first : loop.exitReq = .noExit)
    (empty : loop.daemon.isTaskEmpty = true)
    (taken : Loop.step host loop (.dispatch .exitSignal) = some next) :
    Closing next.daemon.threads.length next := by
  refine ⟨settled.step taken, rfl, Or.inr (Or.inr ?_)⟩
  obtain ⟨_, taken⟩ := Option.ite_none_right_eq_some.mp taken
  obtain ⟨daemon, moved, rfl⟩ := Option.map_eq_some_iff.mp taken
  obtain ⟨_, moved⟩ := Option.ite_none_left_eq_some.mp moved
  obtain ⟨_, ⟨⟩⟩ := Option.ite_none_right_eq_some.mp moved
  refine ⟨rfl, ?_, State.exitReqHandler_of_isTaskEmpty empty⟩
  rw [first]
  rfl

end Loop

/-- If `all_tasks` is empty when the daemon is told to exit, no connection that
comes later is told to proceed. -/
theorem exit_admits_no_work (host : Host) (before after : List LoopLabel) (loop next final : Loop)
    (reached : Run.exec (Loop.step host) Loop.start before = some loop)
    (first : loop.exitReq = .noExit) (empty : loop.daemon.isTaskEmpty = true)
    (signalled : Loop.step host loop (.dispatch .exitSignal) = some next)
    (ran : Run.exec (Loop.step host) next after = some final) :
    ∀ (id : TaskId) (job : Job), next.daemon.threads.length ≤ id →
      final.daemon.roster.jobs[id]? = some job → job.told = false := by
  have closing := Loop.closing_exitSignal (Loop.settled_of_exec reached) first empty signalled
  have holds := Run.exec_invariant (Loop.Closing next.daemon.threads.length)
    (fun _ _ _ closing taken => closing.step taken) closing ran
  intro id job late present
  have inside : id < final.daemon.roster.jobs.length := (List.getElem?_eq_some_iff.mp present).1
  rw [← holds.settled.orderly.aligned, holds.threads] at inside
  exact absurd late (Nat.not_le.mpr inside)

theorem exit_admits_no_work_once :
    ∃ loop ∈ Run.exec (Loop.step scopeHost) Loop.start (shortLife.take 8),
      ∃ next ∈ Loop.step scopeHost loop (.dispatch .exitSignal),
        ∃ final ∈ Run.exec (Loop.step scopeHost) next
            [.check true, .exitSource false, .check true, .stale],
          ∀ (id : TaskId) (job : Job), 1 ≤ id → final.daemon.roster.jobs[id]? = some job →
            job.told = false := by
  have ends : ∃ loop ∈ Run.exec (Loop.step scopeHost) Loop.start (shortLife.take 8),
      loop.exitReq = .noExit ∧ loop.daemon.isTaskEmpty = true ∧
      ∃ next ∈ Loop.step scopeHost loop (.dispatch .exitSignal), next.daemon.threads.length = 1 ∧
        ∃ final ∈ Run.exec (Loop.step scopeHost) next
            [.check true, .exitSource false, .check true, .stale],
          final.phase = .left := by decide +kernel
  obtain ⟨loop, reached, first, empty, next, signalled, single, final, ran, _⟩ := ends
  have admits := exit_admits_no_work scopeHost _ _ loop next final reached first empty signalled ran
  rw [single] at admits
  exact ⟨loop, reached, next, signalled, final, ran, admits⟩

/-- The steps of a daemon as the loop takes them. -/
def inLoop (labels : List Label) : List LoopLabel :=
  labels.flatMap fun label =>
    if label.dispatched then [.dispatch label, .check true] else [.run label]

/-- The first task waits for the name of the daemon's unit when the signal comes. It
writes to its client; meanwhile a second connection is accepted and told to
proceed. -/
theorem exit_admits_work :
    ∃ loop ∈ Run.exec (Loop.step scopeHost) Loop.start
        (inLoop ([.accept 7, .resume] ++ script 0 (admittedFirst.take 6) ++ [.block])),
      loop.exitReq = .noExit ∧
      ∃ next ∈ Loop.step scopeHost loop (.dispatch .exitSignal),
        ∃ final ∈ Run.exec (Loop.step scopeHost) next
            ([.check true] ++ inLoop ([.resume, .perform ⟨.busCall (.getUnitByPID 1),
                Awaited.cancelled⟩] ++ script 0 (labelled .sysWillExit) ++ [.block, .accept 7, .resume] ++
              script 1 (limitedClient ++ startLogged ++ [written proceedMsg maxIoUsec]))),
          next.daemon.threads.length ≤ 1 ∧
            ∃ job ∈ final.daemon.roster.jobs[1]?, job.ledger.proceeded = true := by
  decide +kernel

end TrafficLimitd.Daemon
