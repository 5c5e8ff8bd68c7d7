import Mathlib.Data.List.AList
import TrafficLimitd.HandlerDuties

set_option autoImplicit false

/- The daemon without its scheduler: any number of connections, each at some call
of its handler or at some of its cleanups, and the counter and the map that they
share. Any of them may move at any time. -/
namespace TrafficLimitd.Daemon

open Coroutine Handler
open Limiter (CgroupId)

abbrev TaskId := Nat

/-- `MAX_NR_TASKS`. -/
def maxNrTasks : Nat := 1000

/-- The size that `open_and_load_bpf_obj` gives the maps. -/
def mapCapacity (maxTasks : Nat) : Nat := maxTasks + (maxTasks + 7) / 8

/-- The work of a task: what is left of its handler, what the handler has done,
the cleanups still to run and those that ran, both with the latest first. -/
structure Job where
  pid : Pid
  program : Prog Unit
  history : List (Event Effect Response)
  cleanups : List Cleanup
  ran : List Cleanup

def newJob (host : Host) (pid : Pid) : Job :=
  { pid := pid, program := clientHandlerAsync host pid, history := [], cleanups := [], ran := [] }

namespace Job

/-- `se_task_register_memory_to_free`. -/
def registers (job : Job) : Effect → List Cleanup
  | .registerCleanup cleanup => cleanup :: job.cleanups
  | _ => job.cleanups

def perform (job : Job) (event : Event Effect Response) (rest : Prog Unit) : Job :=
  { job with
    program := rest
    history := event :: job.history
    cleanups := job.registers event.effect }

/-- One turn of the loop at the end of `se_task_entry`. -/
def clean (job : Job) (cleanup : Cleanup) (rest : List Cleanup) : Job :=
  { job with cleanups := rest, ran := cleanup :: job.ran }

def ledger (job : Job) : Ledger := Ledger.of job.history

end Job

/-- `rate_limit_map`. -/
abbrev LimitMap := AList fun _ : CgroupId => RateLimit

structure Roster where
  jobs : List Job
  nrTasks : Nat
  limits : LimitMap
  aborted : Bool

inductive Move
  | stay
  | create (pid : Pid)
  | perform (id : TaskId) (event : Event Effect Response)
  | cleanup (id : TaskId) (deleted : Bool)

namespace Roster

def empty : Roster := { jobs := [], nrTasks := 0, limits := ∅, aborted := false }

/-- The answers that the counter and the map determine. A lookup may fail, and so
may an update. -/
def answers (roster : Roster) : (effect : Effect) → Response effect → Bool
  | .increaseNrTasks, (taken : Bool) => taken == decide (roster.nrTasks < maxNrTasks)
  | .rateLimitCheck cgroup, (rc : Int) =>
      decide (rc < 0) || decide (rc = if cgroup ∈ roster.limits then 1 else 0)
  | _, _ => true

def observe (roster : Roster) : (effect : Effect) → Response effect → Roster
  | .increaseNrTasks, (taken : Bool) =>
      if taken then { roster with nrTasks := roster.nrTasks + 1 } else roster
  | .rateLimitSet cgroup limit, (rc : Int) =>
      if rc < 0 then roster else { roster with limits := roster.limits.insert cgroup limit }
  | _, _ => roster

/-- The functions that cleanups call; `deleted` is the success of
`cgroup_rate_limit_unset`. -/
def clean (roster : Roster) (deleted : Bool) : Cleanup → Roster
  | .decreaseNrTasks =>
      if 0 < roster.nrTasks then { roster with nrTasks := roster.nrTasks - 1 }
      else { roster with aborted := true }
  | .clearRateLimit cgroup =>
      if deleted then { roster with limits := roster.limits.erase cgroup } else roster
  | _ => roster

def setJob (roster : Roster) (id : TaskId) (job : Job) : Roster :=
  { roster with jobs := roster.jobs.set id job }

def create (roster : Roster) (host : Host) (pid : Pid) : Roster :=
  { roster with jobs := roster.jobs ++ [newJob host pid] }

def perform (roster : Roster) (id : TaskId) (event : Event Effect Response) : Option Roster := do
  let job ← roster.jobs[id]?
  let rest ← job.program.advance event
  if roster.answers event.effect event.answer then
    return (roster.observe event.effect event.answer).setJob id (job.perform event rest)
  else none

def cleanup (roster : Roster) (id : TaskId) (deleted : Bool) : Option Roster := do
  let job ← roster.jobs[id]?
  match job.program, job.cleanups with
  | .pure _, cleanup :: rest => return (roster.clean deleted cleanup).setJob id (job.clean cleanup rest)
  | _, _ => none

def step (host : Host) (roster : Roster) : Move → Option Roster
  | .stay => some roster
  | .create pid => some (roster.create host pid)
  | .perform id event => roster.perform id event
  | .cleanup id deleted => roster.cleanup id deleted

theorem observe_jobs (roster : Roster) (effect : Effect) (answer : Response effect) :
    (roster.observe effect answer).jobs = roster.jobs := by
  unfold observe
  split
  · split <;> rfl
  · split <;> rfl
  · rfl

theorem observe_aborted (roster : Roster) (effect : Effect) (answer : Response effect) :
    (roster.observe effect answer).aborted = roster.aborted := by
  unfold observe
  split
  · split <;> rfl
  · split <;> rfl
  · rfl

theorem clean_jobs (roster : Roster) (deleted : Bool) (cleanup : Cleanup) :
    (roster.clean deleted cleanup).jobs = roster.jobs := by
  unfold clean
  split
  · split <;> rfl
  · split <;> rfl
  · rfl

theorem perform_eq_some {roster next : Roster} {id : TaskId} {event : Event Effect Response} :
    roster.perform id event = some next ↔
      ∃ job rest, roster.jobs[id]? = some job ∧ job.program.advance event = some rest ∧
        roster.answers event.effect event.answer = true ∧
        (roster.observe event.effect event.answer).setJob id (job.perform event rest) = next := by
  simp only [perform, Option.bind_eq_bind, Option.bind_eq_some_iff, Option.ite_none_right_eq_some,
    pure, Option.some.injEq]
  tauto

theorem cleanup_eq_some {roster next : Roster} {id : TaskId} {deleted : Bool} :
    roster.cleanup id deleted = some next ↔
      ∃ job cleanup rest, roster.jobs[id]? = some job ∧ job.program = .pure () ∧
        job.cleanups = cleanup :: rest ∧
        (roster.clean deleted cleanup).setJob id (job.clean cleanup rest) = next := by
  simp only [Roster.cleanup, Option.bind_eq_bind, Option.bind_eq_some_iff]
  constructor
  · rintro ⟨job, present, taken⟩
    split at taken
    · rename_i cleanup rest ended pending
      exact ⟨job, cleanup, rest, present, ended, pending, Option.some.inj taken⟩
    · cases taken
  · rintro ⟨job, cleanup, rest, present, ended, pending, rfl⟩
    refine ⟨job, present, ?_⟩
    rw [ended, pending]
    rfl

end Roster

end TrafficLimitd.Daemon
