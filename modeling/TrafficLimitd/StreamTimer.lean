import TrafficLimitd.StreamTerminal

set_option autoImplicit false

/- The timer of a stream over its whole life. `msg_stream_do_io` arms it, and the
return of the call, the handler, the timer itself and the shutdown cancel it. -/
namespace TrafficLimitd.Stream

/-- A session together with the `usec` of its last call. -/
structure Timed where
  session : Session
  usec : Nat
deriving DecidableEq, Repr

namespace Timed

def start : Timed := ⟨.start, 0⟩

def usecAfter (usec : Nat) : Label → Nat
  | .io _ _ given _ => given
  | .shutdown _ _ _ => 0
  | _ => usec

def step (timed : Timed) (label : Label) : Option Timed :=
  (timed.session.step label).map fun session => ⟨session, usecAfter timed.usec label⟩

end Timed

/-- `destroy_msg_stream`: the timers that are left when the stream is freed. -/
def destroyMsgStream (stream : MsgStream) : List TimerId :=
  { stream with source := false }.cancelTimer.timers

/-- The readiness that the handler sees is the one that the call waits for, and the
system call does not ask for another try; or the handler sees neither kind. -/
def Serves (stream : MsgStream) (revents : Revents) (io : SysResult) : Prop :=
  revents.onlyHangup ∨
    (stream.state = if revents.epollin then .read else .write) ∧
      (stream.len = 0 ∨ io ≠ .failed Errno.eagain)

/-- A handler that runs while a call waits serves it, and
`sd_event_source_set_io_events` does not fail once a call has armed its timer. -/
def Steady (timed : Timed) : Label → Prop
  | .event (.handler revents answers) _ =>
      timed.session.blocked.isSome → Serves timed.session.stream revents answers.io
  | .io _ _ usec answers => usec ≠ 0 → 0 ≤ answers.addTime → 0 ≤ answers.setEvents
  | _ => True

instance (stream : MsgStream) (revents : Revents) (io : SysResult) :
    Decidable (Serves stream revents io) :=
  inferInstanceAs (Decidable (_ ∨ _ ∧ (_ ∨ _)))

instance (timed : Timed) : DecidablePred (Steady timed)
  | .event (.handler _ _) _ => inferInstanceAs (Decidable (_ → Serves _ _ _))
  | .io _ _ usec answers =>
      inferInstanceAs (Decidable (usec ≠ 0 → 0 ≤ answers.addTime → 0 ≤ answers.setEvents))
  | .regInterrupt _ | .setInterruptDisabled _ | .shutdown _ _ _ | .event (.timer _ _) _
  | .event .interrupt _ => isTrue trivial

theorem Steady.keepsTimer {timed : Timed} {label : Label} (steady : Steady timed label) :
    KeepsTimer label := by
  cases label with
  | io direction buf usec answers => exact steady
  | _ => exact trivial

section Handler

variable {stream : MsgStream} {revents : Revents} {answers : HandlerAnswers}

/-- A transfer ends the wait unless it has to be tried again. -/
theorem transfer_eventSet {direction : Direction}
    (moves : stream.len = 0 ∨ answers.io ≠ .failed Errno.eagain) :
    (transfer direction stream answers).eventSet = true := by
  unfold transfer
  split
  · rfl
  · rename_i moving
    split
    · rfl
    · rename_i errno failed
      have other : errno ≠ Errno.eagain := by
        intro again
        apply moves.resolve_left moving
        rw [failed, again]
      rw [if_neg other]
      rfl

/-- A handler that serves the waiting call wakes it up. -/
theorem Serves.eventSet (serves : Serves stream revents answers.io) :
    (msgStreamHandler stream revents answers).eventSet = true := by
  rcases serves with only | ⟨state, moves⟩
  · rw [msgStreamHandler_hangUp stream answers only]
  · have moves : stream.cancelTimer.len = 0 ∨ answers.io ≠ .failed Errno.eagain := by
      rwa [cancelTimer_len]
    unfold msgStreamHandler
    dsimp only
    by_cases readable : revents.epollin = true
    · rw [if_pos readable] at state ⊢
      rw [if_pos ((cancelTimer_state stream).trans state)]
      exact transfer_eventSet moves
    · rw [if_neg readable] at state ⊢
      by_cases writable : revents.epollout = true
      · rw [if_pos writable, if_pos ((cancelTimer_state stream).trans state)]
        exact transfer_eventSet moves
      · rw [if_neg writable]

theorem Handled.dispatched_awake {handled : Handled} (set : handled.eventSet = true)
    (disabled : Bool) : (handled.dispatched disabled).wake ≠ .asleep := by
  unfold Handled.dispatched
  dsimp only
  rw [set]
  split <;> nofun

end Handler

/-- A dispatch that leaves the waiting call asleep leaves its timer alone. -/
theorem dispatch_asleep {timed : Timed} {event : Event} {setEvents : Int}
    {dispatched : Dispatched} (steady : Steady timed (.event event setEvents))
    (waiting : timed.session.blocked.isSome = true)
    (taken : dispatch timed.session.disabled timed.session.stream event = some dispatched)
    (asleep : dispatched.wake = .asleep) : dispatched.stream = timed.session.stream := by
  cases event with
  | handler revents answers =>
      simp only [dispatch, Option.ite_none_right_eq_some, Option.some.injEq] at taken
      obtain ⟨-, rfl⟩ := taken
      have served : Serves timed.session.stream revents answers.io := steady waiting
      exact absurd asleep (Handled.dispatched_awake served.eventSet _)
  | timer id setEvents =>
      simp only [dispatch, Option.ite_none_right_eq_some, Option.some.injEq] at taken
      obtain ⟨-, rfl⟩ := taken
      exact absurd asleep (Handled.dispatched_awake rfl _)
  | interrupt =>
      simp only [dispatch, Option.some.injEq] at taken
      rw [← taken]

/-- A call waits with a timer exactly if it has a time limit. -/
theorem begin_waiting {stream begun : MsgStream} {direction : Direction} {buf : List UInt8}
    {usec : Nat} {fresh : TimerId} {answers : BeginAnswers} (none : stream.NoTimer)
    (run : msgStreamDoIoBegin stream direction buf usec fresh answers = (begun, .waiting)) :
    begun.timer.isSome = true ↔ usec ≠ 0 := by
  unfold msgStreamDoIoBegin at run
  split at run
  · cases run
  split at run
  · cases run
  dsimp only at run
  split at run
  · cases run
  split at run
  · cases run
  · cases run
    unfold MsgStream.armTimer
    by_cases timed : usec ≠ 0
    · simp [timed]
    · simp [timed, none.1]

/-- The timers are owned, and a waiting call has one exactly if it has a time
limit. -/
structure Timely (timed : Timed) : Prop extends TimerOwned timed.session where
  waiting : timed.session.blocked.isSome = true →
    (timed.session.stream.timer.isSome = true ↔ timed.usec ≠ 0)

theorem begin_timely {session : Session} {call : Call} {direction : Direction} {buf : List UInt8}
    {usec : Nat} {answers : BeginAnswers} (idle : session.blocked = none)
    (none : session.stream.NoTimer) :
    let next := session.begin call direction buf usec answers
    next.blocked.isSome = true → (next.stream.timer.isSome = true ↔ usec ≠ 0) := by
  intro next waiting
  unfold next Session.begin at waiting ⊢
  split at waiting
  · simp [idle] at waiting
  · rename_i stream run
    exact begin_waiting none run

/-- One step keeps the timer timely. -/
theorem step_timely (timed : Timed) (label : Label) (next : Timed) (timely : Timely timed)
    (steady : Steady timed label) (taken : timed.step label = some next) : Timely next := by
  obtain ⟨session, moved, rfl⟩ := Option.map_eq_some_iff.mp taken
  have owned := step_timerOwned timed.session label session timely.toTimerOwned steady.keepsTimer moved
  refine ⟨owned, ?_⟩
  cases label with
  | regInterrupt reason =>
      simp only [Session.step, Option.ite_none_right_eq_some, Option.some.injEq] at moved
      obtain ⟨-, rfl⟩ := moved
      exact timely.waiting
  | setInterruptDisabled disabled =>
      simp only [Session.step, Option.ite_none_right_eq_some, Option.some.injEq] at moved
      obtain ⟨-, rfl⟩ := moved
      exact timely.waiting
  | io direction buf usec answers =>
      simp only [Session.step, Option.ite_none_right_eq_some, Option.some.injEq] at moved
      obtain ⟨⟨idle, -⟩, rfl⟩ := moved
      exact begin_timely idle (timely.idle idle)
  | shutdown drained answers tail =>
      simp only [Session.step, Option.ite_none_right_eq_some, Option.map_eq_some_iff] at moved
      obtain ⟨⟨idle, -⟩, rc, -, rfl⟩ := moved
      split
      · exact begin_timely idle (timely.idle idle)
      · intro waiting
        simp [idle] at waiting
  | event event setEvents =>
      simp only [Session.step, Option.map_eq_some_iff] at moved
      obtain ⟨dispatched, delivered, rfl⟩ := moved
      unfold Session.wake
      split
      · rename_i idle
        intro waiting
        simp [show timed.session.blocked = none from idle] at waiting
      · rename_i call blocked
        have waits : timed.session.blocked.isSome = true := by
          simp [show timed.session.blocked = some call from blocked]
        split
        · rename_i asleep
          intro _
          rw [dispatch_asleep steady waits delivered asleep]
          exact timely.waiting waits
        · intro waiting
          cases waiting

/-- In every state of a run in which the handler serves the waiting calls and the
event mask can be set, the armed timers are the one in `stream->timer`, there is one
exactly if a call with a time limit waits, and none outlives the stream. -/
theorem timer_tracks_io (labels : List Label) (timed : Timed)
    (steady : Run.Meets Timed.step Steady .start labels)
    (ran : Run.exec Timed.step .start labels = some timed) :
    timed.session.stream.timers = timed.session.stream.timer.toList ∧
    (timed.session.stream.timers ≠ [] ↔ timed.session.blocked.isSome = true ∧ timed.usec ≠ 0) ∧
    destroyMsgStream timed.session.stream = [] := by
  have started : Timely .start := ⟨start_timerOwned, nofun⟩
  have timely : Timely timed := steady.invariant Timely step_timely started ran
  have known : timed.session.stream.timers = timed.session.stream.timer.toList := timely.known
  refine ⟨known, ?_, ?_⟩
  · rw [known]
    constructor
    · intro armed
      have present : timed.session.stream.timer.isSome = true := by
        cases timer : timed.session.stream.timer with
        | none => simp [timer] at armed
        | some id => rfl
      have waits : timed.session.blocked.isSome = true := by
        by_contra idle
        have none := (timely.idle (by simpa using idle)).1
        simp [none] at present
      exact ⟨waits, (timely.waiting waits).mp present⟩
    · rintro ⟨waits, limited⟩ bare
      have present := (timely.waiting waits).mpr limited
      cases timer : timed.session.stream.timer with
      | none => simp [timer] at present
      | some id => simp [timer] at bare
  · have known : { timed.session.stream with source := false }.TimerKnown := known
    exact (cancelTimer_noTimer known).2

/-- A read waits with its timer, the peer's message comes, and the call returns. -/
theorem timer_tracks_io_once :
    let timed : Timed := ⟨⟨{ initMsgStream with buf := [7], len := 1 }, false, none, 1⟩, 300000⟩
    timed.session.stream.timers ≠ [] ↔ timed.session.blocked.isSome = true ∧ timed.usec ≠ 0 :=
  (timer_tracks_io [.io .read [0] 300000 ⟨0, 0⟩,
    .event (.handler ⟨true, false, false⟩ ⟨.done [7], 0, 0⟩) 0] _ (by decide) (by decide)).2.1

/-- A read with a time limit waits without its timer once the handler was told to
try again; and a call that fails after it has armed its timer leaves it behind, so
that the next call arms a second one. -/
theorem timer_loses_io :
    (∃ timed ∈ Run.exec Timed.step .start [.io .read [0] 300000 ⟨0, 0⟩,
        .event (.handler ⟨true, false, false⟩ ⟨.failed Errno.eagain, 0, 0⟩) 0],
      timed.session.blocked.isSome = true ∧ timed.usec ≠ 0 ∧
        timed.session.stream.timers = []) ∧
    ∃ timed ∈ Run.exec Timed.step .start [.io .write [0] 300000 ⟨0, -22⟩,
        .io .write [0] 300000 ⟨0, 0⟩],
      timed.session.stream.timers.length = 2 ∧
        destroyMsgStream timed.session.stream ≠ [] := by
  decide

end TrafficLimitd.Stream
