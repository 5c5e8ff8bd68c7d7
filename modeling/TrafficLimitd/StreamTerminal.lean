import TrafficLimitd.StreamProgram

set_option autoImplicit false

/- A stream over its whole life: any sequence of reads, writes, shutdowns and
interrupt registrations of the owning task, interleaved with any dispatches of
the event loop. A task that a dispatch wakes up runs before the next dispatch,
so the return of its call belongs to the same step. -/
namespace TrafficLimitd.Stream

/-- The call that the owning task waits in. The answers that a shutdown gets
after its write are fixed when it starts. -/
inductive Call
  | io
  | shutdown (tail : TailAnswers)
deriving DecidableEq, Repr

/-- What the owning task does to the stream once `msg_stream_do_io` returned. -/
def Call.goOn (stream : MsgStream) (rc : Int) : Call → MsgStream
  | .io => stream
  | .shutdown tail => if rc < 0 then stream else (shutdownTail stream tail).1

/-- A stream and its owning task. -/
structure Session where
  stream : MsgStream
  disabled : Bool
  blocked : Option Call
  fresh : TimerId
deriving DecidableEq, Repr

def Session.start : Session := ⟨initMsgStream, false, none, 0⟩

inductive Label
  | regInterrupt (reason : Option InterruptReason)
  | setInterruptDisabled (disabled : Bool)
  | io (direction : Direction) (buf : List UInt8) (usec : Nat) (answers : BeginAnswers)
  | shutdown (drained : List Recv) (answers : BeginAnswers) (tail : TailAnswers)
  | event (event : Event) (setEvents : Int)
deriving DecidableEq, Repr

def Session.begin (session : Session) (call : Call) (direction : Direction) (buf : List UInt8)
    (usec : Nat) (answers : BeginAnswers) : Session :=
  match msgStreamDoIoBegin session.stream direction buf usec session.fresh answers with
  | (stream, .returned rc) =>
      { session with stream := call.goOn stream rc, fresh := session.fresh + 1 }
  | (stream, .waiting) =>
      { session with stream := stream, blocked := some call, fresh := session.fresh + 1 }

/-- The waiting call, if there is one, returns unless the dispatch left it
asleep. -/
def Session.wake (session : Session) (wake : Wake) (setEvents : Int) : Session :=
  match session.blocked with
  | none => session
  | some call =>
      if wake = .asleep then session
      else
        let finish := msgStreamDoIoFinish session.stream (wake == .cancelled) setEvents
        { session with stream := call.goOn finish.1 finish.2, blocked := none }

/-- The owning task acts only while it is not waiting, and the calls assert that
the stream has its source. -/
def Session.step (session : Session) : Label → Option Session
  | .regInterrupt reason =>
      if session.blocked = none then
        some { session with stream := regInterrupt session.stream reason }
      else none
  | .setInterruptDisabled disabled =>
      if session.blocked = none then some { session with disabled := disabled } else none
  | .io direction buf usec answers =>
      if session.blocked = none ∧ session.stream.source then
        some (session.begin .io direction buf usec answers)
      else none
  | .shutdown drained answers tail =>
      if session.blocked = none ∧ session.stream.source then
        (drain drained).map fun rc =>
          if rc = 0 then session.begin (.shutdown tail) .write [] 0 answers else session
      else none
  | .event event setEvents =>
      (dispatch session.disabled session.stream event).map fun dispatched =>
        { session with stream := dispatched.stream }.wake dispatched.wake setEvents

/-- No hang-up or error without readiness is dispatched while a call waits and
would be interrupted by it, and `sd_event_source_set_io_events` does not fail
once a call has armed its timer. -/
def Calm (session : Session) : Label → Prop
  | .event (.handler revents _) _ =>
      revents.onlyHangup →
        ¬(session.blocked.isSome ∧ session.stream.interrupt.isSome ∧ session.disabled = false)
  | .io _ _ usec answers => usec ≠ 0 → 0 ≤ answers.addTime → 0 ≤ answers.setEvents
  | _ => True

instance (session : Session) : DecidablePred (Calm session)
  | .event (.handler revents _) _ => inferInstanceAs (Decidable (revents.onlyHangup →
      ¬(session.blocked.isSome ∧ session.stream.interrupt.isSome ∧ session.disabled = false)))
  | .io _ _ usec answers =>
      inferInstanceAs (Decidable (usec ≠ 0 → 0 ≤ answers.addTime → 0 ≤ answers.setEvents))
  | .regInterrupt _ | .setInterruptDisabled _ | .shutdown _ _ _ | .event (.timer _ _) _
  | .event .interrupt _ => isTrue trivial

/-- The armed timers are the one that the stream points to. -/
def MsgStream.TimerKnown (stream : MsgStream) : Prop :=
  stream.timers = stream.timer.toList

def MsgStream.NoTimer (stream : MsgStream) : Prop :=
  stream.timer = none ∧ stream.timers = []

/-- Every armed timer is known, and a stream on which no call waits has none. -/
structure TimerOwned (session : Session) : Prop where
  known : session.stream.TimerKnown
  idle : session.blocked = none → session.stream.NoTimer

/-- The stream has seen a hang-up, or else an error, and is switched off. -/
structure Over (epollhup : Bool) (stream : MsgStream) : Prop where
  state : stream.state = if epollhup then .ended else .err
  error : epollhup = false → stream.error = -Errno.eio
  enabled : stream.enabled = false
  noTimer : stream.NoTimer

/-- What `msg_stream_do_io` returns on a stream that is over. -/
def overRc (epollhup : Bool) (direction : Direction) : Int :=
  if epollhup then (if direction = .read then 0 else -Errno.epipe) else -Errno.eio

section Timers

variable {stream : MsgStream}

theorem MsgStream.NoTimer.known (none : stream.NoTimer) : stream.TimerKnown := by
  rw [MsgStream.TimerKnown, none.1, none.2]
  rfl

theorem cancelTimer_noTimer (known : stream.TimerKnown) : stream.cancelTimer.NoTimer := by
  unfold MsgStream.TimerKnown at known
  unfold MsgStream.cancelTimer MsgStream.NoTimer
  split <;> simp_all

theorem cancelTimer_noTimer_of_nil (none : stream.timers = []) :
    stream.cancelTimer.NoTimer := by
  unfold MsgStream.cancelTimer MsgStream.NoTimer
  split <;> simp_all

theorem transfer_noTimer {direction : Direction} {answers : HandlerAnswers}
    (none : stream.NoTimer) : (transfer direction stream answers).stream.NoTimer := by
  have filled (data : List UInt8) : (stream.fill direction data).NoTimer := by
    cases direction <;> exact none
  have finished {moved : Option (List UInt8)} {rc error : Int} (given : MsgStream)
      (none : given.NoTimer) :
      (finishTransfer given moved rc error answers.setEvents).stream.NoTimer := by
    unfold finishTransfer
    dsimp only
    split <;> exact none
  unfold transfer
  split
  · exact finished stream none
  · split
    · exact finished _ (filled _)
    · split
      · exact none
      · exact finished stream none

/-- `msg_stream_handler` starts by cancelling the timer and arms none. -/
theorem msgStreamHandler_noTimer {revents : Revents} {answers : HandlerAnswers}
    (known : stream.TimerKnown) : (msgStreamHandler stream revents answers).stream.NoTimer := by
  have none := cancelTimer_noTimer known
  unfold msgStreamHandler
  dsimp only
  split
  · split
    · exact transfer_noTimer none
    · exact none
  split
  · split
    · exact transfer_noTimer none
    · exact none
  · simpa [MsgStream.NoTimer] using none

theorem ioTimerHandler_noTimer {id : TimerId} {setEvents : Int} (known : stream.TimerKnown)
    (armed : id ∈ stream.timers) : (ioTimerHandler stream id setEvents).stream.NoTimer := by
  unfold MsgStream.TimerKnown at known
  have owned : stream.timer = some id := by
    cases timer : stream.timer <;> simp_all
  have erased : stream.timers.erase id = [] := by simp [known, owned]
  apply cancelTimer_noTimer_of_nil
  split <;> exact erased

theorem dispatch_timers {disabled : Bool} {event : Event} {dispatched : Dispatched}
    (known : stream.TimerKnown) (taken : dispatch disabled stream event = some dispatched) :
    dispatched.stream.NoTimer ∨ dispatched.stream = stream ∧ dispatched.wake ≠ .set := by
  cases event with
  | handler revents answers =>
      simp only [dispatch, Option.ite_none_right_eq_some, Option.some.injEq] at taken
      obtain ⟨-, rfl⟩ := taken
      exact Or.inl (msgStreamHandler_noTimer known)
  | timer id setEvents =>
      simp only [dispatch, Option.ite_none_right_eq_some, Option.some.injEq] at taken
      obtain ⟨⟨-, armed⟩, rfl⟩ := taken
      exact Or.inl (ioTimerHandler_noTimer known armed)
  | interrupt =>
      simp only [dispatch, Option.some.injEq] at taken
      subst taken
      refine Or.inr ⟨rfl, ?_⟩
      cases disabled <;> simp

theorem shutdownTail_noTimer (tail : TailAnswers) (none : stream.NoTimer) :
    (shutdownTail stream tail).1.NoTimer := by
  have cancelled : ({ stream with enabled := false }.cancelTimer).NoTimer :=
    cancelTimer_noTimer none.known
  unfold shutdownTail
  dsimp only
  repeat' split
  all_goals first | exact none | exact cancelled

theorem goOn_noTimer (call : Call) (rc : Int) (none : stream.NoTimer) :
    (call.goOn stream rc).NoTimer := by
  cases call with
  | io => exact none
  | shutdown tail =>
      unfold Call.goOn
      dsimp only
      split
      · exact none
      · exact shutdownTail_noTimer tail none

theorem finish_noTimer {cancelled : Bool} {setEvents : Int} (known : stream.TimerKnown)
    (ended : cancelled = false → stream.NoTimer) :
    (msgStreamDoIoFinish stream cancelled setEvents).1.NoTimer := by
  cases cancelled with
  | false => exact ended rfl
  | true =>
      have none := cancelTimer_noTimer known
      simp only [msgStreamDoIoFinish, if_true, MsgStream.setIoEvents]
      split <;> exact none

end Timers

/-- A call that returns at once leaves no timer, unless the event mask could not
be set after the timer was armed. -/
theorem begin_timers {stream begun : MsgStream} {direction : Direction} {buf : List UInt8}
    {usec : Nat} {fresh : TimerId} {answers : BeginAnswers} {outcome : Begun}
    (none : stream.NoTimer)
    (calm : usec ≠ 0 → 0 ≤ answers.addTime → 0 ≤ answers.setEvents)
    (run : msgStreamDoIoBegin stream direction buf usec fresh answers = (begun, outcome)) :
    begun.TimerKnown ∧ (outcome ≠ .waiting → begun.NoTimer) := by
  have armed (given : MsgStream) (none : given.NoTimer) :
      (given.armTimer usec fresh).TimerKnown := by
    unfold MsgStream.armTimer
    split
    · simp [MsgStream.TimerKnown, none.2]
    · exact none.known
  unfold msgStreamDoIoBegin at run
  split at run
  · cases run
    exact ⟨none.known, fun _ => none⟩
  split at run
  · cases run
    exact ⟨none.known, fun _ => none⟩
  dsimp only at run
  split at run
  · cases run
    exact ⟨none.known, fun _ => none⟩
  rename_i timerSet
  split at run
  · rename_i failed
    cases run
    have untimed : usec = 0 := by
      by_contra timed
      have added : 0 ≤ answers.addTime := by
        by_contra negative
        exact timerSet ⟨timed, by omega⟩
      have := calm timed added
      omega
    simp only [untimed, MsgStream.armTimer, ne_eq, not_true, if_false]
    exact ⟨none.known, fun _ => none⟩
  · cases run
    exact ⟨armed _ none, fun waits => absurd rfl waits⟩

theorem start_timerOwned : TimerOwned .start :=
  have none : initMsgStream.NoTimer := ⟨rfl, rfl⟩
  ⟨none.known, fun _ => none⟩

/-- `sd_event_source_set_io_events` does not fail once a call has armed its
timer. -/
def KeepsTimer : Label → Prop
  | .io _ _ usec answers => usec ≠ 0 → 0 ≤ answers.addTime → 0 ≤ answers.setEvents
  | _ => True

theorem Calm.keepsTimer {session : Session} {label : Label} (calm : Calm session label) :
    KeepsTimer label := by
  cases label with
  | io direction buf usec answers => exact calm
  | _ => exact trivial

/-- One step keeps the timers owned. -/
theorem step_timerOwned (session : Session) (label : Label) (next : Session)
    (owned : TimerOwned session) (keeps : KeepsTimer label)
    (taken : session.step label = some next) : TimerOwned next := by
  have begun (call : Call) (direction : Direction) (buf : List UInt8) (usec : Nat)
      (answers : BeginAnswers) (none : session.stream.NoTimer)
      (calm : usec ≠ 0 → 0 ≤ answers.addTime → 0 ≤ answers.setEvents) :
      TimerOwned (session.begin call direction buf usec answers) := by
    unfold Session.begin
    split
    · rename_i stream rc run
      have noTimer := (begin_timers none calm run).2 (by simp)
      exact ⟨(goOn_noTimer call rc noTimer).known, fun _ => goOn_noTimer call rc noTimer⟩
    · rename_i stream run
      exact ⟨(begin_timers none calm run).1, fun idle => by cases idle⟩
  cases label with
  | regInterrupt reason =>
      simp only [Session.step, Option.ite_none_right_eq_some, Option.some.injEq] at taken
      obtain ⟨-, rfl⟩ := taken
      exact ⟨owned.known, owned.idle⟩
  | setInterruptDisabled disabled =>
      simp only [Session.step, Option.ite_none_right_eq_some, Option.some.injEq] at taken
      obtain ⟨-, rfl⟩ := taken
      exact ⟨owned.known, owned.idle⟩
  | io direction buf usec answers =>
      simp only [Session.step, Option.ite_none_right_eq_some, Option.some.injEq] at taken
      obtain ⟨⟨idle, -⟩, rfl⟩ := taken
      exact begun .io direction buf usec answers (owned.idle idle) keeps
  | shutdown drained answers tail =>
      simp only [Session.step, Option.ite_none_right_eq_some, Option.map_eq_some_iff] at taken
      obtain ⟨⟨idle, -⟩, rc, -, rfl⟩ := taken
      split
      · exact begun (.shutdown tail) .write [] 0 answers (owned.idle idle)
          (fun timed => absurd rfl timed)
      · exact owned
  | event event setEvents =>
      simp only [Session.step, Option.map_eq_some_iff] at taken
      obtain ⟨dispatched, delivered, rfl⟩ := taken
      have known : dispatched.stream.TimerKnown := by
        rcases dispatch_timers owned.known delivered with none | ⟨same, -⟩
        · exact none.known
        · rw [same]
          exact owned.known
      unfold Session.wake
      split
      · rename_i idle
        refine ⟨known, fun _ => ?_⟩
        rcases dispatch_timers owned.known delivered with none | ⟨same, -⟩
        · exact none
        · simpa only [same] using owned.idle idle
      · rename_i call waiting
        split
        · exact ⟨known, fun idle => by simp_all⟩
        · rename_i awake
          have finished : (msgStreamDoIoFinish dispatched.stream
              (dispatched.wake == .cancelled) setEvents).1.NoTimer := by
            apply finish_noTimer known
            intro notCancelled
            rcases dispatch_timers owned.known delivered with none | ⟨-, notSet⟩
            · exact none
            · cases wake : dispatched.wake <;> simp_all
          exact ⟨(goOn_noTimer call _ finished).known, fun _ => goOn_noTimer call _ finished⟩

section Over

variable {epollhup : Bool} {stream : MsgStream}

/-- A stream that is over makes every call return at once and stays as it
is. -/
theorem Over.begin_returns (past : Over epollhup stream) (direction : Direction)
    (buf : List UInt8) (usec : Nat) (fresh : TimerId) (answers : BeginAnswers) :
    msgStreamDoIoBegin stream direction buf usec fresh answers =
      (stream, .returned (overRc epollhup direction)) := by
  cases epollhup with
  | false => simp [msgStreamDoIoBegin, past.state, past.error, overRc]
  | true => simp [msgStreamDoIoBegin, past.state, overRc]

/-- The tail of a shutdown only runs on a stream that ended, and leaves it
ended. -/
theorem Over.goOn (past : Over epollhup stream) (call : Call) (rc : Int)
    (failed : epollhup = false → rc < 0) : Over epollhup (call.goOn stream rc) := by
  cases call with
  | io => exact past
  | shutdown tail =>
      by_cases negative : rc < 0
      · simpa only [Call.goOn, if_pos negative] using past
      · simp only [Call.goOn, if_neg negative]
        obtain rfl : epollhup = true := by
          by_contra hup
          exact negative (failed (by simpa using hup))
        have ended : stream.state = .ended := by simpa using past.state
        have same : ({ stream with enabled := false }.cancelTimer) = stream := by
          have off : { stream with enabled := false } = stream := by
            rw [← past.enabled]
          rw [off]
          unfold MsgStream.cancelTimer
          rw [past.noTimer.1]
        unfold shutdownTail
        rw [same]
        dsimp only
        repeat' split
        all_goals first | exact past | skip
        all_goals exact ⟨by simp [ended], by simp, past.enabled, past.noTimer⟩

end Over

/-- The stream of the session is over and no call waits on it. -/
def SessionOver (epollhup : Bool) (session : Session) : Prop :=
  Over epollhup session.stream ∧ session.blocked = none

/-- A session that is over stays over, whatever happens. -/
theorem step_sessionOver (epollhup : Bool) (session : Session) (label : Label)
    (next : Session) (past : SessionOver epollhup session)
    (taken : session.step label = some next) : SessionOver epollhup next := by
  obtain ⟨past, idle⟩ := past
  cases label with
  | regInterrupt reason =>
      simp only [Session.step, Option.ite_none_right_eq_some, Option.some.injEq] at taken
      obtain ⟨-, rfl⟩ := taken
      exact ⟨⟨past.state, past.error, past.enabled, past.noTimer⟩, idle⟩
  | setInterruptDisabled disabled =>
      simp only [Session.step, Option.ite_none_right_eq_some, Option.some.injEq] at taken
      obtain ⟨-, rfl⟩ := taken
      exact ⟨past, idle⟩
  | io direction buf usec answers =>
      simp only [Session.step, Option.ite_none_right_eq_some, Option.some.injEq] at taken
      obtain ⟨-, rfl⟩ := taken
      simp only [Session.begin, past.begin_returns]
      exact ⟨past, idle⟩
  | shutdown drained answers tail =>
      simp only [Session.step, Option.ite_none_right_eq_some, Option.map_eq_some_iff] at taken
      obtain ⟨-, rc, -, rfl⟩ := taken
      split
      · simp only [Session.begin, past.begin_returns]
        refine ⟨past.goOn (.shutdown tail) (overRc epollhup .write) fun error => ?_, idle⟩
        simp [overRc, error, Errno.eio]
      · exact ⟨past, idle⟩
  | event event setEvents =>
      simp only [Session.step, Option.map_eq_some_iff] at taken
      obtain ⟨dispatched, delivered, rfl⟩ := taken
      -- The source is off and no timer is armed, so only an interrupt is left.
      obtain same : dispatched.stream = session.stream := by
        cases event with
        | handler revents answers => simp [dispatch, past.enabled] at delivered
        | timer id setEvents => simp [dispatch, past.noTimer.2] at delivered
        | interrupt =>
            simp only [dispatch, Option.some.injEq] at delivered
            rw [← delivered]
      rw [same]
      simp only [Session.wake, idle]
      exact ⟨past, rfl⟩

/-- The step in which the handler sees a hang-up or an error. -/
theorem hangUp_sessionOver {session next : Session} {revents : Revents}
    {answers : HandlerAnswers} {setEvents : Int} (owned : TimerOwned session)
    (only : revents.onlyHangup) (switched : 0 ≤ answers.setEnabled)
    (calm : Calm session (.event (.handler revents answers) setEvents))
    (taken : session.step (.event (.handler revents answers) setEvents) = some next) :
    SessionOver revents.epollhup next := by
  simp only [Session.step, Option.map_eq_some_iff] at taken
  obtain ⟨dispatched, delivered, rfl⟩ := taken
  simp only [dispatch, Option.ite_none_right_eq_some, Option.some.injEq] at delivered
  obtain ⟨-, rfl⟩ := delivered
  rw [msgStreamHandler_hangUp session.stream answers only]
  have noTimer := cancelTimer_noTimer owned.known
  have past : Over revents.epollhup
      (hangUp session.stream.cancelTimer revents.epollhup answers.setEnabled) :=
    ⟨hangUp_state _ _ _, fun error => by simp [error], hangUp_enabled _ _ _ switched,
      by simpa [MsgStream.NoTimer] using noTimer⟩
  cases waiting : session.blocked with
  | none =>
      simp only [Session.wake]
      exact ⟨past, rfl⟩
  | some call =>
      have nobody : ¬(session.stream.interrupt.isSome ∧ session.disabled = false) := by
        intro interrupted
        exact calm only ⟨by simp [waiting], interrupted⟩
      simp only [Session.wake, Handled.dispatched, if_neg nobody, if_true, reduceCtorEq, if_false,
        msgStreamDoIoFinish]
      refine ⟨past.goOn call _ fun error => ?_, rfl⟩
      simp [error, Errno.eio]

/-- Once the handler has seen a hang-up or an error and has switched its source
off, in every later state no call waits on the stream and the next one returns
at once. -/
theorem hangUp_sticky (before after : List Label) (revents : Revents)
    (answers : HandlerAnswers) (setEvents : Int) (session seen final : Session)
    (reached : Run.exec Session.step .start before = some session)
    (saw : session.step (.event (.handler revents answers) setEvents) = some seen)
    (later : Run.exec Session.step seen after = some final)
    (only : revents.onlyHangup) (switched : 0 ≤ answers.setEnabled)
    (calm : Run.Meets Session.step Calm .start
      (before ++ .event (.handler revents answers) setEvents :: after)) :
    final.blocked = none ∧
      ∀ direction buf usec fresh given,
        msgStreamDoIoBegin final.stream direction buf usec fresh given =
          (final.stream, .returned (overRc revents.epollhup direction)) := by
  have split := calm.append
  have owned : TimerOwned session :=
    split.1.invariant TimerOwned (fun session label next owned calm taken =>
      step_timerOwned session label next owned calm.keepsTimer taken) start_timerOwned reached
  have started := hangUp_sessionOver owned only switched (split.2 session reached).1 saw
  have past : SessionOver revents.epollhup final :=
    Run.exec_invariant (SessionOver revents.epollhup) (step_sessionOver revents.epollhup)
      started later
  exact ⟨past.2, past.1.begin_returns⟩

/-- The peer hangs up between two calls; the shutdown that follows returns. -/
theorem hangUp_sticky_between_calls :
    let past : MsgStream :=
      { initMsgStream with state := .ended, enabled := false, interrupt := some .ioErr }
    ∀ direction buf usec fresh given,
      msgStreamDoIoBegin past direction buf usec fresh given =
        (past, .returned (overRc true direction)) :=
  let past : MsgStream :=
    { initMsgStream with state := .ended, enabled := false, interrupt := some .ioErr }
  (hangUp_sticky [.regInterrupt (some .ioErr)] [.shutdown [.eof] ⟨0, 0⟩ ⟨0, 0, 0⟩]
    ⟨false, false, true⟩ ⟨.done [], 0, 0⟩ 0
    ⟨{ initMsgStream with interrupt := some .ioErr }, false, none, 0⟩
    ⟨past, false, none, 0⟩ ⟨past, false, none, 1⟩
    (by decide) (by decide) (by decide) (by decide) (by decide) (by decide)).2

/-- The peer hangs up while a write with a registered interrupt waits. The
handler switches the source off; the interrupted write puts the state back to
`NOOP`; and the untimed write of `shutdown_msg_stream` then waits although
neither the source nor a timer can end the wait. -/
theorem hangUp_forgotten :
    let stuck : Session :=
      ⟨{ initMsgStream with state := .write, enabled := false, events := some .write,
                            interrupt := some .ioErr },
        false, some (.shutdown ⟨0, 0, 0⟩), 2⟩
    Run.exec Session.step .start
        [.regInterrupt (some .ioErr), .io .write [0] 300000 ⟨0, 0⟩,
          .event (.handler ⟨false, false, true⟩ ⟨.done [], 0, 0⟩) 0,
          .shutdown [.failed Errno.eagain] ⟨0, 0⟩ ⟨0, 0, 0⟩] = some stuck ∧
      stuck.blocked.isSome ∧ stuck.stream.enabled = false ∧ stuck.stream.timers = [] := by
  decide

end TrafficLimitd.Stream
