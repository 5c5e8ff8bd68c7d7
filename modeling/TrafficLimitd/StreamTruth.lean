import TrafficLimitd.StreamProgram

set_option autoImplicit false

/- One call of `msg_stream_read` or `msg_stream_write` from its start to its
return, with everything that is dispatched while it waits, and what its result
says about the bytes that were moved. -/
namespace TrafficLimitd.Stream

/-- A call that returned: the stream, the return value and the bytes of each
system call made on the way. -/
structure Returned where
  stream : MsgStream
  rc : Int
  moved : List (List UInt8)
deriving DecidableEq, Repr

/-- The return of a call that this dispatch woke up. -/
def Dispatched.finish (dispatched : Dispatched) (setEvents : Int) : Returned :=
  let finish := msgStreamDoIoFinish dispatched.stream (dispatched.wake == .cancelled) setEvents
  ⟨finish.1, finish.2, dispatched.moved.toList⟩

/-- The waiting call on the events dispatched until it returns. The integer
beside an event is the answer to `sd_event_source_set_io_events` in case the
event cancels the wait. -/
def waitForReturn (disabled : Bool) : MsgStream → List (Event × Int) → Option Returned
  | _, [] => none
  | stream, (event, setEvents) :: rest =>
      (dispatch disabled stream event).bind fun dispatched =>
        match dispatched.wake with
        | .asleep =>
            (waitForReturn disabled dispatched.stream rest).map fun later =>
              { later with moved := dispatched.moved.toList ++ later.moved }
        | _ => if rest.isEmpty then some (dispatched.finish setEvents) else none

/-- `msg_stream_do_io`, `none` when it has not returned after these events or
the events are not possible. -/
def msgStreamDoIo (disabled : Bool) (stream : MsgStream) (direction : Direction)
    (buf : List UInt8) (usec : Nat) (fresh : TimerId) (answers : BeginAnswers)
    (events : List (Event × Int)) : Option Returned :=
  match msgStreamDoIoBegin stream direction buf usec fresh answers with
  | (stream, .returned rc) => if events.isEmpty then some ⟨stream, rc, []⟩ else none
  | (stream, .waiting) => waitForReturn disabled stream events

/-- A positive result counts the bytes of the caller's buffer that one system
call moved; a negative one says that none was moved. -/
def Truthful (direction : Direction) (buf : List UInt8) (result : Returned) : Prop :=
  (0 < result.rc → ∃ data ∈ result.moved, (data.length : Int) = result.rc ∧
    match direction with
    | .read => result.stream.buf = data ++ buf.drop data.length
    | .write => data = buf.take data.length) ∧
  (result.rc < 0 → ∀ data ∈ result.moved, data = [])

/-- The mask takes `msg_stream_handler` to the branch that serves this
direction. -/
def Direction.Ready (revents : Revents) : Direction → Prop
  | .read => revents.epollin = true
  | .write => revents.epollin = false ∧ revents.epollout = true

instance (revents : Revents) : DecidablePred (Direction.Ready revents)
  | .read => inferInstanceAs (Decidable (revents.epollin = true))
  | .write => inferInstanceAs (Decidable (revents.epollin = false ∧ revents.epollout = true))

/-- A hang-up without readiness while nobody is interrupted by it, or a failure
of `sd_event_source_set_io_events` right after a system call that moved
bytes. -/
def Misreported (disabled : Bool) (target : Option InterruptReason) (direction : Direction) :
    Event → Prop
  | .handler revents answers =>
      (revents.onlyHangup ∧ revents.epollhup ∧ (target = none ∨ disabled)) ∨
      (direction.Ready revents ∧ answers.setEvents < 0 ∧
        ∃ data, answers.io = .done data ∧ data ≠ [])
  | _ => False

/-- The stream while the call waits. -/
structure Pending (stream : MsgStream) (direction : Direction) (buf : List UInt8)
    (target : Option InterruptReason) : Prop where
  sameState : stream.state = direction.state
  sameBuf : stream.buf = buf
  sameLen : stream.len = buf.length
  sameTarget : stream.interrupt = target

variable {stream : MsgStream} {direction : Direction} {buf : List UInt8}
  {target : Option InterruptReason}

theorem Pending.cancelTimer (pending : Pending stream direction buf target) :
    Pending stream.cancelTimer direction buf target :=
  ⟨by simp [pending.sameState], by simp [pending.sameBuf], by simp [pending.sameLen],
    by simp [pending.sameTarget]⟩

section FinishTransfer

variable (disabled : Bool) (moved : Option (List UInt8)) (rc error setEvents resumed : Int)

theorem finishTransfer_wake :
    ((finishTransfer stream moved rc error setEvents).dispatched disabled).wake = .set := rfl

/-- The value a woken call returns after a transfer ended. -/
theorem finishTransfer_rc :
    (((finishTransfer stream moved rc error setEvents).dispatched disabled).finish resumed).rc =
      if setEvents < 0 then setEvents else if error < 0 then error else rc := by
  rw [Dispatched.finish, finishTransfer_wake]
  by_cases failed : setEvents < 0 <;>
    simp [failed, msgStreamDoIoFinish, Handled.dispatched, finishTransfer]

theorem finishTransfer_buf :
    (((finishTransfer stream moved rc error setEvents).dispatched disabled).finish
      resumed).stream.buf = stream.buf := by
  rw [Dispatched.finish, finishTransfer_wake]
  by_cases failed : setEvents < 0 <;>
    simp [failed, msgStreamDoIoFinish, Handled.dispatched, finishTransfer]

theorem finishTransfer_moved :
    (((finishTransfer stream moved rc error setEvents).dispatched disabled).finish
      resumed).moved = moved.toList := rfl

end FinishTransfer

/-- A call whose system call moved some bytes is truthful unless the event mask
could not be cleared afterwards. -/
theorem truthful_of_moved (disabled : Bool) (data : List UInt8) (setEvents resumed : Int)
    (pending : Pending stream direction buf target)
    (possible : (SysResult.done data).Possible stream) :
    Truthful direction buf
        (((finishTransfer (stream.fill direction data) (some data) data.length 0
          setEvents).dispatched disabled).finish resumed) ↔
      ¬(setEvents < 0 ∧ data ≠ []) := by
  unfold Truthful
  simp only [finishTransfer_rc, finishTransfer_buf, finishTransfer_moved, Option.toList_some,
    List.mem_singleton, exists_eq_left, forall_eq]
  by_cases failed : setEvents < 0
  · simp only [if_pos failed]
    have notPositive : ¬0 < setEvents := by omega
    simp [failed, notPositive]
  · simp only [if_neg failed, Int.lt_irrefl, if_false]
    have notNegative : ¬(data.length : Int) < 0 := by omega
    refine ⟨fun _ both => failed both.1, fun _ => ⟨fun _ => ⟨trivial, ?_⟩,
      fun negative => absurd negative notNegative⟩⟩
    cases direction with
    | read => simp [MsgStream.fill, pending.sameBuf]
    | write =>
        have taken := possible.2.2 pending.sameState
        rwa [pending.sameBuf] at taken

/-- A result that is not positive is truthful when no system call moved
bytes. -/
theorem truthful_of_nothing {result : Returned} (nothing : result.moved = [])
    (notPositive : ¬0 < result.rc) : Truthful direction buf result :=
  ⟨fun positive => absurd positive notPositive, by simp [nothing]⟩

theorem truthful_of_cancelled {dispatched : Dispatched} (resumed : Int)
    (cancelled : dispatched.wake = .cancelled) (nothing : dispatched.moved = none) :
    Truthful direction buf (dispatched.finish resumed) := by
  apply truthful_of_nothing
  · simp [Dispatched.finish, nothing]
  · simp [Dispatched.finish, msgStreamDoIoFinish, cancelled, Errno.eintr]

/-- What one dispatch does to the waiting call: it leaves the call waiting, or
wakes it with a result that is truthful unless the event is misreported. -/
def Settles (disabled : Bool) (target : Option InterruptReason) (direction : Direction)
    (buf : List UInt8) (event : Event) (dispatched : Dispatched) : Prop :=
  (dispatched.wake = .asleep ∧ Pending dispatched.stream direction buf target ∧
    dispatched.moved = none ∧ ¬Misreported disabled target direction event) ∨
  (dispatched.wake ≠ .asleep ∧ ∀ resumed,
    (Truthful direction buf (dispatched.finish resumed) ↔
      ¬Misreported disabled target direction event))

theorem transfer_settles (disabled : Bool) (event : Event) (answers : HandlerAnswers)
    (pending : Pending stream direction buf target) (nonempty : buf ≠ [])
    (possible : answers.io.Possible stream)
    (misreported : Misreported disabled target direction event ↔
      answers.setEvents < 0 ∧ ∃ data, answers.io = .done data ∧ data ≠ []) :
    Settles disabled target direction buf event
      ((transfer direction stream answers).dispatched disabled) := by
  have long : stream.len ≠ 0 := by
    rw [pending.sameLen]
    have := List.length_pos_of_ne_nil nonempty
    omega
  unfold Settles
  rw [misreported, transfer, if_neg long]
  cases moved : answers.io with
  | done data =>
      rw [moved] at possible
      refine Or.inr ⟨by simp [finishTransfer_wake], fun resumed => ?_⟩
      simpa using truthful_of_moved disabled data answers.setEvents resumed pending possible
  | failed errno =>
      by_cases again : errno = Errno.eagain
      · exact Or.inl (by simp [again, Handled.dispatched, pending])
      · simp only [if_neg again]
        rw [moved] at possible
        refine Or.inr ⟨by simp [finishTransfer_wake], fun resumed => ?_⟩
        refine iff_of_true (truthful_of_nothing rfl ?_) (by simp)
        have positive : 0 < errno := possible
        rw [finishTransfer_rc]
        omega

/-- A hang-up or error without readiness ends the wait; only a plain hang-up
that interrupts nobody is misreported. -/
theorem hangUp_settles (disabled : Bool) {revents : Revents} (answers : HandlerAnswers)
    (pending : Pending stream direction buf target) (nonempty : buf ≠ [])
    (only : revents.onlyHangup) :
    Settles disabled target direction buf (.handler revents answers)
      ((msgStreamHandler stream revents answers).dispatched disabled) := by
  have misreported : Misreported disabled target direction (.handler revents answers) ↔
      revents.epollhup ∧ (target = none ∨ disabled) := by
    obtain ⟨notIn, notOut⟩ : revents.epollin = false ∧ revents.epollout = false := by
      simpa [Revents.onlyHangup] using only
    cases direction <;> simp [Misreported, Direction.Ready, only, notIn, notOut]
  have long : 0 < stream.len := by
    rw [pending.sameLen]
    have := List.length_pos_of_ne_nil nonempty
    omega
  rw [msgStreamHandler_hangUp stream answers only, Settles, misreported, pending.sameTarget]
  refine Or.inr ⟨?_, fun resumed => ?_⟩
  · simp only [Handled.dispatched]
    split <;> simp
  · by_cases interrupted : target.isSome ∧ disabled = false
    · refine iff_of_true (truthful_of_cancelled resumed ?_ rfl) ?_
      · simp [Handled.dispatched, interrupted]
      · cases target <;> simp_all
    · have nobody : target = none ∨ disabled = true := by
        cases target <;> simp_all
      cases hup : revents.epollhup with
      | false =>
          refine iff_of_true (truthful_of_nothing rfl ?_) (by simp)
          simp [Handled.dispatched, interrupted, Dispatched.finish, msgStreamDoIoFinish,
            Errno.eio]
      | true =>
          refine iff_of_false ?_ (fun truthful => truthful ⟨rfl, nobody⟩)
          intro truthful
          have moved := truthful.1 (by
            simpa [Handled.dispatched, interrupted, Dispatched.finish, msgStreamDoIoFinish]
              using long)
          simp [Handled.dispatched, Dispatched.finish] at moved

theorem timer_settles (disabled : Bool) (id : TimerId) (setEvents : Int) :
    Settles disabled target direction buf (.timer id setEvents)
      ((ioTimerHandler stream id setEvents).dispatched disabled) := by
  refine Or.inr ⟨by simp [ioTimerHandler, Handled.dispatched], fun resumed => ?_⟩
  refine iff_of_true (truthful_of_nothing rfl ?_) (by simp [Misreported])
  by_cases failed : setEvents < 0
  · simp [ioTimerHandler, Handled.dispatched, Dispatched.finish, msgStreamDoIoFinish, failed]
    omega
  · simp [ioTimerHandler, Handled.dispatched, Dispatched.finish, msgStreamDoIoFinish, failed,
      Errno.etimedout]

theorem handler_ready {revents : Revents} (answers : HandlerAnswers)
    (pending : Pending stream direction buf target) (ready : direction.Ready revents) :
    msgStreamHandler stream revents answers =
      transfer direction stream.cancelTimer answers := by
  unfold msgStreamHandler
  cases direction with
  | read => simp [show revents.epollin = true from ready, pending.sameState, Direction.state]
  | write => simp [ready.1, ready.2, pending.sameState, Direction.state]

/-- `EPOLLIN` during a write and `EPOLLOUT` alone during a read only cancel the
timer. -/
theorem handler_idle {revents : Revents} (answers : HandlerAnswers)
    (pending : Pending stream direction buf target) (notOnly : ¬revents.onlyHangup)
    (idle : ¬direction.Ready revents) :
    msgStreamHandler stream revents answers = ⟨stream.cancelTimer, false, none, none⟩ := by
  have sameState := pending.cancelTimer.sameState
  unfold msgStreamHandler
  cases direction <;> cases inBit : revents.epollin <;> cases outBit : revents.epollout <;>
    simp_all [Revents.onlyHangup, Direction.Ready, Direction.state]

theorem callsKernel_of_ready {revents : Revents}
    (pending : Pending stream direction buf target) (nonempty : buf ≠ [])
    (ready : direction.Ready revents) : callsKernel stream revents = true := by
  have long : stream.len ≠ 0 := by
    rw [pending.sameLen]
    have := List.length_pos_of_ne_nil nonempty
    omega
  cases direction with
  | read => simp [callsKernel, show revents.epollin = true from ready, pending.sameState,
      Direction.state, long]
  | write => simp [callsKernel, ready.1, ready.2, pending.sameState, Direction.state, long]

theorem possible_cancelTimer {result : SysResult} (possible : result.Possible stream) :
    result.Possible stream.cancelTimer := by
  cases result with
  | done data => simpa [SysResult.Possible] using possible
  | failed errno => exact possible

/-- One dispatch while the call waits. -/
theorem dispatch_settles {disabled : Bool} {event : Event} {dispatched : Dispatched}
    (pending : Pending stream direction buf target) (nonempty : buf ≠ [])
    (taken : dispatch disabled stream event = some dispatched) :
    Settles disabled target direction buf event dispatched := by
  cases event with
  | handler revents answers =>
      simp only [dispatch, Option.ite_none_right_eq_some, Option.some.injEq] at taken
      obtain ⟨⟨-, -, possible⟩, rfl⟩ := taken
      by_cases only : revents.onlyHangup
      · exact hangUp_settles disabled answers pending nonempty only
      by_cases ready : direction.Ready revents
      · rw [handler_ready answers pending ready]
        have answered := possible (callsKernel_of_ready pending nonempty ready)
        exact transfer_settles disabled _ answers pending.cancelTimer nonempty
          (possible_cancelTimer answered) (by simp [Misreported, only, ready])
      · rw [handler_idle answers pending only ready]
        exact Or.inl ⟨rfl, pending.cancelTimer, rfl, by simp [Misreported, only, ready]⟩
  | timer id setEvents =>
      simp only [dispatch, Option.ite_none_right_eq_some, Option.some.injEq] at taken
      obtain ⟨-, rfl⟩ := taken
      exact timer_settles disabled id setEvents
  | interrupt =>
      simp only [dispatch, Option.some.injEq] at taken
      subst taken
      cases disabled with
      | true => exact Or.inl ⟨rfl, pending, rfl, by simp [Misreported]⟩
      | false =>
          refine Or.inr ⟨by simp, fun resumed => iff_of_true ?_ (by simp [Misreported])⟩
          exact truthful_of_cancelled resumed rfl rfl

/-- The whole wait: its events are consumed one by one, and the one that ends
it decides. -/
theorem wait_truthful {disabled : Bool} {events : List (Event × Int)} {result : Returned}
    (pending : Pending stream direction buf target) (nonempty : buf ≠ [])
    (run : waitForReturn disabled stream events = some result) :
    Truthful direction buf result ↔
      ∀ event ∈ events, ¬Misreported disabled target direction event.1 := by
  induction events generalizing stream result with
  | nil => cases run
  | cons first rest ih =>
      obtain ⟨event, setEvents⟩ := first
      obtain ⟨dispatched, taken, continued⟩ := Option.bind_eq_some_iff.mp run
      rcases dispatch_settles pending nonempty taken with
        ⟨asleep, stillPending, nothing, truthful⟩ | ⟨woken, settled⟩
      · rw [asleep] at continued
        obtain ⟨later, returned, rfl⟩ := Option.map_eq_some_iff.mp continued
        rw [List.forall_mem_cons, ← ih stillPending returned]
        simp [nothing, truthful]
      · -- A woken call returns, so nothing is left to dispatch.
        obtain ⟨last, rfl⟩ : rest = [] ∧ dispatched.finish setEvents = result := by
          cases wake : dispatched.wake with
          | asleep => exact absurd wake woken
          | set => simpa [wake] using continued
          | cancelled => simpa [wake] using continued
        simpa [last] using settled setEvents

theorem begin_pending {usec : Nat} {fresh : TimerId} {answers : BeginAnswers}
    {begun : MsgStream}
    (waits : msgStreamDoIoBegin stream direction buf usec fresh answers = (begun, .waiting)) :
    Pending begun direction buf stream.interrupt := by
  unfold msgStreamDoIoBegin at waits
  split at waits
  · cases waits
  split at waits
  · cases waits
  dsimp only at waits
  by_cases noTimer : usec ≠ 0 ∧ answers.addTime < 0
  · simp [noTimer] at waits
  rw [if_neg noTimer] at waits
  by_cases failed : answers.setEvents < 0
  · simp [failed] at waits
  rw [if_neg failed] at waits
  obtain ⟨rfl, -⟩ := Prod.mk.inj waits
  unfold MsgStream.armTimer
  split <;> exact ⟨rfl, rfl, rfl, rfl⟩

theorem begin_returned_negative {usec : Nat} {fresh : TimerId} {answers : BeginAnswers}
    {begun : MsgStream} {rc : Int} (idle : stream.state = .noop)
    (returned : msgStreamDoIoBegin stream direction buf usec fresh answers =
      (begun, .returned rc)) : rc < 0 := by
  simp only [msgStreamDoIoBegin, idle, reduceCtorEq, if_false] at returned
  by_cases noTimer : usec ≠ 0 ∧ answers.addTime < 0
  · rw [if_pos noTimer] at returned
    cases returned
    exact noTimer.2
  rw [if_neg noTimer] at returned
  by_cases failed : answers.setEvents < 0
  · rw [if_pos failed] at returned
    cases returned
    exact failed
  · rw [if_neg failed] at returned
    cases returned

/-- The result of a read or write of a nonempty buffer is truthful exactly when
no event dispatched during the call is misreported. -/
theorem msgStreamDoIo_truthful_iff (disabled : Bool) (stream : MsgStream)
    (direction : Direction) (buf : List UInt8) (usec : Nat) (fresh : TimerId)
    (answers : BeginAnswers) (events : List (Event × Int)) (result : Returned)
    (idle : stream.state = .noop) (nonempty : buf ≠ [])
    (run : msgStreamDoIo disabled stream direction buf usec fresh answers events =
      some result) :
    Truthful direction buf result ↔
      ∀ event ∈ events, ¬Misreported disabled stream.interrupt direction event.1 := by
  unfold msgStreamDoIo at run
  split at run
  · rename_i begun rc returned
    have negative := begin_returned_negative idle returned
    obtain ⟨none, rfl⟩ : events = [] ∧ (⟨begun, rc, []⟩ : Returned) = result := by
      simpa using run
    exact iff_of_true (truthful_of_nothing rfl (Int.not_lt.mpr (Int.le_of_lt negative)))
      (by simp [none])
  · rename_i begun waits
    exact wait_truthful (begin_pending waits) nonempty run

/-- A read into a two-byte buffer that is served by `EPOLLIN`. -/
theorem msgStreamDoIo_truthful_read :
    Truthful .read [0, 0]
      ⟨{ initMsgStream with buf := [7, 9], len := 2 }, 2, [[7, 9]]⟩ :=
  (msgStreamDoIo_truthful_iff false initMsgStream .read [0, 0] 0 0 ⟨0, 0⟩
    [(.handler ⟨true, false, false⟩ ⟨.done [7, 9], 0, 0⟩, 0)] _ rfl (by decide)
    (by decide)).mpr (by simp [Misreported, Revents.onlyHangup])

/-- A write of `RATE_LIMIT_PROCEED` after the interrupt target was removed: the
peer hangs up while the socket is not writable, no byte leaves the buffer, and
the call returns eight. -/
theorem hangUp_reported_as_written :
    let proceed : List UInt8 := [8, 0, 0, 0, 3, 0, 0, 0]
    let hungUp : Returned :=
      ⟨{ initMsgStream with state := .ended, enabled := false, events := some .write,
                            buf := proceed, len := 8 }, 8, []⟩
    msgStreamDoIo false initMsgStream .write proceed 300000 0 ⟨0, 0⟩
        [(.handler ⟨false, false, true⟩ ⟨.done [], 0, 0⟩, 0)] = some hungUp ∧
      ¬Truthful .write proceed hungUp := by
  refine ⟨by decide, fun truthful => ?_⟩
  obtain ⟨data, moved, -⟩ := truthful.1 (by decide)
  cases moved

end TrafficLimitd.Stream
