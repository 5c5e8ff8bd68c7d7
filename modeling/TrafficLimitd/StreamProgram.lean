import Mathlib.Data.List.Basic
import TrafficLimitd.RunInvariant

set_option autoImplicit false

namespace TrafficLimitd

/- The error numbers that the daemon's code names. -/
namespace Errno

def eintr : Int := 4
def eio : Int := 5
def enoexec : Int := 8
def eagain : Int := 11
def enomem : Int := 12
def einval : Int := 22
def epipe : Int := 32
def eloop : Int := 40
def enomsg : Int := 42
def enodata : Int := 61
def eproto : Int := 71
def eopnotsupp : Int := 95
def econnreset : Int := 104
def enotconn : Int := 107
def etimedout : Int := 110
def estale : Int := 116
def ecanceled : Int := 125

end Errno

/-- What `interrupt_task` is called with. -/
inductive InterruptReason
  | ioErr
  | procEnd
  | sysWillExit
deriving DecidableEq, Repr

/- `struct msg_stream` and the code that runs on it: the two event handlers and
the read, write and shutdown calls, each call cut at its `s_event_wait`. What
the kernel and the event loop answer is an argument. -/
namespace Stream

/-- The `state` of a stream; `ended` is the source's `END`. -/
inductive IoState
  | noop
  | write
  | read
  | err
  | ended
deriving DecidableEq, Repr

/-- The argument `read_or_write`. -/
inductive Direction
  | read
  | write
deriving DecidableEq, Repr

def Direction.state : Direction → IoState
  | .read => .read
  | .write => .write

structure Revents where
  epollin : Bool
  epollout : Bool
  epollhup : Bool
deriving DecidableEq, Repr

/-- The mask holds neither `EPOLLIN` nor `EPOLLOUT`. -/
def Revents.onlyHangup (revents : Revents) : Bool := !revents.epollin && !revents.epollout

abbrev TimerId := Nat

/-- `source` says that `stream->source` is not NULL, `enabled` and `events` are
what the event loop keeps for it. `timers` are the armed timers whose handler
is `io_timer_handler` on this stream; `timer` is the one `stream->timer` points
to. `len` is `io_buf.len` as the `ssize_t` that a call returns it as. -/
structure MsgStream where
  state : IoState
  source : Bool
  enabled : Bool
  events : Option Direction
  timer : Option TimerId
  timers : List TimerId
  interrupt : Option InterruptReason
  buf : List UInt8
  len : Int
  error : Int
deriving DecidableEq, Repr

/-- What `init_msg_stream` leaves behind when it succeeds. -/
def initMsgStream : MsgStream :=
  { state := .noop, source := true, enabled := true, events := none, timer := none,
    timers := [], interrupt := none, buf := [], len := 0, error := 0 }

/-- A `read` or `write` system call on the socket: the bytes it moved or its
error number. -/
inductive SysResult
  | done (data : List UInt8)
  | failed (errno : Int)
deriving DecidableEq, Repr

/-- The kernel's limit on the bytes one `read` or `write` moves. -/
def maxRwCount : Nat := 0x7ffff000

/-- What the kernel can answer to the call that the stream makes. -/
def SysResult.Possible (stream : MsgStream) : SysResult → Prop
  | .done data =>
      (data.length : Int) ≤ stream.len ∧ data.length ≤ maxRwCount ∧
        (stream.state = .write → data = stream.buf.take data.length)
  | .failed errno => 0 < errno

instance (stream : MsgStream) : DecidablePred (SysResult.Possible stream)
  | .done data => inferInstanceAs (Decidable ((data.length : Int) ≤ stream.len ∧
      data.length ≤ maxRwCount ∧ (stream.state = .write → data = stream.buf.take data.length)))
  | .failed errno => inferInstanceAs (Decidable (0 < errno))

/-- The answers to the calls of one `msg_stream_handler` invocation. -/
structure HandlerAnswers where
  io : SysResult
  setEvents : Int
  setEnabled : Int
deriving DecidableEq, Repr

/-- The effects of a handler: the stream, whether it set the stream's event,
whom it interrupted and the bytes that its system call moved. -/
structure Handled where
  stream : MsgStream
  eventSet : Bool
  interrupted : Option InterruptReason
  moved : Option (List UInt8)
deriving DecidableEq, Repr

/-- `sd_event_source_disable_unref(stream->timer); stream->timer = NULL`. -/
def MsgStream.cancelTimer (stream : MsgStream) : MsgStream :=
  match stream.timer with
  | none => stream
  | some id => { stream with timer := none, timers := stream.timers.erase id }

/-- `sd_event_source_set_io_events` with its return code. -/
def MsgStream.setIoEvents (stream : MsgStream) (events : Option Direction) (rc : Int) :
    MsgStream :=
  if rc < 0 then stream else { stream with events := events }

/-- The bytes that a read puts into the caller's buffer. -/
def MsgStream.fill (stream : MsgStream) (direction : Direction) (data : List UInt8) :
    MsgStream :=
  match direction with
  | .read => { stream with buf := data ++ stream.buf.drop data.length }
  | .write => stream

/-- The common end of the two transfer branches of `msg_stream_handler`. -/
def finishTransfer (stream : MsgStream) (moved : Option (List UInt8)) (rc error setEvents : Int) :
    Handled :=
  let stream := { stream with error := error, len := rc, state := .noop }
  { stream :=
      if setEvents < 0 then { stream with error := setEvents } else { stream with events := none }
    eventSet := true
    interrupted := none
    moved := moved }

/-- The `EPOLLIN` branch for a pending read and the `EPOLLOUT` branch for a
pending write: they differ in the system call only. -/
def transfer (direction : Direction) (stream : MsgStream) (answers : HandlerAnswers) : Handled :=
  if stream.len = 0 then finishTransfer stream none 0 0 answers.setEvents
  else
    match answers.io with
    | .done data =>
        finishTransfer (stream.fill direction data) (some data) data.length 0 answers.setEvents
    | .failed errno =>
        if errno = Errno.eagain then ⟨stream, false, none, none⟩
        else finishTransfer stream none (-1) (-errno) answers.setEvents

/-- The last branch of `msg_stream_handler`: `EPOLLHUP`, or else an error, and
`sd_event_source_set_enabled` with its return code. -/
def hangUp (stream : MsgStream) (epollhup : Bool) (setEnabled : Int) : MsgStream :=
  let stream :=
    if epollhup then { stream with state := .ended, error := 0 }
    else { stream with state := .err, error := -Errno.eio }
  if setEnabled < 0 then stream else { stream with enabled := false }

def msgStreamHandler (stream : MsgStream) (revents : Revents) (answers : HandlerAnswers) :
    Handled :=
  let stream := stream.cancelTimer
  if revents.epollin then
    if stream.state = .read then transfer .read stream answers
    else ⟨stream, false, none, none⟩
  else if revents.epollout then
    if stream.state = .write then transfer .write stream answers
    else ⟨stream, false, none, none⟩
  else
    let stream := hangUp stream revents.epollhup answers.setEnabled
    { stream := stream
      eventSet := true
      interrupted :=
        if stream.state ≠ .write ∧ stream.state ≠ .read then stream.interrupt else none
      moved := none }

section HangUp

variable (stream : MsgStream) (epollhup : Bool) (setEnabled : Int)

@[simp] theorem hangUp_state :
    (hangUp stream epollhup setEnabled).state = if epollhup then .ended else .err := by
  unfold hangUp
  cases epollhup <;> by_cases failed : setEnabled < 0 <;> simp [failed]

@[simp] theorem hangUp_error :
    (hangUp stream epollhup setEnabled).error = if epollhup then 0 else -Errno.eio := by
  unfold hangUp
  cases epollhup <;> by_cases failed : setEnabled < 0 <;> simp [failed]

@[simp] theorem hangUp_len : (hangUp stream epollhup setEnabled).len = stream.len := by
  unfold hangUp
  cases epollhup <;> by_cases failed : setEnabled < 0 <;> simp [failed]

@[simp] theorem hangUp_interrupt :
    (hangUp stream epollhup setEnabled).interrupt = stream.interrupt := by
  unfold hangUp
  cases epollhup <;> by_cases failed : setEnabled < 0 <;> simp [failed]

@[simp] theorem hangUp_timers : (hangUp stream epollhup setEnabled).timers = stream.timers := by
  unfold hangUp
  cases epollhup <;> by_cases failed : setEnabled < 0 <;> simp [failed]

@[simp] theorem hangUp_timer : (hangUp stream epollhup setEnabled).timer = stream.timer := by
  unfold hangUp
  cases epollhup <;> by_cases failed : setEnabled < 0 <;> simp [failed]

theorem hangUp_enabled (switched : 0 ≤ setEnabled) :
    (hangUp stream epollhup setEnabled).enabled = false := by
  unfold hangUp
  rw [if_neg (by omega)]

end HangUp

section CancelTimer

variable (stream : MsgStream)

@[simp] theorem cancelTimer_interrupt : stream.cancelTimer.interrupt = stream.interrupt := by
  unfold MsgStream.cancelTimer
  split <;> rfl

@[simp] theorem cancelTimer_state : stream.cancelTimer.state = stream.state := by
  unfold MsgStream.cancelTimer
  split <;> rfl

@[simp] theorem cancelTimer_buf : stream.cancelTimer.buf = stream.buf := by
  unfold MsgStream.cancelTimer
  split <;> rfl

@[simp] theorem cancelTimer_len : stream.cancelTimer.len = stream.len := by
  unfold MsgStream.cancelTimer
  split <;> rfl

@[simp] theorem cancelTimer_error : stream.cancelTimer.error = stream.error := by
  unfold MsgStream.cancelTimer
  split <;> rfl

end CancelTimer

/-- The test before the interrupt always passes: the branch has just left the
states `READ` and `WRITE`. -/
theorem msgStreamHandler_hangUp (stream : MsgStream) {revents : Revents}
    (answers : HandlerAnswers) (only : revents.onlyHangup) :
    msgStreamHandler stream revents answers =
      ⟨hangUp stream.cancelTimer revents.epollhup answers.setEnabled, true, stream.interrupt,
        none⟩ := by
  obtain ⟨notIn, notOut⟩ : revents.epollin = false ∧ revents.epollout = false := by
    simpa [Revents.onlyHangup] using only
  unfold msgStreamHandler
  cases revents.epollhup <;> simp [notIn, notOut]

/-- The handler makes a `read` or `write` system call. -/
def callsKernel (stream : MsgStream) (revents : Revents) : Bool :=
  (if revents.epollin then stream.state == .read
    else revents.epollout && stream.state == .write) && stream.len != 0

/-- The timers are one-shot, so the one that fires is no longer armed. -/
def ioTimerHandler (stream : MsgStream) (id : TimerId) (setEvents : Int) : Handled :=
  let stream := { stream with timers := stream.timers.erase id, state := .noop,
                              error := -Errno.etimedout }
  let stream :=
    if setEvents < 0 then { stream with error := setEvents } else { stream with events := none }
  ⟨stream.cancelTimer, true, none, none⟩

/-- `msg_stream_reg_interrupt`; the target is the calling task. -/
def regInterrupt (stream : MsgStream) (reason : Option InterruptReason) : MsgStream :=
  { stream with interrupt := reason }

/-- The answers to `sd_event_add_time_relative` and to
`sd_event_source_set_io_events` before the wait. -/
structure BeginAnswers where
  addTime : Int
  setEvents : Int
deriving DecidableEq, Repr

inductive Begun
  | returned (rc : Int)
  | waiting
deriving DecidableEq, Repr

/-- A timer for a call that has a time limit. -/
def MsgStream.armTimer (stream : MsgStream) (usec : Nat) (fresh : TimerId) : MsgStream :=
  if usec ≠ 0 then { stream with timer := some fresh, timers := fresh :: stream.timers }
  else stream

/-- `msg_stream_do_io` up to its `s_event_wait`. The length of `buf` is the
argument `size`. -/
def msgStreamDoIoBegin (stream : MsgStream) (direction : Direction) (buf : List UInt8)
    (usec : Nat) (fresh : TimerId) (answers : BeginAnswers) : MsgStream × Begun :=
  if stream.state = .err then (stream, .returned stream.error)
  else if stream.state = .ended then
    (stream, .returned (if direction = .read then 0 else -Errno.epipe))
  else
    let stream := { stream with state := direction.state, buf := buf, len := buf.length }
    if usec ≠ 0 ∧ answers.addTime < 0 then (stream, .returned answers.addTime)
    else
      let stream := stream.armTimer usec fresh
      if answers.setEvents < 0 then (stream, .returned answers.setEvents)
      else ({ stream with events := some direction }, .waiting)

/-- `msg_stream_do_io` after its `s_event_wait`, which says whether the wait was
cancelled. -/
def msgStreamDoIoFinish (stream : MsgStream) (cancelled : Bool) (setEvents : Int) :
    MsgStream × Int :=
  if cancelled then
    ({ stream.cancelTimer.setIoEvents none setEvents with state := .noop }, -Errno.eintr)
  else (stream, if stream.error < 0 then stream.error else stream.len)

/-- One `recv` of the loop that drains the socket before a shutdown. -/
inductive Recv
  | byte
  | eof
  | failed (errno : Int)
deriving DecidableEq, Repr

/-- The drain loop of `shutdown_msg_stream` on the answers it gets: zero when
the loop is left by `break`. -/
def drain : List Recv → Option Int
  | [] => none
  | .byte :: rest => drain rest
  | .eof :: _ => some 0
  | .failed errno :: rest =>
      if errno = Errno.eagain then some 0
      else if errno = Errno.eintr then drain rest
      else some (-errno)

/-- The answers to the calls after the write of `shutdown_msg_stream`; a failed
`shutdown` is given by its negated error number. -/
structure TailAnswers where
  setEnabled : Int
  getFd : Int
  shutdown : Int
deriving DecidableEq, Repr

/-- `shutdown_msg_stream` after its write returned without an error. -/
def shutdownTail (stream : MsgStream) (answers : TailAnswers) : MsgStream × Int :=
  if answers.setEnabled < 0 then (stream, answers.setEnabled)
  else
    let stream := { stream with enabled := false }.cancelTimer
    if answers.getFd < 0 then (stream, answers.getFd)
    else if answers.shutdown < 0 then (stream, answers.shutdown)
    else
      let stream := { stream with source := false }
      (if stream.state ≠ .err then { stream with state := .ended, error := 0 } else stream, 0)

/-- What can reach a stream from outside its own task. -/
inductive Event
  | handler (revents : Revents) (answers : HandlerAnswers)
  | timer (id : TimerId) (setEvents : Int)
  | interrupt
deriving DecidableEq, Repr

/-- How `s_event_wait` ends for a task that waits for the stream's event. -/
inductive Wake
  | asleep
  | set
  | cancelled
deriving DecidableEq, Repr

structure Dispatched where
  stream : MsgStream
  wake : Wake
  moved : Option (List UInt8)
deriving DecidableEq, Repr

/-- What a handler does to the task that owns the stream. `disabled` is the
task's `interrupt_disabled`, under which `interrupt_task` returns at once. -/
def Handled.dispatched (disabled : Bool) (handled : Handled) : Dispatched :=
  { stream := handled.stream
    wake :=
      if handled.interrupted.isSome ∧ disabled = false then .cancelled
      else if handled.eventSet then .set
      else .asleep
    moved := handled.moved }

/-- One dispatch of the event loop. A handler runs only while its source is
enabled, a timer only while it is armed; the timer's handler asserts that the
stream has its source. -/
def dispatch (disabled : Bool) (stream : MsgStream) : Event → Option Dispatched
  | .handler revents answers =>
      if stream.source ∧ stream.enabled ∧
          (callsKernel stream revents → answers.io.Possible stream) then
        some ((msgStreamHandler stream revents answers).dispatched disabled)
      else none
  | .timer id setEvents =>
      if stream.source ∧ id ∈ stream.timers then
        some ((ioTimerHandler stream id setEvents).dispatched disabled)
      else none
  | .interrupt => some ⟨stream, if disabled then .asleep else .cancelled, none⟩

end Stream

end TrafficLimitd
