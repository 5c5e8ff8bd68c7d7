import TrafficLimitd.HandlerProgram
import TrafficLimitd.StreamTimer

set_option autoImplicit false

/- One accepted connection: `client_handler`, the task that runs `client_handler_async`,
and the stream that the task and the event loop share. The calls of the handler that
concern the stream are answered by the stream's own code; the answers to its other
calls are free. -/
namespace TrafficLimitd.Connection

open Coroutine
open Handler (Effect Response Awaited Host Pid clientHandlerAsync)
open TrafficLimitd.Stream (MsgStream TimerId BeginAnswers TailAnswers Recv Wake
  msgStreamDoIoBegin msgStreamDoIoFinish destroyMsgStream)

/-- The answers to the calls of `init_msg_stream`: `errno` or success of `malloc`, the
return codes, and whether `SO_PEERCRED` has the length of a `struct ucred`. -/
structure InitCalls where
  malloc : Option Int
  getsockopt : Int
  ucred : Bool
  addIo : Int
  setIoFdOwn : Int
deriving DecidableEq, Repr

/-- `init_msg_stream`: its return code and `*stream`. The source owns the descriptor
only when nothing has failed. -/
def initMsgStream (calls : InitCalls) : Int × Option MsgStream :=
  match calls.malloc with
  | some errno => (-errno, none)
  | none =>
      if calls.getsockopt < 0 then (calls.getsockopt, none)
      else if calls.ucred = false then (-Errno.eio, none)
      else if calls.addIo < 0 then (calls.addIo, none)
      else if calls.setIoFdOwn < 0 then (calls.setIoFdOwn, none)
      else (calls.setIoFdOwn, some Stream.initMsgStream)

/-- `errno` is positive after a failed call. -/
def InitCalls.Possible (calls : InitCalls) : Prop := ∀ errno ∈ calls.malloc, 0 < errno

instance (calls : InitCalls) : Decidable calls.Possible :=
  inferInstanceAs (Decidable (∀ errno ∈ calls.malloc, 0 < errno))

/-- The task of the connection: not yet created, alive, or never to run again. -/
inductive Task
  | accepted
  | running
  | gone
deriving DecidableEq, Repr

/-- `stream` is the allocated stream and `registered` says that the task destroys it
when it ends. `blocked` is a wait in `msg_stream_do_io`, `leftover` are timers that are
armed for a stream that was freed. `closes` counts how often the descriptor was closed
and `strays` how often it was used after that. `sent` are the datagrams that were
written, in their order. -/
structure State where
  task : Task
  execution : Execution Effect Response Unit
  stream : Option MsgStream
  registered : Bool
  disabled : Bool
  blocked : Bool
  fresh : TimerId
  leftover : List TimerId
  closes : Nat
  strays : Nat
  sent : List (List UInt8)

/-- `accept4` has returned the descriptor. -/
def start (host : Host) (pid : Pid) : State :=
  { task := .accepted, execution := .start (clientHandlerAsync host pid), stream := none,
    registered := false, disabled := false, blocked := false, fresh := 0, leftover := [],
    closes := 0, strays := 0, sent := [] }

namespace State

/-- The call that the task makes next. -/
def pending (state : State) : Option Effect := state.execution.program.pending

/-- A use of the descriptor. -/
def use (state : State) : State :=
  { state with strays := if state.closes = 0 then state.strays else state.strays + 1 }

/-- The task gets an answer and goes on. -/
def reply (state : State) (event : Event Effect Response) : Option State :=
  (state.execution.step event).map fun execution => { state with execution := execution }

/-- `client_handler`; the return code of `se_task_create` is ignored. -/
def create (state : State) (rc : Int) : State :=
  { state with task := if rc < 0 then .gone else .running }

def init (state : State) (calls : InitCalls) : Option State :=
  { state.use with stream := (initMsgStream calls).2 }.reply
    ⟨.initMsgStream, (initMsgStream calls).1⟩

def close (state : State) : Option State :=
  { state with closes := state.closes + 1 }.reply ⟨.closeFd, ()⟩

/-- `msg_stream_do_io` up to its wait. -/
def beginIo (state : State) (stream : MsgStream) (direction : Stream.Direction)
    (buf : List UInt8) (usec : Nat) (answers : BeginAnswers) : Option State :=
  match msgStreamDoIoBegin stream direction buf usec state.fresh answers with
  | (stream, .returned rc) =>
      { state.use with stream := some stream, fresh := state.fresh + 1 }.reply
        ⟨.streamIo direction buf usec, Awaited.value (rc, buf)⟩
  | (stream, .waiting) =>
      some { state.use with stream := some stream, fresh := state.fresh + 1, blocked := true }

/-- `msg_stream_do_io` after its wait, unless the wait goes on. -/
def wake (state : State) (stream : MsgStream) (woken : Wake) (setEvents : Int) : Option State :=
  match state.blocked, state.pending with
  | true, some (.streamIo direction buf usec) =>
      if woken = .asleep then some state
      else
        let finished := msgStreamDoIoFinish stream (woken == .cancelled) setEvents
        { state with stream := some finished.1, blocked := false }.reply
          ⟨.streamIo direction buf usec,
            match woken with
            | .cancelled => Awaited.cancelled
            | _ => Awaited.value (finished.2, finished.1.buf)⟩
  | _, _ => some state

/-- The state after a handler of the stream has run, before a waiting call goes on. The
two handlers use the descriptor, an interrupt does not. -/
def dispatched (state : State) (stream : MsgStream) (event : Stream.Event)
    (dispatched : Stream.Dispatched) : State :=
  let written := if stream.state = .write then dispatched.moved.toList else []
  { state with
    stream := some dispatched.stream
    strays := if event = .interrupt then state.strays else state.use.strays
    sent := state.sent ++ written }

/-- A dispatch of the event loop that concerns the stream. -/
def dispatch (state : State) (stream : MsgStream) (event : Stream.Event) (setEvents : Int) :
    Option State :=
  (Stream.dispatch state.disabled stream event).bind fun dispatched =>
    (state.dispatched stream event dispatched).wake dispatched.stream dispatched.wake setEvents

/-- The release of a source closes the descriptor. -/
def tail (state : State) (stream : MsgStream) (answers : TailAnswers) : Option State :=
  let ended := Stream.shutdownTail stream answers
  let closes := if stream.source = true ∧ ended.1.source = false then 1 else 0
  { state.use with stream := some ended.1, closes := state.closes + closes }.reply
    ⟨.shutdownTail, ended.2⟩

/-- What the other calls change in the task and in its stream. -/
def observe (state : State) : Effect → State
  | .regStreamInterrupt reason =>
      { state with stream := state.stream.map fun stream => Stream.regInterrupt stream reason }
  | .registerCleanup .destroyMsgStream => { state with registered := true }
  | .setInterruptDisabled disabled => { state with disabled := disabled }
  | _ => state

/-- The end of the task with its cleanup, of which `destroy_msg_stream` is the part that
concerns the connection. -/
def finish (state : State) : State :=
  match state.registered, state.stream with
  | true, some stream =>
      { state with
        task := .gone
        stream := none
        leftover := destroyMsgStream stream
        closes := state.closes + if stream.source then 1 else 0 }
  | _, _ => { state with task := .gone }

/-- A timer fires whose stream was freed: its handler uses the stream's source. -/
def late (state : State) (id : TimerId) : State :=
  { state with leftover := state.leftover.erase id, strays := state.strays + 1 }

end State

/-- The calls that the stream answers, and the two on the bare descriptor. -/
def Attached : Effect → Bool
  | .initMsgStream | .closeFd | .streamIo _ _ _ | .drainStream | .shutdownTail => true
  | _ => false

/-- A message on a SEQPACKET socket is written as a whole. -/
def Whole (stream : MsgStream) : Stream.SysResult → Prop
  | .done data => stream.state = .write → data = stream.buf
  | .failed _ => True

instance (stream : MsgStream) : DecidablePred (Whole stream)
  | .done data => inferInstanceAs (Decidable (stream.state = .write → data = stream.buf))
  | .failed _ => isTrue trivial

/-- What the kernel can report: readiness only of a kind that was asked for. -/
def Reports (stream : MsgStream) : Stream.Event → Prop
  | .handler revents answers =>
      (revents.epollin = true → stream.events = some .read) ∧
        (revents.epollout = true → stream.events = some .write) ∧ Whole stream answers.io
  | _ => True

instance (stream : MsgStream) : DecidablePred (Reports stream)
  | .handler revents answers => inferInstanceAs (Decidable (
      (revents.epollin = true → stream.events = some .read) ∧
        (revents.epollout = true → stream.events = some .write) ∧ Whole stream answers.io))
  | .timer _ _ => isTrue trivial
  | .interrupt => isTrue trivial

/-- A step of the connection, with the answers that it gets. -/
inductive Label
  | create (rc : Int)
  | init (calls : InitCalls)
  | close
  | io (answers : BeginAnswers)
  | drain (recvs : List Recv)
  | tail (answers : TailAnswers)
  | call (event : Event Effect Response)
  | event (event : Stream.Event) (setEvents : Int)
  | finish
  | late (id : TimerId)

/-- The task makes its calls while it runs and does not wait for the stream. -/
def State.acts (state : State) : Bool := state.task == .running && !state.blocked

def step (state : State) : Label → Option State
  | .create rc => if state.task = .accepted then some (state.create rc) else none
  | .init calls => if state.acts ∧ calls.Possible then state.init calls else none
  | .close => if state.acts then state.close else none
  | .io answers =>
      match state.pending, state.stream with
      | some (.streamIo direction buf usec), some stream =>
          if state.acts then state.beginIo stream direction buf usec answers else none
      | _, _ => none
  | .drain recvs =>
      if state.acts then (Stream.drain recvs).bind fun rc => state.use.reply ⟨.drainStream, rc⟩
      else none
  | .tail answers =>
      match state.stream with
      | some stream => if state.acts then state.tail stream answers else none
      | none => none
  | .call event =>
      if state.acts ∧ Attached event.effect = false then
        (state.observe event.effect).reply event
      else none
  | .event event setEvents =>
      match state.stream with
      | some stream =>
          if Reports stream event then state.dispatch stream event setEvents else none
      | none => none
  | .finish =>
      if state.acts ∧ state.pending = none then some state.finish else none
  | .late id => if id ∈ state.leftover then some (state.late id) else none

section Inversion

variable {state next : State} {event : Event Effect Response}

/-- An answer that the task goes on with. -/
def Answered (state : State) (event : Event Effect Response) (next : State) : Prop :=
  ∃ execution, state.execution.step event = some execution ∧
    next = { state with execution := execution }

theorem reply_eq_some : state.reply event = some next ↔ Answered state event next := by
  rw [State.reply, Option.map_eq_some_iff]
  exact exists_congr fun execution => and_congr_right fun _ => eq_comm

@[simp] theorem observe_execution (state : State) (effect : Effect) :
    (state.observe effect).execution = state.execution := by
  unfold State.observe
  split <;> rfl

theorem alive_of_acts (acts : state.acts = true) : state.task ≠ .gone := by
  intro gone
  rw [State.acts, gone] at acts
  cases acts

theorem idle_of_acts (acts : state.acts = true) : state.blocked = false := by
  simpa using (Bool.and_eq_true_iff.mp acts).2

theorem initMsgStream_cases {calls : InitCalls} (possible : calls.Possible) :
    (initMsgStream calls).1 < 0 ∧ (initMsgStream calls).2 = none ∨
      ¬ (initMsgStream calls).1 < 0 ∧ (initMsgStream calls).2 = some Stream.initMsgStream := by
  unfold initMsgStream
  split
  · rename_i errno found
    have positive := possible errno found
    exact .inl ⟨by omega, rfl⟩
  split
  · exact .inl ⟨‹_›, rfl⟩
  split
  · exact .inl ⟨by decide, rfl⟩
  split
  · exact .inl ⟨‹_›, rfl⟩
  split
  · exact .inl ⟨‹_›, rfl⟩
  · exact .inr ⟨‹_›, rfl⟩

/-- The start of a transfer: the call returns at once, or it waits. -/
theorem io_cases {answers : BeginAnswers} (taken : step state (.io answers) = some next) :
    ∃ direction buf usec stream begun, state.acts = true ∧
      state.pending = some (.streamIo direction buf usec) ∧ state.stream = some stream ∧
      ((∃ rc, msgStreamDoIoBegin stream direction buf usec state.fresh answers =
            (begun, .returned rc) ∧
          Answered { state.use with stream := some begun, fresh := state.fresh + 1 }
            ⟨.streamIo direction buf usec, Awaited.value (rc, buf)⟩ next) ∨
        msgStreamDoIoBegin stream direction buf usec state.fresh answers = (begun, .waiting) ∧
          next = { state.use with
            stream := some begun, fresh := state.fresh + 1, blocked := true }) := by
  simp only [step] at taken
  split at taken
  · rename_i direction buf usec stream pending held
    obtain ⟨acts, taken⟩ := Option.ite_none_right_eq_some.mp taken
    unfold State.beginIo at taken
    split at taken
    · rename_i begun rc run
      exact ⟨direction, buf, usec, stream, begun, acts, pending, held,
        .inl ⟨rc, run, reply_eq_some.mp taken⟩⟩
    · rename_i begun run
      cases taken
      exact ⟨direction, buf, usec, stream, begun, acts, pending, held, .inr ⟨run, rfl⟩⟩
  · cases taken

theorem tail_cases {answers : TailAnswers} (taken : step state (.tail answers) = some next) :
    ∃ stream, state.acts = true ∧ state.stream = some stream ∧
      let ended := Stream.shutdownTail stream answers
      Answered { state.use with
          stream := some ended.1
          closes := state.closes +
            if stream.source = true ∧ ended.1.source = false then 1 else 0 }
        ⟨.shutdownTail, ended.2⟩ next := by
  simp only [step] at taken
  split at taken
  · rename_i stream held
    obtain ⟨acts, replied⟩ := Option.ite_none_right_eq_some.mp taken
    exact ⟨stream, acts, held, reply_eq_some.mp replied⟩
  · cases taken

/-- A dispatch: no call waits or it keeps waiting, or else the waiting call returns. -/
theorem event_cases {event : Stream.Event} {setEvents : Int}
    (taken : step state (.event event setEvents) = some next) :
    ∃ stream dispatched, state.stream = some stream ∧ Reports stream event ∧
      Stream.dispatch state.disabled stream event = some dispatched ∧
      ((∀ direction buf usec, state.blocked = true →
            state.pending = some (.streamIo direction buf usec) → dispatched.wake = .asleep) ∧
          next = state.dispatched stream event dispatched ∨
        ∃ direction buf usec, state.blocked = true ∧
          state.pending = some (.streamIo direction buf usec) ∧ dispatched.wake ≠ .asleep ∧
          let finished :=
            msgStreamDoIoFinish dispatched.stream (dispatched.wake == .cancelled) setEvents
          Answered { state.dispatched stream event dispatched with
              stream := some finished.1, blocked := false }
            ⟨.streamIo direction buf usec,
              match dispatched.wake with
              | .cancelled => Awaited.cancelled
              | _ => Awaited.value (finished.2, finished.1.buf)⟩ next) := by
  simp only [step] at taken
  split at taken
  · rename_i stream held
    obtain ⟨reports, taken⟩ := Option.ite_none_right_eq_some.mp taken
    obtain ⟨dispatched, delivered, taken⟩ := Option.bind_eq_some_iff.mp taken
    refine ⟨stream, dispatched, held, reports, delivered, ?_⟩
    unfold State.wake at taken
    split at taken
    · rename_i direction buf usec blocked pending
      split at taken
      · rename_i asleep
        cases taken
        exact .inl ⟨fun _ _ _ _ _ => asleep, rfl⟩
      · rename_i awake
        exact .inr ⟨direction, buf, usec, blocked, pending, awake, reply_eq_some.mp taken⟩
    · rename_i idle
      cases taken
      exact .inl ⟨fun direction buf usec blocked pending =>
        absurd pending (idle direction buf usec blocked), rfl⟩
  · cases taken

theorem Answered.execution (answered : Answered state event next) :
    state.execution.step event = some next.execution := by
  obtain ⟨execution, advanced, rfl⟩ := answered
  exact advanced

theorem finish_execution (state : State) : state.finish.execution = state.execution := by
  unfold State.finish
  split <;> rfl

/-- On the side of the task a step is one of the handler's, or none. -/
theorem step_execution {label : Label} (taken : step state label = some next) :
    next.execution = state.execution ∨
      ∃ event, state.execution.step event = some next.execution := by
  cases label with
  | create rc =>
      obtain ⟨-, created⟩ := Option.ite_none_right_eq_some.mp taken
      cases created
      exact .inl rfl
  | init calls =>
      obtain ⟨-, replied⟩ := Option.ite_none_right_eq_some.mp taken
      exact .inr ⟨_, (reply_eq_some.mp replied).execution⟩
  | close =>
      obtain ⟨-, replied⟩ := Option.ite_none_right_eq_some.mp taken
      exact .inr ⟨_, (reply_eq_some.mp replied).execution⟩
  | io answers =>
      obtain ⟨_, _, _, _, _, -, -, -, returned | ⟨-, rfl⟩⟩ := io_cases taken
      · obtain ⟨rc, -, answered⟩ := returned
        exact .inr ⟨_, answered.execution⟩
      · exact .inl rfl
  | drain recvs =>
      obtain ⟨-, drained⟩ := Option.ite_none_right_eq_some.mp taken
      obtain ⟨rc, -, replied⟩ := Option.bind_eq_some_iff.mp drained
      exact .inr ⟨_, (reply_eq_some.mp replied).execution⟩
  | tail answers =>
      obtain ⟨_, -, -, answered⟩ := tail_cases taken
      exact .inr ⟨_, answered.execution⟩
  | call event =>
      obtain ⟨-, replied⟩ := Option.ite_none_right_eq_some.mp taken
      have advanced := (reply_eq_some.mp replied).execution
      rw [observe_execution] at advanced
      exact .inr ⟨event, advanced⟩
  | event event setEvents =>
      obtain ⟨_, _, -, -, -, ⟨-, rfl⟩ | ⟨_, _, _, -, -, -, answered⟩⟩ :=
        event_cases taken
      · exact .inl rfl
      · exact .inr ⟨_, answered.execution⟩
  | finish =>
      obtain ⟨-, finished⟩ := Option.ite_none_right_eq_some.mp taken
      cases finished
      exact .inl (finish_execution state)
  | late id =>
      obtain ⟨-, fired⟩ := Option.ite_none_right_eq_some.mp taken
      cases fired
      exact .inl rfl

end Inversion

/-- What a discipline says of the handler it says of the task of a connection, with
whatever its calls keep. -/
theorem step_follows {S : Type} {rules : Discipline Effect Response S} {initial : S}
    {inv : S → Prop} {post : S → Unit → Prop} {state next : State} {label : Label}
    (kept : ∀ state effect answer, inv state → rules.may state effect →
      inv (rules.after state effect answer))
    (follows : rules.Follows (rules.reached initial state.execution.history)
      state.execution.program post)
    (holds : inv (rules.reached initial state.execution.history))
    (taken : step state label = some next) :
    rules.Follows (rules.reached initial next.execution.history) next.execution.program post ∧
      inv (rules.reached initial next.execution.history) := by
  rcases step_execution taken with same | ⟨event, advanced⟩
  · rw [same]
    exact ⟨follows, holds⟩
  · obtain ⟨rest, moved, is⟩ := Option.map_eq_some_iff.mp advanced
    have allowed := follows.advance moved
    rw [← is]
    exact ⟨allowed.2, kept _ event.effect event.answer holds allowed.1⟩

end TrafficLimitd.Connection
