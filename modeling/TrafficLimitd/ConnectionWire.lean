import TrafficLimitd.ConnectionProgram
import TrafficLimitd.HandlerSpeech
import TrafficLimitd.StreamTruth

set_option autoImplicit false

/- What reaches the socket of a connection. The stream's handler writes while the event
loop runs, from the buffer that a call has left in the stream; these are the handler's own
messages as long as the event mask is cleared when a call ends. -/
namespace TrafficLimitd.Stream

/-- The handler can move nothing: the mask is clear, or the stream is over. -/
def MsgStream.Quiet (stream : MsgStream) : Prop :=
  stream.events = none ∨ stream.state = .ended ∨ stream.state = .err

/-- The mask can be cleared when the event is dispatched. -/
def Event.Clears : Event → Prop
  | .handler _ answers => 0 ≤ answers.setEvents
  | .timer _ setEvents => 0 ≤ setEvents
  | .interrupt => True

instance : DecidablePred Event.Clears
  | .handler _ answers => inferInstanceAs (Decidable (0 ≤ answers.setEvents))
  | .timer _ setEvents => inferInstanceAs (Decidable (0 ≤ setEvents))
  | .interrupt => isTrue trivial

section Quiet

variable {stream : MsgStream} {direction : Direction} {buf : List UInt8}
  {target : Option InterruptReason} {revents : Revents} {answers : HandlerAnswers}

theorem cancelTimer_events (stream : MsgStream) : stream.cancelTimer.events = stream.events := by
  unfold MsgStream.cancelTimer
  split <;> rfl

theorem MsgStream.Quiet.cancelTimer (quiet : stream.Quiet) : stream.cancelTimer.Quiet := by
  unfold MsgStream.Quiet
  rw [cancelTimer_events, cancelTimer_state]
  exact quiet

theorem hangUp_quiet (stream : MsgStream) (epollhup : Bool) (setEnabled : Int) :
    (hangUp stream epollhup setEnabled).Quiet := by
  refine .inr ?_
  rw [hangUp_state]
  cases epollhup with
  | true => exact .inl rfl
  | false => exact .inr rfl

theorem finishTransfer_quiet (stream : MsgStream) (moved : Option (List UInt8)) (rc error : Int)
    {setEvents : Int} (cleared : 0 ≤ setEvents) :
    (finishTransfer stream moved rc error setEvents).stream.Quiet := by
  unfold finishTransfer
  dsimp only
  rw [if_neg (by omega)]
  exact .inl rfl

/-- Readiness is reported only for a mask that is set, which a quiet stream has only when
it is over. -/
theorem handler_quiet (quiet : stream.Quiet)
    (readable : revents.epollin = true → stream.events = some .read)
    (writable : revents.epollout = true → stream.events = some .write)
    (answers : HandlerAnswers) :
    (msgStreamHandler stream revents answers).stream.Quiet ∧
      (msgStreamHandler stream revents answers).moved = none := by
  by_cases only : revents.onlyHangup = true
  · rw [msgStreamHandler_hangUp stream answers only]
    exact ⟨hangUp_quiet _ _ _, rfl⟩
  · have set : stream.events ≠ none := by
      intro clear
      rw [clear] at readable writable
      apply only
      simpa [Revents.onlyHangup] using And.intro readable writable
    have gone := quiet.resolve_left set
    have idle : stream.cancelTimer.state ≠ .read ∧ stream.cancelTimer.state ≠ .write := by
      rw [cancelTimer_state]
      rcases gone with ended | failed
      · simp [ended]
      · simp [failed]
    have ignored : msgStreamHandler stream revents answers =
        ⟨stream.cancelTimer, false, none, none⟩ := by
      unfold msgStreamHandler
      dsimp only
      rw [if_neg idle.1, if_neg idle.2]
      split
      · rfl
      · rename_i notIn
        rw [if_pos (by simpa [Revents.onlyHangup, notIn] using only)]
    rw [ignored]
    exact ⟨quiet.cancelTimer, rfl⟩

/-- A transfer has to be tried again, or it ends and has moved what the system call
moved. -/
theorem transfer_cases (pending : Pending stream direction buf target)
    (cleared : 0 ≤ answers.setEvents) :
    transfer direction stream answers = ⟨stream, false, none, none⟩ ∨
      (transfer direction stream answers).eventSet = true ∧
        (transfer direction stream answers).stream.Quiet ∧
        ∀ data ∈ (transfer direction stream answers).moved, answers.io = .done data ∧ buf ≠ [] := by
  unfold transfer
  split
  · exact .inr ⟨rfl, finishTransfer_quiet _ _ _ _ cleared, nofun⟩
  rename_i long
  have nonempty : buf ≠ [] := by
    rintro rfl
    exact long pending.sameLen
  split
  · rename_i data done
    refine .inr ⟨rfl, finishTransfer_quiet _ _ _ _ cleared, ?_⟩
    rintro _ ⟨⟩
    exact ⟨done, nonempty⟩
  split
  · exact .inl rfl
  · exact .inr ⟨rfl, finishTransfer_quiet _ _ _ _ cleared, nofun⟩

/-- What the handler does to a call that waits. -/
theorem handler_waiting (pending : Pending stream direction buf target)
    (cleared : 0 ≤ answers.setEvents) :
    msgStreamHandler stream revents answers = ⟨stream.cancelTimer, false, none, none⟩ ∨
      (msgStreamHandler stream revents answers).eventSet = true ∧
        (msgStreamHandler stream revents answers).stream.Quiet ∧
        ∀ data ∈ (msgStreamHandler stream revents answers).moved,
          answers.io = .done data ∧ buf ≠ [] := by
  by_cases only : revents.onlyHangup = true
  · rw [msgStreamHandler_hangUp stream answers only]
    exact .inr ⟨rfl, hangUp_quiet _ _ _, nofun⟩
  by_cases ready : direction.Ready revents
  · rw [handler_ready answers pending ready]
    exact transfer_cases pending.cancelTimer cleared
  · exact .inl (handler_idle answers pending only ready)

theorem ioTimerHandler_quiet (stream : MsgStream) (id : TimerId) {setEvents : Int}
    (cleared : 0 ≤ setEvents) : (ioTimerHandler stream id setEvents).stream.Quiet := by
  unfold ioTimerHandler
  dsimp only
  rw [if_neg (by omega)]
  refine .inl ?_
  rw [cancelTimer_events]

theorem begin_quiet {usec : Nat} {fresh : TimerId} {given : BeginAnswers} {begun : MsgStream}
    {rc : Int} (quiet : stream.Quiet)
    (run : msgStreamDoIoBegin stream direction buf usec fresh given = (begun, .returned rc)) :
    begun.Quiet := by
  unfold msgStreamDoIoBegin at run
  split at run
  · cases run
    exact quiet
  rename_i sound
  split at run
  · cases run
    exact quiet
  rename_i live
  have clear : stream.events = none := by
    rcases quiet with clear | ended | failed
    · exact clear
    · exact absurd ended live
    · exact absurd failed sound
  dsimp only at run
  split at run
  · cases run
    exact .inl clear
  split at run
  · cases run
    refine .inl ?_
    unfold MsgStream.armTimer
    split <;> exact clear
  · cases run

theorem finish_quiet {cancelled : Bool} {setEvents : Int} (cleared : 0 ≤ setEvents)
    (quiet : cancelled = false → stream.Quiet) :
    (msgStreamDoIoFinish stream cancelled setEvents).1.Quiet := by
  cases cancelled with
  | false => exact quiet rfl
  | true =>
      refine .inl ?_
      change (stream.cancelTimer.setIoEvents none setEvents).events = none
      rw [MsgStream.setIoEvents, if_neg (by omega)]

theorem shutdownTail_quiet (tail : TailAnswers) (quiet : stream.Quiet) :
    (shutdownTail stream tail).1.Quiet := by
  have disabled : ({ stream with enabled := false } : MsgStream).cancelTimer.Quiet := by
    apply MsgStream.Quiet.cancelTimer
    exact quiet
  unfold shutdownTail
  split
  · exact quiet
  dsimp only
  split
  · exact disabled
  split
  · exact disabled
  split
  · exact .inr (.inl rfl)
  · rename_i failed
    exact .inr (.inr (not_not.mp failed))

end Quiet

end TrafficLimitd.Stream

namespace TrafficLimitd.Connection

open Coroutine
open Handler (Effect Response Host Pid Speech)
open TrafficLimitd.Stream (MsgStream Dispatched)

/-- Every call that clears the event mask succeeds: in the two handlers, and at the end of
a call that was interrupted. -/
def Cleared : Label → Prop
  | .event event setEvents => event.Clears ∧ 0 ≤ setEvents
  | _ => True

instance : DecidablePred Cleared
  | .event event setEvents => inferInstanceAs (Decidable (event.Clears ∧ 0 ≤ setEvents))
  | .create _ | .init _ | .close | .io _ | .drain _ | .tail _ | .call _ | .finish | .late _ =>
      isTrue trivial

/-- What was sent is among the handler's attempts, in their order. While a call waits the
stream has the buffer of that call, else it is quiet. -/
structure Wired (state : State) : Prop where
  waits : state.blocked = true → ∃ direction buf usec stream target,
    state.pending = some (.streamIo direction buf usec) ∧ state.stream = some stream ∧
      Stream.Pending stream direction buf target
  quiet : state.blocked = false → ∀ stream ∈ state.stream, stream.Quiet
  sent : state.sent.Sublist (Speech.of state.execution.history).attempts

section Dispatch

variable {stream : MsgStream} {event : Stream.Event} {dispatched : Dispatched} {disabled : Bool}

theorem dispatch_quiet (quiet : stream.Quiet) (reports : Reports stream event)
    (clears : event.Clears) (taken : Stream.dispatch disabled stream event = some dispatched) :
    dispatched.stream.Quiet ∧ dispatched.moved = none := by
  cases event with
  | handler revents answers =>
      obtain ⟨-, run⟩ := Option.ite_none_right_eq_some.mp taken
      cases run
      exact Stream.handler_quiet quiet reports.1 reports.2.1 answers
  | timer id setEvents =>
      obtain ⟨-, run⟩ := Option.ite_none_right_eq_some.mp taken
      cases run
      exact ⟨Stream.ioTimerHandler_quiet stream id clears, rfl⟩
  | interrupt =>
      cases taken
      exact ⟨quiet, rfl⟩

/-- A dispatch leaves a waiting call as it is, or ends it and has written its buffer or
nothing. -/
theorem dispatch_waiting {direction : Stream.Direction} {buf : List UInt8}
    {target : Option InterruptReason} (pending : Stream.Pending stream direction buf target)
    (reports : Reports stream event) (clears : event.Clears)
    (taken : Stream.dispatch disabled stream event = some dispatched) :
    dispatched.wake = .asleep ∧ Stream.Pending dispatched.stream direction buf target ∧
        dispatched.moved = none ∨
      dispatched.wake ≠ .asleep ∧ (dispatched.wake ≠ .cancelled → dispatched.stream.Quiet) ∧
        ∀ data ∈ dispatched.moved, buf ≠ [] ∧ (direction = .write → data = buf) := by
  cases event with
  | handler revents answers =>
      obtain ⟨-, run⟩ := Option.ite_none_right_eq_some.mp taken
      cases run
      rcases Stream.handler_waiting pending clears with ignored | ⟨set, quiet, moved⟩
      · rw [ignored]
        exact .inl ⟨rfl, pending.cancelTimer, rfl⟩
      · refine .inr ⟨Stream.Handled.dispatched_awake set _, fun _ => quiet, fun data member => ?_⟩
        obtain ⟨done, nonempty⟩ := moved data member
        refine ⟨nonempty, ?_⟩
        rintro rfl
        have whole : Whole stream answers.io := reports.2.2
        rw [done] at whole
        exact (whole pending.sameState).trans pending.sameBuf
  | timer id setEvents =>
      obtain ⟨-, run⟩ := Option.ite_none_right_eq_some.mp taken
      cases run
      exact .inr ⟨Stream.Handled.dispatched_awake rfl _,
        fun _ => Stream.ioTimerHandler_quiet stream id clears, nofun⟩
  | interrupt =>
      cases taken
      cases disabled with
      | true => exact .inl ⟨rfl, pending, rfl⟩
      | false => exact .inr ⟨nofun, fun running => absurd rfl running, nofun⟩

end Dispatch

section Step

variable {state middle next : State} {event : Event Effect Response}

theorem quiet_of_bare (bare : state.stream = none) : ∀ stream ∈ state.stream, stream.Quiet := by
  intro stream held
  cases bare.symm.trans held

/-- An answer to a call that has written nothing, or its own buffer. -/
theorem Answered.wired (answered : Answered middle event next) (idle : middle.blocked = false)
    (quiet : ∀ stream ∈ middle.stream, stream.Quiet)
    (sent : middle.sent.Sublist
      ((Speech.of middle.execution.history).after event.effect event.answer).attempts) :
    Wired next := by
  obtain ⟨executed, advanced, rfl⟩ := answered
  obtain ⟨rest, -, rfl⟩ := Option.map_eq_some_iff.mp advanced
  refine ⟨fun blocked => ?_, fun _ => quiet, sent⟩
  cases idle.symm.trans blocked

/-- An answer that finds what was sent as it was. -/
theorem Answered.wired_silent (answered : Answered middle event next) (wired : Wired state)
    (idle : middle.blocked = false) (quiet : ∀ stream ∈ middle.stream, stream.Quiet)
    (sent : middle.sent = state.sent) (execution : middle.execution = state.execution) :
    Wired next := by
  refine answered.wired idle quiet ?_
  rw [sent, execution]
  exact wired.sent.trans (Speech.attempts_sublist _ _ _)

theorem io_wired {answers : Stream.BeginAnswers} (wired : Wired state)
    (taken : step state (.io answers) = some next) : Wired next := by
  obtain ⟨direction, buf, usec, stream, begun, acts, pending, held, outcome⟩ := io_cases taken
  have idle := idle_of_acts acts
  have quiet := wired.quiet idle stream held
  rcases outcome with ⟨rc, run, answered⟩ | ⟨run, rfl⟩
  · refine answered.wired_silent wired idle ?_ rfl rfl
    rintro _ ⟨⟩
    exact Stream.begin_quiet quiet run
  · refine ⟨fun _ => ?_, Bool.noConfusion, wired.sent⟩
    exact ⟨direction, buf, usec, begun, stream.interrupt, pending, rfl, Stream.begin_pending run⟩

theorem call_wired {event : Event Effect Response} (wired : Wired state)
    (taken : step state (.call event) = some next) : Wired next := by
  obtain ⟨⟨acts, -⟩, replied⟩ := Option.ite_none_right_eq_some.mp taken
  have answered := reply_eq_some.mp replied
  have idle := idle_of_acts acts
  have quiet := wired.quiet idle
  obtain ⟨effect, answer⟩ := event
  cases effect with
  | regStreamInterrupt reason =>
      refine answered.wired_silent wired idle ?_ rfl rfl
      intro stream registered
      obtain ⟨before, held, rfl⟩ := Option.map_eq_some_iff.mp registered
      exact quiet before held
  | registerCleanup cleanup =>
      cases cleanup <;> exact answered.wired_silent wired idle quiet rfl rfl
  | _ => exact answered.wired_silent wired idle quiet rfl rfl

/-- A dispatch while no call waits sends nothing. -/
theorem event_wired_idle {event : Stream.Event} {setEvents : Int} (wired : Wired state)
    (cleared : Cleared (.event event setEvents)) (idle : state.blocked = false)
    (taken : step state (.event event setEvents) = some next) : Wired next := by
  obtain ⟨stream, dispatched, held, reports, delivered, outcome⟩ := event_cases taken
  rcases outcome with ⟨-, rfl⟩ | ⟨_, _, _, blocked, -⟩
  · obtain ⟨quiet, nothing⟩ :=
      dispatch_quiet (wired.quiet idle stream held) reports cleared.1 delivered
    refine ⟨fun blocked => ?_, fun _ => ?_, ?_⟩
    · cases idle.symm.trans blocked
    · rintro _ ⟨⟩
      exact quiet
    · change (state.sent ++ if stream.state = .write then dispatched.moved.toList else []).Sublist _
      rw [nothing, Option.toList_none, ite_self, List.append_nil]
      exact wired.sent
  · cases idle.symm.trans blocked

/-- A dispatch that ends a waiting call sends the buffer of that call or nothing. -/
theorem event_wired_waiting {event : Stream.Event} {setEvents : Int} (wired : Wired state)
    (cleared : Cleared (.event event setEvents)) (blocked : state.blocked = true)
    (taken : step state (.event event setEvents) = some next) : Wired next := by
  obtain ⟨stream, dispatched, held, reports, delivered, outcome⟩ := event_cases taken
  obtain ⟨direction, buf, usec, waited, target, pending, same, waits⟩ := wired.waits blocked
  cases held.symm.trans same
  have dispatches := dispatch_waiting waits reports cleared.1 delivered
  rcases outcome with ⟨asleep, rfl⟩ | ⟨direction', buf', usec', -, pending', awake, answered⟩
  · have sleeps := asleep direction buf usec blocked pending
    obtain ⟨-, still, nothing⟩ := dispatches.resolve_right fun ended => ended.1 sleeps
    refine ⟨fun _ => ⟨direction, buf, usec, dispatched.stream, target, pending, rfl, still⟩,
      fun idle => ?_, ?_⟩
    · cases blocked.symm.trans idle
    · change (state.sent ++ if stream.state = .write then dispatched.moved.toList else []).Sublist _
      rw [nothing, Option.toList_none, ite_self, List.append_nil]
      exact wired.sent
  · cases pending.symm.trans pending'
    obtain ⟨-, quiet, moved⟩ := dispatches.resolve_left fun sleeps => awake sleeps.1
    refine answered.wired rfl ?_ ?_
    · rintro _ ⟨⟩
      refine Stream.finish_quiet cleared.2 fun running => quiet ?_
      simpa using running
    · have written : (if stream.state = .write then dispatched.moved.toList else []) = [] ∨
          buf ≠ [] ∧ direction = .write ∧
            (if stream.state = .write then dispatched.moved.toList else []) = [buf] := by
        rw [waits.sameState]
        cases direction with
        | read => exact .inl rfl
        | write =>
            cases done : dispatched.moved with
            | none => exact .inl rfl
            | some data =>
                obtain ⟨nonempty, whole⟩ := moved data done
                rw [whole rfl]
                exact .inr ⟨nonempty, rfl, rfl⟩
      change (state.sent ++ if stream.state = .write then dispatched.moved.toList else []).Sublist _
      rcases written with nothing | ⟨nonempty, writes, whole⟩
      · rw [nothing, List.append_nil]
        exact wired.sent.trans (Speech.attempts_sublist _ _ _)
      · rw [whole]
        exact Speech.written_sublist wired.sent nonempty writes _

/-- One step keeps what was sent among the attempts. -/
theorem step_wired (state : State) (label : Label) (next : State) (wired : Wired state)
    (cleared : Cleared label) (taken : step state label = some next) : Wired next := by
  cases label with
  | create rc =>
      obtain ⟨-, created⟩ := Option.ite_none_right_eq_some.mp taken
      cases created
      exact ⟨wired.waits, wired.quiet, wired.sent⟩
  | init calls =>
      obtain ⟨⟨acts, possible⟩, replied⟩ := Option.ite_none_right_eq_some.mp taken
      refine (reply_eq_some.mp replied).wired_silent wired (idle_of_acts acts) ?_ rfl rfl
      intro stream made
      rcases initMsgStream_cases possible with ⟨-, nothing⟩ | ⟨-, something⟩
      · cases nothing.symm.trans made
      · cases something.symm.trans made
        exact .inl rfl
  | close =>
      obtain ⟨acts, replied⟩ := Option.ite_none_right_eq_some.mp taken
      have idle := idle_of_acts acts
      exact (reply_eq_some.mp replied).wired_silent wired idle (wired.quiet idle) rfl rfl
  | io answers => exact io_wired wired taken
  | drain recvs =>
      obtain ⟨acts, drained⟩ := Option.ite_none_right_eq_some.mp taken
      obtain ⟨rc, -, replied⟩ := Option.bind_eq_some_iff.mp drained
      have idle := idle_of_acts acts
      exact (reply_eq_some.mp replied).wired_silent wired idle (wired.quiet idle) rfl rfl
  | tail answers =>
      obtain ⟨stream, acts, held, answered⟩ := tail_cases taken
      have idle := idle_of_acts acts
      refine answered.wired_silent wired idle ?_ rfl rfl
      rintro _ ⟨⟩
      exact Stream.shutdownTail_quiet answers (wired.quiet idle stream held)
  | call event => exact call_wired wired taken
  | event event setEvents =>
      cases waits : state.blocked with
      | false => exact event_wired_idle wired cleared waits taken
      | true => exact event_wired_waiting wired cleared waits taken
  | finish =>
      obtain ⟨⟨acts, -⟩, finished⟩ := Option.ite_none_right_eq_some.mp taken
      cases finished
      unfold State.finish
      split
      · refine ⟨fun blocked => ?_, fun _ => quiet_of_bare rfl, wired.sent⟩
        cases (idle_of_acts acts).symm.trans blocked
      · exact ⟨wired.waits, wired.quiet, wired.sent⟩
  | late id =>
      obtain ⟨-, fired⟩ := Option.ite_none_right_eq_some.mp taken
      cases fired
      exact ⟨wired.waits, wired.quiet, wired.sent⟩

end Step

/-- What a connection sends are messages of its handler, log lines and after them at most
one message of another kind. -/
theorem sent_orderly {host : Host} (prints : host.Prints) {pid : Pid} {labels : List Label}
    {state : State} (cleared : Run.Meets step (fun _ => Cleared) (start host pid) labels)
    (ran : Run.exec step (start host pid) labels = some state) :
    ∃ messages : List Message, state.sent = messages.map Message.bytes ∧ Orderly messages ∧
      ∀ message ∈ messages, (Speech.of state.execution.history).Allows message := by
  have begins : Wired (start host pid) :=
    ⟨Bool.noConfusion, fun _ => quiet_of_bare rfl, List.Sublist.refl _⟩
  have wired := cleared.invariant Wired step_wired begins ran
  let Speaks (state : State) : Prop :=
    Speech.rules.Follows (Speech.of state.execution.history) state.execution.program
      (fun _ _ => True) ∧ (Speech.of state.execution.history).Voiced
  have listens : Speaks (start host pid) :=
    ⟨Speech.clientHandlerAsync_follows prints pid, [], rfl, trivial,
      fun _ => List.forall_mem_nil _, List.forall_mem_nil _⟩
  have speaks : Speaks state := by
    refine Run.exec_invariant Speaks (fun state label next holds taken => ?_) listens ran
    exact step_follows (fun _ _ answer voiced may => Speech.voiced_after voiced may answer)
      holds.1 holds.2 taken
  obtain ⟨attempted, same, orderly, -, allowed⟩ := speaks.2
  have sent := wired.sent
  rw [same] at sent
  obtain ⟨messages, part, is⟩ := List.sublist_map_iff.mp sent
  exact ⟨messages, is, orderly.sublist part, fun message member =>
    allowed message (part.subset member)⟩

end TrafficLimitd.Connection
