import TrafficLimitd.ConnectionDescriptor
import TrafficLimitd.ConnectionWire

set_option autoImplicit false

/- The messages of a connection on the side of the client, which receives them one by one
through a socket that keeps their order and their boundaries. -/
namespace TrafficLimitd.Client

/-- The datagram that a `recv` returns; an empty result is the end of the stream. -/
def Label.datagram : Label → Option (List UInt8)
  | .read (.ok buf) => if buf = [] then none else some buf
  | _ => none

def received (labels : List Label) : List (List UInt8) := labels.filterMap Label.datagram

/-- The response that was received and is not handled yet. -/
def Phase.atHand : Phase → List (List UInt8)
  | .received buf => [buf]
  | _ => []

/-- The client is on the way to `execvp`. -/
def Phase.goesAhead : Phase → Bool
  | .proceeding | .executing => true
  | _ => false

/-- What was heard is what the client has read of the datagrams that it has handled, and
it goes ahead only when told so. -/
structure Hears (labels : List Label) (state : State) : Prop where
  handled : ∃ bufs, received labels = bufs ++ state.phase.atHand ∧
    bufs.map decode = state.heard.map some
  proceeds : state.phase.goesAhead = true → .proceed ∈ state.heard

section Step

variable {options : Options} {past : List Label} {state next : State} {label : Label}

theorem received_append (past : List Label) (label : Label) :
    received (past ++ [label]) = received past ++ label.datagram.toList := by
  rw [received, List.filterMap_append]
  cases given : label.datagram <;> simp [received, given]

/-- A step that neither receives nor handles a response. -/
theorem Hears.silent (hears : Hears past state) (nothing : label.datagram = none)
    (heard : next.heard = state.heard) (atHand : next.phase.atHand = state.phase.atHand)
    (ahead : next.phase.goesAhead = true → state.phase.goesAhead = true) :
    Hears (past ++ [label]) next := by
  obtain ⟨bufs, same, decoded⟩ := hears.handled
  constructor
  · refine ⟨bufs, ?_, ?_⟩
    · rw [received_append, nothing, Option.toList_none, List.append_nil, atHand]
      exact same
    · rw [heard]
      exact decoded
  · intro goes
    rw [heard]
    exact hears.proceeds (ahead goes)

theorem run_hears (hears : Hears past state) (ran : state.run options = some next) :
    Hears (past ++ [.run]) next := by
  unfold State.run at ran
  split at ran
  · rename_i phase
    cases ran
    exact hears.silent rfl rfl (by rw [phase]; rfl) nofun
  · rename_i buf phase
    obtain ⟨outcome, found, rfl⟩ := Option.map_eq_some_iff.mp ran
    obtain ⟨bufs, same, decoded⟩ := hears.handled
    constructor
    · refine ⟨bufs ++ [buf], ?_, ?_⟩
      · have nothing : (state.handle outcome).phase.atHand = [] := by cases outcome <;> rfl
        rw [received_append, same, phase, nothing]
        rfl
      · change _ = (state.heard ++ [outcome]).map some
        rw [List.map_append, decoded, List.map_singleton, found, List.map_append]
        rfl
    · intro goes
      cases outcome with
      | proceed => exact List.mem_append_right _ (List.mem_singleton_self _)
      | _ => cases goes
  · rename_i phase
    split at ran
    all_goals
      cases ran
      exact hears.silent rfl rfl (by rw [phase]; rfl) nofun
  · cases ran

theorem peeked_hears {result : Except Int Nat} (hears : Hears past state)
    (phase : state.phase = .blocked) (ran : state.peeked result = some next) :
    Hears (past ++ [.peeked result]) next := by
  unfold State.peeked at ran
  repeat' split at ran
  all_goals
    cases ran
    exact hears.silent rfl rfl (by rw [phase]; rfl) nofun

theorem read_hears {len : Nat} {result : Except Int (List UInt8)} (hears : Hears past state)
    (phase : state.phase = .reading len) (ran : state.read len result = some next) :
    Hears (past ++ [.read result]) next := by
  cases result with
  | error errno =>
      simp only [State.read] at ran
      repeat' split at ran
      all_goals
        cases ran
        exact hears.silent rfl rfl (by rw [phase]; rfl) nofun
  | ok buf =>
      simp only [State.read] at ran
      split at ran
      · cases ran
      split at ran
      · rename_i ended
        cases ran
        exact hears.silent (if_pos ended) rfl (by rw [phase]; rfl) nofun
      · rename_i nonempty
        cases ran
        obtain ⟨bufs, same, decoded⟩ := hears.handled
        have none : state.phase.atHand = [] := by
          rw [phase]
          rfl
        have given : (Label.read (.ok buf)).datagram = some buf := if_neg nonempty
        refine ⟨⟨bufs, ?_, decoded⟩, nofun⟩
        rw [received_append, same, none, List.append_nil, given]
        rfl

/-- One step of the client. -/
theorem step_hears (past : List Label) (state : State) (label : Label) (next : State)
    (hears : Hears past state) (ran : step options state label = some next) :
    Hears (past ++ [label]) next := by
  cases label with
  | run => exact run_hears hears ran
  | peeked result =>
      simp only [step] at ran
      split at ran
      · exact peeked_hears hears ‹_› ran
      · cases ran
  | read result =>
      simp only [step] at ran
      split at ran
      · exact read_hears hears ‹_› ran
      · cases ran
  | restored result =>
      simp only [step] at ran
      split at ran
      · rename_i phase
        split at ran
        all_goals
          cases ran
          exact hears.silent rfl rfl (by rw [phase]; rfl) (fun _ => by rw [phase]; rfl)
      · cases ran
  | sigalrm =>
      obtain ⟨-, ran⟩ := Option.ite_none_right_eq_some.mp ran
      unfold State.sigalrm at ran
      split at ran
      · rename_i phase
        cases ran
        exact hears.silent rfl rfl (by rw [phase]; rfl) nofun
      · cases ran
      · cases ran
      · cases ran
        exact hears.silent rfl rfl rfl id

end Step

/-- The client hears the messages in their order, each as it was meant, and goes ahead
only if it was told so. -/
theorem heard_of_received {options : Options} {labels : List Label} {client : State}
    {messages : List Message} (readable : ∀ message ∈ messages, message.Readable)
    (ran : Run.exec (step options) .start labels = some client)
    (given : received labels <+: messages.map Message.bytes) :
    client.heard <+: messages.map Message.outcome ∧
      (client.phase = .executing → .proceed ∈ messages) := by
  have starts : Hears [] State.start := ⟨⟨[], rfl, rfl⟩, nofun⟩
  have hears : Hears labels client := Run.exec_history Hears step_hears starts ran
  obtain ⟨bufs, same, decoded⟩ := hears.handled
  obtain ⟨rest, whole⟩ := ((List.prefix_append bufs client.phase.atHand).trans
    (same ▸ given))
  have heard : client.heard <+: messages.map Message.outcome := by
    have all : (messages.map Message.bytes).map decode =
        (messages.map Message.outcome).map some := by
      rw [List.map_map, List.map_map]
      exact List.map_congr_left fun message member => decode_bytes (readable message member)
    rw [← whole, List.map_append, decoded] at all
    exact (List.prefix_map_iff_of_injective (Option.some_injective _)).mp ⟨_, all⟩
  refine ⟨heard, fun executing => ?_⟩
  have told : .proceed ∈ client.heard := by
    apply hears.proceeds
    rw [executing]
    rfl
  obtain ⟨message, member, outcome⟩ := List.mem_map.mp (heard.subset told)
  cases message with
  | proceed => exact member
  | _ => cases outcome

/-- A client that takes every datagram as it comes. -/
def listen (bufs : List (List UInt8)) : List Label :=
  bufs.flatMap fun buf => [.run, .peeked (.ok buf.length), .read (.ok buf), .run]

theorem received_listen {bufs : List (List UInt8)} (nonempty : ∀ buf ∈ bufs, buf ≠ []) :
    received (listen bufs) = bufs := by
  unfold received listen
  rw [List.filterMap_flatMap]
  have single : ∀ buf ∈ bufs, [.run, .peeked (.ok buf.length), .read (.ok buf), .run].filterMap
      Label.datagram = [buf] := by
    intro buf member
    have given : (Label.read (.ok buf)).datagram = some buf := if_neg (nonempty buf member)
    rw [List.filterMap_cons_none rfl, List.filterMap_cons_none rfl, List.filterMap_cons_some given]
    rfl
  rw [List.flatMap_congr single, List.flatMap_singleton']

/-- A message that is there when the client calls `recv` is heard. -/
theorem listen_hears (options : Options) {message : Message} (readable : message.Readable)
    (set : Bool) (heard : List Outcome) (rest : List (List UInt8)) :
    Run.exec (step options) ⟨.peeking, set, heard⟩ (listen (message.bytes :: rest)) =
      Run.exec (step options) (State.handle ⟨.received message.bytes, set, heard⟩ message.outcome)
        (listen rest) := by
  have nonempty := message.bytes_ne_nil
  have length : message.bytes.length ≠ 0 := mt List.length_eq_zero_iff.mp nonempty
  change Run.exec (step options) ⟨.peeking, set, heard⟩
    (.run :: .peeked (.ok message.bytes.length) :: .read (.ok message.bytes) :: .run ::
      listen rest) = _
  simp only [Run.exec_cons, step, State.run, State.peeked, State.read, if_neg length,
    if_neg (Nat.lt_irrefl _), if_neg nonempty, decode_bytes readable, Option.map_some,
    Option.bind_some]

theorem listen_hears_all (options : Options) {messages : List Message} (orderly : Orderly messages)
    (readable : ∀ message ∈ messages, message.Readable) (set : Bool) (heard : List Outcome) :
    ∃ client, Run.exec (step options) ⟨.peeking, set, heard⟩
        (listen (messages.map Message.bytes)) = some client ∧
      client.heard = heard ++ messages.map Message.outcome := by
  induction messages generalizing heard with
  | nil => exact ⟨_, rfl, (List.append_nil heard).symm⟩
  | cons message rest ih =>
      obtain ⟨first, others⟩ := List.forall_mem_cons.mp readable
      rw [List.map_cons, listen_hears options first]
      cases message with
      | log text =>
          obtain ⟨client, ran, all⟩ := ih orderly others (heard ++ [(Message.log text).outcome])
          rw [List.append_assoc] at all
          exact ⟨client, ran, all⟩
      | _ =>
          obtain rfl : rest = [] := orderly
          exact ⟨_, rfl, rfl⟩

end TrafficLimitd.Client

namespace TrafficLimitd.Connection

open Handler (Host Pid ascii logMsg failMsg startText proceedMsg)

/-- In every run in which the event mask can be cleared, what is sent is a sequence of log
lines and after them at most one message of another kind. If the client is not at fault, it
hears all that it receives as it was meant, goes ahead only if the go-ahead was sent, and
can receive everything. -/
theorem verdict_understood (host : Host) (prints : host.Prints) (pid : Pid) (labels : List Label)
    (state : State) (cleared : Run.Meets step (fun _ => Cleared) (start host pid) labels)
    (ran : Run.exec step (start host pid) labels = some state) :
    ∃ messages : List Message, state.sent = messages.map Message.bytes ∧ Orderly messages ∧
      ((∀ event ∈ state.execution.history, Handler.blames event.effect event.answer = false) →
        ∀ options : Client.Options,
          (∀ calls client, Run.exec (Client.step options) .start calls = some client →
            Client.received calls <+: state.sent →
            client.heard <+: messages.map Message.outcome ∧
              (client.phase = .executing → .proceed ∈ messages)) ∧
          ∃ calls client, Run.exec (Client.step options) .start calls = some client ∧
            Client.received calls = state.sent ∧
            client.heard = messages.map Message.outcome) := by
  obtain ⟨messages, sent, orderly, allowed⟩ := sent_orderly prints cleared ran
  refine ⟨messages, sent, orderly, fun blameless options => ?_⟩
  have readable : ∀ message ∈ messages, message.Readable := fun message member =>
    Handler.Speech.readable_of_allows (Handler.Speech.blamed_of blameless)
      (allowed message member)
  constructor
  · intro calls client heard given
    rw [sent] at given
    exact Client.heard_of_received readable heard given
  · obtain ⟨client, heard, all⟩ :=
      Client.listen_hears_all options orderly readable false []
    refine ⟨_, client, heard, ?_, all⟩
    rw [sent]
    apply Client.received_listen
    intro buf member
    obtain ⟨message, -, rfl⟩ := List.mem_map.mp member
    exact message.bytes_ne_nil

theorem someHost_prints : someHost.Prints where
  nul _ := show (0 : UInt8) ∉ [69] by decide
  short _ := show [(69 : UInt8)].length + 24 < 2 ^ 31 by decide

theorem verdict_understood_turnedAway :
    ∃ state ∈ Run.exec step (start someHost 7) turnedAway,
      ∃ messages : List Message, state.sent = messages.map Message.bytes ∧ Orderly messages ∧
        ∃ calls client, Run.exec (Client.step Handler.someOptions) .start calls = some client ∧
          Client.received calls = state.sent ∧ client.heard = messages.map Message.outcome := by
  obtain ⟨state, ran, blameless⟩ : ∃ state ∈ Run.exec step (start someHost 7) turnedAway,
      ∀ event ∈ state.execution.history, Handler.blames event.effect event.answer = false := by
    decide +kernel
  obtain ⟨messages, sent, orderly, understood⟩ :=
    verdict_understood someHost someHost_prints 7 turnedAway state (by decide +kernel) ran
  exact ⟨state, ran, messages, sent, orderly, (understood blameless Handler.someOptions).2⟩

/-- A message is written, and the mask is cleared with this return code. -/
def written (buf : List UInt8) (setEvents : Int) : List Label :=
  [.io ⟨0, 0⟩, .event (.handler ⟨false, true, false⟩ ⟨.done buf, setEvents, 0⟩) 0]

/-- The client is limited already. -/
def limitedAlready : List Label :=
  [.create 0, .init ⟨none, 0, true, 0, 0⟩] ++
    (Handler.admitted.tail ++ (Handler.originChecked 7 [1] [2] 5).dropLast).map .call ++
    [.call ⟨.rateLimitCheck 5, (1 : Int)⟩, .call ⟨.library, (0 : Int)⟩] ++
    written (logMsg (ascii "Recursive rate limit is not allowed")) 0 ++
    [.call ⟨.library, (0 : Int)⟩] ++
    written (logMsg (Handler.errorText someHost (-Errno.eloop) true)) 0 ++
    written (failMsg .yourError) 0

/-- The mask is not cleared after the log line, and there is no timer for the go-ahead. The
call for it has returned when the task waits for the client's process. -/
def unmasked : List Label :=
  [.create 0, .init ⟨none, 0, true, 0, 0⟩] ++ Handler.untilRead.tail.map .call ++
    [.io ⟨0, 0⟩, .event (.handler ⟨true, false, false⟩
      ⟨.done (Client.sendBuf Handler.someOptions), 0, 0⟩) 0,
      .call ⟨.regStreamInterrupt none, ()⟩, .call ⟨.rateLimitSet 6 ⟨8000, 10⟩, (0 : Int)⟩,
      .call ⟨.library, (0 : Int)⟩] ++
    written (logMsg (startText ⟨8000, 10⟩)) (-Errno.einval) ++
    [.io ⟨-Errno.enomem, 0⟩, .drain [.failed Errno.eio]]

/-- The client is told that the error is its own, and hears a reason that it does not know.
And when the mask cannot be cleared, a datagram is written from the buffer of a call that
has returned, while the task waits for something else. -/
theorem verdict_misheard :
    (∃ state ∈ Run.exec step (start someHost 7) limitedAlready,
      state.sent.getLast? = some (failMsg .yourError) ∧
      ∃ client ∈ Run.exec (Client.step Handler.someOptions) .start (Client.listen state.sent),
        Client.received (Client.listen state.sent) = state.sent ∧
          client.heard.getLast? = some (.failed .unknown)) ∧
    ∃ state ∈ Run.exec step (start someHost 7) unmasked,
      state.pending = some .waitForExit ∧ state.blocked = false ∧
      ∃ next ∈ step state (.event (.handler ⟨false, true, false⟩ ⟨.done proceedMsg, 0, 0⟩) 0),
        next.sent = state.sent ++ [proceedMsg] := by
  decide +kernel

end TrafficLimitd.Connection
