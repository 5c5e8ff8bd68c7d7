import TrafficLimitd.ClientOptions
import TrafficLimitd.StreamProgram

set_option autoImplicit false

/- src/client.c from the receive loop on. What the kernel answers to a call is in the
label of the step, and so is the delivery of SIGALRM, which may come between any two
steps. -/
namespace TrafficLimitd.Client

open Protocol

/-- A 32-bit word of `recv_buf`, if all of it was received. -/
def wordAt (buf : List UInt8) (offset : Nat) : Option Nat :=
  if offset + 4 ≤ buf.length then some (leWord ((buf.drop offset).take 4)) else none

/-- The case of the inner switch that a reason selects; it has no case of its own for
`RATE_LIMIT_FAIL_YOUR_ERROR`. -/
def failReason (reason : Nat) : FailReason :=
  if reason = FailReason.willWait.code.toNat then .willWait
  else if reason = FailReason.internal.code.toNat then .internal
  else if reason = FailReason.noResource.code.toNat then .noResource
  else .unknown

/-- `(int)((size_t)len - sizeof(struct rate_limit_msg))`. -/
def logPrecision (len : Nat) : Int :=
  ((BitVec.ofNat 64 len - BitVec.ofNat 64 sizeofMsg).setWidth 32).toInt

/-- What `"%.*s"` prints: up to the precision, if that is not negative, and up to a
NUL. Nothing if it reads on past the bytes that were received. -/
def printed (precision : Int) (attr : List UInt8) : Option (List UInt8) :=
  let text := if precision < 0 then attr else attr.take precision.toNat
  if 0 ∈ text ∨ 0 ≤ precision ∧ precision.toNat ≤ attr.length then
    some (text.takeWhile (· ≠ 0))
  else none

/-- What a response makes the client do: complain that it is invalid, print a reason or
a log line, or run the command. -/
inductive Outcome
  | invalid
  | failed (reason : FailReason)
  | logged (precision : Int) (text : Option (List UInt8))
  | proceed
deriving DecidableEq, Repr

/-- The body of the loop once a response has been received. -/
def decode (buf : List UInt8) : Option Outcome := do
  if buf.length < sizeofMsg then
    return .invalid
  let length ← wordAt buf 0
  let len := if length < buf.length then length else buf.length
  let type ← wordAt buf 4
  if type = MsgType.fail.code.toNat then
    if len < sizeofFailAttr + sizeofMsg then
      return .invalid
    let reason ← wordAt buf 8
    return .failed (failReason reason)
  else if type = MsgType.log.code.toNat then
    return .logged (logPrecision len) (printed (logPrecision len) (buf.drop sizeofMsg))
  else if type = MsgType.proceed.code.toNat then
    return .proceed
  else
    return .invalid

/-- Where `main` is: at the first `recv`, blocked in it, at the second `recv` with a
buffer of this size, after it, at the label `interrupted`, at `out_recv_loop`, at
`execvp`, or gone. -/
inductive Phase
  | peeking
  | blocked
  | reading (len : Nat)
  | received (buf : List UInt8)
  | interrupted
  | proceeding
  | executing
  | exited (status : Nat)
deriving DecidableEq, Repr

/-- `heard` are the responses that were handled so far. -/
structure State where
  phase : Phase
  timeoutTriggered : Bool
  heard : List Outcome
deriving DecidableEq, Repr

/-- When the loop is entered. -/
def State.start : State := ⟨.peeking, false, []⟩

/-- `run` is the client's own code, up to its next call. -/
inductive Label
  | run
  | peeked (result : Except Int Nat)
  | read (result : Except Int (List UInt8))
  | restored (result : Bool)
  | sigalrm
deriving DecidableEq

/-- The switch on the type of the response. -/
def State.handle (state : State) (outcome : Outcome) : State where
  phase := match outcome with
    | .invalid | .failed _ => .exited 1
    | .logged _ _ => .peeking
    | .proceed => .proceeding
  timeoutTriggered := state.timeoutTriggered
  heard := state.heard ++ [outcome]

/-- The code between two calls. -/
def State.run (options : Options) (state : State) : Option State :=
  match state.phase with
  | .peeking => some { state with phase := .blocked }
  | .received buf => (decode buf).map state.handle
  | .interrupted =>
      if options.waitTime > 0 ∧ state.timeoutTriggered = true then
        some { state with phase := .exited 1 }
      else some { state with phase := .peeking }
  | _ => none

/-- `recv` with `MSG_PEEK | MSG_TRUNC` returns. -/
def State.peeked (state : State) : Except Int Nat → Option State
  | .error errno =>
      if errno = Errno.eintr then some { state with phase := .interrupted }
      else some { state with phase := .exited 1 }
  | .ok len =>
      if len = 0 then some { state with phase := .exited 1 }
      else some { state with phase := .reading len }

/-- `recv` with `MSG_DONTWAIT` returns. -/
def State.read (state : State) (len : Nat) : Except Int (List UInt8) → Option State
  | .error errno =>
      if errno = Errno.eintr then some { state with phase := .interrupted }
      else if errno = Errno.eagain then some { state with phase := .peeking }
      else some { state with phase := .exited 1 }
  | .ok buf =>
      if len < buf.length then none
      else if buf = [] then some { state with phase := .exited 1 }
      else some { state with phase := .received buf }

/-- `timeout_handler`, and what the signal does to the call that it interrupts. -/
def State.sigalrm (state : State) : Option State :=
  match state.phase with
  | .blocked => some { state with phase := .interrupted, timeoutTriggered := true }
  | .executing | .exited _ => none
  | _ => some { state with timeoutTriggered := true }

def step (options : Options) (state : State) : Label → Option State
  | .run => state.run options
  | .peeked result =>
      match state.phase with
      | .blocked => state.peeked result
      | _ => none
  | .read result =>
      match state.phase with
      | .reading len => state.read len result
      | _ => none
  | .restored result =>
      match state.phase with
      | .proceeding =>
          if options.waitTime > 0 ∧ result = false then some { state with phase := .exited 1 }
          else some { state with phase := .executing }
      | _ => none
  | .sigalrm => if options.waitTime > 0 then state.sigalrm else none

end TrafficLimitd.Client
