import TrafficLimitd.ClientDecoder
import TrafficLimitd.HandlerProgram

set_option autoImplicit false

/- What the daemon says to its client, as the messages that it means. The client reads
the bytes of each of them back, but for one reason that it does not know. -/
namespace TrafficLimitd

open Protocol
open Handler (CString logMsg failMsg proceedMsg)

/-- A message of the daemon. -/
inductive Message
  | log (text : CString)
  | fail (reason : FailReason)
  | proceed
deriving DecidableEq, Repr

namespace Message

/-- The datagram that `write_rate_limit_log` or `write_rate_limit_msg` makes of it. -/
def bytes : Message → List UInt8
  | log text => logMsg text
  | fail reason => failMsg reason
  | proceed => proceedMsg

/-- What the client has to understand. -/
def outcome : Message → Client.Outcome
  | log text => .logged text.length (some text)
  | fail reason => .failed reason
  | proceed => .proceed

def isLog : Message → Bool
  | log _ => true
  | _ => false

end Message

/-- A C string that `vasprintf` can make, with room for the header in an `int`. -/
structure Clean (text : CString) : Prop where
  nul : 0 ∉ text
  short : text.length + sizeofMsg < 2 ^ 31

section Decode

theorem logMsg_length (text : CString) : (logMsg text).length = text.length + sizeofMsg := by
  rw [logMsg, List.length_append, header_length, Nat.add_comm]

theorem drop_header (length : Nat) (kind : MsgType) (attr : List UInt8) :
    (header length kind ++ attr).drop sizeofMsg = attr := by
  rw [List.drop_left' (header_length length kind)]

/-- The client prints the text of a log line, all of it. -/
theorem decode_logMsg {text : CString} (clean : Clean text) :
    Client.decode (logMsg text) = some (.logged text.length (some text)) := by
  have whole : sizeofMsg ≤ (logMsg text).length := by
    rw [logMsg_length]
    exact Nat.le_add_left _ _
  have short := clean.short
  have length : msgLength (logMsg text) = text.length + sizeofMsg :=
    msgLength_header (by omega) .log text
  have type : msgType (logMsg text) = MsgType.log.code.toNat := msgType_header _ _ _
  have precision : Client.logPrecision (text.length + sizeofMsg) = (text.length : Int) := by
    rw [Client.logPrecision_of_fits (Nat.le_add_left _ _) (by omega), Nat.add_sub_cancel]
  have untouched : text.takeWhile (· ≠ 0) = text := by
    rw [List.takeWhile_eq_self_iff]
    intro byte member
    exact decide_eq_true fun zero => clean.nul (zero ▸ member)
  have prints : Client.printed text.length text = some text := by
    rw [Client.printed_of_fits (Int.natCast_nonneg _) (by rw [Int.toNat_natCast]),
      Int.toNat_natCast, List.take_length, untouched]
  have attr : (logMsg text).drop sizeofMsg = text := drop_header _ _ _
  rw [Client.decode_eq whole]
  dsimp only
  rw [type, if_neg (by decide), if_pos rfl, length, logMsg_length, Nat.min_self, precision, attr,
    prints]

theorem decode_failMsg {reason : FailReason} (known : reason ≠ .yourError) :
    Client.decode (failMsg reason) = some (.failed reason) := by
  cases reason with
  | yourError => exact absurd rfl known
  | _ => decide +kernel

end Decode

theorem Message.bytes_ne_nil (message : Message) : message.bytes ≠ [] := by
  intro empty
  cases message with
  | log text =>
      have length := logMsg_length text
      rw [show logMsg text = [] from empty] at length
      exact absurd length.symm (Nat.succ_ne_zero _)
  | fail reason => cases empty
  | proceed => cases empty

/-- A message that the client can read: a log line that is a C string, a reason that it
knows, or the go-ahead. -/
def Message.Readable : Message → Prop
  | log text => Clean text
  | fail reason => reason ≠ .yourError
  | proceed => True

theorem decode_bytes {message : Message} (readable : message.Readable) :
    Client.decode message.bytes = some message.outcome := by
  cases message with
  | log text => exact decode_logMsg readable
  | fail reason => exact decode_failMsg readable
  | proceed => decide +kernel

/-- Log lines, and after them at most one message of another kind. -/
def Orderly : List Message → Prop
  | [] => True
  | .log _ :: rest => Orderly rest
  | _ :: rest => rest = []

theorem orderly_snoc {logs : List Message} (message : Message)
    (silent : ∀ earlier ∈ logs, earlier.isLog = true) : Orderly (logs ++ [message]) := by
  induction logs with
  | nil => cases message <;> trivial
  | cons first rest ih =>
      obtain ⟨head, tail⟩ := List.forall_mem_cons.mp silent
      cases first with
      | log text => exact ih tail
      | _ => cases head

theorem Orderly.sublist {part whole : List Message} (sublist : part.Sublist whole)
    (orderly : Orderly whole) : Orderly part := by
  induction sublist with
  | slnil => exact orderly
  | cons first sublist ih =>
      cases first with
      | log text => exact ih orderly
      | _ =>
          obtain rfl : _ = [] := orderly
          rw [List.sublist_nil.mp sublist]
          trivial
  | cons_cons first sublist ih =>
      cases first with
      | log text => exact ih orderly
      | _ =>
          obtain rfl : _ = [] := orderly
          exact List.sublist_nil.mp sublist

end TrafficLimitd
