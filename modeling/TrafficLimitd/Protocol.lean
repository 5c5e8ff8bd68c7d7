import Mathlib.Data.UInt

set_option autoImplicit false

/- include/bpf_protocol.h and include/protocol.h: the limits that the client
asks for, and the messages of the SEQPACKET socket. Both ends run on one
machine, so the structs are laid out in that machine's order, here
little-endian. -/
namespace TrafficLimitd

/-- `struct rate_limit`. -/
structure RateLimit where
  byteRate : UInt64
  packetRate : UInt64
deriving DecidableEq, Repr

/-- `RATE_UNLIMITED`, the all-ones sentinel. -/
def rateUnlimited : UInt64 := 18446744073709551615

@[simp] theorem rateUnlimited_toNat : rateUnlimited.toNat = 2 ^ 64 - 1 := rfl

namespace Protocol

/-- The `type` of a `struct rate_limit_msg`, in the order of its enum. -/
inductive MsgType
  | req
  | fail
  | log
  | proceed
deriving DecidableEq, Repr

/-- The value of a message type on the wire. -/
def MsgType.code : MsgType → UInt32
  | .req => 0
  | .fail => 1
  | .log => 2
  | .proceed => 3

/-- The `reason` of a `struct rate_limit_fail_attr`, in the order of its enum. -/
inductive FailReason
  | unknown
  | willWait
  | internal
  | noResource
  | yourError
deriving DecidableEq, Repr

/-- The value of a fail reason on the wire. -/
def FailReason.code : FailReason → UInt32
  | .unknown => 0
  | .willWait => 1
  | .internal => 2
  | .noResource => 3
  | .yourError => 4

/-- `sizeof(struct rate_limit_msg)`: the two 32-bit words of the header. -/
def sizeofMsg : Nat := 8

/-- `sizeof(struct rate_limit_req_attr)`: two rates and the flags. -/
def sizeofReqAttr : Nat := 24

/-- `sizeof(struct rate_limit_fail_attr)`. -/
def sizeofFailAttr : Nat := 4

/-- The `count` low bytes of a word, low byte first. -/
def leBytes : Nat → Nat → List UInt8
  | 0, _ => []
  | count + 1, word => UInt8.ofNat word :: leBytes count (word / 256)

/-- The word whose low bytes these are. -/
def leWord : List UInt8 → Nat
  | [] => 0
  | byte :: rest => byte.toNat + 256 * leWord rest

theorem leBytes_length (count word : Nat) : (leBytes count word).length = count := by
  induction count generalizing word with
  | zero => rfl
  | succ count ih => simp only [leBytes, List.length_cons, ih]

theorem leWord_lt (bytes : List UInt8) : leWord bytes < 256 ^ bytes.length := by
  induction bytes with
  | nil => decide
  | cons byte rest ih =>
      have bound := byte.toNat_lt
      rw [leWord, List.length_cons, Nat.pow_succ]
      omega

/-- A word is read back from the bytes that it fits into. -/
theorem leWord_leBytes {count word : Nat} (fits : word < 256 ^ count) :
    leWord (leBytes count word) = word := by
  induction count generalizing word with
  | zero =>
      rw [Nat.pow_zero] at fits
      rw [leBytes, leWord]
      omega
  | succ count ih =>
      have rest : word / 256 < 256 ^ count := by
        rw [Nat.pow_succ] at fits
        omega
      rw [leBytes, leWord, ih rest, UInt8.toNat_ofNat']
      omega

/-- `msg->length` and `msg->type`, filled in by both writers. -/
def header (length : Nat) (kind : MsgType) : List UInt8 :=
  leBytes 4 length ++ leBytes 4 kind.code.toNat

theorem header_length (length : Nat) (kind : MsgType) :
    (header length kind).length = sizeofMsg := by
  simp only [header, List.length_append, leBytes_length, sizeofMsg]

/-- `((struct rate_limit_msg *)buf)->length`. -/
def msgLength (buf : List UInt8) : Nat := leWord (buf.take 4)

/-- `((struct rate_limit_msg *)buf)->type`. -/
def msgType (buf : List UInt8) : Nat := leWord ((buf.drop 4).take 4)

theorem code_lt (kind : MsgType) : kind.code.toNat < 256 ^ 4 := by
  cases kind <;> decide

/-- The reader of a message sees the type that the writer put into it. -/
theorem msgType_header (length : Nat) (kind : MsgType) (attr : List UInt8) :
    msgType (header length kind ++ attr) = kind.code.toNat := by
  have skipped : (header length kind ++ attr).drop 4 = leBytes 4 kind.code.toNat ++ attr := by
    rw [header, List.append_assoc, List.drop_left' (leBytes_length 4 length)]
  rw [msgType, skipped, List.take_left' (leBytes_length 4 _), leWord_leBytes (code_lt kind)]

/-- And the length, if it fits into its word. -/
theorem msgLength_header {length : Nat} (fits : length < 2 ^ 32) (kind : MsgType)
    (attr : List UInt8) : msgLength (header length kind ++ attr) = length := by
  rw [msgLength, header, List.append_assoc, List.take_left' (leBytes_length 4 length),
    leWord_leBytes fits]

/-- `((struct rate_limit_req_attr *)msg->attr)->limit`. -/
def reqLimit (buf : List UInt8) : RateLimit where
  byteRate := UInt64.ofNat (leWord ((buf.drop 8).take 8))
  packetRate := UInt64.ofNat (leWord ((buf.drop 16).take 8))

end Protocol

end TrafficLimitd
