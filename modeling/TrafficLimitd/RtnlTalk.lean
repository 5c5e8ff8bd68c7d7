import TrafficLimitd.RtnlReceive

set_option autoImplicit false

/- `rtnl_talk` on a datagram that is a sequence of netlink messages. -/
namespace TrafficLimitd.Rtnl

open Protocol (leBytes leWord leBytes_length leWord_leBytes)

/-- A well-formed netlink message: its length fits the header, and an `NLMSG_ERROR`
carries a `struct nlmsgerr`. -/
structure Message where
  type : UInt16
  flags : UInt16
  seq : UInt32
  pid : UInt32
  payload : List UInt8
  fits : sizeofNlmsghdr + payload.length < 2 ^ 32
  whole : type.toNat = nlmsgError → sizeofNlmsgerr ≤ payload.length
deriving DecidableEq

def Message.len (message : Message) : Nat := sizeofNlmsghdr + message.payload.length

def Message.bytes (message : Message) : List UInt8 :=
  leBytes 4 message.len ++ (leBytes 2 message.type.toNat ++ (leBytes 2 message.flags.toNat ++
    (leBytes 4 message.seq.toNat ++ (leBytes 4 message.pid.toNat ++ message.payload))))

/-- The `error` of an `NLMSG_ERROR`. -/
def Message.error (message : Message) : Option Int :=
  if message.type.toNat = nlmsgError then
    some (BitVec.ofNat 32 (leWord (message.payload.take 4))).toInt
  else none

theorem Message.bytes_length (message : Message) : message.bytes.length = message.len := by
  simp only [Message.bytes, List.length_append, leBytes_length, Message.len, sizeofNlmsghdr]
  omega

/-- A word that was put into some bytes is read back from them. -/
theorem word_at {front rest : List UInt8} {count word offset : Nat}
    (place : front.length = offset) (fits : word < 256 ^ count) :
    leWord (((front ++ (leBytes count word ++ rest)).drop offset).take count) = word := by
  rw [List.drop_left' place, List.take_left' (leBytes_length count word), leWord_leBytes fits]

section Fields

variable (message : Message) (rest : List UInt8)

end Fields

section Scan

variable (query : Query)

/-- A message that answers the request. -/
def Message.answers (message : Message) : Bool :=
  query.senderPid = 0 && message.pid = query.localPid && message.seq = query.thisSeq

/-- The first message that answers the request, with its offset. -/
def firstAnswer : Nat → List Message → Option (Nat × Message)
  | _, [] => none
  | offset, message :: rest =>
      if message.answers query then some (offset, message)
      else firstAnswer (offset + nlmsgAlign message.len) rest

/-- No message before the first answer has a flag in common with `NLMSG_DONE`. -/
def Plain : List Message → Prop
  | [] => True
  | message :: rest =>
      message.answers query = false →
        message.flags.toNat &&& nlmsgDone = 0 ∧ Plain rest

variable {query} {messages : List Message} {offset : Nat}

end Scan

/-- The reply is that to the first message with the pid and the sequence number of the
request. -/
def Answered (query : Query) (messages : List Message) (reply : Reply) : Prop :=
  (query.wantsAnswer = true → reply.rc = 0 → reply.answer ≠ none) ∧
    match firstAnswer query 0 messages with
    | none => reply.rc < 0
    | some (offset, message) =>
        match message.error with
        | some error => (error < 0 → reply.rc = error) ∧
            (error = 0 → query.wantsAnswer = false → reply.rc = 0)
        | none => reply.rc = 0 ∧ (query.wantsAnswer = true → reply.answer = some offset)

/-- The loop gets to the first answer. -/
def Reaches (query : Query) (messages : List Message) (datagram : List UInt8) : Prop :=
  datagram.length < minBufLen ∧ Plain query messages

section Talk

variable {handle : Handle} {request : Request} {wantsAnswer : Bool} {messages : List Message}
  {datagram : List UInt8}

end Talk

section Answered

variable {query : Query} {messages : List Message} {datagram : List UInt8} {offset : Nat}
  {message : Message}

end Answered

end TrafficLimitd.Rtnl
