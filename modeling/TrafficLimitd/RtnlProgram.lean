import TrafficLimitd.Protocol
import TrafficLimitd.Records
import TrafficLimitd.StreamProgram

set_option autoImplicit false

/- src/rtnl_util.c: one request to rtnetlink and the search for its answer in the
datagram that comes back. -/
namespace TrafficLimitd.Rtnl

open Protocol (leWord)

/-- `sizeof(struct nlmsghdr)`. -/
def sizeofNlmsghdr : Nat := 16

/-- `sizeof(struct nlmsgerr)`: the error and the header of the request. -/
def sizeofNlmsgerr : Nat := 20

/-- `sizeof(struct sockaddr_nl)`. -/
def sizeofSockaddrNl : Nat := 12

/-- `NLMSG_ALIGN`. -/
def nlmsgAlign : Nat → Nat := Records.align4

/-- The message types `NLMSG_ERROR` and `NLMSG_DONE`. -/
def nlmsgError : Nat := 2
def nlmsgDone : Nat := 3

/-- `NLM_F_ACK`. -/
def nlmFAck : Nat := 4

/- The fields of the `struct nlmsghdr` at the front of some bytes. -/

def nlmsgLen (buf : List UInt8) : Nat := leWord (buf.take 4)
def nlmsgType (buf : List UInt8) : Nat := leWord ((buf.drop 4).take 2)
def nlmsgFlags (buf : List UInt8) : Nat := leWord ((buf.drop 6).take 2)
def nlmsgSeq (buf : List UInt8) : Nat := leWord ((buf.drop 8).take 4)
def nlmsgPid (buf : List UInt8) : Nat := leWord ((buf.drop 12).take 4)

/-- `((struct nlmsgerr *)NLMSG_DATA(nlhdr))->error`. -/
def nlmsgErrError (buf : List UInt8) : Int :=
  (BitVec.ofNat 32 (leWord ((buf.drop 16).take 4))).toInt

/-- `NLMSG_OK`. -/
def nlmsgOk (buf : List UInt8) : Bool :=
  sizeofNlmsghdr ≤ buf.length && sizeofNlmsghdr ≤ nlmsgLen buf && nlmsgLen buf ≤ buf.length

/-- `NLMSG_NEXT`. A message that ends before its padding does leaves nothing, where the
source has a negative `answer_len`. -/
def nlmsgNext (buf : List UInt8) : List UInt8 := buf.drop (nlmsgAlign (nlmsgLen buf))

/-- `struct rtnl_handle`: `local.nl_pid` and `seq`. -/
structure Handle where
  localPid : UInt32
  seq : UInt32
deriving DecidableEq, Repr

/-- The fields of the request that `rtnl_talk` fills in. -/
structure Request where
  flags : Nat
  seq : UInt32
deriving DecidableEq, Repr

/-- What the calls return: `sendto`, the two `recvfrom` of `rtnl_recv`, of which the
first only peeks, `malloc`, and the address of the sender. -/
structure Kernel where
  sendto : Except Int Unit
  recvfrom : Except Int (List UInt8)
  malloc : Bool
  addrLen : Nat
  senderPid : UInt32

/-- The return code, and where `*answer` points in the received bytes, if it was
set. -/
structure Reply where
  rc : Int
  answer : Option Nat
deriving DecidableEq, Repr

/-- `min_buf_len` of `rtnl_recv`. -/
def minBufLen : Nat := 32768

/-- The end of `rtnl_recvfrom`. -/
def rtnlRecvfrom : Except Int (List UInt8) → Except Int (List UInt8)
  | .error errno => .error (-errno)
  | .ok bytes => if bytes.length = 0 then .error (-Errno.enodata) else .ok bytes

/-- `rtnl_recv`. The length of a datagram that does not fit the minimum is never
stored, so the buffer for it has length 0. -/
def rtnlRecv (kernel : Kernel) : Except Int (List UInt8) := do
  let peeked ← rtnlRecvfrom kernel.recvfrom
  let length := if peeked.length < minBufLen then minBufLen else 0
  if kernel.malloc = false then
    throw (-Errno.enomem)
  rtnlRecvfrom (kernel.recvfrom.map (·.take length))

/-- A length that is stored in an `int`. -/
def intOf (length : Nat) : Int := (BitVec.ofNat 32 length).toInt

/-- A call of `recvfrom`: what it returns as an `int`, `errno` after it, and the bytes it
stored. -/
structure Receipt where
  rc : Int
  errno : Int
  stored : List UInt8
deriving DecidableEq, Repr

/-- `rtnl_recvfrom` on the calls it makes, with the bytes that are stored in the end. It
has not returned yet when they are used up. -/
def rtnlRecvfromCalls : List Receipt → Option (Except Int (Int × List UInt8))
  | [] => none
  | call :: rest =>
      if call.rc < 0 ∧ (call.errno = Errno.eintr ∨ call.errno = Errno.eagain) then
        rtnlRecvfromCalls rest
      else if call.rc < 0 then some (.error (-call.errno))
      else if call.rc = 0 then some (.error (-Errno.enodata))
      else some (.ok (call.rc, call.stored))

/-- The netlink socket: the datagram that waits, the failures of `recvfrom` before it is
peeked at and before it is taken, and what is left in `errno` when a call succeeds. -/
structure Socket where
  datagram : List UInt8
  failures : Bool → List Int
  errno : Int

/-- The calls of `recvfrom` with a buffer of `length` bytes. With `MSG_PEEK | MSG_TRUNC`
the whole size is returned. -/
def Socket.calls (socket : Socket) (peek : Bool) (length : Nat) : List Receipt :=
  let size := socket.datagram.length
  (socket.failures peek).map (fun errno => ⟨-1, errno, []⟩) ++
    [⟨intOf (if peek then size else min length size), socket.errno, socket.datagram.take length⟩]

/-- `rtnl_recv` with the calls of `rtnl_recvfrom`: the return code, and what `*answer`
holds. -/
def rtnlRecvCalls (socket : Socket) (malloc : Bool) : Option (Except Int (Int × List UInt8)) :=
  match rtnlRecvfromCalls (socket.calls true 0) with
  | none => none
  | some (.error rc) => some (.error rc)
  | some (.ok peeked) =>
      let length := if peeked.1 < minBufLen then minBufLen else 0
      if malloc = false then some (.error (-Errno.enomem))
      else rtnlRecvfromCalls (socket.calls false length)

/-- What the loop of `rtnl_talk` compares messages with. -/
structure Query where
  localPid : UInt32
  thisSeq : UInt32
  senderPid : UInt32
  wantsAnswer : Bool
deriving DecidableEq, Repr

/-- A message that the loop skips. -/
def skips (query : Query) (buf : List UInt8) : Bool :=
  query.senderPid ≠ 0 || nlmsgPid buf ≠ query.localPid.toNat || nlmsgSeq buf ≠ query.thisSeq.toNat

/-- The body of the loop for a message that is the answer. -/
def takeAnswer (query : Query) (offset : Nat) (buf : List UInt8) : Reply :=
  if nlmsgType buf = nlmsgError then
    if nlmsgLen buf < sizeofNlmsghdr + sizeofNlmsgerr then ⟨-Errno.einval, none⟩
    else if nlmsgErrError buf < 0 then ⟨nlmsgErrError buf, none⟩
    else ⟨0, none⟩
  else ⟨0, if query.wantsAnswer then some offset else none⟩

/-- The loop of `rtnl_talk`, with the offset of `nlhdr` in the buffer and the bytes from
there on. Each round consumes some of them, so their number is fuel enough. -/
def scan (query : Query) : Nat → Nat → List UInt8 → Option Reply
  | 0, _, _ => none
  | fuel + 1, offset, buf =>
      if nlmsgOk buf = false then some ⟨-Errno.einval, none⟩
      else if skips query buf then
        if nlmsgFlags buf &&& nlmsgDone ≠ 0 then some ⟨-Errno.enomsg, none⟩
        else scan query fuel (offset + nlmsgAlign (nlmsgLen buf)) (nlmsgNext buf)
      else some (takeAnswer query offset buf)

/-- `rtnl_talk`: the handle afterwards, the request that is sent, and the reply. -/
def rtnlTalk (handle : Handle) (request : Request) (wantsAnswer : Bool) (kernel : Kernel) :
    Handle × Request × Option Reply :=
  let thisSeq := handle.seq
  let flags := if wantsAnswer then request.flags else request.flags ||| nlmFAck
  ({ handle with seq := handle.seq + 1 }, ⟨flags, thisSeq⟩,
    match kernel.sendto with
    | .error errno => some ⟨-errno, none⟩
    | .ok _ =>
        match rtnlRecv kernel with
        | .error rc => some ⟨rc, none⟩
        | .ok buf =>
            if kernel.addrLen ≠ sizeofSockaddrNl then some ⟨-Errno.einval, none⟩
            else scan ⟨handle.localPid, thisSeq, kernel.senderPid, wantsAnswer⟩
              (buf.length + 1) 0 buf)

end TrafficLimitd.Rtnl
