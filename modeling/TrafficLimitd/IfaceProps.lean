import TrafficLimitd.HandlerEffects
import TrafficLimitd.RtnlBounds

set_option autoImplicit false

/- src/tcbpf_util.c: `get_iface_props`, which looks for two attributes in the answer to
`RTM_GETLINK`, with every read it makes. -/
namespace TrafficLimitd.Iface

open Handler (CString ascii)
open Protocol (leWord)
open Records (Layout)
open Rtnl

/-- `enum qidsc_kind`. -/
inductive QdiscKind
  | mq
  | fq
  | noqueue
  | clsact
  | other
deriving DecidableEq, Repr

/-- `struct iface_attr`. -/
structure IfaceAttr where
  numTxQueues : Int
  qdiscKind : QdiscKind
deriving DecidableEq, Repr

/-- `sizeof(struct rtattr)` and `sizeof(struct ifinfomsg)`. -/
def sizeofRtattr : Nat := 4
def sizeofIfinfomsg : Nat := 16

def rtmNewlink : Nat := 16
def rtmDellink : Nat := 17
def iflaQdisc : Nat := 6
def iflaNumTxQueues : Nat := 31

/-- `unsigned short` with the bit `NLA_F_NESTED` taken out. -/
def withoutNested (type : Nat) : Nat := type &&& 0x7fff

/-- `RTA_ALIGN`. -/
def rtaAlign : Nat → Nat := Records.align4

/-- Attributes in a message, for `RTA_OK` and `RTA_NEXT`. -/
def rtaLayout : Layout := ⟨sizeofRtattr, rtaAlign, by decide, Records.le_align4⟩

/-- `strcmp(.., text) == 0` on the bytes that may be read; `text` ends with its NUL. -/
def strcmp : List UInt8 → CString → Except Fault Bool
  | _, [] => .ok true
  | [], _ :: _ => .error .outside
  | byte :: bytes, char :: text => if byte = char then strcmp bytes text else .ok false

/-- The names that are compared with, in this order. -/
def qdiscNames : List (CString × QdiscKind) :=
  [(ascii "fq", .fq), (ascii "mq", .mq), (ascii "noqueue", .noqueue), (ascii "clsact", .clsact)]

/-- The kind of the qdisc whose name starts the bytes. -/
def kindOf (bytes : List UInt8) : List (CString × QdiscKind) → Except Fault QdiscKind
  | [] => .ok .other
  | (name, kind) :: rest => do
      let same ← strcmp bytes (name ++ [0])
      if same then return kind
      kindOf bytes rest

/-- `found_result`, and the two bits of `found`. -/
structure Found where
  result : IfaceAttr
  queues : Bool
  qdisc : Bool
deriving DecidableEq, Repr

/-- What an attribute of that type, with its data in front of what may be read, adds. -/
def lookAt (type : Nat) (data : List UInt8) (found : Found) : Except Fault Found :=
  if type = iflaNumTxQueues then do
    let word ← readWord data 4
    return { found with result := { found.result with numTxQueues := intOf word }, queues := true }
  else if type = iflaQdisc then do
    let kind ← kindOf data qdiscNames
    return { found with result := { found.result with qdiscKind := kind }, qdisc := true }
  else return found

/-- The body of the loop. The loop is left when both attributes are found. -/
def attrBody (datagram : List UInt8) (found : Found) (place _len : Nat) :
    Except Fault (Found ⊕ Except Int IfaceAttr) := do
  let type ← readWord (datagram.drop (place + 2)) 2
  let found ← lookAt (withoutNested type) (datagram.drop (place + sizeofRtattr)) found
  if found.queues && found.qdisc then return .inr (.ok found.result)
  return .inl found

/-- `NLMSG_LENGTH(sizeof(struct ifinfomsg))`. -/
def linkHeader : Nat := sizeofNlmsghdr + sizeofIfinfomsg

/-- `get_iface_props` from the answer on: the attributes, or a negative return code. -/
def answerProps (datagram : List UInt8) (answer : Nat) :
    Option (Except Fault (Except Int IfaceAttr)) :=
  match readWord (datagram.drop (answer + 4)) 2 with
  | .error fault => some (.error fault)
  | .ok type =>
      if type ≠ rtmNewlink ∧ type ≠ rtmDellink then some (.ok (.error (-Errno.einval)))
      else
        match readWord (datagram.drop answer) 4 with
        | .error fault => some (.error fault)
        | .ok len =>
            let attrLen := (BitVec.ofInt 32 ((len : Int) - linkHeader)).toInt
            rtaLayout.loop (fun place => readWord (datagram.drop place) 2) (attrBody datagram)
              (fun _ => .error (-Errno.einval)) (datagram.length + 1) (answer + linkHeader) attrLen
              ⟨⟨0, .mq⟩, false, false⟩

/-- `get_iface_props` from the return of `rtnl_talk` on. `answer` is still NULL when
`rtnl_talk` returns 0 without it. -/
def replyProps (datagram : List UInt8) (reply : Reply) :
    Option (Except Fault (Except Int IfaceAttr)) :=
  if reply.rc < 0 then some (.ok (.error reply.rc))
  else
    match reply.answer with
    | none => some (.error .null)
    | some answer => answerProps datagram answer

/-- `get_iface_props` on the datagram that `rtnl_talk` receives. -/
def getIfaceProps (query : Query) (datagram : List UInt8) :
    Option (Except Fault (Except Int IfaceAttr)) :=
  (talkLoop query datagram).bind fun
    | .error fault => some (.error fault)
    | .ok reply => replyProps datagram reply

section Names

end Names

section Attributes

variable (datagram : List UInt8)

/-- The bytes are enough for what is read of an attribute of that type: a word; or so many
characters that the name differs from those it is compared with. -/
def Readable (type : Nat) (data : List UInt8) : Prop :=
  (type = iflaNumTxQueues → 4 ≤ data.length) ∧
    (type = iflaQdisc → ∀ entry ∈ qdiscNames, ¬ data <+: entry.1)

instance (type : Nat) (data : List UInt8) : Decidable (Readable type data) :=
  inferInstanceAs (Decidable (_ ∧ _))

variable {datagram}

/-- The bits of `found`. -/
def Found.bits (found : Found) : Bool × Bool := (found.queues, found.qdisc)

section Body

variable (found : Found) (place : Nat)

end Body

section Answer

variable {answer : Nat}

end Answer

end Attributes

section Datagram

variable (query : Query) (datagram : List UInt8)

/-- A message that the loop takes for the answer. -/
def Answers (visit : Layout.Visit Unit) : Prop :=
  nlmsgLayout.Whole (lenAt datagram) visit ∧ skips query (datagram.drop visit.place) = false

variable {query datagram} {reply : Reply} {visit : Layout.Visit Unit}

end Datagram

end TrafficLimitd.Iface
