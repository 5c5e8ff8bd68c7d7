import TrafficLimitd.CoroutineRuns
import TrafficLimitd.TcAttributes
import TrafficLimitd.Tokens

set_option autoImplicit false

/- src/tcbpf_util.c: the requests to traffic control, and the setup of an interface with
them. What the kernel answers is the environment of the program. -/
namespace TrafficLimitd.Tc

open Coroutine (Coro Event)
open Coroutine.Coro (perform)
open Handler (CString ascii)
open Iface (IfaceAttr QdiscKind)
open Tokens (strtokR)

/-- A request of `struct nlmsghdr` and `struct tcmsg`, with the attributes appended to
it. -/
structure Message where
  nlmsgType : Nat
  nlmsgFlags : Nat
  ifindex : UInt32
  handle : UInt32
  parent : UInt32
  info : UInt32
  additions : List Addition
deriving DecidableEq, Repr

def rtmNewqdisc : Nat := 36
def rtmDelqdisc : Nat := 37
def rtmNewtfilter : Nat := 44
def rtmDeltfilter : Nat := 45

def nlmFRequest : Nat := 1
def nlmFReplace : Nat := 0x100
def nlmFCreate : Nat := 0x400

/-- `TC_H_MAKE`. -/
def tcHMake (major minor : UInt32) : UInt32 := major &&& 0xffff0000 ||| minor &&& 0xffff

def tcHUnspec : UInt32 := 0
def tcHRoot : UInt32 := 0xffffffff
def tcHClsact : UInt32 := 0xfffffff1
def tcHMinEgress : UInt32 := 0xfff3

/-- `htons(ETH_P_ALL)`. -/
def ethPAll : UInt32 := 0x300

/-- The calls of the setup that leave it. -/
inductive Effect
  | ifNametoindex (ifname : CString)
  | getIfaceProps (ifindex : UInt32)
  | rtnlTalk (message : Message)
  | bpfProgramFd
  | rtnlOpen
  | rtnlClose
deriving DecidableEq, Repr

/-- What they return: an index and `errno`; a code and the attributes; a code; a
descriptor or a negative code; a code; nothing. -/
abbrev Answer : Effect → Type
  | .ifNametoindex _ => UInt32 × Int
  | .getIfaceProps _ => Int × IfaceAttr
  | .rtnlTalk _ => Int
  | .bpfProgramFd => Int
  | .rtnlOpen => Int
  | .rtnlClose => Unit

abbrev Prog := Coro Effect Answer

abbrev Trace := List (Event Effect Answer)

/-- The end of the functions that send a request. -/
def talk (message : Message) : Prog Int := do
  let rc ← perform (.rtnlTalk message)
  if rc < 0 then return rc
  return 0

/-- `qdisc_name`. -/
def qdiscName : QdiscKind → Option CString
  | .fq => some (ascii "fq")
  | .mq => some (ascii "mq")
  | .noqueue => some (ascii "noqueue")
  | .clsact => some (ascii "clsact")
  | .other => none

/-- The request of `tc_replace_qdisc`. -/
def replaceQdisc (ifindex parent handle : UInt32) (name : CString) : Message where
  nlmsgType := rtmNewqdisc
  nlmsgFlags := nlmFRequest ||| nlmFCreate ||| nlmFReplace
  ifindex := ifindex
  handle := handle
  parent := parent
  info := 0
  additions := [.strz tcaKind name]

def tcReplaceQdisc (ifindex parent handle : UInt32) (kind : QdiscKind) : Prog Int :=
  match qdiscName kind with
  | none => return -Errno.einval
  | some name => talk (replaceQdisc ifindex parent handle name)

/-- The request of `tc_del_qdisc`. -/
def delQdisc (ifindex parent handle : UInt32) : Message where
  nlmsgType := rtmDelqdisc
  nlmsgFlags := nlmFRequest
  ifindex := ifindex
  handle := handle
  parent := parent
  info := 0
  additions := []

def tcDelQdisc (ifindex parent handle : UInt32) : Prog Int := talk (delQdisc ifindex parent handle)

/-- The request of `tc_del_filter`. -/
def delFilter (ifindex parent prio : UInt32) : Message where
  nlmsgType := rtmDeltfilter
  nlmsgFlags := nlmFRequest
  ifindex := ifindex
  handle := 0
  parent := parent
  info := tcHMake (prio <<< 16) 0
  additions := []

def tcDelFilter (ifindex parent prio : UInt32) : Prog Int := talk (delFilter ifindex parent prio)

/-- The request of `tc_replace_bpf_filter`, before `TCA_OPTIONS` is patched. -/
def replaceFilter (ifindex parent prio handle bpfFd : UInt32) (name : CString) : Message where
  nlmsgType := rtmNewtfilter
  nlmsgFlags := nlmFRequest ||| nlmFCreate
  ifindex := ifindex
  handle := handle
  parent := parent
  info := tcHMake (prio <<< 16) ethPAll
  additions := .strz tcaKind (ascii "bpf") :: .l tcaOptions [] :: nested bpfFd name

/-- The handle `r:` of a root qdisc, and the class `r:i` of its queue. -/
def rootHandle (root : Nat) : UInt32 := tcHMake (UInt32.ofNat root <<< 16) 0
def queueParent (root i : Nat) : UInt32 := tcHMake (UInt32.ofNat root <<< 16) (UInt32.ofNat i)

/-- The handle of the qdisc of the queue `i`. -/
def queueHandle (root i : Nat) : UInt32 := tcHMake (UInt32.ofNat (i + root) <<< 16) 0

/-- The loop that tries the handles `1:` and `2:` for the root; `left` of them are left.
The handle that worked, or the last return code. -/
def installRoot (ifindex : UInt32) : (left root : Nat) → (rc : Int) → Prog (Except Int Nat)
  | 0, _, rc => return .error rc
  | left + 1, root, _ => do
      let rc ← tcReplaceQdisc ifindex tcHRoot (rootHandle root) .mq
      if rc < 0 then installRoot ifindex left (root + 1) rc
      else return .ok root

/-- The loop over the queues from `i` on. -/
def installQueues (ifindex : UInt32) (root : Nat) : (left i : Nat) → Prog Int
  | 0, _ => return 0
  | left + 1, i => do
      let rc ← tcReplaceQdisc ifindex (queueParent root i) (queueHandle root i) .fq
      if rc < 0 then return rc
      installQueues ifindex root left (i + 1)

/-- The branch for a single queue and that for several. -/
def setupQueues (ifindex : UInt32) (attr : IfaceAttr) : Prog Int :=
  if attr.numTxQueues = 1 then
    if attr.qdiscKind ≠ .fq then tcReplaceQdisc ifindex tcHRoot tcHUnspec .fq
    else return 0
  else do
    match ← installRoot ifindex 2 1 0 with
    | .error rc => return rc
    | .ok root => installQueues ifindex root attr.numTxQueues.toNat 1

/-- The loops `while(1)` with `nr_try`: a failed replacement is tried again after one
deletion. -/
def replaceLoop (replace del : Prog Int) (nrTry : Nat) : Prog Int := do
  let rc ← replace
  if rc < 0 then
    if tried : nrTry > 0 then return rc
    else
      let rc ← del
      if rc < 0 then return rc
      replaceLoop replace del (nrTry + 1)
  else return 0
termination_by 1 - nrTry

def clsactHandle : UInt32 := tcHMake tcHClsact 0

/-- The loop for the clsact qdisc. -/
def setupClsact (ifindex : UInt32) : Prog Int :=
  replaceLoop (tcReplaceQdisc ifindex tcHClsact clsactHandle .clsact)
    (tcDelQdisc ifindex tcHClsact clsactHandle) 0

def egress : UInt32 := tcHMake tcHClsact tcHMinEgress
def prio : UInt32 := 49151

/-- The request for the filter with the program's descriptor. -/
def filterMessage (ifindex : UInt32) (bpfFd : Int) : Message :=
  replaceFilter ifindex egress prio 1 (UInt32.ofInt bpfFd) (ascii "cgroup_rate_limit")

/-- The loop for the filter. -/
def setupFilter (ifindex : UInt32) (bpfFd : Int) : Prog Int :=
  replaceLoop (talk (filterMessage ifindex bpfFd)) (tcDelFilter ifindex egress prio) 0

/-- `tc_setup_one_inferface` from the attributes of the interface on. -/
def setupWith (ifindex : UInt32) (attr : IfaceAttr) : Prog Int := do
  if attr.numTxQueues = 0 then return -Errno.einval
  let rc ← setupQueues ifindex attr
  if rc < 0 then return rc
  let rc ← setupClsact ifindex
  if rc < 0 then return rc
  let bpfFd ← perform .bpfProgramFd
  if bpfFd < 0 then return bpfFd
  let rc ← setupFilter ifindex bpfFd
  if rc < 0 then return rc
  return 0

def tcSetupOneInferface (ifname : CString) : Prog Int := do
  let (ifindex, errno) ← (perform (Effect.ifNametoindex ifname) : Prog (UInt32 × Int))
  if ifindex = 0 then return -errno
  let (rc, attr) ← (perform (Effect.getIfaceProps ifindex) : Prog (Int × IfaceAttr))
  if rc < 0 then return rc
  setupWith ifindex attr

def comma : UInt8 := 44

/-- The loop over the tokens of the copied list of names, from `savetokptr` on. -/
def setupTokens (buf : CString) : Prog Int :=
  match _ : strtokR (· == comma) buf with
  | none => return 0
  | some (token, savetokptr) => do
      let rc ← tcSetupOneInferface token
      if rc < 0 then return rc
      setupTokens savetokptr
termination_by buf.length
decreasing_by exact Tokens.strtokR_length_lt (by assumption)

def tcSetupInferface (ifnames : CString) : Prog Int := do
  if ifnames.length = 0 then return -Errno.einval
  let rc ← (perform Effect.rtnlOpen : Prog Int)
  if rc < 0 then return rc
  let rc ← setupTokens ifnames
  let _ ← perform .rtnlClose
  return rc

end TrafficLimitd.Tc
