import TrafficLimitd.TcProgram

set_option autoImplicit false

/- What a successful `tc_setup_one_inferface` has done. -/
namespace TrafficLimitd.Tc

open Coroutine
open Coroutine.Coro (perform)
open Handler (CString ascii)
open Iface (IfaceAttr QdiscKind)

/-- A request was answered with success. -/
def Succeeded (trace : Trace) (message : Message) : Prop :=
  ∃ code : Int, 0 ≤ code ∧ (⟨.rtnlTalk message, code⟩ : Event Effect Answer) ∈ trace

/-- The requests for the root `r:` of several queues and for the queue `i` of it. -/
def rootMessage (ifindex : UInt32) (root : Nat) : Message :=
  replaceQdisc ifindex tcHRoot (rootHandle root) (ascii "mq")
def queueMessage (ifindex : UInt32) (root i : Nat) : Message :=
  replaceQdisc ifindex (queueParent root i) (queueHandle root i) (ascii "fq")

/-- The requests for a single queue and for clsact. -/
def singleMessage (ifindex : UInt32) : Message :=
  replaceQdisc ifindex tcHRoot tcHUnspec (ascii "fq")
def clsactMessage (ifindex : UInt32) : Message :=
  replaceQdisc ifindex tcHClsact clsactHandle (ascii "clsact")

/-- What a request to put a qdisc of that kind somewhere says. The class `r:i` is the number
`65536 r + i`. -/
structure Replaces (ifindex : UInt32) (parent handle : Nat) (kind : CString) (message : Message) :
    Prop where
  type : message.nlmsgType = rtmNewqdisc
  flags : message.nlmsgFlags = 0x501
  ifindex : message.ifindex = ifindex
  parent : message.parent.toNat = parent
  handle : message.handle.toNat = handle
  kind : message.additions.map Addition.attr = [⟨tcaKind, kind ++ [0]⟩]

/-- What the request for the filter says: on egress, with this program. -/
structure Filters (ifindex : UInt32) (bpfFd : Int) (message : Message) : Prop where
  type : message.nlmsgType = rtmNewtfilter
  flags : message.nlmsgFlags = 0x401
  ifindex : message.ifindex = ifindex
  parent : message.parent.toNat = 0xfffffff3
  handle : message.handle.toNat = 1
  info : message.info.toNat = 49151 * 65536 + 0x300
  attributes : message.additions.map Addition.attr =
    [⟨tcaKind, ascii "bpf" ++ [0]⟩, ⟨tcaOptions, []⟩,
      ⟨tcaBpfFd, Protocol.leBytes 4 (UInt32.ofInt bpfFd).toNat⟩,
      ⟨tcaBpfFd, Protocol.leBytes 4 (UInt32.ofInt bpfFd).toNat⟩,
      ⟨tcaBpfName, ascii "cgroup_rate_limit" ++ [0]⟩, ⟨tcaBpfFlags, [1, 0, 0, 0]⟩]

/-- A qdisc of that kind was put there. -/
def Installed (trace : Trace) (ifindex : UInt32) (parent handle : Nat) (kind : CString) : Prop :=
  ∃ message, Replaces ifindex parent handle kind message ∧ Succeeded trace message

/-- The handles of `count` queues differ from each other, from that of their root and from
that of clsact. -/
structure Distinct (root count : Nat) (handle : Nat → Nat) : Prop where
  queues : ∀ i j, 1 ≤ i → i ≤ count → 1 ≤ j → j ≤ count → handle i = handle j → i = j
  root : ∀ i, 1 ≤ i → i ≤ count → handle i ≠ root * 65536
  clsact : ∀ i, 1 ≤ i → i ≤ count → handle i ≠ 0xffff0000

/-- There is an `mq` root `r:`, each of its classes `r:i` has an `fq`, and their handles are
distinct. -/
def QueuesInstalled (trace : Trace) (ifindex : UInt32) (count : Nat) : Prop :=
  ∃ (root : Nat) (handle : Nat → Nat), 0 < root ∧
    Installed trace ifindex tcHRoot.toNat (root * 65536) (ascii "mq") ∧
    (∀ i, 1 ≤ i → i ≤ count →
      Installed trace ifindex (root * 65536 + i) (handle i) (ascii "fq")) ∧
    Distinct root count handle

theorem tcHMake_toNat {major minor : Nat} (high : major < 65536) (low : minor < 65536) :
    (tcHMake (UInt32.ofNat major <<< 16) (UInt32.ofNat minor)).toNat = major * 65536 + minor := by
  have shifted : (UInt32.ofNat major <<< 16).toNat = major <<< 16 := by
    rw [UInt32.toNat_shiftLeft, UInt32.toNat_ofNat_of_lt' (Nat.lt_trans high (by decide))]
    show major <<< 16 % 2 ^ 32 = major <<< 16
    rw [Nat.shiftLeft_eq]
    omega
  rw [tcHMake, UInt32.toNat_or, UInt32.toNat_and, UInt32.toNat_and, shifted,
    UInt32.toNat_ofNat_of_lt' (Nat.lt_trans low (by decide))]
  show major <<< 16 &&& 65535 <<< 16 ||| minor &&& 65535 = major * 65536 + minor
  rw [← Nat.shiftLeft_and_distrib, show 65535 = 2 ^ 16 - 1 by rfl,
    Nat.and_two_pow_sub_one_eq_mod, Nat.and_two_pow_sub_one_eq_mod, Nat.mod_eq_of_lt high,
    Nat.mod_eq_of_lt low, ← Nat.shiftLeft_add_eq_or_of_lt low, Nat.shiftLeft_eq]

theorem handle_toNat {major : Nat} (high : major < 65536) :
    (tcHMake (UInt32.ofNat major <<< 16) 0).toNat = major * 65536 := by
  have made := @tcHMake_toNat major 0 high (by decide)
  rw [Nat.add_zero] at made
  exact made

theorem replaces_replaceQdisc (ifindex parent handle : UInt32) (kind : CString) :
    Replaces ifindex parent.toNat handle.toNat kind (replaceQdisc ifindex parent handle kind) :=
  ⟨rfl, rfl, rfl, rfl, rfl, rfl⟩

theorem filters_filterMessage (ifindex : UInt32) (bpfFd : Int) :
    Filters ifindex bpfFd (filterMessage ifindex bpfFd) :=
  ⟨rfl, rfl, rfl, rfl, rfl, rfl, rfl⟩

/-- The chosen root shifts the handles of all queues, but not onto one another. -/
theorem distinct {root count : Nat} (high : root + count < 65535) :
    Distinct root count fun i => (i + root) * 65536 := by
  refine ⟨fun i j _ _ _ _ same => ?_, fun i first _ same => ?_, fun i _ last same => ?_⟩
  · omega
  · omega
  · omega

theorem queuesInstalled_of_succeeded {trace : Trace} {ifindex : UInt32} {root count : Nat}
    (positive : 0 < root) (high : root + count < 65535)
    (mq : Succeeded trace (rootMessage ifindex root))
    (each : ∀ i, 1 ≤ i → i ≤ count → Succeeded trace (queueMessage ifindex root i)) :
    QueuesInstalled trace ifindex count := by
  have above : (rootHandle root).toNat = root * 65536 := handle_toNat (by omega)
  refine ⟨root, fun i => (i + root) * 65536, positive, ⟨_, ?_, mq⟩, ?_, distinct high⟩
  · rw [← above]
    exact replaces_replaceQdisc ifindex _ _ _
  · intro i first last
    have parent : (queueParent root i).toNat = root * 65536 + i :=
      tcHMake_toNat (by omega) (by omega)
    have handle : (queueHandle root i).toNat = (i + root) * 65536 := handle_toNat (by omega)
    refine ⟨_, ?_, each i first last⟩
    dsimp only
    rw [← parent, ← handle]
    exact replaces_replaceQdisc ifindex _ _ _

section Runs

variable {ifindex : UInt32} {trace : Trace} {rc : Int}

/-- A request, with the code that answers it. -/
theorem talk_run {message : Message} (yields : Yields (talk message) trace rc) :
    ∃ code : Int, trace = [⟨.rtnlTalk message, code⟩] ∧ (rc < 0 ↔ code < 0) := by
  obtain ⟨first, second, code, rfl, said, rest⟩ := yields_bind.mp yields
  rw [yields_perform] at said
  subst said
  refine ⟨code, ?_⟩
  split at rest
  · obtain ⟨rfl, rfl⟩ := yields_pure.mp rest
    exact ⟨rfl, Iff.rfl⟩
  · rename_i worked
    obtain ⟨rfl, rfl⟩ := yields_pure.mp rest
    exact ⟨rfl, fun wrong => absurd wrong (Int.lt_irrefl 0), fun failed => absurd failed worked⟩

theorem Succeeded.append_right {message : Message} (succeeded : Succeeded trace message)
    (later : Trace) : Succeeded (trace ++ later) message := by
  obtain ⟨code, worked, member⟩ := succeeded
  exact ⟨code, worked, List.mem_append_left later member⟩

theorem Succeeded.append_left {message : Message} (succeeded : Succeeded trace message)
    (earlier : Trace) : Succeeded (earlier ++ trace) message := by
  obtain ⟨code, worked, member⟩ := succeeded
  exact ⟨code, worked, List.mem_append_right earlier member⟩

theorem talk_succeeded {message : Message} (yields : Yields (talk message) trace rc)
    (worked : ¬ rc < 0) : Succeeded trace message := by
  obtain ⟨code, rfl, same⟩ := talk_run yields
  exact ⟨code, by omega, List.mem_singleton_self _⟩

/-- The loop over the queues succeeds only if each of them was replaced. -/
theorem installQueues_succeeded {root left i : Nat}
    (yields : Yields (installQueues ifindex root left i) trace rc) (worked : ¬ rc < 0) :
    ∀ j, i ≤ j → j < i + left → Succeeded trace (queueMessage ifindex root j) := by
  induction left generalizing i trace with
  | zero =>
      intro j first last
      omega
  | succ left ih =>
      obtain ⟨before, after, code, rfl, replaced, went, rest⟩ := unless_succeeded yields worked
      intro j first last
      by_cases here : j = i
      · subst here
        exact (talk_succeeded replaced went).append_right after
      · exact (ih rest j (by omega) (by omega)).append_left before

/-- The loop over the handles of the root. -/
theorem installRoot_succeeded {left root found : Nat} {last : Int}
    (yields : Yields (installRoot ifindex left root last) trace (.ok found)) :
    root ≤ found ∧ found < root + left ∧ Succeeded trace (rootMessage ifindex found) := by
  induction left generalizing root trace last with
  | zero =>
      obtain ⟨_, wrong⟩ := yields_pure.mp yields
      cases wrong
  | succ left ih =>
      obtain ⟨before, after, code, rfl, replaced, rest⟩ := yields_bind.mp yields
      split at rest
      · obtain ⟨low, high, succeeded⟩ := ih rest
        exact ⟨by omega, by omega, succeeded.append_left before⟩
      · rename_i worked
        obtain ⟨rfl, same⟩ := yields_pure.mp rest
        cases same
        exact ⟨Nat.le_refl _, by omega, (talk_succeeded replaced worked).append_right []⟩

/-- Without a handle for the root there is an error to return. -/
theorem installRoot_failed {left root : Nat} {last code : Int} (error : 0 < left ∨ last < 0)
    (yields : Yields (installRoot ifindex left root last) trace (.error code)) : code < 0 := by
  induction left generalizing root trace last with
  | zero =>
      obtain ⟨_, same⟩ := yields_pure.mp yields
      cases same
      omega
  | succ left ih =>
      obtain ⟨before, after, rc, _, _, rest⟩ := yields_bind.mp yields
      split at rest
      · rename_i failed
        exact ih (.inr failed) rest
      · obtain ⟨_, wrong⟩ := yields_pure.mp rest
        cases wrong

/-- The branch for the queues. -/
theorem setupQueues_succeeded {attr : IfaceAttr} (low : 1 ≤ attr.numTxQueues)
    (high : attr.numTxQueues ≤ 4096) (yields : Yields (setupQueues ifindex attr) trace rc)
    (worked : ¬ rc < 0) :
    (attr.numTxQueues = 1 → attr.qdiscKind = .fq ∨ Succeeded trace (singleMessage ifindex)) ∧
      (1 < attr.numTxQueues → ∃ root, 0 < root ∧ root + attr.numTxQueues.toNat < 65535 ∧
        Succeeded trace (rootMessage ifindex root) ∧
        ∀ i, 1 ≤ i → i ≤ attr.numTxQueues.toNat →
          Succeeded trace (queueMessage ifindex root i)) := by
  unfold setupQueues at yields
  split at yields
  · rename_i one
    refine ⟨fun _ => ?_, fun several => by omega⟩
    split at yields
    · exact .inr (talk_succeeded yields worked)
    · rename_i already
      exact .inl (not_not.mp already)
  · rename_i several
    refine ⟨fun one => absurd one several, fun _ => ?_⟩
    obtain ⟨before, after, result, rfl, installed, rest⟩ := yields_bind.mp yields
    cases result with
    | error code =>
        obtain ⟨_, same⟩ := yields_pure.mp rest
        rw [same] at worked
        exact absurd (installRoot_failed (.inl (by decide)) installed) worked
    | ok root =>
        obtain ⟨first, last, mq⟩ := installRoot_succeeded installed
        have queues := installQueues_succeeded rest worked
        refine ⟨root, first, by omega, mq.append_right after, fun i first end_ => ?_⟩
        exact (queues i first (by omega)).append_left before

end Runs

/-- The loop with `nr_try`, by the deletions that are left to it. -/
def replaceOrDelete (replace del : Prog Int) : (left : Nat) → Prog Int
  | 0 => do
      let rc ← replace
      if rc < 0 then return rc
      return 0
  | left + 1 => do
      let rc ← replace
      if rc < 0 then
        let rc ← del
        if rc < 0 then return rc
        replaceOrDelete replace del left
      else return 0

theorem replaceLoop_eq (replace del : Prog Int) :
    replaceLoop replace del 0 = replaceOrDelete replace del 1 := by
  have last : replaceLoop replace del 1 = replaceOrDelete replace del 0 := by
    rw [replaceLoop]
    rfl
  rw [replaceLoop, last]
  rfl

theorem setupClsact_eq (ifindex : UInt32) :
    setupClsact ifindex = replaceOrDelete (talk (clsactMessage ifindex))
      (talk (delQdisc ifindex tcHClsact clsactHandle)) 1 :=
  replaceLoop_eq _ _

theorem setupFilter_eq (ifindex : UInt32) (bpfFd : Int) :
    setupFilter ifindex bpfFd = replaceOrDelete (talk (filterMessage ifindex bpfFd))
      (talk (delFilter ifindex egress prio)) 1 :=
  replaceLoop_eq _ _

section Retry

variable {replace del : Message} {left : Nat} {trace : Trace} {rc : Int}

/-- The loop with `nr_try` ends well only with a replacement that succeeded. -/
theorem replaceOrDelete_succeeded
    (yields : Yields (replaceOrDelete (talk replace) (talk del) left) trace rc)
    (worked : ¬ rc < 0) :
    ∃ before code, trace = before ++ [⟨.rtnlTalk replace, code⟩] ∧ (0 : Int) ≤ code := by
  induction left generalizing trace with
  | zero =>
      obtain ⟨before, after, code, rfl, replaced, went, rest⟩ := unless_succeeded yields worked
      obtain ⟨rfl, rfl⟩ := yields_pure.mp rest
      obtain ⟨answer, rfl, same⟩ := talk_run replaced
      exact ⟨[], answer, rfl, by omega⟩
  | succ left ih =>
      obtain ⟨before, after, code, rfl, replaced, rest⟩ := yields_bind.mp yields
      obtain ⟨answer, rfl, same⟩ := talk_run replaced
      split at rest
      · obtain ⟨deleted, later, _, rfl, _, _, rest⟩ := unless_succeeded rest worked
        obtain ⟨middle, last, rfl, right⟩ := ih rest
        refine ⟨[⟨.rtnlTalk replace, answer⟩] ++ (deleted ++ middle), last, ?_, right⟩
        rw [List.append_assoc, List.append_assoc]
      · rename_i went
        obtain ⟨rfl, rfl⟩ := yields_pure.mp rest
        exact ⟨[], answer, rfl, by omega⟩

end Retry

section Calls

variable {kind : Effect → Bool} {bound : Nat}

theorem replaceOrDelete_atMost {replace del : Prog Int} {again erase : Nat}
    (replaces : AtMost kind again replace) (deletes : AtMost kind erase del) (left : Nat) :
    AtMost kind (again + (erase + again) * left) (replaceOrDelete replace del left) := by
  induction left with
  | zero =>
      refine replaces.bind fun rc => ?_
      split <;> trivial
  | succ left ih =>
      refine replaces.bind fun rc => ?_
      split
      · have total : (erase + again) * (left + 1) = erase + (again + (erase + again) * left) := by
          rw [Nat.mul_succ, Nat.add_comm, Nat.add_assoc]
        rw [total]
        refine deletes.bind fun rc => ?_
        split
        · trivial
        · exact ih
      · trivial

section Queues

variable {ifindex : UInt32}
  (each : ∀ parent handle name,
    AtMost kind bound (talk (replaceQdisc ifindex parent handle name)))

include each

theorem installRoot_atMost (left root : Nat) (last : Int) :
    AtMost kind (bound * left) (installRoot ifindex left root last) := by
  induction left generalizing root last with
  | zero => trivial
  | succ left ih =>
      rw [Nat.mul_succ, Nat.add_comm]
      refine (each _ _ _).bind fun rc => ?_
      split
      · exact ih (root + 1) rc
      · trivial

theorem installQueues_atMost (root left i : Nat) :
    AtMost kind (bound * left) (installQueues ifindex root left i) := by
  induction left generalizing i with
  | zero => trivial
  | succ left ih =>
      rw [Nat.mul_succ, Nat.add_comm]
      refine (each _ _ _).bind fun rc => ?_
      split
      · trivial
      · exact ih (i + 1)

theorem setupQueues_atMost (attr : IfaceAttr) :
    AtMost kind (bound * (2 + attr.numTxQueues.toNat)) (setupQueues ifindex attr) := by
  unfold setupQueues
  split
  · split
    · exact (each _ _ _).mono (Nat.le_mul_of_pos_right _ (by omega))
    · trivial
  · rw [Nat.mul_add]
    refine (installRoot_atMost each 2 1 0).bind fun result => ?_
    cases result with
    | error code => trivial
    | ok root => exact installQueues_atMost each root _ 1

end Queues

theorem talk_counts {message : Message} (counts : (kind (.rtnlTalk message)).toNat = bound) :
    AtMost kind bound (talk message) := by
  rw [← counts]
  show AtMost kind ((kind (.rtnlTalk message)).toNat + 0) (talk message)
  refine (atMost_perform kind _).bind fun rc => ?_
  split <;> trivial

/-- The calls of the setup, by what each of them counts for. -/
theorem setupWith_atMost {ifindex : UInt32} (attr : IfaceAttr)
    (newqdisc delqdisc program newtfilter deltfilter : Nat)
    (replaces : ∀ parent handle name,
      (kind (.rtnlTalk (replaceQdisc ifindex parent handle name))).toNat = newqdisc)
    (deletes : (kind (.rtnlTalk (delQdisc ifindex tcHClsact clsactHandle))).toNat = delqdisc)
    (loads : (kind .bpfProgramFd).toNat = program)
    (filters : ∀ bpfFd, (kind (.rtnlTalk (filterMessage ifindex bpfFd))).toNat = newtfilter)
    (clears : (kind (.rtnlTalk (delFilter ifindex egress prio))).toNat = deltfilter) :
    AtMost kind
      (newqdisc * (2 + attr.numTxQueues.toNat) +
        (newqdisc + (delqdisc + newqdisc) * 1 +
          (program + (newtfilter + (deltfilter + newtfilter) * 1 + 0))))
      (setupWith ifindex attr) := by
  have qdiscs : ∀ parent handle name,
      AtMost kind newqdisc (talk (replaceQdisc ifindex parent handle name)) :=
    fun parent handle name => talk_counts (replaces parent handle name)
  unfold setupWith
  split
  · trivial
  · refine (setupQueues_atMost qdiscs attr).bind fun rc => ?_
    split
    · trivial
    · rw [setupClsact_eq]
      refine (replaceOrDelete_atMost (qdiscs _ _ _) (talk_counts deletes) 1).bind fun rc => ?_
      split
      · trivial
      · rw [← loads]
        refine (atMost_perform kind .bpfProgramFd).bind fun bpfFd => ?_
        split
        · trivial
        · rw [setupFilter_eq]
          refine (replaceOrDelete_atMost (talk_counts (filters bpfFd)) (talk_counts clears) 1).bind
            fun rc => ?_
          split <;> trivial

end Calls

/-- The call is a request of that type. -/
def isRequest (type : Nat) : Effect → Bool
  | .rtnlTalk message => message.nlmsgType = type
  | _ => false

/-- The requests of that type in a trace. -/
def requests (type : Nat) (trace : Trace) : Nat :=
  trace.countP fun event => isRequest type event.effect

section Bounds

variable (ifindex : UInt32) (attr : IfaceAttr)

/-- The setup ends within so many calls, whatever the kernel answers. -/
theorem setupWith_ends :
    AtMost (fun _ => true) (attr.numTxQueues.toNat + 9) (setupWith ifindex attr) := by
  apply (setupWith_atMost attr 1 1 1 1 1 (fun _ _ _ => rfl) rfl rfl (fun _ => rfl) rfl).mono
  omega

theorem setupWith_delqdisc : AtMost (isRequest rtmDelqdisc) 1 (setupWith ifindex attr) := by
  apply (setupWith_atMost attr 0 1 0 0 0 (fun _ _ _ => rfl) rfl rfl (fun _ => rfl) rfl).mono
  omega

theorem setupWith_deltfilter : AtMost (isRequest rtmDeltfilter) 1 (setupWith ifindex attr) := by
  apply (setupWith_atMost attr 0 0 0 0 1 (fun _ _ _ => rfl) rfl rfl (fun _ => rfl) rfl).mono
  omega

end Bounds

/-- The last replacement of clsact and then the last one of the filter succeeded. -/
def Attached (ifindex : UInt32) (trace : Trace) : Prop :=
  ∃ (before between : Trace) (clsact filter : Message) (bpfFd first last : Int),
    trace = before ++ ⟨.rtnlTalk clsact, first⟩ :: (between ++ [⟨.rtnlTalk filter, last⟩]) ∧
    Replaces ifindex tcHClsact.toNat 0xffff0000 (ascii "clsact") clsact ∧
    Filters ifindex bpfFd filter ∧ ⟨.bpfProgramFd, bpfFd⟩ ∈ between ∧
    requests rtmNewqdisc between = 0 ∧ 0 ≤ first ∧ 0 ≤ last

/-- What a trace of the setup has to show: each queue has its qdisc, and the filter is
attached. -/
structure Complete (ifindex : UInt32) (attr : IfaceAttr) (trace : Trace) : Prop where
  single : attr.numTxQueues = 1 →
    attr.qdiscKind = .fq ∨ Installed trace ifindex tcHRoot.toNat 0 (ascii "fq")
  several : 1 < attr.numTxQueues → QueuesInstalled trace ifindex attr.numTxQueues.toNat
  attached : Attached ifindex trace

section Success

variable {ifindex : UInt32} {trace : Trace} {rc : Int}

/-- Nothing but requests for the filter follows clsact. -/
theorem setupFilter_newqdisc {bpfFd : Int} (yields : Yields (setupFilter ifindex bpfFd) trace rc) :
    requests rtmNewqdisc trace = 0 := by
  have none : AtMost (isRequest rtmNewqdisc) 0 (setupFilter ifindex bpfFd) := by
    have replaces : AtMost (isRequest rtmNewqdisc) 0 (talk (filterMessage ifindex bpfFd)) :=
      talk_counts rfl
    have deletes : AtMost (isRequest rtmNewqdisc) 0 (talk (delFilter ifindex egress prio)) :=
      talk_counts rfl
    rw [setupFilter_eq]
    exact replaceOrDelete_atMost replaces deletes 1
  exact Nat.le_zero.mp (none.of_exec (yields_iff_exec.mp yields)).1

/-- The two loops with `nr_try`, one after the other. -/
theorem attached_of_loops {clsact filter : Trace} {first second bpfFd : Int}
    (attaches : Yields (setupClsact ifindex) clsact first) (went : ¬ first < 0)
    (filters : Yields (setupFilter ifindex bpfFd) filter second) (worked : ¬ second < 0) :
    Attached ifindex (clsact ++ ([⟨.bpfProgramFd, bpfFd⟩] ++ filter)) := by
  have quiet := setupFilter_newqdisc filters
  rw [setupClsact_eq] at attaches
  rw [setupFilter_eq] at filters
  obtain ⟨before, code, rfl, right⟩ := replaceOrDelete_succeeded attaches went
  obtain ⟨between, result, rfl, good⟩ := replaceOrDelete_succeeded filters worked
  refine ⟨before, ⟨.bpfProgramFd, bpfFd⟩ :: between, _, _, bpfFd, code, result, ?_,
    replaces_replaceQdisc ifindex tcHClsact clsactHandle _, filters_filterMessage ifindex bpfFd,
    List.mem_cons_self, ?_, right, good⟩
  · rw [List.append_assoc]
    rfl
  · rw [requests, List.countP_append] at quiet
    rw [requests, List.countP_cons_of_neg Bool.false_ne_true]
    exact (Nat.add_eq_zero_iff.mp quiet).1

theorem setupWith_complete {attr : IfaceAttr} (low : 1 ≤ attr.numTxQueues)
    (high : attr.numTxQueues ≤ 4096) (yields : Yields (setupWith ifindex attr) trace 0) :
    Complete ifindex attr trace := by
  have worked : ¬ (0 : Int) < 0 := Int.lt_irrefl 0
  unfold setupWith at yields
  rw [if_neg (by omega)] at yields
  obtain ⟨queues, _, _, rfl, installs, placed, yields⟩ := unless_succeeded yields worked
  obtain ⟨clsact, _, _, rfl, attaches, went, yields⟩ := unless_succeeded yields worked
  obtain ⟨loaded, _, bpfFd, rfl, loads, _, yields⟩ := unless_succeeded yields worked
  obtain ⟨filter, last, _, rfl, filters, good, yields⟩ := unless_succeeded yields worked
  obtain ⟨rfl, _⟩ := yields_pure.mp yields
  rw [yields_perform] at loads
  subst loads
  rw [List.append_nil]
  obtain ⟨single, several⟩ := setupQueues_succeeded low high installs placed
  refine ⟨fun one => (single one).imp_right fun replaced => ?_, fun more => ?_, ?_⟩
  · exact ⟨_, replaces_replaceQdisc ifindex tcHRoot tcHUnspec _, replaced.append_right _⟩
  · obtain ⟨root, positive, room, mq, each⟩ := several more
    exact queuesInstalled_of_succeeded positive room (mq.append_right _)
      fun i first last => (each i first last).append_right _
  · obtain ⟨before, between, first, last, fd, code, result, same, rest⟩ :=
      attached_of_loops attaches went filters good
    refine ⟨queues ++ before, between, first, last, fd, code, result, ?_, rest⟩
    rw [same, List.append_assoc]

end Success

/-- From the answer of `get_iface_props` on. -/
theorem tcSetupOneInferface_exec (ifname : CString) {ifindex : UInt32} (errno code : Int)
    (attr : IfaceAttr) (found : ifindex ≠ 0) (trace : Trace) :
    Run.exec Coro.advance (tcSetupOneInferface ifname)
        (⟨.ifNametoindex ifname, (ifindex, errno)⟩ ::
          ⟨.getIfaceProps ifindex, (code, attr)⟩ :: trace) =
      Run.exec Coro.advance (if code < 0 then pure code else setupWith ifindex attr) trace := by
  unfold tcSetupOneInferface
  rw [Coro.perform, Coro.call_bind, exec_call]
  simp only [Coro.pure_bind, if_neg found]
  rw [Coro.perform, Coro.call_bind, exec_call]
  rfl

/-- An interface is set up in a bounded number of calls, each deletion is tried at most
once, and the setup returns zero only if it is complete. -/
theorem setup_complete (ifname : CString) (ifindex : UInt32) (errno code : Int)
    (attr : IfaceAttr) (found : ifindex ≠ 0)
    (reported : 0 ≤ code → 1 ≤ attr.numTxQueues ∧ attr.numTxQueues ≤ 4096) (trace : Trace)
    (rest : Prog Int)
    (ran : Run.exec Coro.advance (tcSetupOneInferface ifname)
      (⟨.ifNametoindex ifname, (ifindex, errno)⟩ ::
        ⟨.getIfaceProps ifindex, (code, attr)⟩ :: trace) = some rest) :
    trace.length ≤ attr.numTxQueues.toNat + 9 ∧
      (trace.length = attr.numTxQueues.toNat + 9 → ∃ rc, rest = .pure rc) ∧
      requests rtmDelqdisc trace ≤ 1 ∧ requests rtmDeltfilter trace ≤ 1 ∧
      (rest = .pure 0 → 0 ≤ code ∧ Complete ifindex attr trace) := by
  rw [tcSetupOneInferface_exec ifname errno code attr found trace] at ran
  have remains : ∀ {kind : Effect → Bool} {bound : Nat},
      AtMost kind bound (setupWith ifindex attr) →
      trace.countP (fun event => kind event.effect) ≤ bound ∧
        AtMost kind (bound - trace.countP fun event => kind event.effect) rest := by
    intro kind bound few
    apply AtMost.of_exec _ ran
    split
    · trivial
    · exact few
  obtain ⟨short, left⟩ := remains (setupWith_ends ifindex attr)
  rw [List.countP_true] at short left
  refine ⟨short, fun all => ?_, (remains (setupWith_delqdisc ifindex attr)).1,
    (remains (setupWith_deltfilter ifindex attr)).1, ?_⟩
  · rw [all, Nat.sub_self] at left
    exact left.ended
  · rintro rfl
    have yields := yields_iff_exec.mpr ran
    split at yields
    · rename_i failed
      obtain ⟨_, same⟩ := yields_pure.mp yields
      omega
    · rename_i worked
      obtain ⟨low, high⟩ := reported (Int.not_lt.mp worked)
      exact ⟨Int.not_lt.mp worked, setupWith_complete low high yields⟩

/-- A setup of two queues in which the handle `1:` and clsact are taken at first. -/
def retriedQueues : Trace :=
  [⟨.rtnlTalk (rootMessage 3 1), (-17 : Int)⟩, ⟨.rtnlTalk (rootMessage 3 2), (0 : Int)⟩,
    ⟨.rtnlTalk (queueMessage 3 2 1), (0 : Int)⟩, ⟨.rtnlTalk (queueMessage 3 2 2), (0 : Int)⟩]
def retriedClsact : Trace :=
  [⟨.rtnlTalk (clsactMessage 3), (-17 : Int)⟩,
    ⟨.rtnlTalk (delQdisc 3 tcHClsact clsactHandle), (0 : Int)⟩,
    ⟨.rtnlTalk (clsactMessage 3), (0 : Int)⟩]
def firstFilter : Trace := [⟨.rtnlTalk (filterMessage 3 7), (0 : Int)⟩]

def retried : Trace :=
  retriedQueues ++ (retriedClsact ++ ([⟨.bpfProgramFd, (7 : Int)⟩] ++ (firstFilter ++ [])))

theorem retried_yields : Yields (setupWith 3 ⟨2, .noqueue⟩) retried 0 := by
  have queues : Yields (setupQueues 3 ⟨2, .noqueue⟩) retriedQueues 0 :=
    .call _ (.call _ (.call _ (.call _ (.pure _))))
  have clsact : Yields (setupClsact 3) retriedClsact 0 := by
    rw [setupClsact_eq]
    exact .call _ (.call _ (.call _ (.pure _)))
  have filter : Yields (setupFilter 3 7) firstFilter 0 := by
    rw [setupFilter_eq]
    exact .call _ (.pure _)
  refine yields_bind.mpr ⟨_, _, 0, rfl, queues, ?_⟩
  refine yields_bind.mpr ⟨_, _, 0, rfl, clsact, ?_⟩
  refine yields_bind.mpr ⟨_, _, (7 : Int), rfl, yields_perform.mpr rfl, ?_⟩
  exact yields_bind.mpr ⟨_, _, 0, rfl, filter, .pure _⟩

theorem setup_complete_retried :
    Run.exec Coro.advance (tcSetupOneInferface (ascii "eth0"))
        (⟨.ifNametoindex (ascii "eth0"), ((3 : UInt32), (0 : Int))⟩ ::
          ⟨.getIfaceProps 3, ((0 : Int), (⟨2, .noqueue⟩ : IfaceAttr))⟩ :: retried) =
        some (.pure 0) ∧
      requests rtmDelqdisc retried ≤ 1 ∧ Complete 3 ⟨2, .noqueue⟩ retried := by
  have ran : Run.exec Coro.advance (tcSetupOneInferface (ascii "eth0"))
      (⟨.ifNametoindex (ascii "eth0"), ((3 : UInt32), (0 : Int))⟩ ::
        ⟨.getIfaceProps 3, ((0 : Int), (⟨2, .noqueue⟩ : IfaceAttr))⟩ :: retried) =
      some (.pure 0) := by
    rw [tcSetupOneInferface_exec _ 0 0 _ (by decide)]
    exact yields_iff_exec.mp retried_yields
  obtain ⟨_, _, deleted, _, complete⟩ := setup_complete (ascii "eth0") 3 0 0 ⟨2, .noqueue⟩
    (by decide) (fun _ => by decide) retried (.pure 0) ran
  exact ⟨ran, deleted, (complete rfl).2⟩

end TrafficLimitd.Tc
