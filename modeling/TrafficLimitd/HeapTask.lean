import TrafficLimitd.HandlerScope
import TrafficLimitd.HeapHandler

set_option autoImplicit false

/- What a task owns. From its start with the descriptor of the connection to the end of its
cleanups it only uses what it holds, gives up everything once, and forgets only what an
answer excuses. -/
namespace TrafficLimitd.Heap

open Coroutine Handler Ownership
open Limiter (CgroupId)

/-- What the cleanups will give up. -/
def registeredRefs : List Registered → Multiset Ref
  | [] => 0
  | registered :: rest =>
      ofSome registered.mem + ({registered.node} + registeredRefs rest)

section Helpers

variable {refs : Multiset Ref} {credit : Nat} {stream : Ref}

end Helpers

section Stages

variable {list : List Registered} {credit : Nat} {stream : Ref} {host : Host}

/-- Code of the handler: what it holds at its end is what is registered then. -/
def Keeps (list : List Registered) (credit : Nat) (code : Prog (List Registered)) : Prop :=
  account.Owns ⟨registeredRefs list, credit⟩ code fun later => ⟨registeredRefs later, credit⟩

/-- Something is registered and the handler goes on with what it holds besides. -/
theorem owns_register {cleanup : Cleanup} {mem : Option Ref} {extra : Multiset Ref}
    {next : List Registered → Prog (List Registered)}
    (goes : ∀ node, account.Owns ⟨extra + registeredRefs (⟨node, cleanup, mem⟩ :: list), credit⟩
      (next (⟨node, cleanup, mem⟩ :: list)) fun later => ⟨registeredRefs later, credit⟩) :
    account.Owns ⟨extra + (ofSome mem + registeredRefs list), credit⟩
      (register list cleanup mem >>= next) fun later => ⟨registeredRefs later, credit⟩ := by
  have registers : account.Owns ⟨extra + (ofSome mem + registeredRefs list), credit⟩
      (ask (.register cleanup mem)) _ :=
    account.owns_perform (.register cleanup mem) credit (by simp [account]) (Multiset.zero_le _)
  apply registers.bind
  intro id
  apply (goes ⟨.node, id⟩).congr _ (fun _ => rfl)
  simp only [account, registeredRefs, tsub_zero, Nat.add_zero]
  congr 1
  abel

theorem keeps_register {cleanup : Cleanup} {mem : Option Ref}
    {next : List Registered → Prog (List Registered)}
    (goes : ∀ node, Keeps (⟨node, cleanup, mem⟩ :: list) credit
      (next (⟨node, cleanup, mem⟩ :: list))) :
    account.Owns ⟨ofSome mem + registeredRefs list, credit⟩ (register list cleanup mem >>= next)
      fun later => ⟨registeredRefs later, credit⟩ := by
  rw [← zero_add (ofSome mem + registeredRefs list)]
  apply owns_register
  intro node
  rw [zero_add]
  exact goes node

variable {scopeObj : Text} {pidfdEvent : Ref}

end Stages

/-- The client hangs up when the reply to the first call of the bus has already come: the
message of the reply is never counted down. -/
def lateInterrupt : List (Event Op Answer) :=
  let stream : Ref := ⟨.msgStream, 3⟩
  let message : Ref := ⟨.message, 4⟩
  [⟨.openStream ⟨.fd, 3⟩, (0 : Int)⟩, ⟨.register .destroyMsgStream (some stream), (0 : Nat)⟩,
    ⟨.use stream, ()⟩, ⟨.plain (.regStreamInterrupt (some .ioErr)), ()⟩,
    ⟨.plain .increaseNrTasks, true⟩, ⟨.register .decreaseNrTasks none, (1 : Nat)⟩,
    ⟨.plain .thisUnitName, (none : Option CString)⟩, ⟨.create .message [], ((0, 4) : Int × Nat)⟩,
    ⟨.library [message], (0 : Int)⟩,
    ⟨.callAsync (.getUnitByPID scopeHost.selfPid) message, ((0, 5) : Int × Nat)⟩,
    ⟨.awaitReply (.getUnitByPID scopeHost.selfPid) false,
      ReplyWait.replied [] (.ok (6, [])) true⟩, ⟨.take ⟨.message, 6⟩ [], ()⟩,
    ⟨.drop ⟨.slot, 5⟩, ()⟩, ⟨.drop message, ()⟩, ⟨.plain (.setInterruptDisabled true), ()⟩,
    ⟨.plain .interruptReason, some InterruptReason.ioErr⟩, ⟨.drop ⟨.node, 1⟩, ()⟩,
    ⟨.drop stream, ()⟩, ⟨.drop ⟨.node, 0⟩, ()⟩]

end TrafficLimitd.Heap
