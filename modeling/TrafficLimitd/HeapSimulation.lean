import TrafficLimitd.HandlerCalls
import TrafficLimitd.HeapRefinement
import TrafficLimitd.HeapTask

set_option autoImplicit false

/- `client_handler_async` with what it holds against the handler of `HandlerProgram`, stage
by stage. The one passes its cleanups on and goes to a label by a call; the other leaves its
main path with the label that it goes to. -/
namespace TrafficLimitd.Heap

open Coroutine Handler
open Limiter (CgroupId)

/-- The model follows, whatever the two end with. -/
abbrev Along {α β : Type} (program : Prog α) (model : Handler.Prog β) : Prop :=
  Seems (fun _ _ => True) program model

section Calls

variable (stream : Ref)

theorem seems_msgStreamWrite (buf : List UInt8) (usec : Nat) :
    Seems Eq (msgStreamWrite stream buf usec) (Handler.msgStreamWrite buf usec) := by
  apply (silent_use stream).then
  intro _
  apply (seems_plain (.streamIo .write buf usec) fun _ => rfl).bind
  rintro answer _ rfl
  exact refines_pure rfl

theorem seems_writeRateLimitLog (text : CString) :
    Seems Eq (writeRateLimitLog stream text) (Handler.writeRateLimitLog text) := by
  apply seems_create
  · intro rc negative
    apply Refines.answer rc rfl
    rw [if_pos negative]
    exact refines_pure rfl
  · intro msg
    apply (silent_use msg).then
    intro _
    apply (silent_drop msg).then
    intro _
    apply Refines.answer (0 : Int) rfl
    exact seems_msgStreamWrite stream _ _

theorem seems_shutdownMsgStream :
    Seems Eq (shutdownMsgStream stream) Handler.shutdownMsgStream := by
  apply (silent_use stream).then
  intro _
  apply (seems_plain .drainStream fun _ => rfl).bind
  rintro rc _ rfl
  split
  · exact refines_pure rfl
  · apply (seems_msgStreamWrite stream [] 0).bind
    rintro rc _ rfl
    split
    · exact refines_pure rfl
    · exact seems_plain .shutdownTail fun _ => rfl

theorem along_killScope (scopeObj : Text) :
    Seems Eq (killScope scopeObj) (Handler.killScope scopeObj.bytes) := by
  have dropped (reply : Message) :
      Seems (fun _ _ => True) (drop reply.ref) (pure reply.body : Handler.Prog CString) := by
    rw [← bind_pure (drop reply.ref)]
    apply (silent_drop reply.ref).then
    intro _
    exact refines_pure trivial
  apply (seems_sbBusCallMethodv _ _ dropped).bind
  intro _ _ _
  exact refines_pure rfl

end Calls

section Labels

variable {host : Host} {list : List Registered} {stream : Ref}

theorem along_errCloseStream (rc : Int) (clientError : Bool) :
    Along (errCloseStream host list stream rc clientError)
      (Handler.errCloseStream host rc clientError) := by
  apply (seems_writeRateLimitLog stream _).bind
  intro _ _ _
  apply (seems_msgStreamWrite stream _ _).bind
  intro _ _ _
  apply (seems_shutdownMsgStream stream).bind
  intro _ _ _
  exact refines_pure trivial

theorem along_tellExit (reason : Option InterruptReason) (stream : Option Ref) :
    Along (tellExit reason stream) (Handler.tellExit reason stream.isSome) := by
  unfold tellExit Handler.tellExit
  cases stream with
  | none =>
      simp only [Option.isSome_none, Bool.false_eq_true, and_false, if_false]
      exact refines_pure trivial
  | some stream =>
      simp only [Option.isSome_some, and_true]
      split
      · apply (seems_msgStreamWrite stream _ _).bind
        intro _ _ _
        apply (seems_shutdownMsgStream stream).bind
        intro _ _ _
        exact refines_pure trivial
      · exact refines_pure trivial

theorem along_interruptLabel (scopeObj : Option Text) (stream : Option Ref) :
    Along (interruptLabel list scopeObj stream)
      (Handler.interruptLabel (scopeObj.map Text.bytes) stream.isSome) := by
  apply (seems_plain (.setInterruptDisabled true) fun _ => rfl).bind
  intro _ _ _
  apply (seems_plain .interruptReason fun _ => rfl).bind
  rintro reason _ rfl
  apply (along_tellExit reason stream).bind
  intro _ _ _
  rw [← bind_pure (Handler.killKnown _)]
  cases scopeObj with
  | none => exact refines_pure trivial
  | some scopeObj =>
      apply (along_killScope scopeObj).bind
      intro _ _ _
      exact refines_pure trivial

theorem along_leave (scopeObj : Option Text) (rc : Int) :
    Along (leave host list scopeObj stream rc)
      (atLabel host (.error (Handler.leave (scopeObj.map Text.bytes) rc))) := by
  unfold leave Handler.leave
  split
  · exact along_interruptLabel scopeObj (some stream)
  · exact along_errCloseStream rc false

end Labels

section Rest

/-- The main path of the model from each of its stages on. -/
def untilExit (scopeObj : CString) : Body Unit := do
  Handler.awaitExit scopeObj
  Handler.killScope scopeObj

def onceRequested (scopeObj : CString) (cgroup : CgroupId) (limit : RateLimit) : Body Unit := do
  Handler.setLimit cgroup limit
  Handler.proceed limit
  untilExit scopeObj

def onceBlocked (scopeObj : CString) (cgroup : CgroupId) : Body Unit := do
  let limit ← Handler.readRequest scopeObj
  onceRequested scopeObj cgroup limit

def onceWatched (scopeObj : CString) : Body Unit := do
  let cgroup ← Handler.blockTraffic scopeObj
  onceBlocked scopeObj cgroup

def onceStarted (pid : Pid) (scopeObj : CString) : Body Unit := do
  Handler.watchProcess pid
  onceWatched scopeObj

def onceChecked (pid : Pid) : Body Unit := do
  let scopeObj ← Handler.startScope pid
  onceStarted pid scopeObj

def onceNamed (pid : Pid) : Body Unit := do
  Handler.checkOrigin pid
  onceChecked pid

theorem serve_eq (host : Host) (pid : Pid) :
    Handler.serve host pid = (do Handler.nameThisUnit host; onceNamed pid) := rfl

end Rest

section Stages

variable {host : Host} {list : List Registered} {stream pidfdEvent : Ref} {scopeObj : Text}
  {α : Type}

/-- What the model does in the rest of the main path and at the label where it ends. -/
abbrev toLabel (host : Host) (body : Body Unit) : Handler.Prog Unit := body.run >>= atLabel host

theorem orLeave_toLabel (scopeObj : Option CString) (code : Fallible α)
    (following : α → Body Unit) :
    toLabel host (orLeave scopeObj code >>= following) = code.run >>= fun result =>
      match result with
      | .ok value => toLabel host (following value)
      | .error rc => atLabel host (.error (Handler.leave scopeObj rc)) := by
  unfold toLabel orLeave
  rw [ExceptT.run_bind, ExceptT.run_mk, bind_assoc, bind_assoc]
  congr 1
  funext result
  cases result <;> rfl

theorem lift_toLabel (code : Handler.Prog α) (following : α → Body Unit) :
    toLabel host ((liftM code : Body α) >>= following) =
      code >>= fun value => toLabel host (following value) := by
  have lifted : (liftM code : Body α).run = code >>= fun value => pure (.ok value) := rfl
  unfold toLabel
  rw [ExceptT.run_bind, lifted, bind_assoc, bind_assoc]
  rfl

theorem along_awaitExit :
    Along (awaitExit list scopeObj pidfdEvent) (toLabel host (untilExit scopeObj.bytes)) := by
  apply (silent_use pidfdEvent).then
  intro _
  unfold untilExit Handler.awaitExit
  rw [bind_assoc, lift_toLabel]
  apply (seems_plain .waitForExit fun _ => rfl).bind
  rintro answer _ rfl
  cases answer with
  | cancelled => exact along_interruptLabel (some scopeObj) none
  | value _ =>
      rw [pure_bind, ← bind_pure (liftM _ : Body Unit), lift_toLabel]
      apply (along_killScope scopeObj).bind
      intro _ _ _
      exact refines_pure trivial

theorem along_setLimit (cgroup : CgroupId) (limit : RateLimit) :
    Along (setLimit host list stream scopeObj pidfdEvent cgroup limit)
      (toLabel host (onceRequested scopeObj.bytes cgroup limit)) := by
  apply (silent_use stream).then
  intro _
  unfold onceRequested Handler.setLimit
  rw [bind_assoc, lift_toLabel]
  apply (seems_plain (.regStreamInterrupt none) fun _ => rfl).bind
  intro _ _ _
  rw [bind_assoc, lift_toLabel]
  apply (seems_plain (.rateLimitSet cgroup limit) fun _ => rfl).bind
  rintro rc _ rfl
  split
  · exact along_errCloseStream rc false
  · rw [pure_bind, lift_toLabel]
    unfold Handler.proceed
    rw [bind_assoc]
    apply (seems_writeRateLimitLog stream _).bind
    intro _ _ _
    rw [bind_assoc]
    apply (seems_msgStreamWrite stream _ _).bind
    intro _ _ _
    rw [bind_assoc]
    apply (seems_shutdownMsgStream stream).bind
    intro _ _ _
    exact along_awaitExit

theorem along_readRequest (cgroup : CgroupId) :
    Along (readRequest host list stream scopeObj pidfdEvent cgroup)
      (toLabel host (onceBlocked scopeObj.bytes cgroup)) := by
  apply (silent_use stream).then
  intro _
  unfold toLabel onceBlocked Handler.readRequest
  rw [ExceptT.run_bind, ExceptT.run_mk, bind_assoc, bind_assoc]
  apply (seems_plain (.streamIo .read _ maxIoUsec) fun _ => rfl).bind
  rintro answer _ rfl
  rw [pure_bind]
  rcases decodeRequest_cases scopeObj.bytes answer with
    ⟨rc, clientError, decoded⟩ | ⟨rc, decoded⟩ | ⟨_, buf, _, decoded⟩
  · simp only [decoded]
    exact along_errCloseStream rc clientError
  · unfold Handler.leave at decoded
    split at decoded
    · simp only [decoded]
      exact along_interruptLabel (some scopeObj) (some stream)
    · simp only [decoded]
      exact along_errCloseStream rc false
  · simp only [decoded]
    exact along_setLimit cgroup _

theorem seems_getUnitCgroupId (unitObj : Text) :
    Seems (Alike Eq) (getUnitCgroupId unitObj) (Handler.getUnitCgroupId unitObj.bytes).run := by
  apply seems_orElse (seems_sbUnitGetSubpropString unitObj _)
  rintro cgroupPath _ rfl
  apply seems_releasing
  apply (silent_use _).then
  intro _
  apply (seems_plain (.cgPathGetCgroupid _) fun _ => rfl).mono
  rintro (rc | cgroup) _ rfl
  · exact .error rc
  · exact .ok rfl

/-- A cleanup is registered at both levels. -/
theorem along_register (cleanup : Cleanup) (mem : Option Ref) :
    Along (register list cleanup mem) (registerCleanup cleanup) := by
  have registers : Along (ask (.register cleanup mem)) (registerCleanup cleanup) :=
    refines_perform (Op.register cleanup mem) (Effect.registerCleanup cleanup) (fun _ => ())
      (fun _ => rfl) fun _ => trivial
  rw [← bind_pure (registerCleanup cleanup)]
  apply registers.bind
  intro id _ _
  exact refines_pure trivial

theorem along_blockTraffic :
    Along (blockTraffic host list stream scopeObj pidfdEvent)
      (toLabel host (onceWatched scopeObj.bytes)) := by
  unfold onceWatched Handler.blockTraffic
  rw [bind_assoc, orLeave_toLabel]
  apply (seems_getUnitCgroupId scopeObj).bind
  intro _ _ alike
  cases alike with
  | error rc => exact along_leave (some scopeObj) rc
  | @ok cgroup _ same =>
      subst same
      dsimp only
      rw [bind_assoc, lift_toLabel]
      apply (seems_plain (.rateLimitSet cgroup ⟨0, 0⟩) fun _ => rfl).bind
      rintro rc _ rfl
      split
      · exact along_errCloseStream rc false
      · rw [bind_assoc, lift_toLabel]
        apply (along_register (.clearRateLimit cgroup) none).bind
        intro list _ _
        exact along_readRequest cgroup

theorem along_watchProcess (pid : Pid) :
    Along (watchProcess host list stream pid scopeObj)
      (toLabel host (onceStarted pid scopeObj.bytes)) := by
  have opens : Seems (fun answer rc => rc = answer.1) (ask (.openPidfd pid))
      (initPidfdEvent pid) :=
    refines_perform (Op.openPidfd pid) (Effect.initPidfdEvent pid) Prod.fst (fun _ => rfl)
      fun _ => rfl
  unfold watchProcess openPidfd onceStarted Handler.watchProcess
  rw [bind_assoc, bind_assoc, lift_toLabel]
  apply opens.bind
  rintro ⟨_, id⟩ rc rfl
  by_cases negative : rc < 0
  · simp only [negative, if_true, pure_bind]
    exact along_errCloseStream rc false
  · simp only [negative, if_false, pure_bind]
    rw [bind_assoc, lift_toLabel]
    apply (along_register _ _).bind
    intro list _ _
    rw [lift_toLabel]
    apply (silent_use _).then
    intro _
    apply (seems_plain (.regPidfdInterrupt (some .procEnd)) fun _ => rfl).bind
    intro _ _ _
    exact along_blockTraffic

theorem along_startScope (bus : Ref) (pid : Pid) :
    Along (startScope host bus list stream pid) (toLabel host (onceChecked pid)) := by
  unfold onceChecked Handler.startScope
  rw [bind_assoc, lift_toLabel]
  apply (seems_plain .thisUnitName fun _ => rfl).bind
  rintro thisUnit _ rfl
  rw [bind_assoc, orLeave_toLabel]
  apply (seems_startTransientScope bus pid _).bind
  intro _ _ alike
  cases alike with
  | error rc => exact along_leave none rc
  | ok scope =>
      subst scope
      dsimp only
      rw [bind_assoc, lift_toLabel]
      apply (along_register _ _).bind
      intro list _ _
      rw [bind_assoc, lift_toLabel]
      apply (along_register _ _).bind
      intro list _ _
      exact along_watchProcess pid

theorem along_checkOrigin (bus : Ref) (pid : Pid) :
    Along (checkOrigin host bus list stream pid) (toLabel host (onceNamed pid)) := by
  unfold onceNamed Handler.checkOrigin
  rw [bind_assoc, orLeave_toLabel]
  apply (seems_sbSdGetUnitByPID pid).bind
  intro _ _ alike
  cases alike with
  | error rc => exact along_leave none rc
  | @ok origUnit _ holds =>
      subst holds
      dsimp only
      rw [bind_assoc, lift_toLabel]
      apply (along_register _ _).bind
      intro list _ _
      rw [bind_assoc, orLeave_toLabel]
      apply (seems_getUnitCgroupId origUnit).bind
      intro _ _ alike
      cases alike with
      | error rc => exact along_leave none rc
      | @ok cgroup _ same =>
          subst same
          dsimp only
          rw [bind_assoc, lift_toLabel]
          apply (seems_plain (.rateLimitCheck cgroup) fun _ => rfl).bind
          rintro rc _ rfl
          split
          · rw [bind_assoc, lift_toLabel]
            apply (seems_writeRateLimitLog stream _).bind
            intro _ _ _
            exact along_errCloseStream _ true
          · exact along_startScope bus pid

/-- The name is stored, or dropped because another task was faster. -/
theorem along_storeName {following : Body Unit} {next : Prog (List Registered)} (name : Text)
    (along : Along next (toLabel host following)) :
    Along (do storeName name; next) (toLabel host ((do
      if (← Handler.thisUnitName).isNone then setThisUnitName name.bytes) >>= fun _ =>
        following)) := by
  unfold storeName
  rw [bind_assoc, bind_assoc, lift_toLabel]
  apply (seems_plain .thisUnitName fun _ => rfl).bind
  rintro known _ rfl
  by_cases unknown : known.isNone
  · simp only [unknown, if_true]
    rw [lift_toLabel]
    have keeps : Along (keep name) (setThisUnitName name.bytes) :=
      refines_perform (Op.keep name) (Effect.setThisUnitName name.bytes) (fun _ => ())
        (fun _ => rfl) fun _ => trivial
    apply keeps.bind
    intro _ _ _
    exact along
  · simp only [unknown]
    apply (silent_drop name.ref).then
    intro _
    exact along

theorem along_serve (bus : Ref) (pid : Pid) :
    Along (serve host bus list stream pid) (toLabel host (Handler.serve host pid)) := by
  rw [serve_eq]
  unfold Handler.nameThisUnit
  rw [bind_assoc, lift_toLabel]
  apply (seems_plain .thisUnitName fun _ => rfl).bind
  rintro known _ rfl
  by_cases unknown : known.isNone
  · simp only [unknown, if_true]
    rw [bind_assoc, orLeave_toLabel]
    apply (seems_getSelfUnitName host.selfPid).bind
    intro _ _ alike
    cases alike with
    | error rc => exact along_leave none rc
    | @ok name _ holds =>
        subst holds
        exact along_storeName name (along_checkOrigin bus pid)
  · simp only [unknown]
    exact along_checkOrigin bus pid

theorem along_clientHandlerAsync (bus fd : Ref) (pid : Pid) :
    Along (clientHandlerAsync host bus fd pid) (Handler.clientHandlerAsync host pid) := by
  have opens : Seems Eq (openStream fd) initMsgStream :=
    refines_perform (Op.openStream fd) Effect.initMsgStream id (fun _ => rfl) fun _ => rfl
  apply opens.bind
  rintro rc _ rfl
  split
  · rw [← bind_pure Handler.closeFd]
    have closes : Along (closeFd fd) Handler.closeFd :=
      refines_perform (Op.closeFd fd) Effect.closeFd id (fun _ => rfl) fun _ => trivial
    apply closes.bind
    intro _ _ _
    exact refines_pure trivial
  · apply (along_register _ _).bind
    intro list _ _
    apply (silent_use _).then
    intro _
    apply (seems_plain (.regStreamInterrupt (some .ioErr)) fun _ => rfl).bind
    intro _ _ _
    apply (seems_plain .increaseNrTasks fun _ => rfl).bind
    rintro admitted _ rfl
    split
    · apply (along_register _ _).bind
      intro list _ _
      exact along_serve bus pid
    · apply (seems_msgStreamWrite _ _ _).bind
      intro _ _ _
      apply (seems_shutdownMsgStream _).bind
      intro _ _ _
      exact refines_pure trivial

end Stages

/-- The handler with everything that it allocates, counts and frees runs as the handler of
the model: after any of its calls, whichever of them failed, the model can have made calls
of which the same is seen, that is the same calls of the daemon, of the kernel and of
systemd with the same answers, in the same order; and when the one has ended, so has the
other. -/
theorem handler_runs_as_modelled (host : Host) (bus fd : Ref) (pid : Pid)
    (events : List (Event Op Answer)) (rest : Prog (List Registered))
    (ran : Run.exec Coro.advance (clientHandlerAsync host bus fd pid) events = some rest) :
    ∃ calls left, Run.exec Coro.advance (Handler.clientHandlerAsync host pid) calls = some left ∧
      seen handlerView calls = seen heapView events ∧
      (rest.pending = none → left.pending = none) := by
  obtain ⟨calls, left, made, same, follows⟩ :=
    (along_clientHandlerAsync bus fd pid).exec ran
  cases rest with
  | call op next => exact ⟨calls, left, made, same, by simp⟩
  | pure list =>
      obtain ⟨more, result, ends, unseen, _⟩ := follows
      refine ⟨calls ++ more, .pure result, ?_, ?_, fun _ => rfl⟩
      · rw [Run.exec_append, made, Option.bind_some]
        exact ends
      · rw [seen_append, unseen, List.append_nil, same]

/-- The handler of the interrupted client, without its cleanups. -/
theorem handler_runs_as_modelled_late :
    ∃ rest ∈ Run.exec Coro.advance (clientHandlerAsync scopeHost ⟨.bus, 0⟩ ⟨.fd, 3⟩ 7)
        (lateInterrupt.take 16),
      ∃ calls left, Run.exec Coro.advance (Handler.clientHandlerAsync scopeHost 7) calls =
          some left ∧
        seen handlerView calls = seen heapView (lateInterrupt.take 16) ∧ left.pending = none := by
  have ends : ∃ rest ∈ Run.exec Coro.advance
      (clientHandlerAsync scopeHost ⟨.bus, 0⟩ ⟨.fd, 3⟩ 7) (lateInterrupt.take 16),
      rest.pending = none := by decide +kernel
  obtain ⟨rest, ran, ended⟩ := ends
  obtain ⟨calls, left, made, same, finished⟩ := handler_runs_as_modelled scopeHost ⟨.bus, 0⟩
    ⟨.fd, 3⟩ 7 (lateInterrupt.take 16) rest ran
  exact ⟨rest, ran, calls, left, made, same, finished ended⟩

end TrafficLimitd.Heap
