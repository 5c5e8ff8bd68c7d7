import TrafficLimitd.HandlerPath

set_option autoImplicit false

/- Who holds the descriptor of a connection. The handler has it until a stream is made of
it; then the stream's event source owns it, which `shutdown_msg_stream` releases or else
`destroy_msg_stream`. -/
namespace TrafficLimitd.Handler

open Coroutine

/-- The stream's pointer to its source, if there is a stream, whether the stream is
destroyed when the task ends, and how often the descriptor was closed. -/
structure Fd where
  source : Option Bool
  registered : Bool
  closes : Nat
deriving DecidableEq, Repr

namespace Fd

def accepted : Fd := ⟨none, false, 0⟩

/-- The stream's source owns the descriptor and is released when the task ends. -/
def held : Fd := ⟨some true, true, 0⟩

/-- `shutdown_msg_stream` has released the source. -/
def released : Fd := ⟨some false, true, 1⟩

/-- A descriptor without a stream is used and closed while it is open, a stream while it
has its source. -/
def may (fd : Fd) : Effect → Prop
  | .initMsgStream | .closeFd => fd.source = none ∧ fd.closes = 0
  | .streamIo _ _ _ | .drainStream | .shutdownTail => fd.source = some true
  | .registerCleanup .destroyMsgStream => fd.source = some true ∧ fd.registered = false
  | _ => True

def after (fd : Fd) : (effect : Effect) → Response effect → Fd
  | .initMsgStream, (rc : Int) => if rc < 0 then fd else { fd with source := some true }
  | .closeFd, _ => { fd with closes := fd.closes + 1 }
  | .registerCleanup .destroyMsgStream, _ => { fd with registered := true }
  | .shutdownTail, (rc : Int) =>
      if rc < 0 then fd else { fd with source := some false, closes := fd.closes + 1 }
  | _, _ => fd

def rules : Discipline Effect Response Fd where
  may := may
  after := after

/-- What the end of the handler leaves to the cleanup: nothing if the descriptor is
closed, and else the stream. -/
def Settled (fd : Fd) : Prop :=
  fd = ⟨none, false, 1⟩ ∨ fd = held ∨ fd = released

/-- The calls that leave the descriptor alone. -/
def Aside : Effect → Prop
  | .initMsgStream | .closeFd | .streamIo _ _ _ | .drainStream | .shutdownTail
  | .registerCleanup .destroyMsgStream => False
  | _ => True

/-- These and the transfers. -/
def Using : Effect → Prop
  | .streamIo _ _ _ => True
  | effect => Aside effect

theorem aside_kept (fd : Fd) (effect : Effect) (aside : Aside effect) :
    rules.may fd effect ∧ ∀ answer, rules.after fd effect answer = fd := by
  cases effect with
  | registerCleanup cleanup =>
      cases cleanup <;> first | exact ⟨trivial, fun _ => rfl⟩ | exact aside.elim
  | _ => first | exact ⟨trivial, fun _ => rfl⟩ | exact aside.elim

theorem aside_follows {α : Type} {program : Prog α} (aside : Only Aside program) (fd : Fd) :
    rules.Follows fd program fun final _ => final = fd :=
  aside.follows_same aside_kept fd

theorem using_kept (fd : Fd) (effect : Effect) (has : fd = held) (uses : Using effect) :
    rules.may fd effect ∧ ∀ answer, rules.after fd effect answer = held := by
  subst has
  cases effect with
  | streamIo direction buf usec => exact ⟨rfl, fun _ => rfl⟩
  | _ => exact aside_kept held _ uses

theorem using_follows {α : Type} {program : Prog α} (uses : Only Using program) :
    rules.Follows held program fun final _ => final = held :=
  uses.follows (fun final => final = held) using_kept rfl

theorem using_asking : Asking Using := .of_questions fun effect question => by
  cases effect <;> first | exact trivial | exact question.elim

theorem using_writing : Writing Using where
  library := trivial
  log _ := trivial
  fail _ := trivial

/-- The stream is there, with its source or without. -/
def Kept (fd : Fd) : Prop := fd = held ∨ fd = released

/-- Each early return of `shutdown_msg_stream` leaves the source to
`destroy_msg_stream`. -/
theorem shutdownMsgStream_follows :
    rules.Follows held shutdownMsgStream fun final _ => final.Kept := by
  refine ⟨rfl, fun (rc : Int) => ?_⟩
  change rules.Follows held (if rc < 0 then _ else _) _
  split
  · exact .inl rfl
  · refine ⟨rfl, fun (answer : Awaited (Int × List UInt8)) => ?_⟩
    change rules.Follows held (if ioRc answer < 0 then _ else _) _
    split
    · exact .inl rfl
    · refine ⟨rfl, fun (rc : Int) => ?_⟩
      change Kept (if rc < 0 then held else released)
      split
      · exact .inl rfl
      · exact .inr rfl

theorem using_bind {α β : Type} {program : Prog α} {continuation : α → Prog β}
    {post : Fd → β → Prop} (uses : Only Using program)
    (second : ∀ value, rules.Follows held (continuation value) post) :
    rules.Follows held (program >>= continuation) post := by
  refine (using_follows uses).bind ?_
  rintro _ value rfl
  exact second value

theorem writeAndShutdown_follows {program : Prog Int} (uses : Only Using program) :
    rules.Follows held (do
      let _ ← program
      let _ ← shutdownMsgStream) fun final _ => final.Kept :=
  using_bind uses fun _ => shutdownMsgStream_follows.bind fun _ _ kept => kept

theorem proceed_follows (limit : RateLimit) :
    rules.Follows held (proceed limit) fun final _ => final.Kept :=
  using_bind (using_writing.writeRateLimitLog _) fun _ =>
    writeAndShutdown_follows (Only.bind (only_ask trivial) fun _ => trivial)

/-- Where the handler leaves its main path: after `shutdown_msg_stream` only by an
interrupt that finds `stream` to be NULL. -/
def Leaves (fd : Fd) : Exit → Prop
  | .interrupt _ false => fd.Kept
  | _ => fd = held

theorem leaves_held (exit : Exit) : held.Leaves exit := by
  rcases exit with ⟨rc, clientError⟩ | ⟨scopeObj, _ | _⟩
  · rfl
  · exact .inl rfl
  · rfl

theorem using_triple {α : Type} {code : Body α} (uses : Only Using code.run) :
    rules.Triple Leaves (· = held) code fun _ => (· = held) :=
  uses.triple using_kept fun _ exit same => same ▸ leaves_held exit

theorem awaitExit_triple (scopeObj : CString) :
    rules.Triple Leaves Kept (awaitExit scopeObj) fun _ => Kept := by
  intro fd kept
  refine follows_ask.mpr ⟨trivial, fun (answer : Awaited Unit) => ?_⟩
  cases answer <;> exact kept

theorem killScope_follows {fd : Fd} (kept : fd.Kept) (scopeObj : CString) :
    rules.Follows fd (killScope scopeObj) fun final _ => final.Kept := by
  apply (aside_follows (only_killScope trivial) fd).mono
  rintro _ _ rfl
  exact kept

def stages : Stages Fd where
  early := (· = held)
  launched _ := Kept
  ended := Kept
  leaves := Leaves

theorem stages_passed (host : Host) (pid : Pid) : stages.Passed rules host pid where
  names := using_triple (using_asking.nameThisUnit host)
  checks := using_triple (using_asking.checkOrigin using_writing pid trivial fun _ => trivial)
  starts := using_triple (using_asking.startScope pid (fun _ => trivial) (fun _ => trivial)
    (fun _ => trivial) trivial)
  watches _ := using_triple (only_watchProcess pid trivial trivial trivial)
  blocks scopeObj := using_triple (using_asking.blockTraffic scopeObj (fun _ _ => trivial)
    fun _ => trivial)
  hears scopeObj _ := using_triple (only_readRequest scopeObj trivial)
  limits _ cgroup limit := using_triple (only_setLimit cgroup limit trivial trivial)
  proceeds _ _ limit := Discipline.triple_lift fun _ same => same ▸ proceed_follows limit
  awaits scopeObj := awaitExit_triple scopeObj
  kills scopeObj := Discipline.triple_lift fun _ kept => killScope_follows kept scopeObj

/-- The code at the labels uses the stream only while it has its source. -/
theorem atLabel_follows (host : Host) {fd : Fd} {exit : Exit} (leaves : fd.Leaves exit) :
    rules.Follows fd (atLabel host (.error exit)) fun final _ => final.Kept := by
  have kills (fd : Fd) (kept : fd.Kept) (scopeObj : Option CString) :
      rules.Follows fd (killKnown scopeObj) fun final _ => final.Kept := by
    cases scopeObj with
    | none => exact kept
    | some scopeObj => exact killScope_follows kept scopeObj
  rcases exit with ⟨rc, clientError⟩ | ⟨scopeObj, stream⟩
  · obtain rfl : fd = held := leaves
    exact using_bind (using_writing.writeRateLimitLog _) fun _ =>
      writeAndShutdown_follows (using_writing.writeFail _)
  · refine ⟨trivial, fun _ => ⟨trivial, fun (reason : Option InterruptReason) => ?_⟩⟩
    change rules.Follows fd (tellExit reason stream >>= fun _ => killKnown scopeObj) _
    cases stream with
    | false =>
        rw [tellExit, if_neg (by simp)]
        exact kills fd leaves scopeObj
    | true =>
        obtain rfl : fd = held := leaves
        have tells : rules.Follows held (tellExit reason true) fun final _ => final.Kept := by
          unfold tellExit
          split
          · exact writeAndShutdown_follows (using_writing.writeFail _)
          · exact .inl rfl
        exact tells.bind fun final _ kept => kills final kept scopeObj

theorem opens : Opens rules accepted (· = held) Settled := by
  refine ⟨⟨rfl, rfl⟩, fun (rc : Int) => ?_⟩
  change if rc < 0 then rules.Follows (if rc < 0 then _ else _) _ _
    else rules.Follows (if rc < 0 then _ else _) _ _
  split
  · exact ⟨⟨rfl, rfl⟩, fun _ => .inl rfl⟩
  · refine ⟨⟨rfl, rfl⟩, fun _ => ⟨trivial, fun _ => ⟨trivial, fun (taken : Bool) => ?_⟩⟩⟩
    cases taken with
    | false => exact (writeAndShutdown_follows (using_writing.writeFail _)).mono fun _ _ => .inr
    | true => exact ⟨trivial, fun _ => rfl⟩

/-- The handler uses its descriptor only while it is open, and leaves it closed or to
`destroy_msg_stream`. -/
theorem clientHandlerAsync_follows (host : Host) (pid : Pid) :
    rules.Follows accepted (clientHandlerAsync host pid) fun final _ => final.Settled := by
  apply (stages_passed host pid).handler_follows opens
  · intro fd exit leaves
    exact (atLabel_follows host leaves).mono fun _ _ => .inr
  · exact fun _ => .inr

end Fd

end TrafficLimitd.Handler
