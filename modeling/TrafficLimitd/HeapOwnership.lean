import TrafficLimitd.HeapProgram

set_option autoImplicit false

/- What the functions of src/sd_bus.c own. Whatever the bus, systemd and the interrupts do,
they only use references that they hold and give each of them up once; what they return is
what they own at the end. A reply or a result that comes together with an interrupt, and a
result that comes from a bus that disconnects, may be forgotten. -/
namespace TrafficLimitd.Heap

open Coroutine Handler Ownership

/-- The references that may be forgotten because of the way in which a wait ended. -/
def ReplyWait.excuses (listens : Bool) : ReplyWait → Nat
  | .replied heard reply cancelled =>
      (cancelled && reply.isOk).toNat + (listens && decide (.disconnected ∈ heard)).toNat
  | .interrupted heard => (listens && decide (.disconnected ∈ heard)).toNat

def account : Account Op Answer Ref where
  reads
    | .create _ reads | .take _ reads | .library reads => reads
    | .callAsync _ message => [message]
    | .use ref => [ref]
    | _ => []
  drops
    | .drop ref => {ref}
    | .openStream fd | .closeFd fd => {fd}
    | .keep text => {text.ref}
    | _ => 0
  gains
    | .create kind _, ((rc, id) : Int × Nat) => if rc < 0 then 0 else {⟨kind, id⟩}
    | .callAsync _ _, ((rc, id) : Int × Nat) => if rc < 0 then 0 else {⟨.slot, id⟩}
    | .take ref _, _ => {ref}
    | .openStream fd, (rc : Int) => if rc < 0 then {fd} else {⟨.msgStream, fd.id⟩}
    | .openPidfd _, ((rc, id) : Int × Nat) => if rc < 0 then 0 else {⟨.pidfdEvent, id⟩}
    | .register _ _, (id : Nat) => {⟨.node, id⟩}
    | _, _ => 0
  excuses
    | .awaitReply _ listens, (wait : ReplyWait) => wait.excuses listens
    | .awaitEvent, ((heard, cancelled) : List Signal × Bool) => (cancelled && !heard.isEmpty).toNat
    | _, _ => 0

section Rules

variable {α β : Type} {refs : Multiset Ref} {credit : Nat}

/-- What the result of code that may fail owns. -/
def given (owned : α → Multiset Ref) : Except Int α → Multiset Ref
  | .ok value => owned value
  | .error _ => 0

/-- Code that may fail and leaves nothing behind but its result. -/
def Gives (refs : Multiset Ref) (credit : Nat) (code : Prog (Except Int α))
    (owned : α → Multiset Ref) : Prop :=
  account.Owns ⟨refs, credit⟩ code fun result => ⟨given owned result + refs, credit⟩

theorem gives_error {owned : α → Multiset Ref} (rc : Int) :
    Gives refs credit (pure (.error rc)) owned :=
  .pure (by simp [given])

theorem Gives.orElse {code : Prog (Except Int α)} {next : α → Prog (Except Int β)}
    {first : α → Multiset Ref} {owned : β → Multiset Ref} (gives : Gives refs credit code first)
    (goes : ∀ value, account.Owns ⟨first value + refs, credit⟩ (next value) fun result =>
      ⟨given owned result + refs, credit⟩) :
    Gives refs credit (orElse code next) owned := by
  apply gives.bind
  intro result
  cases result with
  | ok value => exact goes value
  | error rc =>
      apply (gives_error rc).congr _ (fun _ => rfl)
      simp [given]

end Rules

section Calls

variable {σ α : Type} {refs : Multiset Ref} {credit : Nat}

end Calls

section Jobs

variable {rest : Multiset Ref} {credit : Nat}

def ofSome : Option Ref → Multiset Ref
  | none => 0
  | some ref => {ref}

namespace WaitForJobArg

/-- The string that a callback has left in the argument. -/
def left (arg : WaitForJobArg) : Multiset Ref := ofSome (arg.result.map Text.ref)

/-- What the argument owns from the end of `sb_sd_init_wait_for_job` on. -/
def held (arg : WaitForJobArg) : Multiset Ref :=
  arg.left +
    if arg.closed then 0
    else ofSome arg.slotDisconnected + (ofSome arg.slotJobRemoved + {arg.bus})

/-- A string that is left in the argument is forgotten with it. -/
def spent (arg : WaitForJobArg) : Nat := arg.result.isSome.toNat

/-- What a closed argument hears cannot close it again. -/
def Sound (arg : WaitForJobArg) : Prop := arg.closed = true → arg.slotDisconnected = none

end WaitForJobArg

/-- What a callback does to the rest of the argument. -/
structure Heard (heard : List Signal) (arg later : WaitForJobArg) : Prop where
  bus : later.bus = arg.bus
  sound : arg.Sound → later.Sound
  jobObj : later.jobObj = arg.jobObj ∨ later.jobObj = none
  quiet : arg.slotDisconnected = none → later.slotDisconnected = none ∧
    later.slotJobRemoved = arg.slotJobRemoved ∧ later.closed = arg.closed
  result : later.result.isSome = true → arg.result.isSome = true ∨
    arg.slotDisconnected.isSome = true ∧ .disconnected ∈ heard ∨
    arg.jobObj.isSome = true ∧ heard ≠ []

theorem Heard.refl (arg : WaitForJobArg) : Heard [] arg arg where
  bus := rfl
  sound := id
  jobObj := Or.inl rfl
  quiet none := ⟨none, rfl, rfl⟩
  result := Or.inl

theorem Heard.trans {first second : List Signal} {arg middle later : WaitForJobArg}
    (before : Heard first arg middle) (after : Heard second middle later) :
    Heard (first ++ second) arg later where
  bus := after.bus.trans before.bus
  sound sound := after.sound (before.sound sound)
  jobObj := by
    rcases after.jobObj with same | none
    · rw [same]
      exact before.jobObj
    · exact Or.inr none
  quiet none := by
    obtain ⟨still, removed, closed⟩ := before.quiet none
    obtain ⟨later, same, kept⟩ := after.quiet still
    exact ⟨later, same.trans removed, kept.trans closed⟩
  result stored := by
    rcases after.result stored with early | ⟨installed, heard⟩ | ⟨job, some⟩
    · rcases before.result early with already | ⟨installed, heard⟩ | ⟨job, some⟩
      · exact Or.inl already
      · exact Or.inr (Or.inl ⟨installed, List.mem_append_left _ heard⟩)
      · exact Or.inr (Or.inr ⟨job, by simp [some]⟩)
    · refine Or.inr (Or.inl ⟨?_, List.mem_append_right _ heard⟩)
      by_contra absent
      rw [(before.quiet (by simpa using absent)).1] at installed
      cases installed
    · refine Or.inr (Or.inr ⟨?_, by simp [some]⟩)
      rcases before.jobObj with same | none
      · rwa [same] at job
      · rw [none] at job
        cases job

/-- While the match is installed nothing is stored in the argument. -/
theorem Heard.installing {heard : List Signal} {bus : Ref} {slot : Option Ref}
    {later : WaitForJobArg} (facts : Heard heard (installing bus slot) later) :
    later.result = none ∧ later.held = 0 ∧ later.slotJobRemoved = slot ∧ later.bus = bus := by
  obtain ⟨_, removed, closed⟩ := facts.quiet rfl
  have stored : later.result = none := by
    by_contra stored
    have spent := facts.result (Option.isSome_iff_ne_none.mpr stored)
    simp [Heap.installing] at spent
  have closed : later.closed = true := closed
  exact ⟨stored, by simp [WaitForJobArg.held, WaitForJobArg.left, stored, closed, ofSome], removed,
    facts.bus⟩

/-- The argument waits for no job yet. -/
def Fresh (result : Except Int WaitForJobArg) : Prop :=
  ∀ arg, result = .ok arg → arg.jobObj = none ∧ arg.result = none

end Jobs

end TrafficLimitd.Heap
