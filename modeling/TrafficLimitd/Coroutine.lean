import TrafficLimitd.RunInvariant

set_option autoImplicit false

/- Programs that stop at calls to their environment. A program is the tree of
its continuations: a result, or a call and what follows each answer. What such a
program may do is stated by a discipline, an automaton that watches its calls. -/
namespace Coroutine

variable {E : Type} {R : E → Type} {α β γ : Type}

inductive Coro (E : Type) (R : E → Type) (α : Type)
  | pure (value : α)
  | call (effect : E) (next : R effect → Coro E R α)

namespace Coro

def bind : Coro E R α → (α → Coro E R β) → Coro E R β
  | .pure value, continuation => continuation value
  | .call effect next, continuation =>
      .call effect fun answer => (next answer).bind continuation

instance : Monad (Coro E R) where
  pure := .pure
  bind := .bind

/-- A single call. -/
def perform (effect : E) : Coro E R (R effect) := .call effect .pure

@[simp] theorem pure_bind (value : α) (continuation : α → Coro E R β) :
    (Coro.pure value : Coro E R α) >>= continuation = continuation value := rfl

@[simp] theorem pure_bind' (value : α) (continuation : α → Coro E R β) :
    (Pure.pure value : Coro E R α) >>= continuation = continuation value := rfl

@[simp] theorem call_bind (effect : E) (next : R effect → Coro E R α)
    (continuation : α → Coro E R β) :
    Coro.call effect next >>= continuation =
      .call effect fun answer => next answer >>= continuation := rfl

instance : LawfulMonad (Coro E R) := by
  have identity {α : Type} (program : Coro E R α) : program >>= Coro.pure = program := by
    induction program with
    | pure value => rfl
    | call effect next ih =>
        rw [call_bind]
        exact congrArg _ (funext ih)
  refine LawfulMonad.mk' _ identity (fun _ _ => rfl) ?_
  intro α β γ program first second
  induction program with
  | pure value => rfl
  | call effect next ih =>
      simp only [call_bind]
      exact congrArg _ (funext ih)

end Coro

/-- A call together with its answer. -/
structure Event (E : Type) (R : E → Type) where
  effect : E
  answer : R effect

namespace Coro

/-- The program after one call, if it is the call that the program makes. -/
def advance [DecidableEq E] : Coro E R α → Event E R → Option (Coro E R α)
  | .pure _, _ => none
  | .call effect next, event =>
      if same : event.effect = effect then some (next (same ▸ event.answer)) else none

theorem advance_eq_some [DecidableEq E] {program rest : Coro E R α} {event : Event E R} :
    program.advance event = some rest ↔
      ∃ next, program = .call event.effect next ∧ rest = next event.answer := by
  obtain ⟨effect, answer⟩ := event
  cases program with
  | pure value => simp [advance]
  | call made next =>
      simp only [advance]
      split
      · rename_i same
        subst same
        simp only [Option.some.injEq, Coro.call.injEq, true_and, heq_eq_eq]
        exact ⟨fun equal => ⟨next, rfl, equal.symm⟩, fun ⟨_, same, equal⟩ => same ▸ equal.symm⟩
      · rename_i different
        simp only [reduceCtorEq, Coro.call.injEq, false_iff, not_exists, not_and]
        rintro _ ⟨same, _⟩
        exact absurd same.symm different

/-- The call that the program is about to make. -/
def pending : Coro E R α → Option E
  | .pure _ => none
  | .call effect _ => some effect

@[simp] theorem pending_pure (value : α) : (Coro.pure value : Coro E R α).pending = none := rfl

@[simp] theorem pending_call (effect : E) (next : R effect → Coro E R α) :
    (Coro.call effect next).pending = some effect := rfl

theorem advance_pending [DecidableEq E] {program rest : Coro E R α} {event : Event E R}
    (taken : program.advance event = some rest) : program.pending = some event.effect := by
  obtain ⟨next, same, _⟩ := advance_eq_some.mp taken
  rw [same]
  rfl

end Coro

namespace Coro

variable [DecidableEq E] {program middle rest : Coro E R α}

/-- Some calls and answers take the program to what is left of it. -/
def Leads (program rest : Coro E R α) : Prop :=
  ∃ events, Run.exec advance program events = some rest

theorem Leads.refl (program : Coro E R α) : program.Leads program := ⟨[], rfl⟩

theorem Leads.trans (first : program.Leads middle) (second : middle.Leads rest) :
    program.Leads rest := by
  obtain ⟨events, ran⟩ := first
  obtain ⟨more, continued⟩ := second
  refine ⟨events ++ more, ?_⟩
  rw [Run.exec_append, ran]
  exact continued

theorem leads_call {effect : E} {next : R effect → Coro E R α} (answer : R effect) :
    (Coro.call effect next).Leads (next answer) := by
  refine ⟨[⟨effect, answer⟩], ?_⟩
  refine Run.exec_cons_eq_some.mpr ⟨next answer, ?_, rfl⟩
  exact advance_eq_some.mpr ⟨next, rfl, rfl⟩

/-- The calls of a program are the first ones of any longer program. -/
theorem exec_bind {events : List (Event E R)} (ran : Run.exec advance program events = some rest)
    (continuation : α → Coro E R β) :
    Run.exec advance (program >>= continuation) events = some (rest >>= continuation) := by
  induction events generalizing program with
  | nil =>
      cases ran
      rfl
  | cons event later ih =>
      obtain ⟨following, taken, continued⟩ := Run.exec_cons_eq_some.mp ran
      obtain ⟨next, same, rfl⟩ := advance_eq_some.mp taken
      refine Run.exec_cons_eq_some.mpr ⟨next event.answer >>= continuation, ?_, ih continued⟩
      rw [same, call_bind]
      exact advance_eq_some.mpr ⟨_, rfl, rfl⟩

theorem Leads.bind (leads : program.Leads rest) (continuation : α → Coro E R β) :
    (program >>= continuation).Leads (rest >>= continuation) := by
  obtain ⟨events, ran⟩ := leads
  exact ⟨events, exec_bind ran continuation⟩

/-- Code that goes on leads to where its continuation leads. -/
theorem Leads.ok_bind {ε : Type} {code : ExceptT ε (Coro E R) α} {value : α}
    {continuation : α → ExceptT ε (Coro E R) β} {final : Coro E R (Except ε β)}
    (first : Leads code.run (.pure (.ok value))) (second : Leads (continuation value).run final) :
    Leads (code >>= continuation).run final :=
  Leads.trans (Leads.bind first _) second

/-- Code that fails leads nowhere else. -/
theorem Leads.error_bind {ε : Type} {code : ExceptT ε (Coro E R) α} {error : ε}
    {continuation : α → ExceptT ε (Coro E R) β} (first : Leads code.run (.pure (.error error))) :
    Leads (code >>= continuation).run (.pure (.error error)) :=
  Leads.trans (Leads.bind first _) (Leads.refl _)

end Coro

/-- An automaton over the calls of a program: which call may be made in a state
and which state its answer leads to. -/
structure Discipline (E : Type) (R : E → Type) (S : Type) where
  may : S → E → Prop
  after : S → (effect : E) → R effect → S

variable {S : Type}

/-- From this state the program makes only calls that it may make, whatever the
answers are, and its result satisfies the postcondition. -/
def Discipline.Follows (rules : Discipline E R S) :
    S → Coro E R α → (S → α → Prop) → Prop
  | state, .pure value, post => post state value
  | state, .call effect next, post =>
      rules.may state effect ∧
        ∀ answer, rules.Follows (rules.after state effect answer) (next answer) post

namespace Discipline

variable {rules : Discipline E R S} {state : S} {program : Coro E R α}
  {post : S → α → Prop}

@[simp] theorem follows_pure (value : α) :
    rules.Follows state (.pure value) post ↔ post state value := Iff.rfl

@[simp] theorem follows_pure' (value : α) :
    rules.Follows state (Pure.pure value : Coro E R α) post ↔ post state value := Iff.rfl

@[simp] theorem follows_call (effect : E) (next : R effect → Coro E R α) :
    rules.Follows state (.call effect next) post ↔
      rules.may state effect ∧
        ∀ answer, rules.Follows (rules.after state effect answer) (next answer) post := Iff.rfl

theorem Follows.mono {weaker : S → α → Prop} (follows : rules.Follows state program post)
    (implies : ∀ final value, post final value → weaker final value) :
    rules.Follows state program weaker := by
  induction program generalizing state with
  | pure value => exact implies state value follows
  | call effect next ih => exact ⟨follows.1, fun answer => ih answer (follows.2 answer)⟩

/-- The sequence rule. -/
theorem follows_bind {continuation : α → Coro E R β} {post : S → β → Prop} :
    rules.Follows state (program >>= continuation) post ↔
      rules.Follows state program fun middle value =>
        rules.Follows middle (continuation value) post := by
  induction program generalizing state with
  | pure value => rfl
  | call effect next ih =>
      simp only [Coro.call_bind, follows_call, ih]

/-- A program first followed up to a middle condition and then from it. -/
theorem Follows.bind {continuation : α → Coro E R β} {middle : S → α → Prop}
    {post : S → β → Prop} (first : rules.Follows state program middle)
    (second : ∀ between value, middle between value →
      rules.Follows between (continuation value) post) :
    rules.Follows state (program >>= continuation) post :=
  follows_bind.mpr (first.mono second)

/-- The sequence rule for code that may leave with an error. -/
theorem follows_except_bind {ε : Type} {code : ExceptT ε (Coro E R) α}
    {continuation : α → ExceptT ε (Coro E R) β} {post : S → Except ε β → Prop} :
    rules.Follows state (code >>= continuation).run post ↔
      rules.Follows state code.run fun middle result =>
        match result with
        | .ok value => rules.Follows middle (continuation value).run post
        | .error error => post middle (.error error) := by
  rw [ExceptT.run_bind, follows_bind]
  constructor
  · intro follows
    refine follows.mono fun middle result holds => ?_
    cases result <;> exact holds
  · intro follows
    refine follows.mono fun middle result holds => ?_
    cases result <;> exact holds

theorem Follows.except_bind {ε : Type} {code : ExceptT ε (Coro E R) α}
    {continuation : α → ExceptT ε (Coro E R) β} {middle : S → Except ε α → Prop}
    {post : S → Except ε β → Prop} (first : rules.Follows state code.run middle)
    (failed : ∀ between error, middle between (.error error) → post between (.error error))
    (second : ∀ between value, middle between (.ok value) →
      rules.Follows between (continuation value).run post) :
    rules.Follows state (code >>= continuation).run post := by
  refine follows_except_bind.mpr (first.mono fun between result holds => ?_)
  cases result with
  | ok value => exact second between value holds
  | error error => exact failed between error holds

theorem follows_except_lift {ε : Type} {code : Coro E R α} {post : S → Except ε α → Prop} :
    rules.Follows state (liftM code : ExceptT ε (Coro E R) α).run post ↔
      rules.Follows state code fun final value => post final (.ok value) := follows_bind

theorem follows_lift_bind {ε : Type} {code : Coro E R α}
    {continuation : α → ExceptT ε (Coro E R) β} {post : S → Except ε β → Prop} :
    rules.Follows state ((liftM code : ExceptT ε (Coro E R) α) >>= continuation).run post ↔
      rules.Follows state code fun middle value =>
        rules.Follows middle (continuation value).run post :=
  follows_except_bind.trans follows_except_lift

@[simp] theorem follows_except_pure {ε : Type} (value : α) {post : S → Except ε α → Prop} :
    rules.Follows state (pure value : ExceptT ε (Coro E R) α).run post ↔
      post state (.ok value) := Iff.rfl

@[simp] theorem follows_except_throw {ε : Type} (error : ε) {post : S → Except ε α → Prop} :
    rules.Follows state (throw error : ExceptT ε (Coro E R) α).run post ↔
      post state (.error error) := Iff.rfl

/-- The state after a history, the latest event first. -/
def reached (rules : Discipline E R S) (initial : S) : List (Event E R) → S
  | [] => initial
  | event :: earlier => rules.after (rules.reached initial earlier) event.effect event.answer

theorem Follows.advance [DecidableEq E] {event : Event E R} {rest : Coro E R α}
    (follows : rules.Follows state program post) (taken : program.advance event = some rest) :
    rules.may state event.effect ∧
      rules.Follows (rules.after state event.effect event.answer) rest post := by
  obtain ⟨next, same, rfl⟩ := Coro.advance_eq_some.mp taken
  rw [same] at follows
  exact ⟨follows.1, follows.2 event.answer⟩

theorem Follows.may_pending {effect : E} (follows : rules.Follows state program post)
    (pending : program.pending = some effect) : rules.may state effect := by
  cases program with
  | pure value => cases pending
  | call made next =>
      cases pending
      exact follows.1

end Discipline

/-- Every call that the program can make is of the given kind. -/
def Only (kind : E → Prop) : Coro E R α → Prop
  | .pure _ => True
  | .call effect next => kind effect ∧ ∀ answer, Only kind (next answer)

theorem Only.bind {kind : E → Prop} {program : Coro E R α} {continuation : α → Coro E R β}
    (first : Only kind program) (second : ∀ value, Only kind (continuation value)) :
    Only kind (program >>= continuation) := by
  induction program with
  | pure value => exact second value
  | call effect next ih => exact ⟨first.1, fun answer => ih answer (first.2 answer)⟩

theorem Only.except_bind {ε : Type} {kind : E → Prop} {code : ExceptT ε (Coro E R) α}
    {continuation : α → ExceptT ε (Coro E R) β} (first : Only kind code.run)
    (second : ∀ value, Only kind (continuation value).run) :
    Only kind (code >>= continuation).run := by
  rw [ExceptT.run_bind]
  refine first.bind fun result => ?_
  cases result with
  | ok value => exact second value
  | error error => exact trivial

theorem Only.except_lift {ε : Type} {kind : E → Prop} {code : Coro E R α}
    (only : Only kind code) : Only kind (liftM code : ExceptT ε (Coro E R) α).run :=
  only.bind fun _ => trivial

/-- The invariant rule: what every call of a kind preserves, a program of such
calls preserves. -/
theorem Only.follows {kind : E → Prop} {rules : Discipline E R S} (inv : S → Prop)
    (kept : ∀ state effect, inv state → kind effect →
      rules.may state effect ∧ ∀ answer, inv (rules.after state effect answer))
    {state : S} {program : Coro E R α} (only : Only kind program) (initial : inv state) :
    rules.Follows state program fun final _ => inv final := by
  induction program generalizing state with
  | pure value => exact initial
  | call effect next ih =>
      obtain ⟨may, enters⟩ := kept state effect initial only.1
      exact ⟨may, fun answer => ih answer (only.2 answer) (enters answer)⟩

/-- The frame rule: calls that change nothing. -/
theorem Only.follows_same {kind : E → Prop} {rules : Discipline E R S}
    (same : ∀ state effect, kind effect →
      rules.may state effect ∧ ∀ answer, rules.after state effect answer = state)
    {program : Coro E R α} (only : Only kind program) (state : S) :
    rules.Follows state program fun final _ => final = state := by
  refine only.follows (fun final => final = state) ?_ rfl
  rintro _ effect rfl is
  exact same _ effect is

/-- The invariant rule from the first call on, which has to establish the invariant. -/
theorem Only.follows_pending {kind : E → Prop} {rules : Discipline E R S} (inv : S → Prop)
    (kept : ∀ state effect, inv state → kind effect →
      rules.may state effect ∧ ∀ answer, inv (rules.after state effect answer))
    {state : S} {program : Coro E R α} {effect : E} (only : Only kind program)
    (first : program.pending = some effect)
    (enters : rules.may state effect ∧ ∀ answer, inv (rules.after state effect answer)) :
    rules.Follows state program fun final _ => inv final := by
  cases program with
  | pure value => cases first
  | call made next =>
      cases first
      exact ⟨enters.1, fun answer => (only.2 answer).follows inv kept (enters.2 answer)⟩

/-- Every result of the program is of the given kind. -/
def Ends (kind : α → Prop) : Coro E R α → Prop
  | .pure value => kind value
  | .call _ next => ∀ answer, Ends kind (next answer)

theorem Ends.of_forall {kind : α → Prop} (all : ∀ value, kind value) (program : Coro E R α) :
    Ends kind program := by
  induction program with
  | pure value => exact all value
  | call effect next ih => exact ih

theorem Ends.mono {kind weaker : α → Prop} {program : Coro E R α} (ends : Ends kind program)
    (implies : ∀ value, kind value → weaker value) : Ends weaker program := by
  induction program with
  | pure value => exact implies value ends
  | call effect next ih => exact fun answer => ih answer (ends answer)

theorem Ends.bind {middle : α → Prop} {kind : β → Prop} {program : Coro E R α}
    {continuation : α → Coro E R β} (first : Ends middle program)
    (second : ∀ value, middle value → Ends kind (continuation value)) :
    Ends kind (program >>= continuation) := by
  induction program with
  | pure value => exact second value first
  | call effect next ih => exact fun answer => ih answer (first answer)

theorem Discipline.Follows.and_ends {rules : Discipline E R S} {state : S}
    {program : Coro E R α} {post : S → α → Prop} {kind : α → Prop}
    (follows : rules.Follows state program post) (ends : Ends kind program) :
    rules.Follows state program fun final value => post final value ∧ kind value := by
  induction program generalizing state with
  | pure value => exact ⟨follows, ends⟩
  | call effect next ih =>
      exact ⟨follows.1, fun answer => ih answer (follows.2 answer) (ends answer)⟩

/-- Every error with which the code leaves is of the given kind. -/
def Fails {ε : Type} (kind : ε → Prop) (code : ExceptT ε (Coro E R) α) : Prop :=
  Ends (fun result : Except ε α => ∀ error, result = .error error → kind error) code.run

theorem Fails.bind {ε : Type} {kind : ε → Prop} {code : ExceptT ε (Coro E R) α}
    {continuation : α → ExceptT ε (Coro E R) β} (first : Fails kind code)
    (second : ∀ value, Fails kind (continuation value)) : Fails kind (code >>= continuation) := by
  refine Ends.bind first fun result fails => ?_
  cases result with
  | ok value => exact second value
  | error error =>
      rintro _ ⟨⟩
      exact fails error rfl

theorem fails_lift {ε : Type} (kind : ε → Prop) (code : Coro E R α) :
    Fails kind (liftM code : ExceptT ε (Coro E R) α) :=
  (Ends.of_forall (fun _ => trivial) code).bind fun _ _ => nofun

theorem fails_pure {ε : Type} (kind : ε → Prop) (value : α) :
    Fails kind (pure value : ExceptT ε (Coro E R) α) := nofun

theorem fails_throw {ε : Type} {kind : ε → Prop} {error : ε} (is : kind error) :
    Fails kind (throw error : ExceptT ε (Coro E R) α) := by
  rintro _ ⟨⟩
  exact is

/-- A program at work: what is left of it and what it has done. -/
structure Execution (E : Type) (R : E → Type) (α : Type) where
  program : Coro E R α
  history : List (Event E R)

namespace Execution

def start (program : Coro E R α) : Execution E R α := ⟨program, []⟩

def step [DecidableEq E] (execution : Execution E R α) (event : Event E R) :
    Option (Execution E R α) :=
  (execution.program.advance event).map fun rest => ⟨rest, event :: execution.history⟩

/-- The history of a run is what it was made of. -/
theorem history_of_exec [DecidableEq E] {execution final : Execution E R α}
    {events : List (Event E R)} (ran : Run.exec step execution events = some final) :
    final.history = events.reverse ++ execution.history := by
  induction events generalizing execution with
  | nil =>
      cases ran
      rfl
  | cons event later ih =>
      obtain ⟨next, taken, continued⟩ := Run.exec_cons_eq_some.mp ran
      obtain ⟨rest, -, rfl⟩ := Option.map_eq_some_iff.mp taken
      rw [ih continued, List.reverse_cons, List.append_assoc]
      rfl

/-- A program that follows a discipline still does so after any of its runs. -/
theorem follows_of_exec [DecidableEq E] {rules : Discipline E R S} {initial : S}
    {program : Coro E R α} {post : S → α → Prop} {events : List (Event E R)}
    {execution : Execution E R α} (follows : rules.Follows initial program post)
    (ran : Run.exec step (start program) events = some execution) :
    rules.Follows (rules.reached initial execution.history) execution.program post := by
  let inv := fun execution : Execution E R α =>
    rules.Follows (rules.reached initial execution.history) execution.program post
  have starts : inv (start program) := follows
  refine Run.exec_invariant inv ?_ starts ran
  intro execution event next holds taken
  obtain ⟨rest, advanced, rfl⟩ := Option.map_eq_some_iff.mp taken
  exact (Discipline.Follows.advance holds advanced).2

/-- At the end of a run the postcondition holds of what was done. -/
theorem post_of_exec [DecidableEq E] {rules : Discipline E R S} {initial : S}
    {program : Coro E R α} {post : S → α → Prop} {events : List (Event E R)}
    {execution : Execution E R α} (follows : rules.Follows initial program post)
    (ran : Run.exec step (start program) events = some execution)
    (ended : execution.program.pending = none) :
    ∃ value, post (rules.reached initial execution.history) value := by
  have remains := follows_of_exec follows ran
  obtain ⟨rest, history⟩ := execution
  cases rest with
  | pure value => exact ⟨value, remains⟩
  | call effect next => cases ended

end Execution

end Coroutine
