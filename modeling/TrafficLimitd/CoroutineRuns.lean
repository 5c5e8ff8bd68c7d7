import TrafficLimitd.Coroutine

set_option autoImplicit false

/- The runs of a program from its start to its end, and how often they make a call. -/
namespace Coroutine

variable {E : Type} {R : E → Type} {α β : Type}

/-- With these answers the program makes these calls, in this order, and ends with this
result. -/
inductive Yields : Coro E R α → List (Event E R) → α → Prop
  | pure (value : α) : Yields (.pure value) [] value
  | call {effect : E} {next : R effect → Coro E R α} {rest : List (Event E R)} {result : α}
      (answer : R effect) (later : Yields (next answer) rest result) :
      Yields (.call effect next) (⟨effect, answer⟩ :: rest) result

theorem yields_pure {value result : α} {trace : List (Event E R)} :
    Yields (Pure.pure value : Coro E R α) trace result ↔ trace = [] ∧ result = value := by
  constructor
  · intro yields
    cases yields
    exact ⟨rfl, rfl⟩
  · rintro ⟨rfl, rfl⟩
    exact .pure _

theorem yields_perform {effect : E} {trace : List (Event E R)} {answer : R effect} :
    Yields (Coro.perform effect : Coro E R (R effect)) trace answer ↔
      trace = [⟨effect, answer⟩] := by
  constructor
  · intro yields
    cases yields with
    | call _ later =>
        cases later
        rfl
  · rintro rfl
    exact .call _ (.pure _)

/-- The sequence rule. -/
theorem yields_bind {program : Coro E R α} {continuation : α → Coro E R β}
    {trace : List (Event E R)} {result : β} :
    Yields (program >>= continuation) trace result ↔
      ∃ first second value, trace = first ++ second ∧ Yields program first value ∧
        Yields (continuation value) second result := by
  induction program generalizing trace with
  | pure value =>
      rw [Coro.pure_bind]
      constructor
      · intro yields
        exact ⟨[], trace, value, rfl, .pure _, yields⟩
      · rintro ⟨_, second, _, rfl, first, yields⟩
        cases first
        exact yields
  | call effect next ih =>
      rw [Coro.call_bind]
      constructor
      · intro yields
        cases yields with
        | call answer later =>
            obtain ⟨first, second, value, rfl, begins, ends⟩ := (ih answer).mp later
            exact ⟨_ :: first, second, value, rfl, .call answer begins, ends⟩
      · rintro ⟨first, second, value, rfl, begins, ends⟩
        cases begins with
        | call answer later =>
            exact .call answer ((ih answer).mpr ⟨_, second, value, rfl, later, ends⟩)

/-- The answers decide how far a run goes and what it ends with. -/
theorem Yields.unique {program : Coro E R α} {first second after later : List (Event E R)}
    {result other : α} (yields : Yields program first result)
    (again : Yields program second other) (same : first ++ after = second ++ later) :
    first = second ∧ result = other ∧ after = later := by
  induction yields generalizing second with
  | pure value =>
      cases again
      exact ⟨rfl, rfl, same⟩
  | call answer _ ih =>
      cases again with
      | call reply continued =>
          obtain ⟨event, rest⟩ := List.cons.inj same
          cases event
          obtain ⟨rfl, ends, left⟩ := ih continued rest
          exact ⟨rfl, ends, left⟩

section Codes

variable {trace : List (Event E R)} {rc : Int}

/-- A step that leaves with its code if that is negative, or goes on. -/
theorem unless_run {first : Coro E R Int} {next : Int → Coro E R Int}
    (yields : Yields (first >>= fun rc => if rc < 0 then Pure.pure rc else next rc) trace rc) :
    ∃ before after code, trace = before ++ after ∧ Yields first before code ∧
      (code < 0 ∧ after = [] ∧ rc = code ∨ ¬ code < 0 ∧ Yields (next code) after rc) := by
  obtain ⟨before, after, code, rfl, begins, rest⟩ := yields_bind.mp yields
  refine ⟨before, after, code, rfl, begins, ?_⟩
  split at rest
  · rename_i failed
    obtain ⟨rfl, rfl⟩ := yields_pure.mp rest
    exact .inl ⟨failed, rfl, rfl⟩
  · rename_i worked
    exact .inr ⟨worked, rest⟩

/-- A run that ends well went on after the step. -/
theorem unless_succeeded {first : Coro E R Int} {next : Int → Coro E R Int}
    (yields : Yields (first >>= fun rc => if rc < 0 then Pure.pure rc else next rc) trace rc)
    (worked : ¬ rc < 0) :
    ∃ before after code, trace = before ++ after ∧ Yields first before code ∧ ¬ code < 0 ∧
      Yields (next code) after rc := by
  obtain ⟨before, after, code, split, begins, rest⟩ := unless_run yields
  rcases rest with ⟨failed, _, same⟩ | ⟨went, rest⟩
  · rw [same] at worked
    exact absurd failed worked
  · exact ⟨before, after, code, split, begins, went, rest⟩

variable (step : β → Coro E R Int)

/-- The items one after the other, until one of them fails. -/
def untilFailure : List β → Coro E R Int
  | [] => return 0
  | item :: rest => do
      let rc ← step item
      if rc < 0 then return rc
      untilFailure rest

/-- All items were done in this order, each once and with success. -/
def Done : List β → List (Event E R) → Prop
  | [], trace => trace = []
  | item :: rest, trace => ∃ before after code, trace = before ++ after ∧
      Yields (step item) before code ∧ ¬ code < 0 ∧ Done rest after

variable {step}

theorem Done.of_yields {items : List β} (yields : Yields (untilFailure step items) trace rc)
    (worked : ¬ rc < 0) : Done step items trace := by
  induction items generalizing trace with
  | nil =>
      exact (yields_pure.mp yields).1
  | cons item rest ih =>
      obtain ⟨before, after, code, rfl, begins, went, later⟩ := unless_succeeded yields worked
      exact ⟨before, after, code, rfl, begins, went, ih later⟩

/-- Nothing is done after the first failure. -/
theorem untilFailure_failed {done later : List β} {item : β} {before last : List (Event E R)}
    (served : Done step done before) (yields : Yields (step item) last rc) (failed : rc < 0) :
    Yields (untilFailure step (done ++ item :: later)) (before ++ last) rc := by
  induction done generalizing before with
  | nil =>
      cases served
      refine yields_bind.mpr ⟨last, [], rc, (List.append_nil _).symm, yields, ?_⟩
      rw [if_pos failed]
      exact yields_pure.mpr ⟨rfl, rfl⟩
  | cons first rest ih =>
      obtain ⟨start, after, code, rfl, begins, went, more⟩ := served
      refine yields_bind.mpr ⟨start, after ++ last, code, List.append_assoc _ _ _, begins, ?_⟩
      rw [if_neg went]
      exact ih more

end Codes

/-- Whatever the answers, the program makes at most so many calls of the kind. -/
def AtMost (kind : E → Bool) : Nat → Coro E R α → Prop
  | _, .pure _ => True
  | bound, .call effect next =>
      (kind effect).toNat ≤ bound ∧
        ∀ answer, AtMost kind (bound - (kind effect).toNat) (next answer)

section AtMost

variable {kind : E → Bool}

theorem atMost_perform (kind : E → Bool) (effect : E) :
    AtMost kind (kind effect).toNat (Coro.perform effect : Coro E R (R effect)) :=
  ⟨Nat.le_refl _, fun _ => trivial⟩

theorem AtMost.mono {small large : Nat} {program : Coro E R α} (few : AtMost kind small program)
    (order : small ≤ large) : AtMost kind large program := by
  induction program generalizing small large with
  | pure value => trivial
  | call effect next ih =>
      exact ⟨Nat.le_trans few.1 order, fun answer => ih answer (few.2 answer) (by omega)⟩

theorem AtMost.bind {first second : Nat} {program : Coro E R α} {continuation : α → Coro E R β}
    (begins : AtMost kind first program) (ends : ∀ value, AtMost kind second (continuation value)) :
    AtMost kind (first + second) (program >>= continuation) := by
  induction program generalizing first with
  | pure value => exact (ends value).mono (Nat.le_add_left _ _)
  | call effect next ih =>
      have enough := begins.1
      refine ⟨by omega, fun answer => ?_⟩
      rw [Nat.sub_add_comm enough]
      exact ih answer (begins.2 answer)

/-- What the first part may use up is not left for the second. -/
theorem AtMost.spend {calls total : Nat} {program : Coro E R α} {continuation : α → Coro E R β}
    (begins : AtMost kind calls program) (enough : calls ≤ total)
    (ends : ∀ value, AtMost kind (total - calls) (continuation value)) :
    AtMost kind total (program >>= continuation) :=
  (begins.bind ends).mono (by omega)

theorem AtMost.except_spend {ε : Type} {calls total : Nat} {code : ExceptT ε (Coro E R) α}
    {continuation : α → ExceptT ε (Coro E R) β} (begins : AtMost kind calls code.run)
    (enough : calls ≤ total)
    (ends : ∀ value, AtMost kind (total - calls) (continuation value).run) :
    AtMost kind total (code >>= continuation).run := by
  rw [ExceptT.run_bind]
  refine begins.spend enough fun result => ?_
  cases result with
  | ok value => exact ends value
  | error error => trivial

theorem AtMost.except_lift {ε : Type} {calls : Nat} {code : Coro E R α}
    (few : AtMost kind calls code) :
    AtMost kind calls (liftM code : ExceptT ε (Coro E R) α).run := by
  apply few.spend (Nat.le_refl calls)
  intro value
  trivial

/-- A program that may make no more calls has ended. -/
theorem AtMost.ended {program : Coro E R α} (few : AtMost (fun _ => true) 0 program) :
    ∃ value, program = .pure value := by
  cases program with
  | pure value => exact ⟨value, rfl⟩
  | call effect next => exact absurd few.1 (Nat.not_succ_le_zero 0)

/-- A run uses the calls up. -/
theorem AtMost.of_exec [DecidableEq E] {bound : Nat} {program rest : Coro E R α}
    {trace : List (Event E R)} (few : AtMost kind bound program)
    (ran : Run.exec Coro.advance program trace = some rest) :
    trace.countP (fun event => kind event.effect) ≤ bound ∧
      AtMost kind (bound - trace.countP fun event => kind event.effect) rest := by
  induction trace generalizing program bound with
  | nil =>
      cases ran
      exact ⟨Nat.zero_le _, few⟩
  | cons event later ih =>
      obtain ⟨after, taken, continued⟩ := Run.exec_cons_eq_some.mp ran
      obtain ⟨next, rfl, rfl⟩ := Coro.advance_eq_some.mp taken
      have enough := few.1
      obtain ⟨short, remains⟩ := ih (few.2 event.answer) continued
      have counted : (event :: later).countP (fun event => kind event.effect) =
          (kind event.effect).toNat + later.countP fun event => kind event.effect := by
        rw [List.countP_cons, Nat.add_comm]
        cases kind event.effect <;> rfl
      rw [counted, ← Nat.sub_sub]
      exact ⟨by omega, remains⟩

end AtMost

theorem exec_call [DecidableEq E] (effect : E) (next : R effect → Coro E R α) (answer : R effect)
    (trace : List (Event E R)) :
    Run.exec Coro.advance (Coro.call effect next) (⟨effect, answer⟩ :: trace) =
      Run.exec Coro.advance (next answer) trace := by
  have taken : (Coro.call effect next).advance ⟨effect, answer⟩ = some (next answer) :=
    Coro.advance_eq_some.mpr ⟨next, rfl, rfl⟩
  rw [Run.exec_cons, taken, Option.bind_some]

/-- A run that ends is a run of the executing program, and the other way round. -/
theorem yields_iff_exec [DecidableEq E] {program : Coro E R α} {trace : List (Event E R)}
    {result : α} :
    Yields program trace result ↔ Run.exec Coro.advance program trace = some (.pure result) := by
  constructor
  · intro yields
    induction yields with
    | pure value => rfl
    | call answer _ ih => rw [exec_call, ih]
  · intro ran
    induction trace generalizing program with
    | nil =>
        cases ran
        exact .pure _
    | cons event rest ih =>
        obtain ⟨after, taken, continued⟩ := Run.exec_cons_eq_some.mp ran
        obtain ⟨next, rfl, rfl⟩ := Coro.advance_eq_some.mp taken
        exact .call event.answer (ih continued)

end Coroutine
