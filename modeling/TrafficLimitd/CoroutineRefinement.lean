import TrafficLimitd.CoroutineRuns

set_option autoImplicit false

/- Two programs at different levels of detail. Each level has its own calls, and a view says
what an observer sees of a call with its answer. The detailed program refines the other one
if, whatever its calls are answered, the other one can make calls that look the same. -/
namespace Coroutine

variable {E F V : Type} {R : E → Type} {Q : F → Type} {α β γ δ : Type}

/-- What is seen of some calls. -/
def seen (view : (effect : E) → R effect → List V) (events : List (Event E R)) : List V :=
  events.flatMap fun event => view event.effect event.answer

theorem seen_append (view : (effect : E) → R effect → List V) (first second : List (Event E R)) :
    seen view (first ++ second) = seen view first ++ seen view second :=
  List.flatMap_append

variable [DecidableEq F]

/-- The model can follow the program: for each call and each answer it makes some calls that
look the same, and when the program ends, the model ends with a related result and without
any more to see. -/
def Refines (below : (effect : E) → R effect → List V) (above : (effect : F) → Q effect → List V)
    (rel : α → β → Prop) : Coro E R α → Coro F Q β → Prop
  | .pure value, model =>
      ∃ calls result, Run.exec Coro.advance model calls = some (.pure result) ∧
        seen above calls = [] ∧ rel value result
  | .call effect next, model =>
      ∀ answer, ∃ calls rest, Run.exec Coro.advance model calls = some rest ∧
        seen above calls = below effect answer ∧ Refines below above rel (next answer) rest

section Rules

variable {below : (effect : E) → R effect → List V} {above : (effect : F) → Q effect → List V}
  {rel : α → β → Prop} {program : Coro E R α} {model rest : Coro F Q β}

theorem refines_pure {value : α} {result : β} (related : rel value result) :
    Refines below above rel (Pure.pure value) (Pure.pure result) :=
  ⟨[], result, rfl, rfl, related⟩

theorem Refines.mono {weaker : α → β → Prop} (refines : Refines below above rel program model)
    (implies : ∀ value result, rel value result → weaker value result) :
    Refines below above weaker program model := by
  induction program generalizing model with
  | pure value =>
      obtain ⟨calls, result, ends, unseen, related⟩ := refines
      exact ⟨calls, result, ends, unseen, implies value result related⟩
  | call effect next ih =>
      intro answer
      obtain ⟨calls, rest, ran, same, later⟩ := refines answer
      exact ⟨calls, rest, ran, same, ih answer later⟩

/-- The model may first make calls that are not seen. -/
theorem Refines.after {calls : List (Event F Q)}
    (ran : Run.exec Coro.advance model calls = some rest) (unseen : seen above calls = [])
    (refines : Refines below above rel program rest) :
    Refines below above rel program model := by
  have joined {more : List (Event F Q)} {final : Coro F Q β}
      (continued : Run.exec Coro.advance rest more = some final) :
      Run.exec Coro.advance model (calls ++ more) = some final ∧
        seen above (calls ++ more) = seen above more := by
    rw [Run.exec_append, ran, Option.bind_some, seen_append, unseen, List.nil_append]
    exact ⟨continued, rfl⟩
  cases program with
  | pure value =>
      obtain ⟨more, result, ends, nothing, related⟩ := refines
      exact ⟨calls ++ more, result, (joined ends).1, (joined ends).2.trans nothing, related⟩
  | call effect next =>
      intro answer
      obtain ⟨more, final, continued, same, later⟩ := refines answer
      exact ⟨calls ++ more, final, (joined continued).1, (joined continued).2.trans same, later⟩

/-- The sequence rule. -/
theorem Refines.bind {later : γ → δ → Prop} {continuation : α → Coro E R γ}
    {following : β → Coro F Q δ} (first : Refines below above rel program model)
    (second : ∀ value result, rel value result →
      Refines below above later (continuation value) (following result)) :
    Refines below above later (program >>= continuation) (model >>= following) := by
  induction program generalizing model with
  | pure value =>
      obtain ⟨calls, result, ends, unseen, related⟩ := first
      exact (second value result related).after (Coro.exec_bind ends following) unseen
  | call effect next ih =>
      intro answer
      obtain ⟨calls, rest, ran, same, remains⟩ := first answer
      exact ⟨calls, rest >>= following, Coro.exec_bind ran following, same, ih answer remains⟩

/-- A call of both. -/
theorem refines_perform (effect : E) (call : F) (translate : R effect → Q call)
    (same : ∀ answer, above call (translate answer) = below effect answer)
    {rel : R effect → Q call → Prop} (related : ∀ answer, rel answer (translate answer)) :
    Refines below above rel (Coro.perform effect) (Coro.perform call) := by
  intro answer
  refine ⟨[⟨call, translate answer⟩], .pure (translate answer), ?_, ?_, ?_⟩
  · exact exec_call call .pure (translate answer) []
  · exact (List.append_nil _).trans (same answer)
  · exact refines_pure (related answer)

/-- A call that only the model makes, and that is not seen with this answer. -/
theorem Refines.answer {call : F} {following : Q call → Coro F Q β} (answer : Q call)
    (unseen : above call answer = [])
    (refines : Refines below above rel program (following answer)) :
    Refines below above rel program (Coro.perform call >>= following) :=
  refines.after (exec_call call _ answer []) ((List.append_nil _).trans unseen)

/-- Calls that only the program makes, and that are not seen. -/
theorem Only.refines_bind {code : Coro E R γ} {continuation : γ → Coro E R α}
    (silent : Only (fun effect => ∀ answer, below effect answer = []) code)
    (refines : ∀ value, Refines below above rel (continuation value) model) :
    Refines below above rel (code >>= continuation) model := by
  induction code with
  | pure value => exact refines value
  | call effect next ih =>
      intro answer
      exact ⟨[], model, rfl, (silent.1 answer).symm, ih answer (silent.2 answer)⟩

/-- Whatever the program has done, the model can have done calls that look the same, and it
still follows. -/
theorem Refines.exec [DecidableEq E] {events : List (Event E R)} {left : Coro E R α}
    (refines : Refines below above rel program model)
    (ran : Run.exec Coro.advance program events = some left) :
    ∃ calls rest, Run.exec Coro.advance model calls = some rest ∧
      seen above calls = seen below events ∧ Refines below above rel left rest := by
  induction events generalizing program model with
  | nil =>
      cases ran
      exact ⟨[], model, rfl, rfl, refines⟩
  | cons event later ih =>
      obtain ⟨next, taken, continued⟩ := Run.exec_cons_eq_some.mp ran
      obtain ⟨next, rfl, rfl⟩ := Coro.advance_eq_some.mp taken
      obtain ⟨calls, between, stepped, same, remains⟩ := refines event.answer
      obtain ⟨more, rest, finished, looks, follows⟩ := ih remains continued
      refine ⟨calls ++ more, rest, ?_, ?_, follows⟩
      · rw [Run.exec_append, stepped, Option.bind_some]
        exact finished
      · rw [seen_append, same, looks]
        rfl

end Rules

end Coroutine
