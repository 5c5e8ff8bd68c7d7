import TrafficLimitd.TcProgram

set_option autoImplicit false

/- The list of interfaces that `tc_setup_inferface` takes: which names it has, and what
happens to them. -/
namespace TrafficLimitd.Tc

open Coroutine
open Coroutine.Coro (perform)
open Handler (CString ascii)

variable {ifnames : CString} {trace : Trace} {rc : Int}

/-- The names between the commas that are not empty. -/
def names (ifnames : CString) : List CString := Tokens.tokens (· == comma) ifnames

/-- The loop over the tokens sets up the names one after the other. -/
theorem setupTokens_eq (buf : CString) :
    setupTokens buf = untilFailure tcSetupOneInferface (names buf) := by
  fun_induction setupTokens buf with
  | case1 buf nothing =>
      rw [names, Tokens.tokens_eq, nothing]
      rfl
  | case2 buf token savetokptr found ih =>
      rw [names, Tokens.tokens_eq, found, ih]
      rfl

/-- The runs on a list that is not empty: the handle is not opened, or the names are set
up and the handle is closed. -/
theorem tcSetupInferface_yields (nonempty : ifnames ≠ []) :
    Yields (tcSetupInferface ifnames) trace rc ↔
      (rc < 0 ∧ trace = [⟨.rtnlOpen, rc⟩]) ∨
      ∃ (opened : Int) (body : Trace), ¬ opened < 0 ∧
        trace = ⟨.rtnlOpen, opened⟩ :: (body ++ [⟨.rtnlClose, ()⟩]) ∧
        Yields (untilFailure tcSetupOneInferface (names ifnames)) body rc := by
  unfold tcSetupInferface
  rw [if_neg (fun empty => nonempty (List.length_eq_zero_iff.mp empty)), setupTokens_eq]
  constructor
  · intro yields
    obtain ⟨first, rest, opened, rfl, opens, ends⟩ := unless_run yields
    rw [yields_perform] at opens
    subst opens
    rcases ends with ⟨failed, rfl, rfl⟩ | ⟨worked, yields⟩
    · exact .inl ⟨failed, rfl⟩
    · obtain ⟨body, last, code, rfl, served, yields⟩ := yields_bind.mp yields
      obtain ⟨close, none, _, rfl, closes, yields⟩ := yields_bind.mp yields
      obtain ⟨rfl, rfl⟩ := yields_pure.mp yields
      rw [yields_perform] at closes
      subst closes
      exact .inr ⟨opened, body, worked, rfl, served⟩
  · rintro (⟨failed, rfl⟩ | ⟨opened, body, worked, rfl, served⟩)
    · refine yields_bind.mpr ⟨_, [], rc, rfl, yields_perform.mpr rfl, ?_⟩
      rw [if_pos failed]
      exact .pure rc
    · refine yields_bind.mpr ⟨[⟨.rtnlOpen, opened⟩], _, opened, rfl, yields_perform.mpr rfl, ?_⟩
      rw [if_neg worked]
      refine yields_bind.mpr ⟨body, _, rc, rfl, served, ?_⟩
      exact yields_bind.mpr ⟨_, [], (), rfl, yields_perform.mpr rfl, .pure rc⟩

/-- What a run on a list of interfaces has to satisfy: zero is returned only if there are
names and all were set up, and at the first failure the run ends with its code. -/
structure Handled (ifnames : CString) (trace : Trace) (rc : Int) : Prop where
  success : rc = 0 → names ifnames ≠ [] ∧ ∃ (opened : Int) (body : Trace), ¬ opened < 0 ∧
    trace = ⟨.rtnlOpen, opened⟩ :: (body ++ [⟨.rtnlClose, ()⟩]) ∧
    Done tcSetupOneInferface (names ifnames) body
  failure : ∀ (opened code : Int) (done later : List CString) (name : CString)
    (before last after : Trace), names ifnames = done ++ name :: later →
    trace = ⟨.rtnlOpen, opened⟩ :: (before ++ last ++ after) →
    Done tcSetupOneInferface done before → Yields (tcSetupOneInferface name) last code →
    code < 0 → rc = code ∧ after = [⟨.rtnlClose, ()⟩]

theorem names_ne_nil_iff : names ifnames ≠ [] ↔ ∃ byte ∈ ifnames, byte ≠ comma := by
  rw [names, Ne, Tokens.tokens_eq_nil_iff]
  simp

/-- Without a name there is nothing to set up, and nothing that fails. -/
theorem yields_of_no_name (nonempty : ifnames ≠ []) (nothing : names ifnames = []) :
    Yields (tcSetupInferface ifnames) [⟨.rtnlOpen, (0 : Int)⟩, ⟨.rtnlClose, ()⟩] 0 := by
  refine (tcSetupInferface_yields nonempty).mpr (.inr ⟨0, [], Int.lt_irrefl 0, rfl, ?_⟩)
  rw [nothing]
  exact .pure 0

theorem tcSetupOneInferface_ne_nil {name : CString}
    (yields : Yields (tcSetupOneInferface name) trace rc) : trace ≠ [] := by
  obtain ⟨first, rest, found, rfl, asked, _⟩ := yields_bind.mp yields
  rw [yields_perform] at asked
  subst asked
  exact List.cons_ne_nil _ _

theorem handled_of_names (named : names ifnames ≠ [])
    (yields : Yields (tcSetupInferface ifnames) trace rc) : Handled ifnames trace rc := by
  have nonempty : ifnames ≠ [] := by
    rintro rfl
    exact named rfl
  rcases (tcSetupInferface_yields nonempty).mp yields with
    ⟨failed, rfl⟩ | ⟨opened, body, worked, rfl, served⟩
  · refine ⟨fun zero => by omega, ?_⟩
    intro opened code done later name before last after _ same _ yields _
    obtain ⟨_, none⟩ := List.cons.inj same
    have quiet := (List.append_eq_nil_iff.mp none.symm).1
    exact absurd (List.append_eq_nil_iff.mp quiet).2 (tcSetupOneInferface_ne_nil yields)
  · constructor
    · rintro rfl
      exact ⟨named, opened, body, worked, rfl, Done.of_yields served (Int.lt_irrefl 0)⟩
    · intro opened code done later name before last after split same finished yields failed
      rw [split] at served
      obtain ⟨_, rest⟩ := List.cons.inj same
      obtain ⟨_, code, ends⟩ := served.unique (untilFailure_failed finished yields failed) rest
      exact ⟨code, ends.symm⟩

/-- Every run is handled, except those on a list of nothing but commas. -/
theorem handled_iff (ifnames : CString) :
    (∀ trace rc, Run.exec Coro.advance (tcSetupInferface ifnames) trace = some (.pure rc) →
      Handled ifnames trace rc) ↔ ifnames = [] ∨ ∃ byte ∈ ifnames, byte ≠ comma := by
  constructor
  · intro handled
    by_contra neither
    obtain ⟨nonempty, commas⟩ := not_or.mp neither
    have nothing : names ifnames = [] := not_not.mp (mt names_ne_nil_iff.mp commas)
    have ran := yields_iff_exec.mp (yields_of_no_name nonempty nothing)
    exact ((handled _ 0 ran).success rfl).1 nothing
  · rintro (rfl | named) trace rc ran
    · obtain ⟨rfl, rfl⟩ := yields_pure.mp (yields_iff_exec.mpr ran)
      constructor
      · intro zero
        exact absurd zero (by decide)
      · intro _ _ _ _ _ _ _ _ _ same
        cases same
    · exact handled_of_names (names_ne_nil_iff.mpr named) (yields_iff_exec.mpr ran)

/-- A list of one comma has no name, and is accepted. -/
theorem comma_accepted :
    names (ascii ",") = [] ∧
      Run.exec Coro.advance (tcSetupInferface (ascii ","))
        [⟨.rtnlOpen, (0 : Int)⟩, ⟨.rtnlClose, ()⟩] = some (.pure 0) ∧
      ¬ Handled (ascii ",") [⟨.rtnlOpen, (0 : Int)⟩, ⟨.rtnlClose, ()⟩] 0 := by
  have nothing : names (ascii ",") = [] := by
    rw [show ascii "," = [comma] by decide +kernel]
    rfl
  have ran := yields_iff_exec.mp (yields_of_no_name (by decide +kernel) nothing)
  exact ⟨nothing, ran, fun handled => (handled.success rfl).1 nothing⟩

end TrafficLimitd.Tc
