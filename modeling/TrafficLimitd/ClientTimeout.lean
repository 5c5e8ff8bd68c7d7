import TrafficLimitd.ClientDecoder

set_option autoImplicit false

/- Where SIGALRM may find the client. The flag that its handler sets is looked at only
after a `recv` that was interrupted. -/
namespace TrafficLimitd.Client

/-- The client has received `RATE_LIMIT_PROCEED`, or has exited with status 1. -/
def Decided : Phase → Prop
  | .proceeding | .executing => True
  | .exited status => status = 1
  | _ => False

/-- Whether a response is answered by waiting for the next one. -/
def goesOn (buf : List UInt8) : Bool :=
  match decode buf with
  | some (.logged _ _) => true
  | _ => false

/-- The signal comes while the client is blocked in `recv`, at the label `interrupted`,
with a response at hand that is not a log line, or after `RATE_LIMIT_PROCEED`. -/
def Noticed (state : State) : Label → Prop
  | .sigalrm =>
      match state.phase with
      | .blocked | .interrupted | .proceeding => True
      | .received buf => goesOn buf = false
      | _ => False
  | _ => True

/-- What a set flag says about the phase: it is looked at next, or it does not matter
any more. -/
def Heeded (state : State) : Prop :=
  state.timeoutTriggered = true →
    match state.phase with
    | .interrupted => True
    | .received buf => goesOn buf = false
    | phase => Decided phase

section Step

variable {options : Options} {state next : State}

theorem handle_decided (state : State) {buf : List UInt8} {outcome : Outcome}
    (ends : goesOn buf = false) (found : decode buf = some outcome) :
    Decided (state.handle outcome).phase := by
  cases outcome with
  | invalid => rfl
  | failed reason => rfl
  | proceed => trivial
  | logged precision text =>
      rw [goesOn, found] at ends
      cases ends

theorem run_heeded (waits : 0 < options.waitTime) (heeded : Heeded state)
    (ran : state.run options = some next) : Heeded next := by
  unfold State.run at ran
  intro set
  split at ran
  · rename_i phase
    cases ran
    have never := heeded set
    rw [phase] at never
    exact never.elim
  · rename_i buf phase
    obtain ⟨outcome, found, rfl⟩ := Option.map_eq_some_iff.mp ran
    have ends := heeded set
    rw [phase] at ends
    have decided := handle_decided state ends found
    cases outcome with
    | logged precision text => exact decided.elim
    | invalid => exact decided
    | failed reason => exact decided
    | proceed => exact decided
  · split at ran
    · cases ran
      rfl
    · rename_i unseen
      cases ran
      exact absurd ⟨waits, set⟩ unseen
  · exact absurd ran nofun

/-- The flag is not set during a call, nor does the return of a call set it. -/
theorem Heeded.returned (heeded : Heeded state)
    (calling : state.phase = .blocked ∨ ∃ len, state.phase = .reading len)
    (same : next.timeoutTriggered = state.timeoutTriggered) : Heeded next := by
  intro set
  rw [same] at set
  have never := heeded set
  rcases calling with phase | ⟨len, phase⟩ <;> rw [phase] at never <;> exact never.elim

theorem peeked_heeded {result : Except Int Nat} (heeded : Heeded state)
    (phase : state.phase = .blocked) (ran : state.peeked result = some next) : Heeded next := by
  apply heeded.returned (.inl phase)
  unfold State.peeked at ran
  repeat' split at ran
  all_goals cases ran
  all_goals rfl

theorem read_heeded {len : Nat} {result : Except Int (List UInt8)} (heeded : Heeded state)
    (phase : state.phase = .reading len) (ran : state.read len result = some next) :
    Heeded next := by
  apply heeded.returned (.inr ⟨len, phase⟩)
  unfold State.read at ran
  repeat' split at ran
  all_goals cases ran
  all_goals rfl

theorem sigalrm_heeded (noticed : Noticed state .sigalrm) (ran : state.sigalrm = some next) :
    Heeded next := by
  unfold State.sigalrm at ran
  unfold Noticed at noticed
  intro _
  cases phase : state.phase <;> simp only [phase] at ran noticed
  all_goals cases ran
  case received => exact noticed
  all_goals trivial

theorem step_heeded (waits : 0 < options.waitTime) (state : State) (label : Label) (next : State)
    (heeded : Heeded state) (noticed : Noticed state label)
    (ran : step options state label = some next) : Heeded next := by
  cases label with
  | run => exact run_heeded waits heeded ran
  | peeked result =>
      simp only [step] at ran
      split at ran
      · rename_i phase
        exact peeked_heeded heeded phase ran
      · exact absurd ran nofun
  | read result =>
      simp only [step] at ran
      split at ran
      · rename_i len phase
        exact read_heeded heeded phase ran
      · exact absurd ran nofun
  | restored result =>
      simp only [step] at ran
      intro _
      repeat' split at ran
      all_goals cases ran
      · rfl
      · trivial
  | sigalrm =>
      simp only [step] at ran
      rw [if_pos waits] at ran
      exact sigalrm_heeded noticed ran

end Step

/-- If the signal always comes where it is noticed, the client never waits for a
response with the flag set: it has received `RATE_LIMIT_PROCEED`, it has exited with
status 1, or it does one of the two before its next call. -/
theorem timeout_noticed (options : Options) (waits : 0 < options.waitTime) (labels : List Label)
    (state : State) (noticed : Run.Meets (step options) Noticed .start labels)
    (ran : Run.exec (step options) .start labels = some state) :
    (state.phase = .peeking ∨ state.phase = .blocked → state.timeoutTriggered = false) ∧
    (state.timeoutTriggered = true → Decided state.phase ∨
      ∃ next, step options state .run = some next ∧ Decided next.phase) := by
  have heeded : Heeded state :=
    noticed.invariant Heeded (step_heeded waits) (by intro set; cases set) ran
  constructor
  · intro waiting
    apply Bool.eq_false_iff.mpr
    intro set
    have never := heeded set
    rcases waiting with phase | phase <;> rw [phase] at never <;> exact never
  · intro set
    have known := heeded set
    cases phase : state.phase <;> rw [phase] at known
    case interrupted =>
      refine .inr ⟨{ state with phase := .exited 1 }, ?_, rfl⟩
      simp only [step, State.run, phase]
      rw [if_pos ⟨waits, set⟩]
    case received buf =>
      obtain ⟨outcome, found⟩ := Option.isSome_iff_exists.mp (decode_isSome buf)
      refine .inr ⟨state.handle outcome, ?_, handle_decided state known found⟩
      simp only [step, State.run, phase, found, Option.map_some]
    all_goals exact .inl known

/-- The alarm goes off while the client waits for the daemon. -/
theorem timeout_noticed_blocked :
    ∃ state ∈ Run.exec (step ⟨0, 0, 5⟩) .start [.run, .sigalrm], state.timeoutTriggered = true ∧
      ∃ next, step ⟨0, 0, 5⟩ state .run = some next ∧ Decided next.phase := by
  refine ⟨⟨.interrupted, true, []⟩, by decide, rfl, ?_⟩
  have result := (timeout_noticed ⟨0, 0, 5⟩ (by decide) [.run, .sigalrm] ⟨.interrupted, true, []⟩
    ⟨trivial, fun next taken => by
      cases taken
      exact ⟨trivial, fun _ _ => trivial⟩⟩ (by decide)).2 rfl
  exact result.resolve_left (fun decided => decided)

/-- The alarm goes off just before the first `recv`, or while a log line is printed: the
client then waits for the daemon with the flag set. -/
theorem timeout_lost :
    (∃ state ∈ Run.exec (step ⟨0, 0, 5⟩) .start [.sigalrm, .run],
      state.phase = .blocked ∧ state.timeoutTriggered = true) ∧
    ∃ state ∈ Run.exec (step ⟨0, 0, 5⟩) .start [.run, .peeked (.ok 9),
        .read (.ok [9, 0, 0, 0, 2, 0, 0, 0, 104]), .sigalrm, .run, .run],
      state.phase = .blocked ∧ state.timeoutTriggered = true ∧
        state.heard = [.logged 1 (some [104])] := by
  decide

end TrafficLimitd.Client
