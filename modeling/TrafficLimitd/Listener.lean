import TrafficLimitd.RunInvariant
import TrafficLimitd.StreamProgram

set_option autoImplicit false

/- The listening socket: `setup_unix_listening_socket`, which hands it to an event source,
and `unix_server_listen_handler`, which that source calls for each readiness event.
sd-event disables a source whose handler returns a negative value. -/
namespace TrafficLimitd.Listener

/-- The answers to the calls of `setup_unix_listening_socket`. `fcntl(F_GETFL)` says
whether `O_NONBLOCK` is set; for `fcntl(F_SETFL)` and `malloc` there is `errno` or
success. -/
structure SetupCalls where
  sdListenFds : Int
  sdIsSocket : Int
  getFl : Except Int Bool
  setFl : Option Int
  malloc : Option Int
  addIo : Int
  setIoFdOwn : Int
  setDestroyCallback : Int

/-- `errno` is positive after a failed call. -/
structure SetupCalls.Possible (calls : SetupCalls) : Prop where
  getFl : ∀ errno, calls.getFl = .error errno → 0 < errno
  setFl : ∀ errno ∈ calls.setFl, 0 < errno
  malloc : ∀ errno ∈ calls.malloc, 0 < errno

/-- What `setup_unix_listening_socket` leaves: its return code, whether the daemon has the
event source, and whether the descriptor is closed and `arg` freed. -/
structure Setup where
  rc : Int
  source : Bool
  closed : Bool
  freed : Bool
deriving DecidableEq, Repr

/-- `fcntl(F_SETFL)` is called if the socket is not non-blocking. -/
def setNonblock (calls : SetupCalls) : Except Int Unit :=
  match calls.getFl with
  | .error errno => .error (-errno)
  | .ok true => .ok ()
  | .ok false =>
      match calls.setFl with
      | some errno => .error (-errno)
      | none => .ok ()

/-- `err_unref_src` and the two labels after it close the descriptor, through the source if
it owns it, and free `arg`. -/
def addSource (calls : SetupCalls) : Setup :=
  if calls.addIo < 0 then ⟨calls.addIo, false, true, true⟩
  else if calls.setIoFdOwn < 0 then ⟨calls.setIoFdOwn, false, true, true⟩
  else if calls.setDestroyCallback < 0 then ⟨calls.setDestroyCallback, false, true, true⟩
  else ⟨calls.setDestroyCallback, true, false, false⟩

def setupUnixListeningSocket (calls : SetupCalls) : Setup :=
  if calls.sdListenFds < 1 then ⟨-Errno.einval, false, false, false⟩
  else if calls.sdIsSocket = 0 then ⟨-Errno.einval, false, false, false⟩
  else
    match setNonblock calls with
    | .error rc => ⟨rc, false, false, false⟩
    | .ok () =>
        match calls.malloc with
        | some errno => ⟨-errno, false, true, false⟩
        | none => addSource calls

/-- The event source of the listening socket in the running daemon, and the descriptors
that were handed to `client_handler`, the last one first. -/
structure State where
  enabled : Bool
  exited : Bool
  accepted : List Nat
deriving DecidableEq, Repr

/-- `main` ends if the socket could not be set up. A new source is enabled. -/
def listen (calls : SetupCalls) : Option State :=
  let setup := setupUnixListeningSocket calls
  if setup.rc < 0 then none else some ⟨setup.source, false, []⟩

/-- A readiness event, with the answer of `accept4`, or a call of `sd_event_exit`. -/
inductive Label
  | ready (accept4 : Except Int Nat)
  | exit
deriving DecidableEq

/-- `errno` is positive after a failed `accept4`. -/
def Label.Possible : Label → Prop
  | .ready (.error errno) => 0 < errno
  | _ => True

instance : DecidablePred Label.Possible
  | .ready (.error errno) => inferInstanceAs (Decidable (0 < errno))
  | .ready (.ok _) => isTrue trivial
  | .exit => isTrue trivial

/-- The return value, and the descriptor for `client_handler`. -/
def unixServerListenHandler : Except Int Nat → Int × Option Nat
  | .error errno => (-errno, none)
  | .ok cfd => (0, some cfd)

/-- What a readiness event does: sd-event disables the source if its handler returns a
negative value. -/
def State.ready (state : State) (accept4 : Except Int Nat) : State :=
  let (rc, cfd) := unixServerListenHandler accept4
  { state with
    enabled := if rc < 0 then false else state.enabled
    accepted := cfd.toList ++ state.accepted }

/-- sd-event calls the handler of an enabled source, until it is told to exit. -/
def step (state : State) : Label → Option State
  | .ready accept4 =>
      if state.enabled = true ∧ state.exited = false ∧ (Label.ready accept4).Possible then
        some (state.ready accept4)
      else none
  | .exit => some { state with exited := true }

/-- A successful setup leaves the source with the daemon, a failed one leaves none. -/
theorem setup_source {calls : SetupCalls} (possible : calls.Possible) :
    (setupUnixListeningSocket calls).source = true ↔
      0 ≤ (setupUnixListeningSocket calls).rc := by
  have nonblock : ∀ rc, setNonblock calls = .error rc → rc < 0 := by
    intro rc failed
    unfold setNonblock at failed
    split at failed
    · rename_i errno found
      have := possible.getFl errno found
      cases failed
      omega
    · cases failed
    · split at failed
      · rename_i errno found
        have := possible.setFl errno found
        cases failed
        omega
      · cases failed
  unfold setupUnixListeningSocket
  split
  · decide
  split
  · decide
  split
  · rename_i rc failed
    have := nonblock rc failed
    simp only [Bool.false_eq_true, false_iff]
    omega
  split
  · rename_i errno found
    have := possible.malloc errno found
    simp only [Bool.false_eq_true, false_iff]
    omega
  unfold addSource
  repeat' split
  all_goals simp only [Bool.false_eq_true, false_iff, true_iff]
  all_goals omega

theorem listen_enabled {calls : SetupCalls} {state : State} (possible : calls.Possible)
    (listening : listen calls = some state) : state.enabled = true := by
  simp only [listen] at listening
  split at listening
  · cases listening
  · rename_i succeeded
    cases listening
    exact (setup_source possible).mpr (Int.not_lt.mp succeeded)

/-- `accept4` fails. -/
def Label.Fails : Label → Prop
  | .ready (.error _) => True
  | _ => False

/-- A connection that arrives in this state is accepted. -/
def Accepts (state : State) : Prop :=
  ∀ cfd, ∃ next ∈ step state (.ready (.ok cfd)), next.accepted = cfd :: state.accepted

/-- In every state of the run before `sd_event_exit` the source is enabled, and the next
connection is accepted. -/
def Survives (state : State) (labels : List Label) : Prop :=
  ∀ taken rest, labels = taken ++ rest → ∀ reached ∈ Run.exec step state taken,
    reached.exited = false → reached.enabled = true ∧ Accepts reached

section Step

variable {state next : State} {label : Label}

theorem accepts_of_enabled (enabled : state.enabled = true) (running : state.exited = false) :
    Accepts state := by
  intro cfd
  exact ⟨state.ready (.ok cfd), if_pos ⟨enabled, running, trivial⟩, rfl⟩

/-- A step that is no failed `accept4` keeps the source enabled. -/
theorem step_enabled (enabled : state.enabled = true) (sound : ¬ label.Fails)
    (taken : step state label = some next) : next.enabled = true := by
  cases label with
  | exit =>
      cases taken
      exact enabled
  | ready accept4 =>
      cases accept4 with
      | error errno => exact absurd trivial sound
      | ok cfd =>
          obtain ⟨-, ready⟩ := Option.ite_none_right_eq_some.mp taken
          cases ready
          exact enabled

theorem run_enabled {labels : List Label} {final : State} (enabled : state.enabled = true)
    (sound : ∀ label ∈ labels, ¬ label.Fails) (reached : Run.exec step state labels = some final) :
    final.enabled = true := by
  induction labels generalizing state with
  | nil =>
      cases reached
      exact enabled
  | cons label rest ih =>
      obtain ⟨head, tail⟩ := List.forall_mem_cons.mp sound
      obtain ⟨next, taken, continued⟩ := Run.exec_cons_eq_some.mp reached
      exact ih (step_enabled enabled head taken) tail continued

/-- A failed `accept4` disables it while the daemon still runs. -/
theorem step_disabled (failed : label.Fails) (taken : step state label = some next) :
    next.enabled = false ∧ next.exited = false := by
  cases label with
  | exit => exact failed.elim
  | ready accept4 =>
      cases accept4 with
      | ok cfd => exact failed.elim
      | error errno =>
          obtain ⟨⟨-, running, positive⟩, ready⟩ := Option.ite_none_right_eq_some.mp taken
          cases ready
          have negative : -errno < 0 := Int.neg_neg_of_pos positive
          exact ⟨if_pos negative, running⟩

end Step

/-- The listener survives a run exactly if no `accept4` in it fails. -/
theorem listener_survives_iff (calls : SetupCalls) (possible : calls.Possible) (start : State)
    (listening : listen calls = some start) (labels : List Label)
    (ran : (Run.exec step start labels).isSome = true) :
    Survives start labels ↔ ∀ label ∈ labels, ¬ label.Fails := by
  constructor
  · intro survives label member failed
    obtain ⟨before, after, rfl⟩ := List.append_of_mem member
    obtain ⟨final, ran⟩ := Option.isSome_iff_exists.mp ran
    rw [Run.exec_append] at ran
    obtain ⟨state, reached, continued⟩ := Option.bind_eq_some_iff.mp ran
    obtain ⟨next, taken, -⟩ := Run.exec_cons_eq_some.mp continued
    obtain ⟨disabled, running⟩ := step_disabled failed taken
    have arrived : Run.exec step start (before ++ [label]) = some next := by
      rw [Run.exec_append, reached]
      exact Run.exec_cons_eq_some.mpr ⟨next, taken, rfl⟩
    have enabled := (survives (before ++ [label]) after (by simp) next arrived running).1
    rw [disabled] at enabled
    cases enabled
  · intro sound taken rest split reached arrived running
    have clear : ∀ label ∈ taken, ¬ label.Fails := by
      intro label member
      apply sound
      rw [split]
      exact List.mem_append_left rest member
    have enabled := run_enabled (listen_enabled possible listening) clear arrived
    exact ⟨enabled, accepts_of_enabled enabled running⟩

/-- The calls of a setup in which nothing fails. -/
def SetupCalls.fine : SetupCalls := ⟨1, 1, .ok false, none, none, 0, 0, 0⟩

theorem listener_survives_iff_twoConnections :
    Survives ⟨true, false, []⟩ [.ready (.ok 5), .ready (.ok 6)] := by
  refine (listener_survives_iff .fine ⟨nofun, nofun, nofun⟩ _ rfl _ rfl).mpr ?_
  intro label member
  simp only [List.mem_cons, List.not_mem_nil, or_false] at member
  rcases member with rfl | rfl <;> exact id

/-- After one `EAGAIN` the source is disabled, and the next connection is not accepted. -/
theorem listener_lost :
    listen .fine = some ⟨true, false, []⟩ ∧
    Run.exec step ⟨true, false, []⟩ [.ready (.error Errno.eagain)] =
      some ⟨false, false, []⟩ ∧
    step ⟨false, false, []⟩ (.ready (.ok 5)) = none ∧
    ¬ Survives ⟨true, false, []⟩ [.ready (.error Errno.eagain)] := by
  refine ⟨rfl, rfl, rfl, ?_⟩
  intro survives
  have lost := survives [.ready (.error Errno.eagain)] [] rfl ⟨false, false, []⟩ rfl rfl
  exact absurd lost.1 (by decide)

end TrafficLimitd.Listener
