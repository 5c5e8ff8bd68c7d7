import TrafficLimitd.JobProgram

set_option autoImplicit false

/- A call of `sb_sd_wait_for_job` ends with the first message after the reply of its
own `StartTransientUnit` that concerns it: the `JobRemoved` of its job, the
disconnection of the bus, or an interrupt. -/
namespace TrafficLimitd.Job

open Handler (CString ascii)
open TrafficLimitd.Stream (Wake)

/-- The code with which a message ends the wait of a call for a job. -/
def settles (id : CallId) (jobObj : CString) : Label → Option Int
  | .jobRemoved (some (path, result)) _ => if path = jobObj then some (jobRc result) else none
  | .disconnected _ => some (-Errno.econnreset)
  | .interrupt targets => if id ∈ targets then some (-Errno.eintr) else none
  | _ => none

/-- What the messages since the reply with the job make of the wait for it. -/
def Since (past : List Label) (id : CallId) (jobObj : CString) (outcome : Option Int) : Prop :=
  ∃ earlier later, past = earlier ++ .reply id (.ok jobObj) :: later ∧
    later.findSome? (settles id jobObj) = outcome

/-- The disconnection came before the reply with the job. -/
def LostBefore (past : List Label) (id : CallId) (jobObj : CString) : Prop :=
  ∃ earlier later copied, past = earlier ++ .reply id (.ok jobObj) :: later ∧
    .disconnected copied ∈ earlier

/-- The code with which the wait has to end. -/
def Ends (past : List Label) (id : CallId) (jobObj : CString) (rc : Int) : Prop :=
  Since past id jobObj (some rc) ∨ LostBefore past id jobObj ∧ rc = -Errno.econnreset

section Since

variable {past : List Label} {id : CallId} {jobObj : CString} {outcome : Option Int} {label : Label}

theorem Since.append (since : Since past id jobObj outcome) (label : Label) :
    Since (past ++ [label]) id jobObj (outcome.or (settles id jobObj label)) := by
  obtain ⟨earlier, later, rfl, found⟩ := since
  refine ⟨earlier, later ++ [label], by simp, ?_⟩
  rw [List.findSome?_append, found]
  simp

theorem Since.ignore (since : Since past id jobObj outcome)
    (ignored : settles id jobObj label = none) : Since (past ++ [label]) id jobObj outcome := by
  have appended := since.append label
  rwa [ignored, Option.or_none] at appended

theorem Ends.append {rc : Int} (ends : Ends past id jobObj rc) (label : Label) :
    Ends (past ++ [label]) id jobObj rc := by
  rcases ends with since | ⟨⟨earlier, later, copied, rfl, lost⟩, code⟩
  · exact Or.inl (since.append label)
  · exact Or.inr ⟨⟨earlier, later ++ [label], copied, by simp, lost⟩, code⟩

/-- A disconnection that did not end the wait came before the reply. -/
theorem Since.lostBefore {copied : CallId → Bool} (since : Since past id jobObj none)
    (lost : .disconnected copied ∈ past) : LostBefore past id jobObj := by
  obtain ⟨earlier, later, rfl, found⟩ := since
  refine ⟨earlier, later, copied, rfl, ?_⟩
  rcases List.mem_append.mp lost with before | inside
  · exact before
  · rcases List.mem_cons.mp inside with same | after
    · cases same
    · have ignored := List.findSome?_eq_none_iff.mp found _ after
      cases ignored

end Since

/-- The argument while `sb_sd_init_wait_for_job` waits. -/
structure Fresh (arg : WaitForJobArg) : Prop where
  jobObj : arg.jobObj = none
  result : arg.result = none
  slotJobRemoved : arg.slotJobRemoved = true
  slotDisconnected : arg.slotDisconnected = false

/-- Both callbacks are installed and none has stored a result. -/
structure Open (arg : WaitForJobArg) : Prop where
  result : arg.result = none
  slotJobRemoved : arg.slotJobRemoved = true
  slotDisconnected : arg.slotDisconnected = true
  closed : arg.closed = false

/-- No callback is installed. -/
structure Silent (arg : WaitForJobArg) : Prop where
  slotJobRemoved : arg.slotJobRemoved = false
  slotDisconnected : arg.slotDisconnected = false

/-- `sb_sd_free_wait_for_job` will leave no callback installed. -/
def Tidy (arg : WaitForJobArg) : Prop := arg.closed = true → Silent arg

/-- The disconnection has closed the argument. -/
structure Lost (past : List Label) (arg : WaitForJobArg) : Prop extends Silent arg where
  closed : arg.closed = true
  rc : arg.rc = -Errno.econnreset
  dispatched : ∃ copied, .disconnected copied ∈ past

/-- A call that waits for its job. -/
structure Awaits (past : List Label) (bus : Bus) (id : CallId) (jobObj : CString)
    (arg : WaitForJobArg) : Prop extends Open arg where
  waitsFor : arg.jobObj = some jobObj
  connected : bus.connected = true
  kept : jobObj ∉ bus.removed
  since : Since past id jobObj none

/-- The argument of a call that waits for the reply of `StartTransientUnit`. -/
def Prepared (past : List Label) (bus : Bus) (arg : WaitForJobArg) : Prop :=
  Open arg ∧ arg.jobObj = none ∧ bus.connected = true ∨ Lost past arg

/-- What is known of a call in each of its phases. -/
def Stands (past : List Label) (bus : Bus) (id : CallId) (call : Call) : Prop :=
  match call.phase with
  | .installing => Fresh call.arg
  | .starting =>
      Prepared past bus call.arg ∧ (call.wake = .set → ∀ jobObj, call.reply = .ok jobObj →
        jobObj ∉ bus.removed ∧ Since past id jobObj none)
  | .waiting jobObj =>
      match call.wake with
      | .asleep => Awaits past bus id jobObj call.arg
      | .set => Tidy call.arg ∧ Since past id jobObj (some call.arg.rc)
      | .cancelled => Tidy call.arg ∧ Since past id jobObj (some (-Errno.eintr))
  | .returned jobObj rc => Silent call.arg ∧ call.wake = .asleep ∧ Ends past id jobObj rc
  | .failed _ => Silent call.arg ∧ call.wake = .asleep

/-- Every call is where its messages have brought it, no assertion has failed, and the
bus remembers what was dispatched. -/
structure Orderly (past : List Label) (bus : Bus) : Prop where
  calls : ∀ (id : CallId) call, bus.calls[id]? = some call →
    call.aborted = false ∧ Stands past bus id call
  lost : ∀ copied, .disconnected copied ∈ past → bus.connected = false
  removed : ∀ jobObj result copied, .jobRemoved (some (jobObj, result)) copied ∈ past →
    jobObj ∈ bus.removed

section Arguments

variable {past : List Label} {bus : Bus} {arg : WaitForJobArg}

theorem Open.tidy (opened : Open arg) : Tidy arg := by
  intro closed
  rw [opened.closed] at closed
  cases closed

theorem Tidy.free (tidy : Tidy arg) : Silent (sbSdFreeWaitForJob arg) := by
  unfold sbSdFreeWaitForJob
  split
  · rename_i closed
    exact tidy closed
  · exact ⟨rfl, rfl⟩

theorem Prepared.tidy (prepared : Prepared past bus arg) : Tidy arg := by
  rcases prepared with ⟨opened, -, -⟩ | lost
  · exact opened.tidy
  · exact fun _ => lost.toSilent

theorem Lost.append (lost : Lost past arg) (label : Label) : Lost (past ++ [label]) arg := by
  obtain ⟨copied, dispatched⟩ := lost.dispatched
  exact ⟨lost.toSilent, lost.closed, lost.rc, copied, List.mem_append_left _ dispatched⟩

theorem Prepared.append {next : Bus} (prepared : Prepared past bus arg)
    (connected : next.connected = bus.connected) (label : Label) :
    Prepared (past ++ [label]) next arg := by
  rcases prepared with ⟨opened, noJob, joined⟩ | lost
  · exact Or.inl ⟨opened, noJob, connected.trans joined⟩
  · exact Or.inr (lost.append label)

end Arguments

section Steps

variable {past : List Label} {bus next : Bus} {id : CallId} {call : Call} {label : Label}

/-- A step that is not about a call leaves it where it is. -/
theorem Stands.frame (stands : Stands past bus id call)
    (ignored : ∀ jobObj, settles id jobObj label = none)
    (connected : next.connected = bus.connected) (removed : next.removed = bus.removed) :
    Stands (past ++ [label]) next id call := by
  unfold Stands at *
  cases phase : call.phase with
  | installing =>
      rw [phase] at stands
      exact stands
  | starting =>
      rw [phase] at stands
      obtain ⟨prepared, replied⟩ := stands
      refine ⟨prepared.append connected label, ?_⟩
      intro woken jobObj reply
      obtain ⟨kept, since⟩ := replied woken jobObj reply
      exact ⟨removed ▸ kept, since.ignore (ignored jobObj)⟩
  | waiting jobObj =>
      rw [phase] at stands
      dsimp only at stands ⊢
      cases wake : call.wake with
      | asleep =>
          rw [wake] at stands
          exact ⟨stands.toOpen, stands.waitsFor, connected.trans stands.connected,
            removed ▸ stands.kept, stands.since.ignore (ignored jobObj)⟩
      | set =>
          rw [wake] at stands
          exact ⟨stands.1, stands.2.ignore (ignored jobObj)⟩
      | cancelled =>
          rw [wake] at stands
          exact ⟨stands.1, stands.2.ignore (ignored jobObj)⟩
  | returned jobObj rc =>
      rw [phase] at stands
      exact ⟨stands.1, stands.2.1, stands.2.2.append label⟩
  | failed rc =>
      rw [phase] at stands
      exact stands

/-- Each failure of `sb_sd_init_wait_for_job` and of the request removes the callbacks. -/
theorem Fresh.afterInstalling (fresh : Fresh call.arg) (answers : Answers)
    (sent : 0 ≤ answers.callAsync → next.connected = true) :
    Stands past next id (call.afterInstalling answers) := by
  have silent : Silent { call.arg with slotJobRemoved := false } := ⟨rfl, fresh.slotDisconnected⟩
  have opened : Open { call.arg with slotDisconnected := true, closed := false } :=
    ⟨fresh.result, fresh.slotJobRemoved, rfl, rfl⟩
  unfold Call.afterInstalling
  split
  · exact ⟨silent, rfl⟩
  split
  · exact ⟨silent, rfl⟩
  split
  · exact ⟨silent, rfl⟩
  dsimp only
  split
  · exact ⟨opened.tidy.free, rfl⟩
  split
  · exact ⟨opened.tidy.free, rfl⟩
  · rename_i accepted
    exact ⟨Or.inl ⟨opened, fresh.jobObj, sent (by omega)⟩, nofun⟩

/-- The wait begins, unless the connection was lost before the reply. -/
theorem Prepared.beginWait {jobObj : CString} (prepared : Prepared past bus call.arg)
    (kept : jobObj ∉ next.removed) (since : Since past id jobObj none)
    (ignored : settles id jobObj label = none) (connected : next.connected = bus.connected) :
    Stands (past ++ [label]) next id (call.beginWait jobObj) := by
  unfold Call.beginWait
  rcases prepared with ⟨opened, -, joined⟩ | lost
  · rw [opened.closed]
    exact ⟨⟨opened.result, opened.slotJobRemoved, opened.slotDisconnected, opened.closed⟩,
      rfl, connected.trans joined, kept, since.ignore ignored⟩
  · rw [lost.closed]
    obtain ⟨copied, dispatched⟩ := lost.dispatched
    have tidy : Tidy { call.arg with result := none } := fun _ =>
      ⟨lost.slotJobRemoved, lost.slotDisconnected⟩
    have ends : Ends past id jobObj call.arg.rc :=
      Or.inr ⟨since.lostBefore dispatched, lost.rc⟩
    exact ⟨tidy.free, rfl, ends.append label⟩

/-- A woken call runs on. -/
theorem Stands.run (stands : Stands past bus id call) (woken : call.wake ≠ .asleep)
    (answers : Answers) (sent : 0 ≤ answers.callAsync → bus.connected = true)
    (ignored : ∀ jobObj, settles id jobObj label = none)
    (connected : next.connected = bus.connected) (removed : next.removed = bus.removed) :
    Stands (past ++ [label]) next id (call.run answers) := by
  unfold Stands at stands
  cases phase : call.phase with
  | installing =>
      rw [phase] at stands
      rw [Call.run, phase]
      exact stands.afterInstalling answers fun asked => connected.trans (sent asked)
  | starting =>
      rw [phase] at stands
      obtain ⟨prepared, replied⟩ := stands
      have freed : Silent (sbSdFreeWaitForJob call.arg) := prepared.tidy.free
      unfold Call.run
      rw [phase]
      dsimp only
      unfold Call.afterStarting
      split
      · exact ⟨freed, rfl⟩
      · rename_i kept
        have set : call.wake = .set := by
          cases wake : call.wake with
          | asleep => exact absurd wake woken
          | set => rfl
          | cancelled => exact absurd wake kept
        split
        · exact ⟨freed, rfl⟩
        · rename_i jobObj reply
          obtain ⟨notRemoved, since⟩ := replied set jobObj reply
          split
          · exact ⟨freed, rfl⟩
          · exact prepared.beginWait (removed ▸ notRemoved) since (ignored jobObj) connected
  | waiting jobObj =>
      rw [phase] at stands
      dsimp only at stands
      unfold Call.run
      rw [phase]
      dsimp only
      cases wake : call.wake with
      | asleep => exact absurd wake woken
      | set =>
          rw [wake] at stands
          have tidy : Tidy { call.arg with result := none } := fun closed =>
            ⟨(stands.1 closed).slotJobRemoved, (stands.1 closed).slotDisconnected⟩
          have ends : Ends past id jobObj call.arg.rc := Or.inl stands.2
          exact ⟨tidy.free, rfl, ends.append label⟩
      | cancelled =>
          rw [wake] at stands
          have ends : Ends past id jobObj (-Errno.eintr) := Or.inl stands.2
          exact ⟨stands.1.free, rfl, ends.append label⟩
  | returned jobObj rc =>
      rw [phase] at stands
      exact absurd stands.2.1 woken
  | failed rc =>
      rw [phase] at stands
      exact absurd stands.2 woken

theorem hear_deaf {slot : WaitForJobArg → Bool} {called : WaitForJobArg → Called}
    (deaf : slot call.arg = false) : call.hear slot called = call := by
  unfold Call.hear
  rw [deaf]
  rfl

theorem hear_eq {slot : WaitForJobArg → Bool} {called : WaitForJobArg → Called}
    {arg : WaitForJobArg} {eventSet : Bool} (hears : slot call.arg = true)
    (result : called call.arg = some (arg, eventSet)) :
    call.hear slot called = { call with
      arg := arg
      wake := if eventSet ∧ call.phase.onArgEvent then .set else call.wake } := by
  unfold Call.hear Call.callback
  rw [if_pos hears, result]

/-- A callback that finds nothing to do changes nothing. -/
theorem hear_idle {slot : WaitForJobArg → Bool} {called : WaitForJobArg → Called}
    (result : called call.arg = some (call.arg, false)) : call.hear slot called = call := by
  unfold Call.hear Call.callback
  rw [result]
  simp

theorem jobRemoved_idle {arg : WaitForJobArg} (signal : Option (CString × CString))
    (copied : Bool) (result : arg.result = none)
    (other : ∀ path text, signal = some (path, text) → arg.jobObj ≠ some path) :
    jobRemoved signal copied arg = some (arg, false) := by
  unfold jobRemoved
  rw [result]
  cases job : arg.jobObj with
  | none => rfl
  | some jobObj =>
      cases signal with
      | none => rfl
      | some message =>
          have different : jobObj ≠ message.1 := by
            rintro rfl
            exact other message.1 message.2 rfl job
          simp [different]

theorem jobRemoved_own {arg : WaitForJobArg} {jobObj : CString} (text : CString) (copied : Bool)
    (result : arg.result = none) (waitsFor : arg.jobObj = some jobObj) :
    jobRemoved (some (jobObj, text)) copied arg = some ({ arg with
      jobObj := none
      result := strdup copied text
      rc := jobRc text }, true) := by
  unfold jobRemoved
  rw [result, waitsFor]
  simp

/-- A `JobRemoved` ends the wait for its job and no other. -/
theorem Awaits.jobRemoved {jobObj : CString} (awaits : Awaits past bus id jobObj call.arg)
    (phase : call.phase = .waiting jobObj) (asleep : call.wake = .asleep)
    (intact : call.aborted = false) (signal : Option (CString × CString)) (copied : CallId → Bool)
    (connected : next.connected = bus.connected)
    (removed : next.removed = bus.removed ++ (signal.map Prod.fst).toList) :
    let heard := call.hear WaitForJobArg.slotJobRemoved (Job.jobRemoved signal (copied id))
    heard.aborted = false ∧ Stands (past ++ [.jobRemoved signal copied]) next id heard := by
  intro heard
  by_cases own : ∃ text, signal = some (jobObj, text)
  · obtain ⟨text, rfl⟩ := own
    have same := hear_eq awaits.slotJobRemoved
      (jobRemoved_own text (copied id) awaits.result awaits.waitsFor)
    unfold heard
    rw [same, Stands, phase]
    have tidy : Tidy { call.arg with
        jobObj := none
        result := strdup (copied id) text
        rc := jobRc text } := by
      intro closed
      cases awaits.closed.symm.trans closed
    have since := awaits.since.append (.jobRemoved (some (jobObj, text)) copied)
    simp only [settles, if_true, Option.none_or] at since
    exact ⟨intact, tidy, since⟩
  · have other : ∀ path text, signal = some (path, text) → path ≠ jobObj := by
      rintro path text given rfl
      exact own ⟨text, given⟩
    have same : heard = call := hear_idle (jobRemoved_idle signal (copied id) awaits.result
      fun path text given => by
        rw [awaits.waitsFor]
        exact fun equal => other path text given (Option.some.inj equal).symm)
    have ignored : settles id jobObj (.jobRemoved signal copied) = none := by
      cases signal with
      | none => rfl
      | some message => exact if_neg (other message.1 message.2 rfl)
    have kept : jobObj ∉ next.removed := by
      rw [removed]
      simp only [List.mem_append, not_or]
      refine ⟨awaits.kept, ?_⟩
      cases signal with
      | none => nofun
      | some message =>
          simpa using fun equal : jobObj = message.1 =>
            other message.1 message.2 rfl equal.symm
    rw [same, Stands, phase]
    dsimp only
    rw [asleep]
    exact ⟨intact, awaits.toOpen, awaits.waitsFor, connected.trans awaits.connected, kept,
      awaits.since.ignore ignored⟩

/-- A `JobRemoved` moves no call but one that waits for its job. -/
theorem Stands.jobRemoved (stands : Stands past bus id call) (asleep : call.wake = .asleep)
    (intact : call.aborted = false) (signal : Option (CString × CString)) (copied : CallId → Bool)
    (connected : next.connected = bus.connected)
    (removed : next.removed = bus.removed ++ (signal.map Prod.fst).toList) :
    let heard := call.hear WaitForJobArg.slotJobRemoved (Job.jobRemoved signal (copied id))
    heard.aborted = false ∧ Stands (past ++ [.jobRemoved signal copied]) next id heard := by
  intro heard
  unfold Stands at stands
  cases phase : call.phase with
  | installing =>
      rw [phase] at stands
      have same : heard = call := hear_idle (jobRemoved_idle signal (copied id) stands.result
        fun _ _ _ => by rw [stands.jobObj]; nofun)
      rw [same, Stands, phase]
      exact ⟨intact, stands⟩
  | starting =>
      rw [phase] at stands
      obtain ⟨prepared, -⟩ := stands
      have same : heard = call := by
        rcases prepared with ⟨opened, noJob, -⟩ | lost
        · exact hear_idle (jobRemoved_idle signal (copied id) opened.result
            fun _ _ _ => by rw [noJob]; nofun)
        · exact hear_deaf lost.slotJobRemoved
      rw [same, Stands, phase]
      refine ⟨intact, prepared.append connected _, ?_⟩
      rw [asleep]
      nofun
  | waiting jobObj =>
      rw [phase] at stands
      dsimp only at stands
      rw [asleep] at stands
      exact stands.jobRemoved phase asleep intact signal copied connected removed
  | returned jobObj rc =>
      rw [phase] at stands
      have same : heard = call := hear_deaf stands.1.slotJobRemoved
      rw [same, Stands, phase]
      exact ⟨intact, stands.1, asleep, stands.2.2.append _⟩
  | failed rc =>
      rw [phase] at stands
      have same : heard = call := hear_deaf stands.1.slotJobRemoved
      rw [same, Stands, phase]
      exact ⟨intact, stands⟩

theorem busDisconnected_eq {arg : WaitForJobArg} (copied : Bool) (opened : Open arg) :
    busDisconnected copied arg = some ({ arg with
      rc := -Errno.econnreset
      result := strdup copied (ascii "disconnected")
      slotDisconnected := false
      slotJobRemoved := false
      closed := true }, true) := by
  unfold busDisconnected sbSdFreeWaitForJob
  rw [opened.result]
  simp [opened.closed]

/-- The disconnection ends every wait, and is remembered by the calls that wait for
their reply. -/
theorem Stands.disconnected (stands : Stands past bus id call) (asleep : call.wake = .asleep)
    (intact : call.aborted = false) (copied : CallId → Bool) :
    let heard := call.hear WaitForJobArg.slotDisconnected (busDisconnected (copied id))
    heard.aborted = false ∧ Stands (past ++ [.disconnected copied]) next id heard := by
  intro heard
  unfold Stands at stands
  cases phase : call.phase with
  | installing =>
      rw [phase] at stands
      have same : heard = call := hear_deaf stands.slotDisconnected
      rw [same, Stands, phase]
      exact ⟨intact, stands⟩
  | starting =>
      rw [phase] at stands
      rcases stands.1 with ⟨opened, -, -⟩ | lost
      · have same := hear_eq opened.slotDisconnected
          (busDisconnected_eq (copied id) opened)
        unfold heard
        rw [same, Stands, phase]
        refine ⟨intact, Or.inr ⟨⟨rfl, rfl⟩, rfl, rfl, copied, by simp⟩, ?_⟩
        simp [Phase.onArgEvent, asleep]
      · have same : heard = call := hear_deaf lost.slotDisconnected
        rw [same, Stands, phase]
        refine ⟨intact, Or.inr (lost.append _), ?_⟩
        rw [asleep]
        nofun
  | waiting jobObj =>
      rw [phase] at stands
      dsimp only at stands
      rw [asleep] at stands
      have same := hear_eq stands.slotDisconnected
        (busDisconnected_eq (copied id) stands.toOpen)
      unfold heard
      rw [same, Stands, phase]
      exact ⟨intact, fun _ => ⟨rfl, rfl⟩, stands.since.append (.disconnected copied)⟩
  | returned jobObj rc =>
      rw [phase] at stands
      have same : heard = call := hear_deaf stands.1.slotDisconnected
      rw [same, Stands, phase]
      exact ⟨intact, stands.1, asleep, stands.2.2.append _⟩
  | failed rc =>
      rw [phase] at stands
      have same : heard = call := hear_deaf stands.1.slotDisconnected
      rw [same, Stands, phase]
      exact ⟨intact, stands⟩

/-- An interrupt ends whatever wait the call is in. -/
theorem Stands.interrupt {targets : List CallId} (stands : Stands past bus id call)
    (asleep : call.wake = .asleep) (target : id ∈ targets)
    (connected : next.connected = bus.connected) :
    Stands (past ++ [.interrupt targets]) next id call.interrupt := by
  unfold Stands at stands
  cases phase : call.phase with
  | installing =>
      rw [phase] at stands
      unfold Call.interrupt
      rw [phase]
      exact stands
  | starting =>
      rw [phase] at stands
      unfold Call.interrupt
      rw [phase]
      exact ⟨stands.1.append connected _, nofun⟩
  | waiting jobObj =>
      rw [phase] at stands
      dsimp only at stands
      rw [asleep] at stands
      have since := stands.since.append (.interrupt targets)
      simp only [settles, if_pos target, Option.none_or] at since
      unfold Call.interrupt
      rw [phase]
      exact ⟨stands.toOpen.tidy, since⟩
  | returned jobObj rc =>
      rw [phase] at stands
      unfold Call.interrupt
      rw [phase, Stands, phase]
      exact ⟨stands.1, asleep, stands.2.2.append _⟩
  | failed rc =>
      rw [phase] at stands
      unfold Call.interrupt
      rw [phase, Stands, phase]
      exact stands

/-- What a step makes of each call, it makes of the bus. -/
theorem Orderly.each (orderly : Orderly past bus) (change : CallId → Call → Call)
    (calls : ∀ id : CallId, next.calls[id]? = bus.calls[id]?.map (change id))
    (lost : ∀ copied, .disconnected copied ∈ past ++ [label] → next.connected = false)
    (removed : ∀ jobObj result copied,
      .jobRemoved (some (jobObj, result)) copied ∈ past ++ [label] → jobObj ∈ next.removed)
    (changed : ∀ (id : CallId) call, bus.calls[id]? = some call → call.aborted = false →
      Stands past bus id call →
      (change id call).aborted = false ∧ Stands (past ++ [label]) next id (change id call)) :
    Orderly (past ++ [label]) next := by
  refine ⟨?_, lost, removed⟩
  intro id call found
  rw [calls id] at found
  obtain ⟨before, foundBefore, rfl⟩ := Option.map_eq_some_iff.mp found
  obtain ⟨intact, stands⟩ := orderly.calls id before foundBefore
  exact changed id before foundBefore intact stands

/-- A step that neither disconnects the bus nor removes a job. -/
def Label.plain : Label → Prop
  | .jobRemoved _ _ | .disconnected _ => False
  | _ => True

theorem Orderly.lost_plain (orderly : Orderly past bus) (plain : label.plain)
    (copied : CallId → Bool) (dispatched : .disconnected copied ∈ past ++ [label]) :
    bus.connected = false := by
  rcases List.mem_append.mp dispatched with before | last
  · exact orderly.lost copied before
  · rw [← List.mem_singleton.mp last] at plain
    cases plain

theorem Orderly.removed_plain (orderly : Orderly past bus) (plain : label.plain)
    (jobObj result : CString) (copied : CallId → Bool)
    (dispatched : .jobRemoved (some (jobObj, result)) copied ∈ past ++ [label]) :
    jobObj ∈ bus.removed := by
  rcases List.mem_append.mp dispatched with before | last
  · exact orderly.removed jobObj result copied before
  · rw [← List.mem_singleton.mp last] at plain
    cases plain

/-- A step of one call. -/
theorem Orderly.modify {change : Call → Call} (orderly : Orderly past bus) (plain : label.plain)
    (ignored : ∀ other jobObj, settles other jobObj label = none)
    (changed : ∀ call, bus.calls[id]? = some call → call.aborted = false →
      Stands past bus id call → (change call).aborted = false ∧
        Stands (past ++ [label]) (bus.modify id change) id (change call)) :
    Orderly (past ++ [label]) (bus.modify id change) := by
  refine orderly.each (fun other call => if id = other then change call else call)
    ?_ (orderly.lost_plain plain) (orderly.removed_plain plain) ?_
  · intro other
    simp only [Bus.modify, List.getElem?_modify]
    rfl
  · intro other call found intact stands
    by_cases same : id = other
    · subst same
      rw [if_pos rfl]
      exact changed call found intact stands
    · rw [if_neg same]
      exact ⟨intact, stands.frame (ignored other) rfl rfl⟩

theorem asleep_of_quiet (quiet : bus.quiet = true) (found : bus.calls[id]? = some call) :
    call.wake = .asleep := by
  have each := List.all_eq_true.mp quiet call (List.mem_of_getElem? found)
  simp only [Bool.and_eq_true, beq_iff_eq] at each
  exact each.1

theorem phase_of_phaseIs {phase : Phase} (is : bus.phaseIs id phase = true)
    (found : bus.calls[id]? = some call) : call.phase = phase := by
  unfold Bus.phaseIs at is
  rw [found] at is
  exact eq_of_beq is

theorem run_aborted (answers : Answers) : (call.run answers).aborted = call.aborted := by
  unfold Call.run
  split
  · unfold Call.afterInstalling
    dsimp only
    repeat' split
    all_goals rfl
  · unfold Call.afterStarting Call.beginWait Call.endWait
    repeat' split
    all_goals rfl
  · unfold Call.endWait
    split <;> rfl
  · rfl
  · rfl

theorem sending_connected {rc : Int} (sent : 0 ≤ bus.sending rc) : bus.connected = true := by
  unfold Bus.sending at sent
  split at sent
  · assumption
  · simp [Errno.enotconn] at sent

theorem Orderly.enter (orderly : Orderly past bus) {matchSignal : Int}
    (taken : bus.step (.enter matchSignal) = some next) :
    Orderly (past ++ [.enter matchSignal]) next := by
  simp only [Bus.step, Option.some.injEq] at taken
  subst taken
  refine ⟨?_, orderly.lost_plain trivial, orderly.removed_plain trivial⟩
  intro id call found
  simp only [List.getElem?_append] at found
  split at found
  · obtain ⟨intact, stands⟩ := orderly.calls id call found
    exact ⟨intact, stands.frame (fun _ => rfl) rfl rfl⟩
  · obtain rfl := List.mem_singleton.mp (List.mem_of_getElem? found)
    unfold sbSdInitWaitForJobBegin
    dsimp only
    split
    · exact ⟨rfl, ⟨rfl, rfl⟩, rfl⟩
    · exact ⟨rfl, rfl, rfl, rfl, rfl⟩

theorem Orderly.run (orderly : Orderly past bus) {answers : Answers}
    (taken : bus.step (.run id answers) = some next) :
    Orderly (past ++ [.run id answers]) next := by
  simp only [Bus.step, Option.ite_none_right_eq_some, Option.some.injEq] at taken
  obtain ⟨woken, rfl⟩ := taken
  refine orderly.modify trivial (fun _ _ => rfl) ?_
  intro call found intact stands
  rw [found] at woken
  refine ⟨(run_aborted _).trans intact, stands.run (by simpa using woken) _ ?_ (fun _ => rfl)
    rfl rfl⟩
  exact sending_connected

theorem Orderly.matchInstalled (orderly : Orderly past bus) {error : Option Nat}
    (taken : bus.step (.matchInstalled id error) = some next) :
    Orderly (past ++ [.matchInstalled id error]) next := by
  simp only [Bus.step, Option.ite_none_right_eq_some, Option.some.injEq] at taken
  obtain ⟨⟨-, installing⟩, rfl⟩ := taken
  refine orderly.modify trivial (fun _ _ => rfl) ?_
  intro call found intact stands
  have phase := phase_of_phaseIs installing found
  rw [Stands, phase] at stands
  refine ⟨intact, ?_⟩
  unfold Call.callback signalMatchInstalled
  rw [Stands, phase]
  exact ⟨stands.jobObj, stands.result, stands.slotJobRemoved, stands.slotDisconnected⟩

theorem Orderly.reply (orderly : Orderly past bus) {answer : Except Int CString}
    (taken : bus.step (.reply id answer) = some next) :
    Orderly (past ++ [.reply id answer]) next := by
  simp only [Bus.step, Option.ite_none_right_eq_some, Option.some.injEq] at taken
  obtain ⟨⟨-, starting, first⟩, rfl⟩ := taken
  refine orderly.modify trivial (fun _ _ => rfl) ?_
  intro call found intact stands
  have phase := phase_of_phaseIs starting found
  rw [Stands, phase] at stands
  refine ⟨intact, ?_⟩
  unfold Call.replied
  rw [Stands, phase]
  refine ⟨stands.1.append rfl _, ?_⟩
  rintro - jobObj rfl
  have kept : jobObj ∉ bus.removed := by simpa [Bus.repliesFirst] using first
  exact ⟨kept, past, [], rfl, rfl⟩

theorem Orderly.jobRemoved (orderly : Orderly past bus) {signal : Option (CString × CString)}
    {copied : CallId → Bool} (taken : bus.step (.jobRemoved signal copied) = some next) :
    Orderly (past ++ [.jobRemoved signal copied]) next := by
  simp only [Bus.step, Option.ite_none_right_eq_some, Option.some.injEq] at taken
  obtain ⟨quiet, rfl⟩ := taken
  refine orderly.each _ (fun _ => List.getElem?_mapIdx) ?_ ?_ ?_
  · intro lost dispatched
    rcases List.mem_append.mp dispatched with before | last
    · exact orderly.lost lost before
    · cases List.mem_singleton.mp last
  · intro jobObj result given dispatched
    rcases List.mem_append.mp dispatched with before | last
    · exact List.mem_append_left _ (orderly.removed jobObj result given before)
    · cases List.mem_singleton.mp last
      exact List.mem_append_right _ (by simp)
  · intro id call found intact stands
    exact stands.jobRemoved (asleep_of_quiet quiet found) intact signal copied rfl rfl

theorem Orderly.disconnected (orderly : Orderly past bus) {copied : CallId → Bool}
    (taken : bus.step (.disconnected copied) = some next) :
    Orderly (past ++ [.disconnected copied]) next := by
  simp only [Bus.step, Option.ite_none_right_eq_some, Option.some.injEq] at taken
  obtain ⟨quiet, rfl⟩ := taken
  refine orderly.each _ (fun _ => List.getElem?_mapIdx) (fun _ _ => rfl) ?_ ?_
  · intro jobObj result given dispatched
    rcases List.mem_append.mp dispatched with before | last
    · exact orderly.removed jobObj result given before
    · cases List.mem_singleton.mp last
  · intro id call found intact stands
    exact stands.disconnected (asleep_of_quiet quiet found) intact copied

theorem Orderly.interrupt (orderly : Orderly past bus) {targets : List CallId}
    (taken : bus.step (.interrupt targets) = some next) :
    Orderly (past ++ [.interrupt targets]) next := by
  simp only [Bus.step, Option.ite_none_right_eq_some, Option.some.injEq] at taken
  obtain ⟨quiet, rfl⟩ := taken
  refine orderly.each _ (fun _ => List.getElem?_mapIdx) (orderly.lost_plain trivial)
    (orderly.removed_plain trivial) ?_
  intro id call found intact stands
  by_cases target : id ∈ targets
  · rw [if_pos target]
    refine ⟨?_, stands.interrupt (asleep_of_quiet quiet found) target rfl⟩
    unfold Call.interrupt
    split <;> exact intact
  · rw [if_neg target]
    exact ⟨intact, stands.frame (fun _ => if_neg target) rfl rfl⟩

/-- One step keeps the bus orderly. -/
theorem step_orderly (past : List Label) (bus : Bus) (label : Label) (next : Bus)
    (orderly : Orderly past bus) (taken : bus.step label = some next) :
    Orderly (past ++ [label]) next := by
  cases label with
  | enter matchSignal => exact orderly.enter taken
  | run id answers => exact orderly.run taken
  | matchInstalled id error => exact orderly.matchInstalled taken
  | reply id answer => exact orderly.reply taken
  | jobRemoved signal copied => exact orderly.jobRemoved taken
  | disconnected copied => exact orderly.disconnected taken
  | interrupt targets => exact orderly.interrupt taken

end Steps

theorem start_orderly : Orderly [] .start := by
  refine ⟨?_, ?_, ?_⟩ <;> simp [Bus.start]

/-- A call that waits for its job has been woken up once the job's removal or the
disconnection has been dispatched. -/
theorem Orderly.woken {past : List Label} {bus : Bus} {id : CallId} {call : Call}
    {jobObj : CString} (orderly : Orderly past bus) (found : bus.calls[id]? = some call)
    (waits : call.phase = .waiting jobObj)
    (ended : (∃ copied, .disconnected copied ∈ past) ∨
      ∃ result copied, .jobRemoved (some (jobObj, result)) copied ∈ past) :
    call.wake ≠ .asleep := by
  intro asleep
  have stands := (orderly.calls id call found).2
  rw [Stands, waits] at stands
  dsimp only at stands
  rw [asleep] at stands
  rcases ended with ⟨copied, dispatched⟩ | ⟨result, copied, dispatched⟩
  · cases (orderly.lost copied dispatched).symm.trans stands.connected
  · exact stands.kept (orderly.removed jobObj result copied dispatched)

/-- The wait of a call that has been woken up ends. -/
theorem run_returns {bus : Bus} {id : CallId} {call : Call} {jobObj : CString}
    (found : bus.calls[id]? = some call) (waits : call.phase = .waiting jobObj)
    (woken : call.wake ≠ .asleep) (answers : Answers) :
    ∃ next ∈ bus.step (.run id answers), ∃ later rc,
      next.calls[id]? = some later ∧ later.phase = .returned jobObj rc := by
  have possible : bus.calls[id]?.any (fun call => call.wake != .asleep) = true := by
    rw [found]
    simpa using woken
  refine ⟨_, if_pos possible, ?_⟩
  simp only [Bus.modify, List.getElem?_modify, found, if_true, Option.map_eq_map,
    Option.map_some, Option.some.injEq, Call.run, waits, Call.endWait]
  split <;> exact ⟨_, _, rfl, rfl⟩

/-- In every run, with any number of calls of `start_transient_scope` and any order of
messages in which the reply of each `StartTransientUnit` comes before the removal of its
job, no assertion of a callback fails. A call of `sb_sd_wait_for_job` is woken up and
returns once the removal of its own job or the disconnection has been dispatched. What it
returns is the code of the first message that concerned it, or of the disconnection if
that came before it knew its job. -/
theorem job_wait_answered (labels : List Label) (bus : Bus)
    (reached : Run.exec Bus.step .start labels = some bus) (id : CallId) (call : Call)
    (found : bus.calls[id]? = some call) :
    call.aborted = false ∧
    (∀ jobObj, call.phase = .waiting jobObj →
      (((∃ copied, .disconnected copied ∈ labels) ∨
        ∃ result copied, .jobRemoved (some (jobObj, result)) copied ∈ labels) →
          call.wake ≠ .asleep) ∧
      (call.wake ≠ .asleep → ∀ answers, ∃ next ∈ bus.step (.run id answers), ∃ later rc,
        next.calls[id]? = some later ∧ later.phase = .returned jobObj rc)) ∧
    (∀ jobObj rc, call.phase = .returned jobObj rc → Ends labels id jobObj rc) := by
  have orderly : Orderly labels bus := Run.exec_history Orderly step_orderly start_orderly reached
  obtain ⟨intact, stands⟩ := orderly.calls id call found
  refine ⟨intact, ?_, ?_⟩
  · intro jobObj waits
    exact ⟨orderly.woken found waits, run_returns found waits⟩
  · intro jobObj rc returned
    rw [Stands, returned] at stands
    exact stands.2.2

/-- Two calls wait for their jobs; the job of the second one fails first. -/
def twoJobs : List Label :=
  [.enter 0, .enter 0, .matchInstalled 1 none, .run 1 ⟨0, 0, 0, 0⟩, .matchInstalled 0 none,
    .run 0 ⟨0, 0, 0, 0⟩, .reply 0 (.ok (ascii "/job/1")), .run 0 ⟨0, 0, 0, 0⟩,
    .reply 1 (.ok (ascii "/job/2")), .run 1 ⟨0, 0, 0, 0⟩,
    .jobRemoved (some (ascii "/job/2", ascii "timeout")) (fun _ => true), .run 1 ⟨0, 0, 0, 0⟩,
    .jobRemoved (some (ascii "/job/1", ascii "done")) (fun _ => true), .run 0 ⟨0, 0, 0, 0⟩]

theorem job_wait_answered_twice :
    ∃ bus ∈ Run.exec Bus.step .start twoJobs, ∃ first ∈ bus.calls[0]?, ∃ second ∈ bus.calls[1]?,
      first.phase = .returned (ascii "/job/1") 0 ∧ Ends twoJobs 0 (ascii "/job/1") 0 ∧
        second.phase = .returned (ascii "/job/2") (-Errno.etimedout) ∧
        Ends twoJobs 1 (ascii "/job/2") (-Errno.etimedout) := by
  have present : (Run.exec Bus.step .start twoJobs).isSome := by decide +kernel
  have ended : ∀ bus ∈ Run.exec Bus.step .start twoJobs,
      (∃ call ∈ bus.calls[0]?, call.phase = .returned (ascii "/job/1") 0) ∧
        ∃ call ∈ bus.calls[1]?, call.phase = .returned (ascii "/job/2") (-Errno.etimedout) := by
    decide +kernel
  have reached := (Option.some_get present).symm
  obtain ⟨⟨first, foundFirst, returnedFirst⟩, second, foundSecond, returnedSecond⟩ :=
    ended _ (Option.get_mem present)
  exact ⟨_, Option.get_mem present, first, foundFirst, second, foundSecond, returnedFirst,
    (job_wait_answered _ _ reached 0 first foundFirst).2.2 _ _ returnedFirst, returnedSecond,
    (job_wait_answered _ _ reached 1 second foundSecond).2.2 _ _ returnedSecond⟩

end TrafficLimitd.Job
