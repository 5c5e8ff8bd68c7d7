import TrafficLimitd.CText
import TrafficLimitd.HandlerRequest
import TrafficLimitd.Messages

set_option autoImplicit false

/- The messages that the handler tries to send, in the order of its calls. Messages are
written in several places and the return codes of most writes are ignored; still there
is at most one that is not a log line, and nothing is written after it. -/
namespace TrafficLimitd.Handler

open Coroutine
open Protocol (FailReason MsgType msgType)

/-- The message is a `RATE_LIMIT_LOG`. -/
def isLogMsg (buf : List UInt8) : Bool := decide (msgType buf = MsgType.log.code.toNat)

theorem isLogMsg_bytes (message : Message) : isLogMsg message.bytes = message.isLog := by
  cases message with
  | log text =>
      have type : msgType (logMsg text) = MsgType.log.code.toNat := Protocol.msgType_header _ _ _
      exact decide_eq_true type
  | fail reason =>
      have type : msgType (failMsg reason) = MsgType.fail.code.toNat :=
        Protocol.msgType_header _ _ _
      rw [isLogMsg, Message.bytes, type]
      rfl
  | proceed => decide

/-- A read that shows a fault of the client: it timed out, or there is too little of a
request. -/
def blamesRead : Awaited (Int × List UInt8) → Bool
  | .cancelled => false
  | .value (rc, buf) => decide (rc = -Errno.etimedout ∨ 0 ≤ rc ∧ ¬ Accepted rc buf)

/-- An answer that shows a fault of the client; another one is that it is limited
already. -/
def blames : (effect : Effect) → Response effect → Bool
  | .rateLimitCheck _, (rc : Int) => decide (0 < rc)
  | .streamIo .read _ _, answer => blamesRead answer
  | _, _ => false

/-- The datagrams that a run has tried to write so far, whether one of them was not a log
line, and whether the client was found to be at fault. -/
structure Speech where
  attempts : List (List UInt8)
  spoken : Bool
  blamed : Bool
deriving DecidableEq

namespace Speech

def silent : Speech := ⟨[], false, false⟩

def attempt (speech : Speech) (buf : List UInt8) : Speech :=
  { speech with
    attempts := speech.attempts ++ [buf]
    spoken := speech.spoken || !isLogMsg buf }

def after (speech : Speech) : (effect : Effect) → Response effect → Speech
  | .streamIo .write buf _, _ => if buf = [] then speech else speech.attempt buf
  | effect, answer => { speech with blamed := speech.blamed || blames effect answer }

/-- What the client can read, and the one reason that it cannot only if it is at
fault. -/
def Allows (speech : Speech) : Message → Prop
  | .fail .yourError => speech.blamed = true
  | message => message.Readable

/-- Nothing is written after a message that is not a log line. -/
def may (speech : Speech) : Effect → Prop
  | .streamIo .write buf _ =>
      buf = [] ∨ speech.spoken = false ∧ ∃ message, buf = message.bytes ∧ speech.Allows message
  | _ => True

def rules : Discipline Effect Response Speech where
  may := may
  after := after

def of (history : List (Event Effect Response)) : Speech := rules.reached silent history

/-- The calls that write nothing. -/
def Mute : Effect → Prop
  | .streamIo .write buf _ => buf = []
  | _ => True

theorem mute_kept (speech : Speech) (effect : Effect) (mute : Mute effect) :
    rules.may speech effect ∧
      ∀ answer, (rules.after speech effect answer).spoken = speech.spoken := by
  cases effect with
  | streamIo direction buf usec =>
      cases direction with
      | read => exact ⟨trivial, fun _ => rfl⟩
      | write =>
          obtain rfl : buf = [] := mute
          exact ⟨.inl rfl, fun _ => rfl⟩
  | _ => exact ⟨trivial, fun _ => rfl⟩

theorem mute_follows {α : Type} {program : Prog α} (mute : Only Mute program) (speech : Speech) :
    rules.Follows speech program fun final _ => final.spoken = speech.spoken := by
  refine mute.follows (fun final : Speech => final.spoken = speech.spoken) ?_ rfl
  intro state effect same is
  have kept := mute_kept state effect is
  exact ⟨kept.1, fun answer => (kept.2 answer).trans same⟩

theorem mute_asking : Asking Mute := .of_questions fun effect question => by
  cases effect <;> first | exact trivial | exact question.elim

theorem mute_shutdown : Only Mute shutdownMsgStream := by
  refine Only.bind (only_ask trivial) fun rc => ?_
  split
  · exact trivial
  · refine Only.bind (Only.bind (only_ask rfl) fun _ => trivial) fun rc => ?_
    split
    · exact trivial
    · exact only_ask trivial

theorem writes_follows {speech : Speech} (unspoken : speech.spoken = false) (message : Message)
    (allows : speech.Allows message) (usec : Nat) :
    rules.Follows speech (msgStreamWrite message.bytes usec) fun final _ =>
      final = speech.attempt message.bytes :=
  ⟨.inr ⟨unspoken, message, rfl, allows⟩, fun _ => if_neg message.bytes_ne_nil⟩

theorem log_follows {speech : Speech} (unspoken : speech.spoken = false) {text : CString}
    (clean : Clean text) :
    rules.Follows speech (writeRateLimitLog text) fun final _ =>
      final.spoken = false ∧ final.blamed = speech.blamed := by
  have same : { speech with blamed := speech.blamed || false } = speech := by
    rw [Bool.or_false]
  refine ⟨trivial, fun (rc : Int) => ?_⟩
  change rules.Follows { speech with blamed := speech.blamed || false }
    (if rc < 0 then _ else msgStreamWrite (Message.log text).bytes maxIoUsec) _
  rw [same]
  split
  · exact ⟨unspoken, rfl⟩
  · refine (writes_follows unspoken (.log text) clean maxIoUsec).mono ?_
    rintro _ _ rfl
    refine ⟨?_, rfl⟩
    change (speech.spoken || !isLogMsg (Message.log text).bytes) = false
    rw [unspoken, isLogMsg_bytes]
    rfl

/-- The last message and the shutdown after it. -/
theorem tell_follows {speech : Speech} (unspoken : speech.spoken = false) (message : Message)
    (allows : speech.Allows message) :
    rules.Follows speech (do
      let _ ← writeRateLimitMsg message.bytes
      let _ ← shutdownMsgStream) fun _ _ => True := by
  refine (writes_follows unspoken message allows maxIoUsec).bind fun final _ _ => ?_
  exact (mute_follows mute_shutdown final).bind fun _ _ _ => trivial

end Speech

/-- `strerror` returns C strings, short enough for the length of a message. -/
structure Host.Prints (host : Host) : Prop where
  nul : ∀ code, 0 ∉ host.strerror code
  short : ∀ code, (host.strerror code).length + 24 < 2 ^ 31

section Texts

theorem clean_ldText (rate : UInt64) : 0 ∉ ldText rate ∧ (ldText rate).length ≤ 20 := by
  have bound := rate.toNat_lt
  apply CText.integer_clean _ 19 (by decide)
  split <;> omega

theorem clean_startText (limit : RateLimit) : Clean (startText limit) := by
  have bytes := clean_ldText limit.byteRate
  have packets := clean_ldText limit.packetRate
  have first : 0 ∉ ascii "Start task with ratelimit bps=" := by decide +kernel
  have second : 0 ∉ ascii ", pps=" := by decide +kernel
  have firstLength : (ascii "Start task with ratelimit bps=").length = 30 := by decide +kernel
  have secondLength : (ascii ", pps=").length = 6 := by decide +kernel
  constructor
  · simp only [startText, List.mem_append, not_or]
    exact ⟨⟨⟨first, bytes.1⟩, second⟩, packets.1⟩
  · simp only [startText, List.length_append, firstLength, secondLength, Protocol.sizeofMsg]
    omega

theorem clean_errorText {host : Host} (prints : host.Prints) (rc : Int) (clientError : Bool) :
    Clean (errorText host rc clientError) := by
  have label : 0 ∉ (if clientError then ascii "Client" else ascii "Internal") ∧
      (if clientError then ascii "Client" else ascii "Internal").length ≤ 8 := by
    cases clientError <;> decide +kernel
  have error : 0 ∉ ascii " Error: " ∧ (ascii " Error: ").length = 8 := by decide +kernel
  have short := prints.short (-rc)
  constructor
  · simp only [errorText, List.mem_append, not_or]
    exact ⟨⟨label.1, error.1⟩, prints.nul (-rc)⟩
  · simp only [errorText, List.length_append, Protocol.sizeofMsg]
    omega

end Texts

/-- `goto` without a fault of the client. -/
def Exit.Faultless : Exit → Prop
  | .errCloseStream _ clientError => clientError = false
  | .interrupt _ _ => True

theorem faultless_leave (scopeObj : Option CString) (rc : Int) :
    (leave scopeObj rc).Faultless := by
  unfold leave
  split
  · exact trivial
  · rfl

theorem fails_startScope (pid : Pid) : Fails Exit.Faultless (startScope pid) :=
  (fails_lift _ _).bind fun _ => (fails_orLeave (faultless_leave none) _).bind fun _ =>
    (fails_lift _ _).bind fun _ => (fails_lift _ _).bind fun _ => fails_pure _ _

theorem fails_watchProcess (pid : Pid) : Fails Exit.Faultless (watchProcess pid) := by
  refine (fails_lift _ _).bind fun rc => ?_
  split
  · exact Fails.bind (fails_throw rfl) fun _ => (fails_lift _ _).bind fun _ => fails_lift _ _
  · exact (fails_lift _ _).bind fun _ => fails_lift _ _

theorem fails_blockTraffic (scopeObj : CString) :
    Fails Exit.Faultless (blockTraffic scopeObj) := by
  refine (fails_orLeave (faultless_leave (some scopeObj)) _).bind fun cgroup => ?_
  refine (fails_lift _ _).bind fun rc => ?_
  split
  · exact Fails.bind (fails_throw rfl) fun _ => (fails_lift _ _).bind fun _ => fails_pure _ _
  · exact (fails_lift _ _).bind fun _ => fails_pure _ _

theorem fails_setLimit (cgroup : Limiter.CgroupId) (limit : RateLimit) :
    Fails Exit.Faultless (setLimit cgroup limit) := by
  refine (fails_lift _ _).bind fun _ => (fails_lift _ _).bind fun rc => ?_
  split
  · exact fails_throw rfl
  · exact fails_pure _ _

/-- A request that is refused as the client's fault shows that fault. -/
theorem blames_of_decoded {scopeObj : CString} {answer : Awaited (Int × List UInt8)} {rc : Int}
    (refused : decodeRequest scopeObj answer = .error (.errCloseStream rc true)) :
    blamesRead answer = true := by
  have faultless (scopeObj : Option CString) (code : Int) :
      leave scopeObj code ≠ .errCloseStream rc true := by
    intro same
    have clear := faultless_leave scopeObj code
    rw [same] at clear
    cases clear
  rcases answer with _ | ⟨count, buf⟩
  · exact absurd (Except.error.inj refused) (faultless _ _)
  · apply decide_eq_true
    by_cases late : count = -Errno.etimedout
    · exact .inl late
    by_cases failed : count < 0
    · simp only [decodeRequest, if_neg late, if_pos failed] at refused
      exact absurd (Except.error.inj refused) (faultless _ _)
    · have read := Int.not_lt.mp failed
      refine .inr ⟨read, fun accepted => ?_⟩
      have decoded := decodeRequest_value scopeObj buf read
      rw [if_pos accepted, refused] at decoded
      cases decoded

namespace Speech

/-- Where the handler leaves its main path: after the go-ahead only by an interrupt that
finds `stream` to be NULL, and with `client_error` only if the client is at fault. -/
def Left (speech : Speech) : Exit → Prop
  | .interrupt _ false => True
  | .interrupt _ true => speech.spoken = false
  | .errCloseStream _ clientError =>
      speech.spoken = false ∧ (clientError = true → speech.blamed = true)

theorem left_faultless {speech : Speech} (unspoken : speech.spoken = false) {exit : Exit}
    (faultless : exit.Faultless) : speech.Left exit := by
  rcases exit with ⟨rc, clientError⟩ | ⟨scopeObj, _ | _⟩
  · refine ⟨unspoken, fun fault => ?_⟩
    cases faultless.symm.trans fault
  · trivial
  · exact unspoken

def Unspoken (speech : Speech) : Prop := speech.spoken = false

theorem mute_triple {α : Type} {code : Body α} (mute : Only Mute code.run)
    (fails : Fails Exit.Faultless code) : rules.Triple Left Unspoken code fun _ => Unspoken := by
  intro speech unspoken
  apply ((mute_follows mute speech).and_ends fails).mono
  rintro final (exit | value) ⟨same, faultless⟩
  · exact left_faultless (same.trans unspoken) (faultless exit rfl)
  · exact same.trans unspoken

theorem checkOrigin_triple (pid : Pid) :
    rules.Triple Left Unspoken (checkOrigin pid) fun _ => Unspoken := by
  apply (mute_triple (only_orLeave none (mute_asking.sbSdGetUnitByPID pid))
    (fails_orLeave (faultless_leave none) _)).bind
  intro origUnit
  have registers : rules.Triple Left Unspoken (liftM (registerCleanup .free) : Body Unit) fun _ =>
      Unspoken := mute_triple (only_asks trivial) (fails_lift _ _)
  apply registers.bind
  intro _
  apply (mute_triple (only_orLeave none (mute_asking.getUnitCgroupId origUnit))
    (fails_orLeave (faultless_leave none) _)).bind
  intro cgroup speech unspoken
  refine follows_ask.mpr ⟨trivial, fun (rc : Int) => ?_⟩
  let judged : Speech := { speech with blamed := speech.blamed || decide (0 < rc) }
  have unjudged : judged.spoken = false := unspoken
  change rules.Follows judged _ _
  split
  · rename_i limited
    have clean : Clean (ascii "Recursive rate limit is not allowed") :=
      ⟨by decide +kernel, by decide +kernel⟩
    apply Discipline.follows_lift_bind.mpr
    apply (log_follows unjudged clean).mono
    rintro final _ ⟨silent, same⟩
    refine ⟨silent, fun _ => same.trans ?_⟩
    change (speech.blamed || decide (0 < rc)) = true
    rw [decide_eq_true limited, Bool.or_true]
  · exact unjudged

theorem readRequest_triple (scopeObj : CString) :
    rules.Triple Left Unspoken (readRequest scopeObj) fun _ => Unspoken := by
  intro speech unspoken
  refine ⟨trivial, fun answer => ?_⟩
  change Discipline.Onward _ _ { speech with blamed := speech.blamed || blamesRead answer }
    (decodeRequest scopeObj answer)
  cases decoded : decodeRequest scopeObj answer with
  | ok limit => exact unspoken
  | error exit =>
      rcases exit with ⟨rc, _ | _⟩ | ⟨scopeObj, _ | _⟩
      · exact ⟨unspoken, nofun⟩
      · refine ⟨unspoken, fun _ => ?_⟩
        rw [blames_of_decoded decoded, Bool.or_true]
      · trivial
      · exact unspoken

theorem proceed_follows {speech : Speech} (unspoken : speech.spoken = false) (limit : RateLimit) :
    rules.Follows speech (proceed limit) fun _ _ => True := by
  apply (log_follows unspoken (clean_startText limit)).bind
  intro final _ silent
  exact tell_follows silent.1 .proceed trivial

theorem awaitExit_triple (scopeObj : CString) :
    rules.Triple Left (fun _ => True) (awaitExit scopeObj) fun _ _ => True := by
  intro speech _
  refine follows_ask.mpr ⟨trivial, fun (answer : Awaited Unit) => ?_⟩
  cases answer <;> exact trivial

theorem killScope_follows (speech : Speech) (scopeObj : CString) :
    rules.Follows speech (killScope scopeObj) fun _ _ => True :=
  (mute_follows (only_killScope trivial) speech).mono fun _ _ _ => trivial

def stages : Stages Speech where
  early := Unspoken
  launched _ _ := True
  leaves := Left

theorem stages_passed (host : Host) (pid : Pid) : stages.Passed rules host pid where
  names := mute_triple (mute_asking.nameThisUnit host)
    (fails_nameThisUnit (faultless_leave none) host)
  checks := checkOrigin_triple pid
  starts := mute_triple (mute_asking.startScope pid (fun _ => trivial) (fun _ => trivial)
    (fun _ => trivial) trivial) (fails_startScope pid)
  watches _ := mute_triple (only_watchProcess pid trivial trivial trivial) (fails_watchProcess pid)
  blocks scopeObj := mute_triple (mute_asking.blockTraffic scopeObj (fun _ _ => trivial)
    fun _ => trivial) (fails_blockTraffic scopeObj)
  hears scopeObj _ := readRequest_triple scopeObj
  limits _ cgroup limit := mute_triple (only_setLimit cgroup limit trivial trivial)
    (fails_setLimit cgroup limit)
  proceeds _ _ limit := Discipline.triple_lift fun _ unspoken => proceed_follows unspoken limit
  awaits scopeObj := awaitExit_triple scopeObj
  kills scopeObj := Discipline.triple_lift fun speech _ => killScope_follows speech scopeObj

theorem atLabel_follows {host : Host} (prints : host.Prints) {speech : Speech} {exit : Exit}
    (left : speech.Left exit) :
    rules.Follows speech (atLabel host (.error exit)) fun _ _ => True := by
  have kills (speech : Speech) (scopeObj : Option CString) :
      rules.Follows speech (killKnown scopeObj) fun _ _ => True := by
    cases scopeObj with
    | none => trivial
    | some scopeObj => exact killScope_follows speech scopeObj
  cases exit with
  | errCloseStream rc clientError =>
      obtain ⟨unspoken, fault⟩ := left
      apply (log_follows unspoken (clean_errorText prints rc clientError)).bind
      rintro logged _ ⟨silent, same⟩
      cases clientError with
      | false => exact tell_follows silent (.fail .internal) nofun
      | true => exact tell_follows silent (.fail .yourError) (same.trans (fault rfl))
  | interrupt scopeObj stream =>
      refine ⟨trivial, fun _ => ⟨trivial, fun (reason : Option InterruptReason) => ?_⟩⟩
      have same (speech : Speech) : { speech with blamed := speech.blamed || false } = speech := by
        rw [Bool.or_false]
      change rules.Follows { { speech with blamed := speech.blamed || false } with
        blamed := { speech with blamed := speech.blamed || false }.blamed || false }
        (tellExit reason stream >>= fun _ => killKnown scopeObj) _
      rw [same, same]
      cases stream with
      | false =>
          rw [tellExit, if_neg (by simp)]
          exact kills speech scopeObj
      | true =>
          have tells : rules.Follows speech (tellExit reason true) fun _ _ => True := by
            unfold tellExit
            split
            · exact tell_follows left (.fail .internal) nofun
            · trivial
          exact tells.bind fun final _ _ => kills final scopeObj

/-- Whatever the answers are, the handler writes nothing after a message that is not a
log line, and blames its client only for a fault. -/
theorem clientHandlerAsync_follows {host : Host} (prints : host.Prints) (pid : Pid) :
    rules.Follows silent (clientHandlerAsync host pid) fun _ _ => True := by
  have unspoken : silent.Unspoken := rfl
  apply (stages_passed host pid).handler_follows
  · apply opens_of_neutral _ unspoken trivial (tell_follows unspoken (.fail .noResource) nofun)
    intro effect opening
    cases effect <;> first | exact ⟨trivial, fun _ => rfl⟩ | exact opening.elim
  · intro speech exit left
    exact atLabel_follows prints left
  · exact fun _ _ => trivial

/-- The attempts are messages in order, and those that the client cannot read blame it for
a fault that it has. -/
def Voiced (speech : Speech) : Prop :=
  ∃ messages : List Message, speech.attempts = messages.map Message.bytes ∧ Orderly messages ∧
    (speech.spoken = false → ∀ message ∈ messages, message.isLog = true) ∧
    ∀ message ∈ messages, speech.Allows message

theorem allows_mono {speech later : Speech} {message : Message}
    (blamed : speech.blamed = true → later.blamed = true) (allows : speech.Allows message) :
    later.Allows message := by
  cases message with
  | fail reason =>
      cases reason with
      | yourError => exact blamed allows
      | _ => exact allows
  | _ => exact allows

/-- One call keeps the attempts in order. -/
theorem voiced_after {speech : Speech} {effect : Effect} (voiced : speech.Voiced)
    (may : speech.may effect) (answer : Response effect) : (speech.after effect answer).Voiced := by
  obtain ⟨messages, same, orderly, unspoken, allowed⟩ := voiced
  have quiet (blame : Bool) : Voiced { speech with blamed := speech.blamed || blame } := by
    refine ⟨messages, same, orderly, unspoken, fun message member => ?_⟩
    refine allows_mono (fun blamed => ?_) (allowed message member)
    change (speech.blamed || blame) = true
    rw [blamed, Bool.true_or]
  cases effect with
  | streamIo direction buf usec =>
      cases direction with
      | read => exact quiet _
      | write =>
          change Voiced (if buf = [] then speech else speech.attempt buf)
          split
          · exact ⟨messages, same, orderly, unspoken, allowed⟩
          · rename_i nonempty
            obtain ⟨open_, message, rfl, allows⟩ := may.resolve_left nonempty
            refine ⟨messages ++ [message], ?_, orderly_snoc message (unspoken open_), ?_, ?_⟩
            · change speech.attempts ++ [message.bytes] = _
              rw [same, List.map_append]
              rfl
            · intro still earlier member
              change (speech.spoken || !isLogMsg message.bytes) = false at still
              rw [open_, isLogMsg_bytes] at still
              rcases List.mem_append.mp member with before | last
              · exact unspoken open_ earlier before
              · rw [List.mem_singleton.mp last]
                simpa using still
            · intro earlier member
              rcases List.mem_append.mp member with before | last
              · exact allows_mono id (allowed earlier before)
              · rw [List.mem_singleton.mp last]
                exact allows_mono id allows
  | _ => exact quiet _

/-- A call adds its own attempt or none. -/
theorem attempts_sublist (speech : Speech) (effect : Effect) (answer : Response effect) :
    speech.attempts.Sublist (speech.after effect answer).attempts := by
  cases effect with
  | streamIo direction buf usec =>
      cases direction with
      | read => exact List.Sublist.refl _
      | write =>
          change speech.attempts.Sublist (if buf = [] then speech else speech.attempt buf).attempts
          split
          · exact List.Sublist.refl _
          · exact List.sublist_append_left _ _
  | _ => exact List.Sublist.refl _

/-- A write adds the datagram that it puts on the wire. -/
theorem written_sublist {speech : Speech} {sent : List (List UInt8)}
    {direction : Stream.Direction} {buf : List UInt8} {usec : Nat}
    (kept : sent.Sublist speech.attempts) (nonempty : buf ≠ []) (writes : direction = .write)
    (answer : Response (.streamIo direction buf usec)) :
    (sent ++ [buf]).Sublist (speech.after (.streamIo direction buf usec) answer).attempts := by
  subst writes
  change (sent ++ [buf]).Sublist (if buf = [] then speech else speech.attempt buf).attempts
  rw [if_neg nonempty]
  exact kept.append (List.Sublist.refl _)

/-- The client is blamed for an answer in the history only. -/
theorem blamed_of {history : List (Event Effect Response)}
    (blameless : ∀ event ∈ history, blames event.effect event.answer = false) :
    (of history).blamed = false := by
  induction history with
  | nil => rfl
  | cons event earlier ih =>
      obtain ⟨last, before⟩ := List.forall_mem_cons.mp blameless
      have clear : ((of earlier).blamed || blames event.effect event.answer) = false := by
        rw [ih before, last]
        rfl
      obtain ⟨effect, answer⟩ := event
      change ((of earlier).after effect answer).blamed = false
      cases effect with
      | streamIo direction buf usec =>
          cases direction with
          | read => exact clear
          | write =>
              change (if buf = [] then of earlier else (of earlier).attempt buf).blamed = false
              split <;> exact ih before
      | _ => exact clear

theorem readable_of_allows {speech : Speech} {message : Message}
    (blameless : speech.blamed = false) (allows : speech.Allows message) : message.Readable := by
  cases message with
  | fail reason =>
      cases reason with
      | yourError => cases blameless.symm.trans allows
      | _ => exact allows
  | _ => exact allows

end Speech

end TrafficLimitd.Handler
