import TrafficLimitd.ClientProgram

set_option autoImplicit false

/- What the client reads of a response, whatever its bytes. -/
namespace TrafficLimitd.Client

open Protocol

/-- The client reads received bytes only, the precision of a log line is a number of
bytes after the header, and a header length below the header is invalid. -/
def ReadsInside (buf : List UInt8) : Prop :=
  ∃ outcome, decode buf = some outcome ∧
    (∀ precision text, outcome = .logged precision text →
      text.isSome = true ∧ 0 ≤ precision ∧ precision ≤ (buf.length - sizeofMsg : Nat)) ∧
    (msgLength buf < sizeofMsg → outcome = .invalid)

/-- The header length covers the header, in a response that is acted upon without a
further look at its length, and the text of a log line is shorter than 2 GiB. -/
def Honest (buf : List UInt8) : Prop :=
  sizeofMsg ≤ buf.length →
    msgType buf = MsgType.log.code.toNat ∨ msgType buf = MsgType.proceed.code.toNat →
      sizeofMsg ≤ msgLength buf ∧ (msgType buf = MsgType.log.code.toNat →
        min (msgLength buf) buf.length < 2 ^ 31 + sizeofMsg)

theorem wordAt_length {buf : List UInt8} (whole : sizeofMsg ≤ buf.length) :
    wordAt buf 0 = some (msgLength buf) := by
  have header : 0 + 4 ≤ buf.length := by
    unfold sizeofMsg at whole
    omega
  rw [wordAt, if_pos header]
  rfl

theorem wordAt_type {buf : List UInt8} (whole : sizeofMsg ≤ buf.length) :
    wordAt buf 4 = some (msgType buf) := by
  have header : 4 + 4 ≤ buf.length := whole
  rw [wordAt, if_pos header]
  rfl

/-- `decode`, with the words that are always there. -/
theorem decode_eq {buf : List UInt8} (whole : sizeofMsg ≤ buf.length) :
    decode buf =
      let len := min (msgLength buf) buf.length
      if msgType buf = MsgType.fail.code.toNat then
        if len < sizeofFailAttr + sizeofMsg then some .invalid
        else some (.failed (failReason (leWord ((buf.drop 8).take 4))))
      else if msgType buf = MsgType.log.code.toNat then
        some (.logged (logPrecision len) (printed (logPrecision len) (buf.drop sizeofMsg)))
      else if msgType buf = MsgType.proceed.code.toNat then some .proceed
      else some .invalid := by
  have shorter : (if msgLength buf < buf.length then msgLength buf else buf.length) =
      min (msgLength buf) buf.length := by
    split <;> omega
  unfold decode
  rw [if_neg (Nat.not_lt.mpr whole), wordAt_length whole, wordAt_type whole]
  simp only [Option.pure_def, Option.bind_eq_bind, Option.bind_some, shorter]
  split
  · split
    · rfl
    · rename_i attr
      have received : 8 + 4 ≤ buf.length := by
        unfold sizeofFailAttr sizeofMsg at attr
        omega
      rw [wordAt, if_pos received]
      rfl
  · rfl

theorem decode_short {buf : List UInt8} (short : buf.length < sizeofMsg) :
    decode buf = some .invalid := by
  unfold decode
  rw [if_pos short]
  rfl

/-- Every response has an outcome. -/
theorem decode_isSome (buf : List UInt8) : (decode buf).isSome = true := by
  by_cases short : buf.length < sizeofMsg
  · rw [decode_short short]
    rfl
  · rw [decode_eq (Nat.not_lt.mp short)]
    dsimp only
    repeat' split
    all_goals rfl

theorem logPrecision_of_fits {len : Nat} (header : sizeofMsg ≤ len)
    (fits : len < 2 ^ 31 + sizeofMsg) : logPrecision len = (len - sizeofMsg : Nat) := by
  unfold sizeofMsg at header fits
  unfold logPrecision sizeofMsg
  rw [BitVec.toInt_eq_toNat_cond, BitVec.toNat_setWidth, BitVec.toNat_sub, BitVec.toNat_ofNat,
    BitVec.toNat_ofNat]
  split <;> omega

theorem logPrecision_neg {len : Nat} (bound : len < 2 ^ 32)
    (outside : len < sizeofMsg ∨ 2 ^ 31 + sizeofMsg ≤ len) : logPrecision len < 0 := by
  unfold sizeofMsg at outside
  unfold logPrecision sizeofMsg
  rw [BitVec.toInt_eq_toNat_cond, BitVec.toNat_setWidth, BitVec.toNat_sub, BitVec.toNat_ofNat,
    BitVec.toNat_ofNat]
  split <;> omega

theorem msgLength_lt (buf : List UInt8) : msgLength buf < 2 ^ 32 := by
  have word := leWord_lt (buf.take 4)
  have four : (buf.take 4).length ≤ 4 := List.length_take_le 4 buf
  have scale : 256 ^ (buf.take 4).length ≤ 256 ^ 4 := Nat.pow_le_pow_right (by decide) four
  unfold msgLength
  omega

theorem printed_of_fits {precision : Int} {attr : List UInt8} (positive : 0 ≤ precision)
    (fits : precision.toNat ≤ attr.length) :
    printed precision attr = some ((attr.take precision.toNat).takeWhile (· ≠ 0)) := by
  unfold printed
  rw [if_neg (Int.not_lt.mpr positive), if_pos (.inr ⟨positive, fits⟩)]

section Inside

variable {buf : List UInt8}

/-- The text of a log line is inside if its length is that of a text. -/
theorem readsInside_log (whole : sizeofMsg ≤ buf.length)
    (log : msgType buf = MsgType.log.code.toNat) :
    ReadsInside buf ↔
      sizeofMsg ≤ msgLength buf ∧ min (msgLength buf) buf.length < 2 ^ 31 + sizeofMsg := by
  have bound := msgLength_lt buf
  unfold ReadsInside
  rw [decode_eq whole]
  dsimp only
  rw [log, if_neg (by decide), if_pos rfl]
  constructor
  · rintro ⟨outcome, same, inside, rejected⟩
    cases same
    obtain ⟨_, positive, _⟩ := inside _ _ rfl
    constructor
    · apply Nat.not_lt.mp
      intro low
      cases rejected low
    · apply Nat.not_le.mp
      intro long
      have negative := logPrecision_neg (by omega) (.inr long)
      omega
  · rintro ⟨header, fits⟩
    have precision := logPrecision_of_fits (by omega) fits
    refine ⟨_, rfl, ?_, fun low => absurd low (Nat.not_lt.mpr header)⟩
    intro _ _ same
    cases same
    rw [precision, printed_of_fits (Int.natCast_nonneg _)
      (by rw [Int.toNat_natCast, List.length_drop]; omega)]
    refine ⟨rfl, Int.natCast_nonneg _, ?_⟩
    omega

/-- The go-ahead is taken without a look at its length. -/
theorem readsInside_proceed (whole : sizeofMsg ≤ buf.length)
    (proceed : msgType buf = MsgType.proceed.code.toNat) :
    ReadsInside buf ↔ sizeofMsg ≤ msgLength buf := by
  unfold ReadsInside
  rw [decode_eq whole]
  dsimp only
  rw [proceed, if_neg (by decide), if_neg (by decide), if_pos rfl]
  constructor
  · rintro ⟨outcome, same, _, rejected⟩
    cases same
    apply Nat.not_lt.mp
    intro low
    cases rejected low
  · intro header
    exact ⟨_, rfl, nofun, fun low => absurd low (Nat.not_lt.mpr header)⟩

theorem readsInside_other (whole : sizeofMsg ≤ buf.length)
    (log : msgType buf ≠ MsgType.log.code.toNat)
    (proceed : msgType buf ≠ MsgType.proceed.code.toNat) : ReadsInside buf := by
  unfold ReadsInside
  rw [decode_eq whole]
  dsimp only
  rw [if_neg log, if_neg proceed]
  split
  · split
    · exact ⟨_, rfl, nofun, fun _ => rfl⟩
    · rename_i attr
      refine ⟨_, rfl, nofun, fun low => ?_⟩
      unfold sizeofFailAttr at attr
      omega
  · exact ⟨_, rfl, nofun, fun _ => rfl⟩

end Inside

/-- The decoder stays inside the response exactly if the response is honest about its
length. -/
theorem reads_inside_iff (buf : List UInt8) : ReadsInside buf ↔ Honest buf := by
  unfold Honest
  by_cases short : buf.length < sizeofMsg
  · refine ⟨fun _ whole => absurd short (Nat.not_lt.mpr whole), fun _ => ?_⟩
    exact ⟨.invalid, decode_short short, nofun, fun _ => rfl⟩
  have whole := Nat.not_lt.mp short
  by_cases log : msgType buf = MsgType.log.code.toNat
  · rw [readsInside_log whole log]
    constructor
    · rintro ⟨header, fits⟩ _ _
      exact ⟨header, fun _ => fits⟩
    · intro honest
      obtain ⟨header, fits⟩ := honest whole (.inl log)
      exact ⟨header, fits log⟩
  by_cases proceed : msgType buf = MsgType.proceed.code.toNat
  · rw [readsInside_proceed whole proceed]
    constructor
    · intro header _ _
      exact ⟨header, fun again => absurd again log⟩
    · intro honest
      exact (honest whole (.inr proceed)).1
  · refine ⟨fun _ _ either => absurd either (not_or.mpr ⟨log, proceed⟩), fun _ => ?_⟩
    exact readsInside_other whole log proceed

/-- A log line of two letters. -/
theorem reads_inside_iff_hi :
    let buf := header 10 .log ++ [104, 105]
    decode buf = some (.logged 2 (some [104, 105])) ∧ ReadsInside buf := by
  intro buf
  refine ⟨by decide, (reads_inside_iff buf).mpr ?_⟩
  intro _ _
  decide

/-- A log line whose header length is 0: the precision is negative, so the text is
printed up to a NUL that was not received. And a `RATE_LIMIT_PROCEED` of length 0 is
obeyed. -/
theorem short_header_length_trusted :
    decode (header 0 .log ++ [104, 105]) = some (.logged (-8) none) ∧
    ¬ ReadsInside (header 0 .log ++ [104, 105]) ∧
    decode (header 0 .proceed) = some .proceed ∧ ¬ ReadsInside (header 0 .proceed) := by
  have overrun : decode (header 0 .log ++ [104, 105]) = some (.logged (-8) none) := by decide
  have obeyed : decode (header 0 .proceed) = some .proceed := by decide
  refine ⟨overrun, ?_, obeyed, ?_⟩
  · rintro ⟨outcome, same, inside, _⟩
    rw [overrun] at same
    cases same
    exact absurd (inside _ _ rfl).1 nofun
  · rintro ⟨outcome, same, _, rejected⟩
    rw [obeyed] at same
    cases same
    exact absurd (rejected (by decide)) nofun

end TrafficLimitd.Client
