import TrafficLimitd.CScan
import TrafficLimitd.Protocol

set_option autoImplicit false

/- src/client.c up to the receive loop: the values of the options, the request that
is sent for them, and the alarm. -/
namespace TrafficLimitd.Client

open CScan Protocol

/-- `enum parse_suffix_result`. -/
inductive ParseSuffixResult
  | ok
  | invalid
  | invalidSuffix
deriving DecidableEq, Repr

/-- The switch of `parseRate`, in which each case falls through to the next. -/
def rateMultiplier (suffix : UInt8) : Option UInt64 :=
  if suffix = 'T'.toUInt8 ∨ suffix = 't'.toUInt8 then some (1 * 1000 * 1000 * 1000 * 1000)
  else if suffix = 'G'.toUInt8 ∨ suffix = 'g'.toUInt8 then some (1 * 1000 * 1000 * 1000)
  else if suffix = 'M'.toUInt8 ∨ suffix = 'm'.toUInt8 then some (1 * 1000 * 1000)
  else if suffix = 'K'.toUInt8 ∨ suffix = 'k'.toUInt8 then some (1 * 1000)
  else none

/-- The switch of `parseTime`. -/
def timeMultiplier (suffix : UInt8) : Option UInt64 :=
  if suffix = 'd'.toUInt8 ∨ suffix = 'D'.toUInt8 then some (1 * 24 * 60 * 60)
  else if suffix = 'h'.toUInt8 ∨ suffix = 'H'.toUInt8 then some (1 * 60 * 60)
  else if suffix = 'm'.toUInt8 ∨ suffix = 'M'.toUInt8 then some (1 * 60)
  else none

/-- The multiplier after the switch, which is skipped when `sscanf` read no
character. -/
def multiplierOf (table : UInt8 → Option UInt64) : Option UInt8 → Option UInt64
  | none => some 1
  | some suffix => table suffix

/-- `parseRate`, with `*out_rate` before and after. -/
def parseRate (string : List UInt8) (outRate : UInt64) : ParseSuffixResult × UInt64 :=
  match scanLuC string with
  | none => (.invalid, outRate)
  | some (rawRate, suffix) =>
      match multiplierOf rateMultiplier suffix with
      | none => (.invalidSuffix, outRate)
      | some multiplier => (.ok, rawRate * multiplier)

/-- `parseTime`. The number is read as an `unsigned long` into an `int64_t`, and the
product is that of two `uint64_t`. -/
def parseTime (string : List UInt8) (outTime : Int64) : ParseSuffixResult × Int64 :=
  match scanLuC string with
  | none => (.invalid, outTime)
  | some (bits, suffix) =>
      let rawTime := bits.toInt64
      if rawTime < 0 then (.invalid, outTime)
      else
        match multiplierOf timeMultiplier suffix with
        | none => (.invalidSuffix, outTime)
        | some multiplier => (.ok, (rawTime.toUInt64 * multiplier).toInt64)

/-- `options` of `main`. The control socket is only ever passed to `connect` and is
left out, and so is `debug_fork`. -/
structure Options where
  packetRate : UInt64
  byteRate : UInt64
  waitTime : Int64
deriving DecidableEq, Repr

def Options.initial : Options := ⟨0, 0, -1⟩

/-- What `getopt_long` returns, with `optarg`. -/
inductive Opt
  | packetRate (arg : List UInt8)
  | bitRate (arg : List UInt8)
  | wait (arg : List UInt8)
  | controlSocket (arg : List UInt8)
  | fork
  | help
  | unknown
deriving DecidableEq, Repr

/-- The switch in the option loop of `main`; an error is the exit status. -/
def parseOption (options : Options) : Opt → Except Nat Options
  | .packetRate arg =>
      match parseRate arg options.packetRate with
      | (.ok, rate) => .ok { options with packetRate := rate }
      | _ => .error 1
  | .bitRate arg =>
      match parseRate arg options.byteRate with
      | (.ok, rate) => .ok { options with byteRate := rate / 8 }
      | _ => .error 1
  | .wait arg =>
      match parseTime arg options.waitTime with
      | (.ok, time) => .ok { options with waitTime := time }
      | _ => .error 1
  | .controlSocket _ | .fork => .ok options
  | .help => .error 0
  | .unknown => .error 1

/-- The option loop. -/
def parseOptions (opts : List Opt) : Except Nat Options := opts.foldlM parseOption .initial

/-- `RATE_LIMIT_REQ_NOWAIT`. -/
def reqNowait : UInt64 := 1

/-- `req_attr->limit`. -/
def reqAttrLimit (options : Options) : RateLimit where
  byteRate := if options.byteRate = 0 then rateUnlimited else options.byteRate
  packetRate := if options.packetRate = 0 then rateUnlimited else options.packetRate

/-- `req_attr->flags`. -/
def reqAttrFlags (options : Options) : UInt64 :=
  0 ||| if options.waitTime < 0 then reqNowait else 0

/-- `send_buf`. -/
def sendBuf (options : Options) : List UInt8 :=
  header (sizeofMsg + sizeofReqAttr) .req ++
    (leBytes 8 (reqAttrLimit options).byteRate.toNat ++
      (leBytes 8 (reqAttrLimit options).packetRate.toNat ++
        leBytes 8 (reqAttrFlags options).toNat))

/-- The argument of `alarm`, if it is called: the `int64_t` becomes an `unsigned int`. -/
def alarmSeconds (options : Options) : Option UInt32 :=
  if options.waitTime > 0 then some options.waitTime.toUInt64.toUInt32 else none

def Opt.packetRateArg : Opt → Option (List UInt8)
  | .packetRate arg => some arg
  | _ => none

def Opt.bitRateArg : Opt → Option (List UInt8)
  | .bitRate arg => some arg
  | _ => none

def Opt.waitArg : Opt → Option (List UInt8)
  | .wait arg => some arg
  | _ => none

/-- The argument of an option on a command line; the last one counts. -/
def lastArg (select : Opt → Option (List UInt8)) (opts : List Opt) : Option (List UInt8) :=
  (opts.filterMap select).getLast?

theorem parseOptions_snoc (opts : List Opt) (opt : Opt) :
    parseOptions (opts ++ [opt]) = parseOptions opts >>= fun options => parseOption options opt := by
  simp [parseOptions, List.foldlM_append]

/-- The field that an option sets holds what its last argument means, or else its
initial value. -/
theorem parseOptions_field {α : Type} (select : Opt → Option (List UInt8)) (field : Options → α)
    (means : List UInt8 → α → Prop)
    (step : ∀ opt options next, parseOption options opt = .ok next →
      match select opt with
      | none => field next = field options
      | some arg => means arg (field next))
    (opts : List Opt) (options : Options) (parsed : parseOptions opts = .ok options) :
    (lastArg select opts = none → field options = field .initial) ∧
      ∀ arg, lastArg select opts = some arg → means arg (field options) := by
  induction opts using List.reverseRecOn generalizing options with
  | nil =>
      cases parsed
      exact ⟨fun _ => rfl, nofun⟩
  | append_singleton opts opt ih =>
      rw [parseOptions_snoc] at parsed
      cases before : parseOptions opts with
      | error status =>
          rw [before] at parsed
          exact absurd parsed nofun
      | ok earlier =>
          rw [before] at parsed
          change parseOption earlier opt = .ok options at parsed
          have effect := step opt earlier options parsed
          cases chosen : select opt with
          | none =>
              have last : lastArg select (opts ++ [opt]) = lastArg select opts := by
                simp [lastArg, chosen]
              rw [chosen] at effect
              rw [last, effect]
              exact ih earlier before
          | some arg =>
              have last : lastArg select (opts ++ [opt]) = some arg := by
                simp [lastArg, chosen]
              rw [chosen] at effect
              rw [last]
              refine ⟨nofun, ?_⟩
              intro other same
              cases same
              exact effect

/-- An accepted rate does not depend on what `*out_rate` held. -/
theorem parseRate_ok {string : List UInt8} {outRate rate : UInt64}
    (parsed : parseRate string outRate = (.ok, rate)) (other : UInt64) :
    parseRate string other = (.ok, rate) := by
  unfold parseRate at parsed ⊢
  cases read : scanLuC string with
  | none => simp [read] at parsed
  | some result =>
      obtain ⟨rawRate, suffix⟩ := result
      cases scale : multiplierOf rateMultiplier suffix with
      | none => simp [read, scale] at parsed
      | some multiplier => simpa [read, scale] using parsed

/-- The same of a time. -/
theorem parseTime_ok {string : List UInt8} {outTime time : Int64}
    (parsed : parseTime string outTime = (.ok, time)) (other : Int64) :
    parseTime string other = (.ok, time) := by
  unfold parseTime at parsed ⊢
  cases read : scanLuC string with
  | none => simp [read] at parsed
  | some result =>
      obtain ⟨bits, suffix⟩ := result
      simp only [read] at parsed ⊢
      by_cases negative : bits.toInt64 < 0
      · simp [negative] at parsed
      · simp only [negative, ↓reduceIte] at parsed ⊢
        cases scale : multiplierOf timeMultiplier suffix with
        | none => simp [scale] at parsed
        | some multiplier => simpa [scale] using parsed

/-- What an accepted option does. -/
theorem parseOption_cases {options next : Options} {opt : Opt}
    (result : parseOption options opt = .ok next) :
    (∃ arg rate, opt = .packetRate arg ∧ parseRate arg 0 = (.ok, rate) ∧
        next = { options with packetRate := rate }) ∨
      (∃ arg rate, opt = .bitRate arg ∧ parseRate arg 0 = (.ok, rate) ∧
        next = { options with byteRate := rate / 8 }) ∨
      (∃ arg time, opt = .wait arg ∧ parseTime arg 0 = (.ok, time) ∧
        next = { options with waitTime := time }) ∨
      opt.packetRateArg = none ∧ opt.bitRateArg = none ∧ opt.waitArg = none ∧ next = options := by
  cases opt with
  | packetRate arg =>
      simp only [parseOption] at result
      split at result
      · rename_i rate accepted
        exact .inl ⟨arg, rate, rfl, parseRate_ok accepted 0, (Except.ok.inj result).symm⟩
      · exact absurd result nofun
  | bitRate arg =>
      simp only [parseOption] at result
      split at result
      · rename_i rate accepted
        exact .inr (.inl ⟨arg, rate, rfl, parseRate_ok accepted 0, (Except.ok.inj result).symm⟩)
      · exact absurd result nofun
  | wait arg =>
      simp only [parseOption] at result
      split at result
      · rename_i time accepted
        exact .inr (.inr (.inl ⟨arg, time, rfl, parseTime_ok accepted 0,
          (Except.ok.inj result).symm⟩))
      · exact absurd result nofun
  | controlSocket arg => exact .inr (.inr (.inr ⟨rfl, rfl, rfl, (Except.ok.inj result).symm⟩))
  | fork => exact .inr (.inr (.inr ⟨rfl, rfl, rfl, (Except.ok.inj result).symm⟩))
  | help => exact absurd result nofun
  | unknown => exact absurd result nofun

theorem parseOptions_byteRate {opts : List Opt} {options : Options}
    (parsed : parseOptions opts = .ok options) :
    (lastArg Opt.bitRateArg opts = none → options.byteRate = 0) ∧
      ∀ arg, lastArg Opt.bitRateArg opts = some arg →
        ∃ rate, parseRate arg 0 = (.ok, rate) ∧ options.byteRate = rate / 8 := by
  refine parseOptions_field Opt.bitRateArg (·.byteRate)
    (fun arg field => ∃ rate, parseRate arg 0 = (.ok, rate) ∧ field = rate / 8) ?_ opts options
    parsed
  intro opt earlier next result
  rcases parseOption_cases result with ⟨arg, rate, rfl, _, rfl⟩ | ⟨arg, rate, rfl, accepted, rfl⟩ |
    ⟨arg, time, rfl, _, rfl⟩ | ⟨_, other, _, rfl⟩
  · rfl
  · exact ⟨rate, accepted, rfl⟩
  · rfl
  · simp [other]

theorem parseOptions_packetRate {opts : List Opt} {options : Options}
    (parsed : parseOptions opts = .ok options) :
    (lastArg Opt.packetRateArg opts = none → options.packetRate = 0) ∧
      ∀ arg, lastArg Opt.packetRateArg opts = some arg →
        parseRate arg 0 = (.ok, options.packetRate) := by
  refine parseOptions_field Opt.packetRateArg (·.packetRate)
    (fun arg field => parseRate arg 0 = (.ok, field)) ?_ opts options parsed
  intro opt earlier next result
  rcases parseOption_cases result with ⟨arg, rate, rfl, accepted, rfl⟩ | ⟨arg, rate, rfl, _, rfl⟩ |
    ⟨arg, time, rfl, _, rfl⟩ | ⟨other, _, _, rfl⟩
  · exact accepted
  · rfl
  · rfl
  · simp [other]

theorem parseOptions_waitTime {opts : List Opt} {options : Options}
    (parsed : parseOptions opts = .ok options) :
    (lastArg Opt.waitArg opts = none → options.waitTime = -1) ∧
      ∀ arg, lastArg Opt.waitArg opts = some arg →
        parseTime arg 0 = (.ok, options.waitTime) := by
  refine parseOptions_field Opt.waitArg (·.waitTime)
    (fun arg field => parseTime arg 0 = (.ok, field)) ?_ opts options parsed
  intro opt earlier next result
  rcases parseOption_cases result with ⟨arg, rate, rfl, _, rfl⟩ | ⟨arg, rate, rfl, _, rfl⟩ |
    ⟨arg, time, rfl, accepted, rfl⟩ | ⟨_, _, other, rfl⟩
  · rfl
  · rfl
  · exact accepted
  · simp [other]

end TrafficLimitd.Client
