import TrafficLimitd.HandlerCalls

set_option autoImplicit false

/- What a task owes and owns: its place among the counted tasks, the limit that it
has put into the map, the cleanups that will give both back, and how far it has
come with its client. The rules say in which order the handler may do these
things; that it keeps to them is proved in `HandlerDuties`. -/
namespace TrafficLimitd.Handler

open Coroutine
open Limiter (CgroupId)

/-- The message is a `RATE_LIMIT_PROCEED`. -/
def isProceed (buf : List UInt8) : Bool :=
  decide (Protocol.msgType buf = Protocol.MsgType.proceed.code.toNat)

theorem isProceed_header (length : Nat) (kind : Protocol.MsgType) (attr : List UInt8)
    (other : kind ≠ .proceed) : isProceed (Protocol.header length kind ++ attr) = false := by
  rw [isProceed, Protocol.msgType_header]
  cases kind <;> first | rfl | exact absurd rfl other

def writesProceed : Effect → Bool
  | .streamIo .write buf _ => isProceed buf
  | _ => false

/-- What the calls of a task and their answers show. `scopeObj` is the first
answer to `GetUnit`, `cgroupPath` the `ControlGroup` of that unit and `cgroup` the
id of that path; `installed` is the last limit that was set with success, and
`registered` has the latest cleanup first. `killed` says that `Kill` was called for
the scope, also if systemd refused it or it could not be sent. -/
structure Ledger where
  counted : Bool
  registered : List Cleanup
  scopeObj : Option CString
  cgroupPath : Option CString
  cgroup : Option CgroupId
  installed : Option (CgroupId × RateLimit)
  request : Option RateLimit
  proceeded : Bool
  killed : Bool

namespace Ledger

def blank : Ledger :=
  { counted := false, registered := [], scopeObj := none, cgroupPath := none, cgroup := none,
    installed := none, request := none, proceeded := false, killed := false }

def find (ledger : Ledger) : Awaited BusReply → Ledger
  | .value (.body path) => { ledger with scopeObj := ledger.scopeObj.or (some path) }
  | _ => ledger

def place (ledger : Ledger) (unitObj member : CString) : Awaited BusReply → Ledger
  | .value (.body path) =>
      if ledger.scopeObj = some unitObj ∧ member = ascii "ControlGroup" then
        { ledger with cgroupPath := ledger.cgroupPath.or (some path) }
      else ledger
  | _ => ledger

def resolve (ledger : Ledger) (path : CString) : Except Int CgroupId → Ledger
  | .ok cgroup =>
      if ledger.cgroupPath = some path then { ledger with cgroup := ledger.cgroup.or (some cgroup) }
      else ledger
  | .error _ => ledger

def install (ledger : Ledger) (cgroup : CgroupId) (limit : RateLimit) (rc : Int) : Ledger :=
  if rc < 0 then ledger else { ledger with installed := some (cgroup, limit) }

def read (ledger : Ledger) : Awaited (Int × List UInt8) → Ledger
  | .value result => { ledger with request := some (Protocol.reqLimit result.2) }
  | .cancelled => ledger

def after (ledger : Ledger) : (effect : Effect) → Response effect → Ledger
  | .increaseNrTasks, taken => { ledger with counted := ledger.counted || taken }
  | .registerCleanup cleanup, _ => { ledger with registered := cleanup :: ledger.registered }
  | .busCall (.getUnit _), reply => ledger.find reply
  | .busCall (.property unitObj _ member), reply => ledger.place unitObj member reply
  | .cgPathGetCgroupid path, answer => ledger.resolve path answer
  | .rateLimitSet cgroup limit, rc => ledger.install cgroup limit rc
  | .streamIo .read _ _, answer => ledger.read answer
  | .streamIo .write buf _, _ => { ledger with proceeded := ledger.proceeded || isProceed buf }
  | .busCall (.kill path), _ =>
      { ledger with killed := ledger.killed || decide (ledger.scopeObj = some path) }
  | _, _ => ledger

/-- The calls that change what a task owes or owns. -/
def Accounting : Effect → Bool
  | .increaseNrTasks | .registerCleanup _ | .rateLimitSet _ _ => true
  | _ => false

/-- Two ledgers with the same debts and goods. -/
structure SameAccounts (ledger next : Ledger) : Prop where
  counted : next.counted = ledger.counted
  registered : next.registered = ledger.registered
  installed : next.installed = ledger.installed

theorem SameAccounts.refl (ledger : Ledger) : SameAccounts ledger ledger := ⟨rfl, rfl, rfl⟩

theorem same_find (ledger : Ledger) (reply : Awaited BusReply) :
    SameAccounts ledger (ledger.find reply) := by
  unfold find
  split <;> exact ⟨rfl, rfl, rfl⟩

theorem same_place (ledger : Ledger) (unitObj member : CString) (reply : Awaited BusReply) :
    SameAccounts ledger (ledger.place unitObj member reply) := by
  unfold place
  split
  · split <;> exact ⟨rfl, rfl, rfl⟩
  · exact SameAccounts.refl ledger

theorem same_resolve (ledger : Ledger) (path : CString) (answer : Except Int CgroupId) :
    SameAccounts ledger (ledger.resolve path answer) := by
  unfold resolve
  split
  · split <;> exact ⟨rfl, rfl, rfl⟩
  · exact SameAccounts.refl ledger

theorem same_read (ledger : Ledger) (answer : Awaited (Int × List UInt8)) :
    SameAccounts ledger (ledger.read answer) := by
  unfold read
  split <;> exact ⟨rfl, rfl, rfl⟩

theorem same_after (ledger : Ledger) (effect : Effect) (other : Accounting effect = false)
    (answer : Response effect) : SameAccounts ledger (ledger.after effect answer) := by
  cases effect with
  | increaseNrTasks => cases other
  | registerCleanup cleanup => cases other
  | rateLimitSet cgroup limit => cases other
  | busCall call =>
      cases call with
      | getUnit name => exact same_find ledger answer
      | property unitObj interface member => exact same_place ledger unitObj member answer
      | _ => exact ⟨rfl, rfl, rfl⟩
  | cgPathGetCgroupid path => exact same_resolve ledger path answer
  | streamIo direction buf usec =>
      cases direction with
      | read => exact same_read ledger answer
      | write => exact ⟨rfl, rfl, rfl⟩
  | _ => exact SameAccounts.refl ledger

/-- The limit of this cgroup is set, and will be cleared. -/
def Guards (ledger : Ledger) (cgroup : CgroupId) (limit : RateLimit) : Prop :=
  ledger.installed = some (cgroup, limit) ∧ .clearRateLimit cgroup ∈ ledger.registered

/-- The client's request is in the map under the cgroup of its scope. -/
def Confirms (ledger : Ledger) : Prop :=
  ∃ cgroup limit, ledger.cgroup = some cgroup ∧ ledger.request = some limit ∧
    ledger.Guards cgroup limit

def may (ledger : Ledger) : Effect → Prop
  | .increaseNrTasks => ledger.counted = false
  | .registerCleanup .decreaseNrTasks =>
      ledger.counted = true ∧ .decreaseNrTasks ∉ ledger.registered
  | .registerCleanup (.clearRateLimit cgroup) =>
      (∃ limit, ledger.installed = some (cgroup, limit)) ∧
        .decreaseNrTasks ∈ ledger.registered ∧
        ∀ other, .clearRateLimit other ∉ ledger.registered
  | .rateLimitSet cgroup _ =>
      ledger.cgroup = some cgroup ∧ .decreaseNrTasks ∈ ledger.registered ∧
        ledger.proceeded = false ∧
        (ledger.installed = none ∨ .clearRateLimit cgroup ∈ ledger.registered)
  | .streamIo .read _ _ => ledger.proceeded = false
  | .streamIo .write buf _ => isProceed buf = true → ledger.Confirms
  | _ => True

/-- The rules of the handler. -/
def rules : Discipline Effect Response Ledger where
  may := may
  after := after

def of (history : List (Event Effect Response)) : Ledger := rules.reached blank history

/-- Both cleanups are registered at most once, and the limit is cleared before
the task is no longer counted. -/
def Ordered : List Cleanup → Prop
  | [] => True
  | .clearRateLimit _ :: rest =>
      .decreaseNrTasks ∈ rest ∧ (∀ cgroup, .clearRateLimit cgroup ∉ rest) ∧ Ordered rest
  | .decreaseNrTasks :: rest =>
      .decreaseNrTasks ∉ rest ∧ (∀ cgroup, .clearRateLimit cgroup ∉ rest) ∧ Ordered rest
  | _ :: rest => Ordered rest

/-- What the rules guarantee of every ledger. -/
structure Sound (ledger : Ledger) : Prop where
  ordered : Ordered ledger.registered
  seated : .decreaseNrTasks ∈ ledger.registered → ledger.counted = true
  owned : ∀ cgroup, .clearRateLimit cgroup ∈ ledger.registered →
    ∃ limit, ledger.installed = some (cgroup, limit)
  placed : ∀ cgroup limit, ledger.installed = some (cgroup, limit) →
    .decreaseNrTasks ∈ ledger.registered ∧ ledger.cgroup = some cgroup
  confirmed : ledger.proceeded = true → ledger.Confirms

theorem blank_sound : Sound blank where
  ordered := trivial
  seated := nofun
  owned := nofun
  placed := nofun
  confirmed := nofun

/-- The invariant does not depend on the scope's path nor on the kill, and an id
that is known stays known. -/
theorem Sound.frame {ledger next : Ledger} (sound : Sound ledger)
    (counted : next.counted = ledger.counted) (registered : next.registered = ledger.registered)
    (installed : next.installed = ledger.installed) (request : next.request = ledger.request)
    (proceeded : next.proceeded = ledger.proceeded)
    (cgroup : ∀ id, ledger.cgroup = some id → next.cgroup = some id) : Sound next where
  ordered := registered ▸ sound.ordered
  seated := by
    rw [registered, counted]
    exact sound.seated
  owned := by
    rw [registered, installed]
    exact sound.owned
  placed := by
    rw [registered, installed]
    intro id limit same
    exact ⟨(sound.placed id limit same).1, cgroup id (sound.placed id limit same).2⟩
  confirmed := by
    rw [proceeded]
    intro went
    obtain ⟨id, limit, known, asked, guards⟩ := sound.confirmed went
    refine ⟨id, limit, cgroup id known, request.trans asked, ?_⟩
    rw [Guards, installed, registered]
    exact guards

theorem Sound.register {ledger : Ledger} (sound : Sound ledger) (cleanup : Cleanup)
    (may : ledger.may (.registerCleanup cleanup)) :
    Sound { ledger with registered := cleanup :: ledger.registered } where
  ordered := by
    cases cleanup with
    | clearRateLimit cgroup => exact ⟨may.2.1, may.2.2, sound.ordered⟩
    | decreaseNrTasks =>
        refine ⟨may.2, fun cgroup registered => may.2 ?_, sound.ordered⟩
        obtain ⟨limit, installed⟩ := sound.owned cgroup registered
        exact (sound.placed cgroup limit installed).1
    | _ => exact sound.ordered
  seated := by
    intro registered
    rcases List.mem_cons.mp registered with rfl | registered
    · exact may.1
    · exact sound.seated registered
  owned := by
    intro cgroup registered
    rcases List.mem_cons.mp registered with rfl | registered
    · exact may.1
    · exact sound.owned cgroup registered
  placed := fun cgroup limit installed =>
    ⟨List.mem_cons_of_mem _ (sound.placed cgroup limit installed).1,
      (sound.placed cgroup limit installed).2⟩
  confirmed := by
    intro went
    obtain ⟨id, limit, known, asked, installed, guarded⟩ := sound.confirmed went
    exact ⟨id, limit, known, asked, installed, List.mem_cons_of_mem _ guarded⟩

theorem Sound.install {ledger : Ledger} (sound : Sound ledger) (cgroup : CgroupId)
    (limit : RateLimit) (rc : Int) (may : ledger.may (.rateLimitSet cgroup limit)) :
    Sound (ledger.install cgroup limit rc) := by
  unfold Ledger.install
  split
  · exact sound
  obtain ⟨known, counted, before, first⟩ := may
  refine ⟨sound.ordered, sound.seated, ?_, ?_, ?_⟩
  · intro other registered
    obtain ⟨old, installed⟩ := sound.owned other registered
    have same : ledger.cgroup = some other := (sound.placed other old installed).2
    exact ⟨limit, by rw [Option.some.inj (known.symm.trans same)]⟩
  · intro other new installed
    cases installed
    exact ⟨counted, known⟩
  · intro went
    rw [show ledger.proceeded = true from went] at before
    cases before

theorem Sound.resolve {ledger : Ledger} (sound : Sound ledger) (path : CString)
    (answer : Except Int CgroupId) : Sound (ledger.resolve path answer) := by
  unfold Ledger.resolve
  split
  · split
    · exact sound.frame rfl rfl rfl rfl rfl fun id same => by rw [same, Option.some_or]
    · exact sound
  · exact sound

theorem Sound.read {ledger : Ledger} (sound : Sound ledger) (before : ledger.proceeded = false)
    (answer : Awaited (Int × List UInt8)) : Sound (ledger.read answer) := by
  cases answer with
  | cancelled => exact sound
  | value result =>
      refine ⟨sound.ordered, sound.seated, sound.owned, sound.placed, fun went => ?_⟩
      rw [show ledger.proceeded = true from went] at before
      cases before

theorem Sound.write {ledger : Ledger} (sound : Sound ledger) (buf : List UInt8)
    (confirms : isProceed buf = true → ledger.Confirms) :
    Sound { ledger with proceeded := ledger.proceeded || isProceed buf } := by
  refine ⟨sound.ordered, sound.seated, sound.owned, sound.placed, fun went => ?_⟩
  rcases Bool.or_eq_true_iff.mp went with went | proceeds
  · exact sound.confirmed went
  · exact confirms proceeds

theorem Sound.busCall {ledger : Ledger} (sound : Sound ledger) (call : BusCall)
    (reply : Awaited BusReply) : Sound (ledger.after (.busCall call) reply) := by
  have unchanged : ∀ next : Ledger, next.counted = ledger.counted →
      next.registered = ledger.registered → next.installed = ledger.installed →
      next.request = ledger.request → next.proceeded = ledger.proceeded →
      next.cgroup = ledger.cgroup → Sound next :=
    fun _ counted registered installed request proceeded cgroup =>
      sound.frame counted registered installed request proceeded fun _ same => cgroup.trans same
  cases call with
  | kill path => exact unchanged _ rfl rfl rfl rfl rfl rfl
  | getUnit name =>
      rcases reply with _ | (rc | rc | path)
      case value.body => exact unchanged _ rfl rfl rfl rfl rfl rfl
      all_goals exact sound
  | property unitObj interface member =>
      rcases reply with _ | (rc | rc | path)
      case value.body =>
        simp only [Ledger.after, Ledger.place]
        split
        · exact unchanged _ rfl rfl rfl rfl rfl rfl
        · exact sound
      all_goals exact sound
  | _ => exact sound

/-- What the rules allow keeps the invariant. -/
theorem Sound.after {ledger : Ledger} (sound : Sound ledger) (effect : Effect)
    (may : ledger.may effect) (answer : Response effect) : Sound (ledger.after effect answer) := by
  cases effect with
  | increaseNrTasks =>
      refine ⟨sound.ordered, fun registered => ?_, sound.owned, sound.placed, sound.confirmed⟩
      exact Bool.or_eq_true_iff.mpr (Or.inl (sound.seated registered))
  | registerCleanup cleanup => exact sound.register cleanup may
  | rateLimitSet cgroup limit => exact sound.install cgroup limit answer may
  | cgPathGetCgroupid path => exact sound.resolve path answer
  | streamIo direction buf usec =>
      cases direction with
      | read => exact sound.read may answer
      | write => exact sound.write buf may
  | busCall call => exact sound.busCall call answer
  | _ => exact sound

end Ledger

end TrafficLimitd.Handler
