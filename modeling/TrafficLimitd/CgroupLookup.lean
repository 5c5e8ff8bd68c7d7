import TrafficLimitd.HandlerDuties
import TrafficLimitd.HandlerScope

set_option autoImplicit false

/- src/cgroup_util.c: `cg_path_get_cgroupid`, and the lookup of a path below the
mount point of the cgroup2 file system that it asks of the kernel. The id that it
finds for the scope is the key of the limit. -/
namespace TrafficLimitd.Handler

open Coroutine
open Limiter (CgroupId)

/-- The directories of the cgroup2 file system at one moment: the cgroup at each
list of names below the mount point. -/
structure Hierarchy where
  idAt : List CString → Option CgroupId
  root : CgroupId
  atRoot : idAt [] = some root
  distinct : ∀ names others id, idAt names = some id → idAt others = some id → names = others

/-- Where a lookup has got: to a cgroup, nowhere, or above the mount point. -/
inductive Place
  | inside (names : List CString)
  | missing
  | outside
deriving DecidableEq

/-- A component of a path that names a cgroup below the one before it. -/
def isName (component : CString) : Bool := component ≠ [] ∧ component ≠ ascii "."

/-- The names in a path; byte 47 is the slash. -/
def names (path : CString) : List CString := (path.splitOn 47).filter isName

def formattedPath (path : CString) : CString := ascii "./" ++ path

theorem splitOn_formattedPath (path : CString) :
    (formattedPath path).splitOn 47 = ascii "." :: path.splitOn 47 := by
  have dotSlash : ascii "./" = [46, 47] := by decide +kernel
  have dot : ascii "." = [46] := by decide +kernel
  rw [formattedPath, dotSlash, dot, List.cons_append, List.cons_append, List.nil_append,
    List.splitOn, List.splitOnP_cons_eq_if_modifyHead, if_neg (by decide),
    List.splitOnP_cons_eq_if_modifyHead, if_pos (by decide)]
  rfl

namespace Hierarchy

variable (hierarchy : Hierarchy)

/-- The next component of a path. What is above the mount point is not known. -/
def enter : Place → CString → Place
  | .inside above, component =>
      if isName component = false then .inside above
      else if component = ascii ".." then
        if above = [] then .outside else .inside above.dropLast
      else if (hierarchy.idAt (above ++ [component])).isSome then .inside (above ++ [component])
      else .missing
  | place, _ => place

def walk (path : CString) : Place := (path.splitOn 47).foldl hierarchy.enter (.inside [])

/-- The answers of `cg_path_get_cgroupid`: it may fail for any reason, and the id
that it returns is in the handle of what `formatted_path` leads to. -/
def answers (path : CString) : Except Int CgroupId → Bool
  | .error _ => true
  | .ok id =>
      match hierarchy.walk (formattedPath path) with
      | .inside found => hierarchy.idAt found == some id
      | .missing => false
      | .outside => true

def permits : (effect : Effect) → Response effect → Bool
  | .cgPathGetCgroupid path, answer => hierarchy.answers path answer
  | _, _ => true

theorem foldl_missing (components : List CString) :
    components.foldl hierarchy.enter .missing = .missing := by
  induction components with
  | nil => rfl
  | cons component rest ih => exact ih

theorem enter_skip (above : List CString) {component : CString}
    (skipped : isName component = false) :
    hierarchy.enter (.inside above) component = .inside above := if_pos skipped

theorem enter_name (above : List CString) {component : CString} (named : isName component = true)
    (descends : component ≠ ascii "..") :
    hierarchy.enter (.inside above) component = .inside (above ++ [component]) ∨
      hierarchy.enter (.inside above) component = .missing := by
  have kept : ¬isName component = false := by
    rw [named]
    nofun
  simp only [enter, if_neg kept, if_neg descends]
  split
  · exact Or.inl rfl
  · exact Or.inr rfl

/-- A path that never goes up leads to the cgroup of its names, if there is one. -/
theorem foldl_enter {components : List CString} (downward : ascii ".." ∉ components)
    (above : List CString) :
    components.foldl hierarchy.enter (.inside above) = .inside (above ++ components.filter isName) ∨
      components.foldl hierarchy.enter (.inside above) = .missing := by
  induction components generalizing above with
  | nil =>
      rw [List.filter_nil, List.append_nil]
      exact Or.inl rfl
  | cons component rest ih =>
      obtain ⟨descends, downward⟩ := not_or.mp (downward ∘ List.mem_cons.mpr)
      rw [List.foldl_cons]
      cases named : isName component with
      | false =>
          rw [hierarchy.enter_skip above named, List.filter_cons_of_neg (by rw [named]; nofun)]
          exact ih downward above
      | true =>
          rw [List.filter_cons_of_pos named]
          rcases hierarchy.enter_name above named (Ne.symm descends) with entered | missing
          · rw [entered]
            have moved := ih downward (above ++ [component])
            rwa [List.append_assoc, List.singleton_append] at moved
          · rw [missing]
            exact Or.inr (hierarchy.foldl_missing rest)

theorem walk_formattedPath {path : CString} (downward : ascii ".." ∉ path.splitOn 47) :
    hierarchy.walk (formattedPath path) = .inside (names path) ∨
      hierarchy.walk (formattedPath path) = .missing := by
  rw [walk, splitOn_formattedPath, List.foldl_cons, hierarchy.enter_skip [] (by decide +kernel)]
  exact hierarchy.foldl_enter downward []

/-- The id that `cg_path_get_cgroupid` returns is that of the cgroup which the
path names. -/
theorem idAt_of_answers {path : CString} {id : CgroupId} (downward : ascii ".." ∉ path.splitOn 47)
    (answered : hierarchy.answers path (.ok id) = true) :
    hierarchy.idAt (names path) = some id := by
  unfold answers at answered
  rcases hierarchy.walk_formattedPath downward with found | missing
  · rw [found] at answered
    exact eq_of_beq answered
  · rw [missing] at answered
    cases answered

theorem ne_root_iff {path : CString} {id : CgroupId}
    (found : hierarchy.idAt (names path) = some id) : id ≠ hierarchy.root ↔ names path ≠ [] := by
  refine not_congr ⟨fun same => ?_, fun same => ?_⟩
  · exact hierarchy.distinct _ _ _ found (same ▸ hierarchy.atRoot)
  · rw [same, hierarchy.atRoot] at found
    exact (Option.some.inj found).symm

end Hierarchy

namespace Ledger

/-- A path that is known stays. -/
theorem cgroupPath_after {ledger : Ledger} (effect : Effect) (answer : Response effect)
    {path : CString} (placed : ledger.cgroupPath = some path) :
    (ledger.after effect answer).cgroupPath = some path := by
  cases effect with
  | busCall call =>
      cases call with
      | getUnit name => rcases answer with _ | (rc | rc | text) <;> exact placed
      | property unitObj interface member =>
          rcases answer with _ | (rc | rc | text)
          case value.body =>
            simp only [after, place]
            split
            · rw [placed, Option.some_or]
            · exact placed
          all_goals exact placed
      | _ => exact placed
  | cgPathGetCgroupid looked =>
      rcases answer with rc | id
      · exact placed
      · simp only [after, resolve]
        split <;> exact placed
  | rateLimitSet cgroup limit =>
      simp only [after, install]
      split <;> exact placed
  | streamIo direction buf usec =>
      cases direction with
      | read => rcases answer with _ | result <;> exact placed
      | write => exact placed
  | _ => exact placed

/-- An id becomes known by an answer about the known path. -/
theorem resolved_after (ledger : Ledger) (effect : Effect) (answer : Response effect)
    {id : CgroupId} (resolved : (ledger.after effect answer).cgroup = some id) :
    ledger.cgroup = some id ∨ ∃ path, effect = .cgPathGetCgroupid path ∧
      HEq answer (Except.ok id : Except Int CgroupId) ∧ ledger.cgroupPath = some path := by
  cases effect with
  | busCall call =>
      cases call with
      | getUnit name => rcases answer with _ | (rc | rc | text) <;> exact Or.inl resolved
      | property unitObj interface member =>
          rcases answer with _ | (rc | rc | text)
          case value.body =>
            simp only [after, place] at resolved
            split at resolved <;> exact Or.inl resolved
          all_goals exact Or.inl resolved
      | _ => exact Or.inl resolved
  | cgPathGetCgroupid looked =>
      rcases answer with rc | found
      · exact Or.inl resolved
      · simp only [after, resolve] at resolved
        split at resolved
        · rename_i placed
          cases known : ledger.cgroup with
          | some before =>
              rw [known, Option.some_or] at resolved
              exact Or.inl resolved
          | none =>
              rw [known, Option.none_or] at resolved
              exact Or.inr ⟨looked, rfl, heq_of_eq (congrArg Except.ok (Option.some.inj resolved)),
                placed⟩
        · exact Or.inl resolved
  | rateLimitSet cgroup limit =>
      simp only [after, install] at resolved
      split at resolved <;> exact Or.inl resolved
  | streamIo direction buf usec =>
      cases direction with
      | read => rcases answer with _ | result <;> exact Or.inl resolved
      | write => exact Or.inl resolved
  | _ => exact Or.inl resolved

/-- The id in the ledger is an answer about the path in the ledger. -/
theorem resolved_path {history : List (Event Effect Response)} {id : CgroupId}
    (resolved : (of history).cgroup = some id) :
    ∃ path, (of history).cgroupPath = some path ∧
      ⟨.cgPathGetCgroupid path, Except.ok id⟩ ∈ history := by
  induction history with
  | nil => cases resolved
  | cons event earlier ih =>
      obtain ⟨effect, answer⟩ := event
      rcases resolved_after (of earlier) effect answer resolved with
        before | ⟨path, rfl, rfl, placed⟩
      · obtain ⟨path, placed, answered⟩ := ih before
        exact ⟨path, cgroupPath_after effect answer placed, List.mem_cons_of_mem _ answered⟩
      · have kept :=
          cgroupPath_after (.cgPathGetCgroupid path) (.ok id : Except Int CgroupId) placed
        exact ⟨path, kept, List.mem_cons_self⟩

end Ledger

/-- The key of a limit is the answer to the lookup of the scope's `ControlGroup`: in every
hierarchy that gives this answer it is the cgroup which the string names, and it is below
the root exactly if the string has a name in it. -/
theorem limit_on_scope_cgroup (host : Host) (pid : Pid) (events : List (Event Effect Response))
    (final : Execution Effect Response Unit) (root cgroup : CgroupId) (limit : RateLimit)
    (ran : Run.exec Execution.step (.start (clientHandlerAsync host pid)) events = some final)
    (truthful : ∀ event ∈ final.history, ∃ hierarchy : Hierarchy,
      hierarchy.root = root ∧ hierarchy.permits event.effect event.answer = true)
    (pending : final.program.pending = some (.rateLimitSet cgroup limit)) :
    ∃ path, (Ledger.of final.history).cgroupPath = some path ∧
      ⟨.cgPathGetCgroupid path, Except.ok cgroup⟩ ∈ final.history ∧
      (ascii ".." ∉ path.splitOn 47 →
        (∀ hierarchy : Hierarchy,
          hierarchy.permits (.cgPathGetCgroupid path) (.ok cgroup : Except Int CgroupId) = true →
            hierarchy.idAt (names path) = some cgroup) ∧
        (cgroup ≠ root ↔ names path ≠ [])) := by
  have follows := Execution.follows_of_exec (Ledger.clientHandlerAsync_follows host pid) ran
  have known : (Ledger.of final.history).cgroup = some cgroup := (follows.may_pending pending).1
  obtain ⟨path, placed, answered⟩ := Ledger.resolved_path known
  refine ⟨path, placed, answered, fun downward => ⟨?_, ?_⟩⟩
  · intro hierarchy permits
    exact hierarchy.idAt_of_answers downward permits
  · obtain ⟨hierarchy, rfl, permits⟩ := truthful _ answered
    exact hierarchy.ne_root_iff (hierarchy.idAt_of_answers downward permits)

/-- The root has one child, and that has one. -/
def smallHierarchy : Hierarchy where
  idAt found :=
    if found = [] then some 1
    else if found = [[115]] then some 5
    else if found = [[115], [116]] then some 6
    else none
  root := 1
  atRoot := rfl
  distinct := by
    intro first second id one other
    split_ifs at one other <;> cases one <;> cases other <;> simp_all

/-- A run up to the first limit, with this `ControlGroup` of the scope. -/
def scopePlaced (path : CString) (cgroup : CgroupId) : List (Event Effect Response) :=
  admitted ++ originChecked 7 [1] [47, 115] 5 ++ scopePrepared 7 [1] [49] ++
    scopeStarted 7 [49] [103] ++ processWatched 7 ++ reported [103] "Unit" "Id" (ascii "s.scope") ++
    reported [103] "Scope" "ControlGroup" path ++ [⟨.cgPathGetCgroupid path, Except.ok cgroup⟩]

/-- The scope has no cgroup any more, so its `ControlGroup` is empty; the path `./`
leads to the root. -/
theorem limit_on_root :
    ∃ final ∈ Run.exec Execution.step (.start (clientHandlerAsync scopeHost 7)) (scopePlaced [] 1),
      (∀ event ∈ final.history, smallHierarchy.permits event.effect event.answer = true) ∧
      (Ledger.of final.history).cgroupPath = some [] ∧ smallHierarchy.root = 1 ∧
      final.program.pending = some (.rateLimitSet 1 ⟨0, 0⟩) := by
  decide +kernel

theorem limit_on_scope_cgroup_once :
    smallHierarchy.idAt (names [47, 115, 47, 116]) = some 6 ∧
      (6 : CgroupId) ≠ smallHierarchy.root := by
  have ends : ∃ final ∈ Run.exec Execution.step (.start (clientHandlerAsync scopeHost 7))
      (scopePlaced [47, 115, 47, 116] 6),
      (∀ event ∈ final.history, smallHierarchy.permits event.effect event.answer = true) ∧
      (Ledger.of final.history).cgroupPath = some [47, 115, 47, 116] ∧
      final.program.pending = some (.rateLimitSet 6 ⟨0, 0⟩) := by decide +kernel
  obtain ⟨final, ran, truthful, placed, pending⟩ := ends
  obtain ⟨path, known, answered, installed⟩ := limit_on_scope_cgroup scopeHost 7 _ final 1 6 ⟨0, 0⟩
    ran (fun event mem => ⟨smallHierarchy, rfl, truthful event mem⟩) pending
  rw [placed] at known
  cases known
  obtain ⟨found, below⟩ := installed (by decide +kernel)
  have named : names [47, 115, 47, 116] ≠ [] := by decide +kernel
  exact ⟨found smallHierarchy (truthful _ answered), below.mpr named⟩

end TrafficLimitd.Handler
