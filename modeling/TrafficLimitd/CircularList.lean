import Mathlib.Data.List.Nodup
import Mathlib.Logic.Equiv.Basic

set_option autoImplicit false

/- Intrusive circular doubly linked lists. The link fields of all nodes together
are one value, and that every `prev` undoes the `next` before it is part of the
type. A node on no list is its own neighbour. -/
namespace CircularList

variable {ι : Type}

structure Links (ι : Type) where
  next : ι → ι
  prev : ι → ι
  prev_next : ∀ node, prev (next node) = node
  next_prev : ∀ node, next (prev node) = node

/-- Every node on its own. -/
def Links.unlinked (ι : Type) : Links ι := ⟨id, id, fun _ => rfl, fun _ => rfl⟩

theorem Links.next_inj (links : Links ι) {first second : ι}
    (same : links.next first = links.next second) : first = second := by
  rw [← links.prev_next first, same, links.prev_next]

/-- The node is on no list. -/
def Links.Alone (links : Links ι) (node : ι) : Prop := links.next node = node

theorem Links.Alone.ne_next {links : Links ι} {node other : ι} (alone : links.Alone node)
    (different : node ≠ other) : node ≠ links.next other := by
  intro same
  exact different (links.next_inj (alone.trans same))

/-- Following `next` from one node leads through the given nodes to another. -/
def Links.Path (links : Links ι) : ι → List ι → ι → Prop
  | source, [], target => links.next source = target
  | source, node :: rest, target => links.next source = node ∧ links.Path node rest target

/-- The list of a head node holds the given nodes in this order. -/
def Links.Reads (links : Links ι) (head : ι) (nodes : List ι) : Prop :=
  (head :: nodes).Nodup ∧ links.Path head nodes head

variable {links : Links ι} {head node source target first second : ι} {nodes others : List ι}

theorem Links.path_append :
    links.Path source (nodes ++ node :: others) target ↔
      links.Path source nodes node ∧ links.Path node others target := by
  induction nodes generalizing source with
  | nil => rfl
  | cons step rest ih => simp only [List.cons_append, Path, ih, and_assoc]

/-- A node that a path enters has its predecessor on the path. -/
theorem Links.Path.enters (path : links.Path source nodes target)
    (entered : links.next node ∈ nodes ∨ links.next node = target) : node ∈ source :: nodes := by
  induction nodes generalizing source with
  | nil =>
      have reached : links.next node = target := by simpa using entered
      have step : links.next source = target := path
      rw [links.next_inj (reached.trans step.symm)]
      exact List.mem_cons_self
  | cons step rest ih =>
      obtain ⟨stepped, path⟩ := path
      by_cases here : links.next node = step
      · rw [links.next_inj (here.trans stepped.symm)]
        exact List.mem_cons_self
      · refine List.mem_cons_of_mem _ (ih path ?_)
        simpa [here] using entered

theorem Links.Alone.not_mem_path (alone : links.Alone node) (path : links.Path source nodes target)
    (different : node ≠ source) : node ∉ nodes := by
  induction nodes generalizing source with
  | nil => exact List.not_mem_nil
  | cons step rest ih =>
      obtain ⟨stepped, path⟩ := path
      have other : node ≠ step := stepped ▸ alone.ne_next different
      simp only [List.mem_cons, not_or]
      exact ⟨other, ih path other⟩

theorem Links.Alone.not_mem (alone : links.Alone node) (reads : links.Reads head nodes)
    (different : node ≠ head) : node ∉ nodes :=
  alone.not_mem_path reads.2 different

/-- Following `next` never leaves a set that is closed under it. -/
theorem Links.Path.stays (listed : ι → Prop) (path : links.Path source nodes target)
    (closed : ∀ member, listed member → listed (links.next member)) (start : listed source) :
    listed target := by
  induction nodes generalizing source with
  | nil =>
      have reached : links.next source = target := path
      exact reached ▸ closed source start
  | cons step rest ih =>
      obtain ⟨stepped, path⟩ := path
      exact ih path (stepped ▸ closed source start)

theorem Links.Path.next_mem (path : links.Path source nodes target)
    (listed : node ∈ source :: nodes) : links.next node ∈ nodes ∨ links.next node = target := by
  induction nodes generalizing source with
  | nil =>
      obtain rfl : node = source := by simpa using listed
      exact Or.inr path
  | cons step rest ih =>
      obtain ⟨stepped, path⟩ := path
      rcases List.mem_cons.mp listed with rfl | listed
      · exact Or.inl (stepped ▸ List.mem_cons_self)
      · rcases ih path listed with inside | last
        · exact Or.inl (List.mem_cons_of_mem _ inside)
        · exact Or.inr last

theorem Links.Reads.next_mem (reads : links.Reads head nodes) (listed : node ∈ head :: nodes) :
    links.next node ∈ head :: nodes := by
  rcases reads.2.next_mem listed with inside | last
  · exact List.mem_cons_of_mem _ inside
  · exact last ▸ List.mem_cons_self

/-- Two lists share no node unless one of them holds the other's head. -/
theorem Links.Reads.disjoint (reads : links.Reads first nodes)
    (readsOthers : links.Reads second others) (absent : second ∉ first :: nodes) :
    (first :: nodes).Disjoint (second :: others) := by
  intro node inFirst inSecond
  rcases List.mem_cons.mp inSecond with rfl | inOthers
  · exact absent inFirst
  obtain ⟨front, back, rfl⟩ := List.append_of_mem inOthers
  have fromNode := (path_append.mp readsOthers.2).2
  exact absent (fromNode.stays (· ∈ first :: nodes) (fun _ => reads.next_mem) inFirst)

theorem Links.reads_nil : links.Reads head [] ↔ links.Alone head := by
  simp [Reads, Path, Alone]

theorem Links.Reads.next_eq (reads : links.Reads head nodes) :
    links.next head = nodes.headD head := by
  cases nodes with
  | nil => exact reads.2
  | cons step rest => exact reads.2.1

theorem Links.Reads.alone_iff (reads : links.Reads head nodes) :
    links.Alone head ↔ nodes = [] := by
  unfold Alone
  rw [reads.next_eq]
  cases nodes with
  | nil => simp
  | cons step rest =>
      have different : step ≠ head := fun same =>
        (List.nodup_cons.mp reads.1).1 (same ▸ List.mem_cons_self)
      simpa using different

theorem Links.Path.unique (path : links.Path source nodes target)
    (other : links.Path source others target) (absent : target ∉ nodes)
    (absentOther : target ∉ others) : nodes = others := by
  induction nodes generalizing source others with
  | nil =>
      cases others with
      | nil => rfl
      | cons step rest =>
          have here : step = target := other.1.symm.trans path
          exact absurd (here ▸ List.mem_cons_self) absentOther
  | cons step rest ih =>
      cases others with
      | nil =>
          have here : step = target := path.1.symm.trans other
          exact absurd (here ▸ List.mem_cons_self) absent
      | cons first remaining =>
          obtain rfl : step = first := path.1.symm.trans other.1
          rw [ih path.2 other.2 (fun member => absent (List.mem_cons_of_mem _ member))
            (fun member => absentOther (List.mem_cons_of_mem _ member))]

/-- The node is on the list of the head. -/
def Links.Holds (links : Links ι) (head node : ι) : Prop :=
  ∃ nodes, links.Reads head nodes ∧ node ∈ nodes

theorem Links.Reads.holds_iff (reads : links.Reads head nodes) :
    links.Holds head node ↔ node ∈ nodes := by
  constructor
  · rintro ⟨others, readsOthers, listed⟩
    have absent := (List.nodup_cons.mp reads.1).1
    have absentOther := (List.nodup_cons.mp readsOthers.1).1
    rwa [reads.2.unique readsOthers.2 absent absentOther]
  · intro listed
    exact ⟨nodes, reads, listed⟩

theorem Links.Reads.next_middle (reads : links.Reads head (nodes ++ node :: others)) :
    links.next node = others.headD head := by
  have path := (path_append.mp reads.2).2
  cases others with
  | nil => exact path
  | cons step rest => exact path.1

variable [DecidableEq ι]

instance (links : Links ι) : DecidablePred links.Alone :=
  fun node => inferInstanceAs (Decidable (links.next node = node))

section Toggle

variable (links : Links ι) (first second : ι)

/-- The `next` fields after both predecessors were redirected. -/
def Links.toggledNext : ι → ι :=
  Function.update (Function.update links.next (links.prev first) second)
    (links.prev second) first

/-- The `prev` fields after both nodes got the other one's predecessor. -/
def Links.toggledPrev : ι → ι :=
  Function.update (Function.update links.prev first (links.prev second))
    second (links.prev first)

theorem Links.toggledNext_apply (node : ι) :
    links.toggledNext first second node = Equiv.swap first second (links.next node) := by
  have target (other : ι) : node = links.prev other ↔ links.next node = other := by
    refine ⟨fun same => ?_, fun same => ?_⟩
    · rw [same, links.next_prev]
    · rw [← same, links.prev_next]
  simp only [toggledNext, Function.update_apply, target, Equiv.swap_apply_def]
  split <;> split <;> simp_all

theorem Links.toggledPrev_apply (node : ι) :
    links.toggledPrev first second node = links.prev (Equiv.swap first second node) := by
  simp only [toggledPrev, Function.update_apply, Equiv.swap_apply_def]
  split <;> split <;> simp_all

/-- Joins the lists of two nodes, or cuts their list in two when it is one. -/
def Links.toggleConnect : Links ι where
  next := links.toggledNext first second
  prev := links.toggledPrev first second
  prev_next node := by
    rw [links.toggledPrev_apply, links.toggledNext_apply, Equiv.swap_apply_self,
      links.prev_next]
  next_prev node := by
    rw [links.toggledNext_apply, links.toggledPrev_apply, links.next_prev,
      Equiv.swap_apply_self]

end Toggle

/-- Takes a node out of its list. -/
def Links.detach (links : Links ι) (node : ι) : Links ι :=
  links.toggleConnect node (links.next node)

theorem Links.toggleConnect_next (links : Links ι) (first second node : ι) :
    (links.toggleConnect first second).next node =
      Equiv.swap first second (links.next node) :=
  links.toggledNext_apply first second node

theorem Links.detach_alone (links : Links ι) (node : ι) : (links.detach node).Alone node := by
  unfold Alone detach
  rw [toggleConnect_next, Equiv.swap_apply_right]

/-- Nothing that is done to other nodes puts a lone node on a list. -/
theorem Links.Alone.toggleConnect (alone : links.Alone node) (notFirst : node ≠ first)
    (notSecond : node ≠ second) : (links.toggleConnect first second).Alone node := by
  unfold Alone at *
  rw [toggleConnect_next, alone, Equiv.swap_apply_of_ne_of_ne notFirst notSecond]

theorem Links.Alone.detach (alone : links.Alone node) (other : node ≠ first) :
    (links.detach first).Alone node :=
  alone.toggleConnect other (alone.ne_next other)

/-- A path that ends at one of the nodes ends at the other one afterwards. -/
theorem Links.Path.redirect (path : links.Path source nodes target)
    (notFirst : first ∉ nodes) (notSecond : second ∉ nodes) :
    (links.toggleConnect first second).Path source nodes (Equiv.swap first second target) := by
  induction nodes generalizing source with
  | nil =>
      have reached : links.next source = target := path
      unfold Path
      rw [toggleConnect_next, reached]
  | cons step rest ih =>
      obtain ⟨stepped, path⟩ := path
      simp only [List.mem_cons, not_or] at notFirst notSecond
      refine ⟨?_, ih path notFirst.2 notSecond.2⟩
      rw [toggleConnect_next, stepped,
        Equiv.swap_apply_of_ne_of_ne (Ne.symm notFirst.1) (Ne.symm notSecond.1)]

/-- A path that enters neither node is not changed. -/
theorem Links.Path.toggleConnect (path : links.Path source nodes target)
    (notFirst : first ∉ nodes) (notSecond : second ∉ nodes) (targetFirst : target ≠ first)
    (targetSecond : target ≠ second) :
    (links.toggleConnect first second).Path source nodes target := by
  have redirected := path.redirect notFirst notSecond
  rwa [Equiv.swap_apply_of_ne_of_ne targetFirst targetSecond] at redirected

/-- Lists that hold neither node are not changed. -/
theorem Links.Reads.toggleConnect (reads : links.Reads head nodes)
    (notFirst : first ∉ head :: nodes) (notSecond : second ∉ head :: nodes) :
    (links.toggleConnect first second).Reads head nodes := by
  simp only [List.mem_cons, not_or] at notFirst notSecond
  exact ⟨reads.1, reads.2.toggleConnect notFirst.2 notSecond.2 (Ne.symm notFirst.1)
    (Ne.symm notSecond.1)⟩

/-- Attaching a lone node to a head puts it at the end. -/
theorem Links.Reads.push (reads : links.Reads head nodes) (alone : links.Alone node)
    (different : node ≠ head) :
    (links.toggleConnect head node).Reads head (nodes ++ [node]) := by
  have absent := alone.not_mem reads different
  have headAbsent : head ∉ nodes := (List.nodup_cons.mp reads.1).1
  refine ⟨?_, ?_⟩
  · rw [← List.cons_append]
    refine List.nodup_append.mpr ⟨reads.1, List.nodup_singleton node, ?_⟩
    rintro member listed other single rfl
    obtain rfl := List.mem_singleton.mp single
    rcases List.mem_cons.mp listed with same | listed
    · exact different same
    · exact absent listed
  · refine path_append.mpr ⟨?_, ?_⟩
    · simpa using reads.2.redirect headAbsent absent
    · unfold Path
      rw [toggleConnect_next, alone, Equiv.swap_apply_right]

/-- Detaching a node takes it out of whatever list it is on. -/
theorem Links.Reads.detach (reads : links.Reads head nodes) (different : node ≠ head) :
    (links.detach node).Reads head (nodes.erase node) := by
  have headAbsent : head ∉ nodes := (List.nodup_cons.mp reads.1).1
  have nodup : nodes.Nodup := (List.nodup_cons.mp reads.1).2
  by_cases listed : node ∈ nodes
  · obtain ⟨front, back, rfl, absent⟩ := List.eq_append_cons_of_mem listed
    rw [List.erase_append_right _ absent, List.erase_cons_head]
    obtain ⟨toNode, fromNode⟩ := path_append.mp reads.2
    have nextAbsent : links.next node ∉ front := by
      intro member
      have entered := toNode.enters (Or.inl member)
      rcases List.mem_cons.mp entered with same | member
      · exact different same
      · exact absent member
    have shortened : (head :: (front ++ back)).Nodup :=
      reads.1.sublist (by simp)
    refine ⟨shortened, ?_⟩
    have toNext := toNode.redirect absent nextAbsent
    rw [Equiv.swap_apply_left] at toNext
    cases back with
    | nil =>
        have atHead : links.next node = head := fromNode
        rw [List.append_nil]
        rw [atHead] at toNext
        simpa only [Links.detach, atHead] using toNext
    | cons step rest =>
        obtain ⟨stepped, fromStep⟩ := fromNode
        rw [stepped] at toNext
        refine path_append.mpr ⟨by simpa only [Links.detach, stepped] using toNext, ?_⟩
        have parts := (List.nodup_append.mp nodup).2.1
        simp only [List.nodup_cons, List.mem_cons, not_or] at parts
        have stepHead : head ≠ step := by
          rintro rfl
          exact headAbsent (by simp)
        simpa only [Links.detach, stepped] using
          fromStep.toggleConnect parts.1.2 parts.2.1 (Ne.symm different) stepHead
  · rw [List.erase_of_not_mem listed]
    have outside : node ∉ head :: nodes := by
      simp only [List.mem_cons, not_or]
      exact ⟨different, listed⟩
    refine reads.toggleConnect outside fun member => outside ?_
    refine reads.2.enters ?_
    simpa [or_comm] using member

/-- Attaching a head to another one puts it and its nodes at the end. -/
theorem Links.Reads.join (reads : links.Reads first nodes) (joined : links.Reads second others)
    (disjoint : (first :: nodes).Disjoint (second :: others)) :
    (links.toggleConnect first second).Reads first (nodes ++ second :: others) := by
  have firstAbsent : first ∉ nodes := (List.nodup_cons.mp reads.1).1
  have secondAbsent : second ∉ others := (List.nodup_cons.mp joined.1).1
  have secondNodes : second ∉ nodes := fun member =>
    disjoint (List.mem_cons_of_mem _ member) List.mem_cons_self
  have firstOthers : first ∉ others := fun member =>
    disjoint List.mem_cons_self (List.mem_cons_of_mem _ member)
  refine ⟨?_, path_append.mpr ⟨?_, ?_⟩⟩
  · rw [← List.cons_append]
    refine List.nodup_append.mpr ⟨reads.1, joined.1, ?_⟩
    rintro node inFirst other inSecond rfl
    exact disjoint inFirst inSecond
  · simpa using reads.2.redirect firstAbsent secondNodes
  · simpa using joined.2.redirect firstOthers secondAbsent

end CircularList
