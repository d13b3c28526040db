import FeatureLayout.Proofs.Basic
import FeatureLayout.Proofs.Graph.Condensation

/-!
# The components as a partition

The components of a built graph divide its files into the classes of files that lead to each other.
Every component is sorted and has a file in it, and along an edge components come out in reverse:
that of the imported file before that of the importing one. A path can therefore come back to a
component only if it never leaves it, which is why files that lead to each other share one.
-/

namespace FeatureLayout

open Text

namespace ComponentSearch

variable {next : String → List String}

/-- Every complete component is a sorted list with a file in it. -/
def Tidy (search : ComponentSearch) : Prop :=
  ∀ members ∈ search.components, members ≠ [] ∧ members.Pairwise (· ≤ ·)

/-- Completing a component adds a sorted list with a file in it. -/
theorem Tidy.cut {search : ComponentSearch} (tidy : search.Tidy) (path : String) :
    (search.cut path).Tidy := by
  intro members listed
  rcases List.mem_append.mp listed with old | new
  · exact tidy members old
  · obtain rfl := List.mem_singleton.mp new
    have filled : path ∈ sorted (search.stack.takeWhile (· != path) ++ [path]) :=
      mem_sorted.mpr (List.mem_append_right _ List.mem_cons_self)
    exact ⟨List.ne_nil_of_mem filled, sortedBy_pairwise id _⟩

/-- Following a successor completes no other components than visits do. -/
theorem Tidy.follow {visit : ComponentSearch → String → ComponentSearch × Nat}
    (visits : ∀ search path, search.Tidy → (visit search path).1.Tidy)
    {progress : ComponentSearch × Nat} (tidy : progress.1.Tidy) (successor : String) :
    (follow visit progress successor).1.Tidy := by
  unfold ComponentSearch.follow
  split
  · exact visits progress.1 successor tidy
  · split <;> exact tidy

/-- Visits complete sorted components.

Induct on the depth, and for one depth on the successors. -/
theorem Tidy.visit {search : ComponentSearch} (tidy : search.Tidy) (depth : Nat) (path : String) :
    (visit next depth search path).1.Tidy := by
  induction depth generalizing search path with
  | zero => exact tidy
  | succ depth deeper =>
    have along (successors : List String) (progress : ComponentSearch × Nat)
        (start : progress.1.Tidy) :
        (successors.foldl (ComponentSearch.follow (ComponentSearch.visit next depth))
          progress).1.Tidy := by
      induction successors generalizing progress with
      | nil => exact start
      | cons successor rest inductionHypothesis =>
        exact inductionHypothesis _ (start.follow (fun _ path tidy => deeper tidy path) successor)
    have followed := along (next path) (search.enter path, search.numbers.size) tidy
    simp only [ComponentSearch.visit]
    split
    · exact followed.cut path
    · exact followed

/-- Starting at the files of a list completes sorted components. -/
theorem Tidy.starts {search : ComponentSearch} (tidy : search.Tidy) (depth : Nat)
    (starts : List String) : (starts.foldl (start next depth) search).Tidy := by
  induction starts generalizing search with
  | nil => exact tidy
  | cons path rest inductionHypothesis =>
    refine inductionHypothesis ?_
    unfold start
    split
    · exact tidy
    · exact tidy.visit depth path

end ComponentSearch

namespace UsageGraph

/-- What the components of a graph have to be, in the order in which they are listed. -/
structure DividedBy (graph : UsageGraph) (components : List (List String)) : Prop where
  /-- Every file of the graph is in one component, and nothing else is. -/
  cover : components.flatten.Perm graph.files
  /-- No component is empty. -/
  filled : ∀ members ∈ components, members ≠ []
  /-- Components are sorted. -/
  sorted : ∀ members ∈ components, members.Pairwise (· ≤ ·)
  /-- Files share a component when they lead to each other. -/
  shared : ∀ first ∈ graph.files, ∀ second ∈ graph.files,
    (∃ members ∈ components, first ∈ members ∧ second ∈ members) ↔
      graph.Reaches first second ∧ graph.Reaches second first
  /-- Edges between components lead to earlier ones. -/
  descending : ∀ source, ∀ target ∈ graph.successors source, ∀ (outer inner : Nat) first second,
    components[outer]? = some first → source ∈ first →
    components[inner]? = some second → target ∈ second → first ≠ second → inner < outer

variable {graph : UsageGraph}

/-- The components of a graph are sorted lists with files in them. -/
theorem components_tidy (graph : UsageGraph) :
    ∀ members ∈ graph.components, members ≠ [] ∧ members.Pairwise (· ≤ ·) := by
  have nothing : ComponentSearch.empty.Tidy := fun members listed => by
    simp [ComponentSearch.empty] at listed
  exact nothing.starts (graph.nodeCount + 1) graph.files

/-- An import leads to the component of the file or to one before it. -/
theorem Built.node_le_of_edge (built : graph.Built) {source target : String} {outer inner : Nat}
    (ofSource : (Condensation.ofGraph graph).node? source = some outer)
    (ofTarget : (Condensation.ofGraph graph).node? target = some inner)
    (adjacent : target ∈ graph.successors source) : inner ≤ outer := by
  obtain ⟨members, listed, present⟩ :=
    (Condensation.nodeIn_eq_some_iff _ built.components_nodup source outer).mp ofSource
  obtain ⟨bound, rfl⟩ := List.getElem?_eq_some_iff.mp listed
  have initial : graph.components.take outer ++ [graph.components[outer]] <+: graph.components := by
    rw [List.take_append_getElem]
    exact List.take_prefix _ _
  have placed (index : Nat) (group : List String) (found : graph.components[index]? = some group)
      (inside : target ∈ group) : index = inner :=
    Option.some.inj (((Condensation.nodeIn_eq_some_iff _ built.components_nodup target index).mpr
      ⟨group, found, inside⟩).symm.trans ofTarget)
  rcases built.components_layered _ _ initial source present target adjacent with own | before
  · exact Nat.le_of_eq (placed outer _ listed own).symm
  · obtain ⟨group, earlier, inside⟩ := List.mem_flatten.mp before
    obtain ⟨index, found⟩ := List.mem_iff_getElem?.mp earlier
    rw [List.getElem?_take] at found
    split at found
    · next lower => exact placed index group found inside ▸ Nat.le_of_lt lower
    · cases found

/-- What a file leads to is in its component or in one before it.

Induct on the path, whose files all have components because no path leaves a built graph. -/
theorem Built.node_le_of_reaches (built : graph.Built) {source target : String} {outer inner : Nat}
    (ofSource : (Condensation.ofGraph graph).node? source = some outer)
    (ofTarget : (Condensation.ofGraph graph).node? target = some inner)
    (route : graph.Reaches source target) : inner ≤ outer := by
  have listed : source ∈ graph.files := (built.exists_node_iff source).mp ⟨outer, ofSource⟩
  induction route generalizing inner with
  | refl => exact Nat.le_of_eq (Option.some.inj (ofTarget.symm.trans ofSource))
  | @tail middle target before edge inductionHypothesis =>
    obtain ⟨between, ofMiddle⟩ :=
      (built.exists_node_iff middle).mpr (built.reaches_mem listed before)
    exact Nat.le_trans (built.node_le_of_edge ofMiddle ofTarget edge) (inductionHypothesis ofMiddle)

/-- Files have one node exactly when they lead to each other. -/
theorem Built.node_eq_iff (built : graph.Built) {first second : String} {one other : Nat}
    (ofFirst : (Condensation.ofGraph graph).node? first = some one)
    (ofSecond : (Condensation.ofGraph graph).node? second = some other) :
    one = other ↔ graph.Reaches first second ∧ graph.Reaches second first := by
  constructor
  · rintro rfl
    exact ⟨built.reaches_of_node ofFirst ofSecond, built.reaches_of_node ofSecond ofFirst⟩
  · rintro ⟨forth, back⟩
    exact Nat.le_antisymm (built.node_le_of_reaches ofSecond ofFirst back)
      (built.node_le_of_reaches ofFirst ofSecond forth)

/-- The components of a built graph are the classes of files that lead to each other, each of them
sorted, and each listed after those that it has edges to. -/
theorem Built.dividedBy_components (built : graph.Built) : graph.DividedBy graph.components := by
  have node (path : String) (index : Nat) :=
    Condensation.nodeIn_eq_some_iff _ built.components_nodup path index
  constructor
  case cover => exact built.components_perm
  case filled => exact fun members listed => (components_tidy graph members listed).1
  case sorted => exact fun members listed => (components_tidy graph members listed).2
  case shared =>
    intro first inFirst second inSecond
    constructor
    · rintro ⟨members, listed, present, also⟩
      exact ⟨built.components_mutual listed present also,
        built.components_mutual listed also present⟩
    · intro both
      obtain ⟨index, ofFirst⟩ := (built.exists_node_iff first).mpr inFirst
      obtain ⟨other, ofSecond⟩ := (built.exists_node_iff second).mpr inSecond
      obtain rfl := (built.node_eq_iff ofFirst ofSecond).mpr both
      obtain ⟨members, found, present⟩ := (node first index).mp ofFirst
      obtain ⟨_, same, also⟩ := (node second index).mp ofSecond
      obtain rfl := Option.some.inj (found.symm.trans same)
      exact ⟨members, List.mem_of_getElem? found, present, also⟩
  case descending =>
    intro source target adjacent outer inner first second found inFirst also inSecond differ
    have atMost := built.node_le_of_edge ((node source outer).mpr ⟨first, found, inFirst⟩)
      ((node target inner).mpr ⟨second, also, inSecond⟩) adjacent
    refine Nat.lt_of_le_of_ne atMost fun same => differ ?_
    exact Option.some.inj (found.symm.trans (same ▸ also))

/-- A file imports two that import each other; one of these also imports itself, the other a leaf. -/
def crossedCycle : UsageGraph :=
  (((((empty.addEdge "main.ts" "left.ts").addEdge "main.ts" "right.ts").addEdge
    "left.ts" "right.ts").addEdge "right.ts" "left.ts").addEdge "right.ts" "right.ts").addEdge
    "left.ts" "leaf.ts"

theorem built_crossedCycle : crossedCycle.Built :=
  .addEdge _ _ (.addEdge _ _ (.addEdge _ _ (.addEdge _ _ (.addEdge _ _ (.addEdge _ _ .empty)))))

theorem dividedBy_components_crossedCycle :
    crossedCycle.Built ∧ crossedCycle.DividedBy crossedCycle.components ∧
      ∃ members ∈ crossedCycle.components, "left.ts" ∈ members ∧ "right.ts" ∈ members := by
  have divided := built_crossedCycle.dividedBy_components
  have forth : "right.ts" ∈ crossedCycle.successors "left.ts" := by decide
  have back : "left.ts" ∈ crossedCycle.successors "right.ts" := by decide
  exact ⟨built_crossedCycle, divided, (divided.shared _ (by decide) _ (by decide)).mpr
    ⟨Relation.ReflTransGen.single forth, Relation.ReflTransGen.single back⟩⟩

end UsageGraph

end FeatureLayout
