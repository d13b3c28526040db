import FeatureLayout.Proofs.Graph.Components
import Mathlib.Data.List.Nodup

/-!
# Searching a condensed graph

The condensation of a built graph has one node for every file, and a search through its nodes
reaches the node of a file exactly when some path of the graph leads from a start to the file.
Inside a component all files lead to each other, so nothing is lost when a path is followed node by
node, and nothing is added when the files of a node are taken together.
-/

namespace FeatureLayout

namespace Condensation

/-- In disjoint groups, the node of a file is the position of its group. -/
theorem nodeIn_eq_some_iff (members : List (List String)) (distinct : members.flatten.Nodup)
    (path : String) (node : Nat) :
    nodeIn members path = some node ↔ ∃ group, members[node]? = some group ∧ path ∈ group := by
  have apart := (List.nodup_flatten.mp distinct).2
  rw [nodeIn, List.findIdx?_eq_some_iff_getElem]
  constructor
  · rintro ⟨bound, present, _⟩
    exact ⟨members[node], List.getElem?_eq_getElem bound, by simpa using present⟩
  · rintro ⟨group, listed, present⟩
    obtain ⟨bound, rfl⟩ := List.getElem?_eq_some_iff.mp listed
    refine ⟨bound, by simpa using present, fun earlier before => ?_⟩
    have disjoint := List.pairwise_iff_getElem.mp apart earlier node (by omega) bound before
    simpa using fun also => disjoint also present

/-- The files of a node are those whose node it is. -/
theorem mem_filesOf_iff (condensation : Condensation)
    (distinct : condensation.members.flatten.Nodup) (path : String) (node : Nat) :
    path ∈ condensation.filesOf node ↔ condensation.node? path = some node := by
  rw [node?, nodeIn_eq_some_iff _ distinct, filesOf]
  cases found : condensation.members[node]? with
  | none => simp
  | some group => simp

/-- The edges of a node lead to the other nodes of the files that its files import. -/
theorem mem_successorsOf_ofGraph (graph : UsageGraph) (node target : Nat) :
    target ∈ (ofGraph graph).successorsOf node ↔
      target ≠ node ∧ ∃ path ∈ (ofGraph graph).filesOf node,
        ∃ successor ∈ graph.successors path, (ofGraph graph).node? successor = some target := by
  simp only [successorsOf, filesOf, node?, ofGraph, List.getElem?_map, List.getElem?_zipIdx]
  cases graph.components[node]? with
  | none => simp
  | some group =>
    simp only [Option.map_some, Option.getD_some, List.mem_eraseDups, List.mem_filter,
      List.mem_filterMap, List.mem_flatMap, Nat.zero_add, bne_iff_ne]
    constructor
    · rintro ⟨⟨successor, ⟨path, inside, adjacent⟩, found⟩, other⟩
      exact ⟨other, path, inside, successor, adjacent, found⟩
    · rintro ⟨other, path, inside, successor, adjacent, found⟩
      exact ⟨⟨successor, ⟨path, inside, adjacent⟩, found⟩, other⟩

/-- Only the nodes of a condensation have edges. -/
theorem mem_range_of_successorsOf (graph : UsageGraph) (node : Nat)
    (adjacent : (ofGraph graph).successorsOf node ≠ []) :
    node ∈ List.range (ofGraph graph).members.length := by
  obtain ⟨target, listed⟩ := List.exists_mem_of_ne_nil _ adjacent
  obtain ⟨-, path, inside, -⟩ := (mem_successorsOf_ofGraph graph node target).mp listed
  rw [List.mem_range]
  by_contra outside
  have missing : (ofGraph graph).members[node]? = none :=
    List.getElem?_eq_none (Nat.le_of_not_lt outside)
  simp [filesOf, missing] at inside

/-- A search through the nodes reaches what its starts lead to along edges of nodes. -/
theorem mem_reach (graph : UsageGraph) (starts : List Nat) (node : Nat) :
    node ∈ (ofGraph graph).reach starts ↔
      ∃ start ∈ starts, Leads (ofGraph graph).successorsOf start node := by
  refine Walk.mem_finished_visit _ (List.range (ofGraph graph).members.length)
    (mem_range_of_successorsOf graph) _ ?_ starts node
  simp

end Condensation

namespace UsageGraph

variable {graph : UsageGraph}

/-- The components of a built graph are disjoint. -/
theorem Built.components_nodup (built : graph.Built) : graph.components.flatten.Nodup :=
  built.components_perm.nodup_iff.mpr graph.files_nodup

/-- Every file of a built graph has a node in its condensation, and nothing else has one. -/
theorem Built.exists_node_iff (built : graph.Built) (path : String) :
    (∃ node, (Condensation.ofGraph graph).node? path = some node) ↔ path ∈ graph.files := by
  have node (index : Nat) := Condensation.nodeIn_eq_some_iff _ built.components_nodup path index
  rw [← built.components_perm.mem_iff, List.mem_flatten]
  constructor
  · rintro ⟨index, found⟩
    obtain ⟨group, listed, present⟩ := (node index).mp found
    exact ⟨group, List.mem_of_getElem? listed, present⟩
  · rintro ⟨group, listed, present⟩
    obtain ⟨index, same⟩ := List.mem_iff_getElem?.mp listed
    exact ⟨index, (node index).mpr ⟨group, same, present⟩⟩

/-- Files of one node lead to each other. -/
theorem Built.reaches_of_node (built : graph.Built) {node : Nat} {first second : String}
    (ofFirst : (Condensation.ofGraph graph).node? first = some node)
    (ofSecond : (Condensation.ofGraph graph).node? second = some node) :
    graph.Reaches first second := by
  obtain ⟨group, listed, inFirst⟩ :=
    (Condensation.nodeIn_eq_some_iff _ built.components_nodup first node).mp ofFirst
  obtain ⟨other, same, inSecond⟩ :=
    (Condensation.nodeIn_eq_some_iff _ built.components_nodup second node).mp ofSecond
  obtain rfl : group = other := Option.some.inj (listed.symm.trans same)
  exact built.components_mutual (List.mem_of_getElem? listed) inFirst inSecond

/-- A path of nodes can be followed file by file.

Induct on the path of nodes: an edge of nodes comes from an edge of files, and inside a node its two
ends are led to and from. -/
theorem Built.reaches_of_leads (built : graph.Built) {start node : Nat}
    (route : Leads (Condensation.ofGraph graph).successorsOf start node) {source target : String}
    (ofSource : (Condensation.ofGraph graph).node? source = some start)
    (ofTarget : (Condensation.ofGraph graph).node? target = some node) :
    graph.Reaches source target := by
  induction route generalizing target with
  | refl => exact built.reaches_of_node ofSource ofTarget
  | tail _ adjacent inductionHypothesis =>
    obtain ⟨-, path, inside, successor, edge, found⟩ :=
      (Condensation.mem_successorsOf_ofGraph graph _ _).mp adjacent
    have ofPath := (Condensation.mem_filesOf_iff _ built.components_nodup path _).mp inside
    have before : graph.Reaches source path := inductionHypothesis ofPath
    have behind : graph.Reaches successor target := built.reaches_of_node found ofTarget
    exact Relation.ReflTransGen.trans before (Relation.ReflTransGen.head edge behind)

/-- A path of files can be followed node by node.

Induct on the path of files: an import either stays inside a node or is an edge of nodes. -/
theorem Built.leads_of_reaches (built : graph.Built) {source target : String}
    (route : graph.Reaches source target) {start node : Nat}
    (ofSource : (Condensation.ofGraph graph).node? source = some start)
    (ofTarget : (Condensation.ofGraph graph).node? target = some node) :
    Leads (Condensation.ofGraph graph).successorsOf start node := by
  have listed : source ∈ graph.files := (built.exists_node_iff source).mp ⟨start, ofSource⟩
  induction route generalizing node with
  | refl =>
    obtain rfl : start = node := Option.some.inj (ofSource.symm.trans ofTarget)
    exact Relation.ReflTransGen.refl
  | @tail path successor before edge inductionHypothesis =>
    obtain ⟨middle, ofPath⟩ :=
      (built.exists_node_iff path).mpr (built.reaches_mem listed before)
    have there : Leads (Condensation.ofGraph graph).successorsOf start middle :=
      inductionHypothesis ofPath
    by_cases same : node = middle
    · exact same ▸ there
    · have inside := (Condensation.mem_filesOf_iff _ built.components_nodup path middle).mpr ofPath
      exact Relation.ReflTransGen.tail there
        ((Condensation.mem_successorsOf_ofGraph graph middle node).mpr
          ⟨same, path, inside, successor, edge, ofTarget⟩)

/-- The condensation of a built graph is searched exactly like the graph: the node of a file is
reached from the nodes of those starts that are in the graph when one of them leads to the file. -/
theorem Built.mem_reach_condensation (built : graph.Built) (starts : List String) {path : String}
    {node : Nat} (ofPath : (Condensation.ofGraph graph).node? path = some node) :
    node ∈ (Condensation.ofGraph graph).reach
        (starts.filterMap (Condensation.ofGraph graph).node?) ↔
      ∃ start ∈ starts, start ∈ graph.files ∧ graph.Reaches start path := by
  rw [Condensation.mem_reach]
  constructor
  · rintro ⟨first, listed, route⟩
    obtain ⟨start, present, ofStart⟩ := List.mem_filterMap.mp listed
    exact ⟨start, present, (built.exists_node_iff start).mp ⟨first, ofStart⟩,
      built.reaches_of_leads route ofStart ofPath⟩
  · rintro ⟨start, present, listed, route⟩
    obtain ⟨first, ofStart⟩ := (built.exists_node_iff start).mpr listed
    exact ⟨first, List.mem_filterMap.mpr ⟨start, present, ofStart⟩,
      built.leads_of_reaches route ofStart ofPath⟩

end UsageGraph

end FeatureLayout
