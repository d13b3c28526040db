import FeatureLayout.Proofs.Graph.Partition

/-!
# The condensation as a quotient

The condensation of a built graph has the classes of files that lead to each other as its nodes. Two
nodes are joined by an edge when some of their files are, and every edge leads to a node with a lower
number, so that no path of nodes comes back. Searching the nodes of some files and taking the files
of all nodes that are found is the same as searching the files themselves.
-/

namespace FeatureLayout

namespace Condensation

/-- What the condensation of a graph has to be. -/
structure IsQuotient (graph : UsageGraph) (condensation : Condensation) : Prop where
  /-- The files of a node are those whose node it is. -/
  inverse : ∀ path node,
    condensation.node? path = some node ↔
      node < condensation.members.length ∧ path ∈ condensation.filesOf node
  /-- The files of the graph have nodes, and nothing else has one. -/
  cover : ∀ path, (∃ node, condensation.node? path = some node) ↔ path ∈ graph.files
  /-- Files have one node when they lead to each other. -/
  classes : ∀ first ∈ graph.files, ∀ second ∈ graph.files,
    condensation.node? first = condensation.node? second ↔
      graph.Reaches first second ∧ graph.Reaches second first
  /-- Every node has a list of successors. -/
  complete : condensation.successors.length = condensation.members.length
  /-- Successors are listed once. -/
  once : ∀ node, (condensation.successorsOf node).Nodup
  /-- The successors of a node are the other nodes that an edge leads to. -/
  edges : ∀ node target, target ∈ condensation.successorsOf node ↔
    target ≠ node ∧ ∃ path ∈ condensation.filesOf node,
      ∃ successor ∈ condensation.filesOf target, successor ∈ graph.successors path
  /-- Edges lead to nodes with lower numbers. -/
  descending : ∀ node, ∀ target ∈ condensation.successorsOf node, target < node
  /-- No path of nodes comes back. -/
  acyclic : ∀ node,
    ¬ Relation.TransGen (fun source target => target ∈ condensation.successorsOf source) node node
  /-- The files of the nodes that are reached are the files that are reached. -/
  reached : ∀ starts path,
    (∃ node ∈ condensation.reach (starts.filterMap condensation.node?),
      path ∈ condensation.filesOf node) ↔ path ∈ graph.reach starts

/-- A node with files is a node of the condensation. -/
theorem lt_length_of_mem_filesOf {condensation : Condensation} {path : String} {node : Nat}
    (inside : path ∈ condensation.filesOf node) : node < condensation.members.length := by
  by_contra outside
  rw [filesOf, List.getElem?_eq_none (Nat.le_of_not_lt outside)] at inside
  cases inside

/-- The successors of a node are listed once. -/
theorem successorsOf_nodup (graph : UsageGraph) (node : Nat) :
    ((ofGraph graph).successorsOf node).Nodup := by
  simp only [successorsOf, ofGraph, List.getElem?_map]
  cases (graph.components.zipIdx)[node]? with
  | none => exact List.nodup_nil
  | some entry => exact nodup_eraseDups _

/-- Paths along edges that lead to lower numbers do not come back. -/
theorem lt_of_transGen {next : Nat → List Nat}
    (descending : ∀ node, ∀ target ∈ next node, target < node) {source target : Nat}
    (route : Relation.TransGen (fun node found => found ∈ next node) source target) :
    target < source := by
  induction route with
  | single edge => exact descending source _ edge
  | tail _ edge inductionHypothesis =>
    exact Nat.lt_trans (descending _ _ edge) inductionHypothesis

end Condensation

namespace UsageGraph

variable {graph : UsageGraph}

/-- An edge of nodes leads to a node with a lower number. -/
theorem Built.successor_lt (built : graph.Built) {node target : Nat}
    (adjacent : target ∈ (Condensation.ofGraph graph).successorsOf node) : target < node := by
  obtain ⟨other, path, inside, successor, edge, found⟩ :=
    (Condensation.mem_successorsOf_ofGraph graph node target).mp adjacent
  have ofPath := (Condensation.mem_filesOf_iff _ built.components_nodup path node).mp inside
  exact Nat.lt_of_le_of_ne (built.node_le_of_edge ofPath found edge) other

/-- The condensation of a built graph is its quotient by leading to each other. -/
theorem Built.isQuotient_ofGraph (built : graph.Built) :
    Condensation.IsQuotient graph (Condensation.ofGraph graph) := by
  have files (path : String) (node : Nat) :
      path ∈ (Condensation.ofGraph graph).filesOf node ↔
        (Condensation.ofGraph graph).node? path = some node :=
    Condensation.mem_filesOf_iff _ built.components_nodup path node
  constructor
  case inverse =>
    intro path node
    rw [← files]
    exact ⟨fun inside => ⟨Condensation.lt_length_of_mem_filesOf inside, inside⟩, And.right⟩
  case cover => exact built.exists_node_iff
  case classes =>
    intro first inFirst second inSecond
    obtain ⟨one, ofFirst⟩ := (built.exists_node_iff first).mpr inFirst
    obtain ⟨other, ofSecond⟩ := (built.exists_node_iff second).mpr inSecond
    rw [ofFirst, ofSecond, Option.some.injEq]
    exact built.node_eq_iff ofFirst ofSecond
  case complete => simp [Condensation.ofGraph]
  case once => exact Condensation.successorsOf_nodup graph
  case edges =>
    intro node target
    rw [Condensation.mem_successorsOf_ofGraph]
    simp only [files, and_comm]
  case descending => exact fun node target adjacent => built.successor_lt adjacent
  case acyclic =>
    intro node cycle
    exact Nat.lt_irrefl node
      (Condensation.lt_of_transGen (fun _ _ adjacent => built.successor_lt adjacent) cycle)
  case reached =>
    intro starts path
    rw [mem_reach]
    constructor
    · rintro ⟨node, found, inside⟩
      exact (built.mem_reach_condensation starts ((files path node).mp inside)).mp found
    · rintro ⟨start, listed, present, route⟩
      obtain ⟨node, ofPath⟩ := (built.exists_node_iff path).mpr (built.reaches_mem present route)
      exact ⟨node, (built.mem_reach_condensation starts ofPath).mpr ⟨start, listed, present, route⟩,
        (files path node).mpr ofPath⟩

theorem isQuotient_ofGraph_crossedCycle :
    crossedCycle.Built ∧
      Condensation.IsQuotient crossedCycle (Condensation.ofGraph crossedCycle) ∧
      (Condensation.ofGraph crossedCycle).node? "left.ts" =
        (Condensation.ofGraph crossedCycle).node? "right.ts" := by
  have quotient := built_crossedCycle.isQuotient_ofGraph
  have forth : "right.ts" ∈ crossedCycle.successors "left.ts" := by decide
  have back : "left.ts" ∈ crossedCycle.successors "right.ts" := by decide
  exact ⟨built_crossedCycle, quotient, (quotient.classes _ (by decide) _ (by decide)).mpr
    ⟨Relation.ReflTransGen.single forth, Relation.ReflTransGen.single back⟩⟩

end UsageGraph

end FeatureLayout
