import FeatureLayout.Graph.Basic
import FeatureLayout.Proofs.Graph.Search
import FeatureLayout.Proofs.Ledger

/-!
# Graphs that operations build

A usage graph is never written down as a whole: it starts empty and grows by single operations.
`UsageGraph.Built` says that of a graph. Each operation has one law for the files and one for the
edges; from these, by induction on the operations, every edge of a built graph ends at a file of the
graph, so that no path leaves it.
-/

namespace FeatureLayout

namespace Ledger

variable {κ : Type} [DecidableEq κ]

/-- Providing for a key gives it no neighbours. -/
@[simp] theorem next_putNew (edges : Ledger κ (List κ)) (key tested : κ) :
    (edges.putNew key []).next tested = edges.next tested := by
  unfold putNew
  split
  · rfl
  · next absent =>
    by_cases same : key = tested
    · subst same
      cases stored : edges.find? key with
      | none => simp [next, find?_put, stored]
      | some neighbours => simp [contains, stored] at absent
    · simp [next, find?_put, same]

/-- Changing the neighbours of one node leaves those of the others. -/
theorem next_modify (edges : Ledger κ (List κ)) (key tested : κ)
    (change : List κ → List κ) :
    (edges.modify key [] change).next tested =
      if key = tested then change (edges.next tested) else edges.next tested := by
  by_cases same : key = tested
  · subst same
    simp [next, modify, find?_put]
  · simp [next, modify, find?_put, same]

end Ledger

namespace UsageGraph

/-- The graphs that arise from the empty one by operations, in any order. -/
inductive Built : UsageGraph → Prop where
  | empty : Built empty
  | addFile {graph : UsageGraph} (path : String) (built : Built graph) :
      Built (graph.addFile path)
  | define {graph : UsageGraph} (symbol : Symbol) (built : Built graph) :
      Built (graph.define symbol)
  | use {graph : UsageGraph} (qualified user : String) (built : Built graph) :
      Built (graph.use qualified user)
  | addEdge {graph : UsageGraph} (source target : String) (built : Built graph) :
      Built (graph.addEdge source target)
  | addBoundary {graph : UsageGraph} (ref : ImportRef) (built : Built graph) :
      Built (graph.addBoundary ref)

/-- A path of imports, possibly empty, leads from one file to another. -/
def Reaches (graph : UsageGraph) : String → String → Prop := Leads graph.successors

/-- A file is in the graph exactly when it is listed. -/
theorem contains_iff (graph : UsageGraph) (path : String) :
    graph.contains path = true ↔ path ∈ graph.files :=
  Ledger.contains_iff graph.outgoing path

/-- No file is listed twice. -/
theorem files_nodup (graph : UsageGraph) : graph.files.Nodup := graph.outgoing.distinct

theorem mem_files_addFile (graph : UsageGraph) (path tested : String) :
    tested ∈ (graph.addFile path).files ↔ tested = path ∨ tested ∈ graph.files :=
  Ledger.mem_keys_putNew graph.outgoing path tested []

/-- A new file imports nothing, and the imports of the others stay. -/
@[simp] theorem successors_addFile (graph : UsageGraph) (path tested : String) :
    (graph.addFile path).successors tested = graph.successors tested :=
  Ledger.next_putNew graph.outgoing path tested

theorem mem_files_define (graph : UsageGraph) (symbol : Symbol) (tested : String) :
    tested ∈ (graph.define symbol).files ↔ tested = symbol.file ∨ tested ∈ graph.files :=
  mem_files_addFile graph symbol.file tested

@[simp] theorem successors_define (graph : UsageGraph) (symbol : Symbol) (tested : String) :
    (graph.define symbol).successors tested = graph.successors tested :=
  successors_addFile graph symbol.file tested

@[simp] theorem files_use (graph : UsageGraph) (qualified user : String) :
    (graph.use qualified user).files = graph.files := rfl

@[simp] theorem successors_use (graph : UsageGraph) (qualified user tested : String) :
    (graph.use qualified user).successors tested = graph.successors tested := rfl

@[simp] theorem files_addBoundary (graph : UsageGraph) (ref : ImportRef) :
    (graph.addBoundary ref).files = graph.files := rfl

@[simp] theorem successors_addBoundary (graph : UsageGraph) (ref : ImportRef) (tested : String) :
    (graph.addBoundary ref).successors tested = graph.successors tested := rfl

/-- An edge that is there stays as it is; a new one is entered in both directions. -/
theorem addEdge_eq (graph : UsageGraph) (source target : String) :
    graph.addEdge source target =
      if target ∈ graph.successors source then (graph.addFile source).addFile target
      else
        { (graph.addFile source).addFile target with
          outgoing := ((graph.addFile source).addFile target).outgoing.modify source []
            (· ++ [target])
          incoming := ((graph.addFile source).addFile target).incoming.modify target []
            (· ++ [source]) } := by
  simp [addEdge]

/-- An edge adds its two ends. -/
theorem mem_files_addEdge (graph : UsageGraph) (source target tested : String) :
    tested ∈ (graph.addEdge source target).files ↔
      tested = source ∨ tested = target ∨ tested ∈ graph.files := by
  have ends : tested ∈ ((graph.addFile source).addFile target).files ↔
      tested = source ∨ tested = target ∨ tested ∈ graph.files := by
    rw [mem_files_addFile, mem_files_addFile, or_left_comm]
  rw [addEdge_eq]
  split
  · exact ends
  · refine Iff.trans (Ledger.mem_keys_modify _ source tested [] (· ++ [target])) ?_
    exact (or_congr_right ends).trans ⟨fun either => either.elim Or.inl id, Or.inr⟩

/-- An edge makes its target a successor of its source, and nothing else. -/
theorem mem_successors_addEdge (graph : UsageGraph) (source target tested found : String) :
    found ∈ (graph.addEdge source target).successors tested ↔
      found ∈ graph.successors tested ∨ (tested = source ∧ found = target) := by
  have old : ((graph.addFile source).addFile target).successors tested =
      graph.successors tested := by
    rw [successors_addFile, successors_addFile]
  rw [addEdge_eq]
  split
  · next present =>
    rw [old]
    exact ⟨Or.inl, fun either => either.elim id fun ⟨same, equal⟩ => same ▸ equal ▸ present⟩
  · have changed := Ledger.next_modify ((graph.addFile source).addFile target).outgoing source
      tested (· ++ [target])
    simp only [successors] at old ⊢
    rw [changed, old]
    by_cases same : source = tested
    · simp [same]
    · simp [same, Ne.symm same]

/-- Every edge of a built graph ends at a file of the graph.

Induct on the operations: only `addEdge` adds an edge, and it adds both ends first. -/
theorem Built.successor_mem {graph : UsageGraph} (built : graph.Built) {source target : String}
    (adjacent : target ∈ graph.successors source) : target ∈ graph.files := by
  induction built with
  | empty => simp [UsageGraph.empty, successors, Ledger.next] at adjacent
  | addFile path built inductionHypothesis =>
    rw [successors_addFile] at adjacent
    exact (mem_files_addFile _ path target).mpr (Or.inr (inductionHypothesis adjacent))
  | define symbol built inductionHypothesis =>
    rw [successors_define] at adjacent
    exact (mem_files_define _ symbol target).mpr (Or.inr (inductionHypothesis adjacent))
  | use qualified user built inductionHypothesis => exact inductionHypothesis adjacent
  | addEdge first second built inductionHypothesis =>
    rw [mem_files_addEdge]
    rcases (mem_successors_addEdge _ first second source target).mp adjacent with old | ⟨_, same⟩
    · exact Or.inr (Or.inr (inductionHypothesis old))
    · exact Or.inr (Or.inl same)
  | addBoundary ref built inductionHypothesis => exact inductionHypothesis adjacent

/-- No edge of a built graph is stored twice.

Induct on the operations: `addEdge` passes over an edge that is there. -/
theorem Built.successors_nodup {graph : UsageGraph} (built : graph.Built) (source : String) :
    (graph.successors source).Nodup := by
  induction built with
  | empty => exact List.nodup_nil
  | addFile path built inductionHypothesis => rwa [successors_addFile]
  | define symbol built inductionHypothesis => rwa [successors_define]
  | use qualified user built inductionHypothesis => exact inductionHypothesis
  | @addEdge graph first target built inductionHypothesis =>
    have old (tested : String) : ((graph.addFile first).addFile target).successors tested =
        graph.successors tested := by
      rw [successors_addFile, successors_addFile]
    rw [addEdge_eq]
    split
    · rwa [old]
    · next absent =>
      have changed := Ledger.next_modify ((graph.addFile first).addFile target).outgoing first
        source (· ++ [target])
      simp only [successors] at old absent inductionHypothesis ⊢
      rw [changed, old]
      split
      · next same =>
        subst same
        refine List.nodup_append.mpr ⟨inductionHypothesis, List.nodup_singleton target, ?_⟩
        rintro one listed other single rfl
        exact absent (List.mem_singleton.mp single ▸ listed)
      · exact inductionHypothesis
  | addBoundary ref built inductionHypothesis => exact inductionHypothesis

/-- No path leaves a built graph. -/
theorem Built.reaches_mem {graph : UsageGraph} (built : graph.Built) {source target : String}
    (listed : source ∈ graph.files) (path : graph.Reaches source target) :
    target ∈ graph.files := by
  induction path with
  | refl => exact listed
  | tail _ adjacent _ => exact built.successor_mem adjacent

/-- A search reaches exactly the files that lie behind those of its starts that are in the graph. -/
theorem mem_reach (graph : UsageGraph) (starts : List String) (path : String) :
    path ∈ graph.reach starts ↔
      ∃ start ∈ starts, start ∈ graph.files ∧ graph.Reaches start path := by
  simp only [reach, Ledger.mem_reach, List.mem_filter, contains_iff, and_assoc]
  rfl

end UsageGraph

end FeatureLayout
