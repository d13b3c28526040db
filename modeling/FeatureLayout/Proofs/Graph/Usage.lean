import FeatureLayout.Graph.Usage
import FeatureLayout.Proofs.Graph.Operations

/-!
# The edges of the graph of an index

An index is labelled when it is keyed by paths, its files name themselves in what they export and
import, and no file of it is excluded. The usage graph of such an index has the indexed files as its
nodes, and an edge for exactly those imports that lead to an indexed file.

It is consistent when, beyond that, imports with one specifier have one target and assets import
nothing. Every index of a source tree is.
-/

namespace FeatureLayout

/-- Files are found under their own paths, symbols and imports name the file that they stand in, and
indexed files are not excluded. -/
structure SourceIndex.Labelled (index : SourceIndex) : Prop where
  keyed : ∀ path file, index.file? path = some file → file.path = path
  exported : ∀ path file, index.file? path = some file →
    ∀ symbol ∈ file.exports, symbol.file = path
  imported : ∀ path file, index.file? path = some file → ∀ ref ∈ file.imports, ref.source = path
  apart : ∀ path file, index.file? path = some file → path ∉ index.excluded

/-- What holds of every index of a source tree. -/
structure SourceIndex.Consistent (index : SourceIndex) : Prop where
  /-- Files are found under their own paths. -/
  keyed : ∀ path file, index.file? path = some file → file.path = path
  /-- Exported symbols name the file that exports them. -/
  exported : ∀ path file, index.file? path = some file →
    ∀ symbol ∈ file.exports, symbol.file = path
  /-- Imports name the file that imports. -/
  imported : ∀ path file, index.file? path = some file → ∀ ref ∈ file.imports, ref.source = path
  /-- One specifier leads to one file. -/
  coherent : ∀ path file, index.file? path = some file →
    ∀ first ∈ file.imports, ∀ second ∈ file.imports,
      first.span = second.span → first.target = second.target
  /-- Assets import nothing. -/
  silent : ∀ path file, index.file? path = some file → file.isAsset = true → file.imports = []
  /-- Indexed files are not excluded. -/
  apart : ∀ path file, index.file? path = some file → path ∉ index.excluded

/-- A consistent index is labelled. -/
theorem SourceIndex.Consistent.labelled {index : SourceIndex} (consistent : index.Consistent) :
    index.Labelled :=
  ⟨consistent.keyed, consistent.exported, consistent.imported, consistent.apart⟩

namespace UsageGraph

/-- An import of an indexed file that leads to an indexed file. -/
def Imports (index : SourceIndex) (source target : String) : Prop :=
  ∃ file, index.file? source = some file ∧
    ∃ ref ∈ file.imports, ref.target = some target ∧ ∃ found, index.file? target = some found

variable {index : SourceIndex}

theorem mem_values_iff (index : SourceIndex) (file : SourceFile) :
    file ∈ index.files.values ↔ ∃ path, index.file? path = some file := by
  simp [Ledger.values, SourceIndex.file?, Ledger.find?_eq_some_iff]

section Sources

/-- Defining symbols adds no edge. -/
theorem successors_foldl_define (symbols : List Symbol) (graph : UsageGraph) (tested : String) :
    (symbols.foldl define graph).successors tested = graph.successors tested := by
  induction symbols generalizing graph with
  | nil => rfl
  | cons symbol rest inductionHypothesis =>
    rw [List.foldl_cons, inductionHypothesis, successors_define]

/-- Defining symbols adds their files. -/
theorem mem_files_foldl_define (symbols : List Symbol) (graph : UsageGraph) (tested : String) :
    tested ∈ (symbols.foldl define graph).files ↔
      tested ∈ graph.files ∨ ∃ symbol ∈ symbols, symbol.file = tested := by
  induction symbols generalizing graph with
  | nil => simp
  | cons symbol rest inductionHypothesis =>
    rw [List.foldl_cons, inductionHypothesis, mem_files_define]
    simp only [List.mem_cons, exists_eq_or_imp, eq_comm (a := tested)]
    rw [or_comm (a := symbol.file = tested), or_assoc]

theorem Built.foldl_define (symbols : List Symbol) {graph : UsageGraph} (built : graph.Built) :
    (symbols.foldl UsageGraph.define graph).Built := by
  induction symbols generalizing graph with
  | nil => exact built
  | cons symbol rest inductionHypothesis => exact inductionHypothesis (built.define symbol)

/-- Adding the files and their symbols adds no edge. -/
theorem successors_foldl_addSource (files : List SourceFile) (graph : UsageGraph)
    (tested : String) :
    (files.foldl addSource graph).successors tested = graph.successors tested := by
  induction files generalizing graph with
  | nil => rfl
  | cons file rest inductionHypothesis =>
    rw [List.foldl_cons, inductionHypothesis, addSource, successors_foldl_define,
      successors_addFile]

/-- Adding files whose symbols are their own adds their paths. -/
theorem mem_files_foldl_addSource (files : List SourceFile)
    (own : ∀ file ∈ files, ∀ symbol ∈ file.exports, symbol.file = file.path) (graph : UsageGraph)
    (tested : String) :
    tested ∈ (files.foldl addSource graph).files ↔
      tested ∈ graph.files ∨ ∃ file ∈ files, file.path = tested := by
  induction files generalizing graph with
  | nil => simp
  | cons file rest inductionHypothesis =>
    have single : tested ∈ (addSource graph file).files ↔
        tested ∈ graph.files ∨ file.path = tested := by
      rw [addSource, mem_files_foldl_define, mem_files_addFile]
      constructor
      · rintro ((same | old) | ⟨symbol, listed, same⟩)
        · exact Or.inr same.symm
        · exact Or.inl old
        · exact Or.inr ((own file List.mem_cons_self symbol listed).symm.trans same)
      · rintro (old | same)
        · exact Or.inl (Or.inr old)
        · exact Or.inl (Or.inl same.symm)
    rw [List.foldl_cons, inductionHypothesis fun later listed =>
      own later (List.mem_cons_of_mem file listed), single]
    simp only [List.mem_cons, exists_eq_or_imp, or_assoc]

theorem Built.foldl_addSource (files : List SourceFile) {graph : UsageGraph}
    (built : graph.Built) : (files.foldl UsageGraph.addSource graph).Built := by
  induction files generalizing graph with
  | nil => exact built
  | cons file rest inductionHypothesis =>
    exact inductionHypothesis ((built.addFile file.path).foldl_define file.exports)

end Sources

section References

/-- Recording uses changes no edge and no file. -/
theorem foldl_use (symbols : List String) (user : String) (graph : UsageGraph) :
    (symbols.foldl (fun graph symbol => graph.use symbol user) graph).outgoing =
      graph.outgoing := by
  induction symbols generalizing graph with
  | nil => rfl
  | cons symbol rest inductionHypothesis =>
    rw [List.foldl_cons, inductionHypothesis]
    rfl

theorem Built.foldl_use (symbols : List String) (user : String) {graph : UsageGraph}
    (built : graph.Built) :
    (symbols.foldl (fun graph symbol => graph.use symbol user) graph).Built := by
  induction symbols generalizing graph with
  | nil => exact built
  | cons symbol rest inductionHypothesis => exact inductionHypothesis (built.use symbol user)

/-- An import that becomes an edge. -/
def Joins (index : SourceIndex) (ref : ImportRef) (source target : String) : Prop :=
  ref.source = source ∧ ref.target = some target ∧ target ∉ index.excluded ∧
    ∃ found, index.file? target = some found

/-- An import adds at most one edge, with its ends. -/
theorem addImport_cases (index : SourceIndex) (graph : UsageGraph) (ref : ImportRef) :
    (∃ target, Joins index ref ref.source target ∧
      (addImport index graph ref).outgoing = (graph.addEdge ref.source target).outgoing) ∨
    ((∀ source target, ¬ Joins index ref source target) ∧
      (addImport index graph ref).outgoing = graph.outgoing) := by
  unfold addImport
  split
  · next external =>
    refine Or.inr ⟨fun source target joins => ?_, rfl⟩
    exact absurd (external.symm.trans joins.2.1) (by simp)
  · next target found =>
    split
    · next excluded =>
      refine Or.inr ⟨fun source other joins => ?_, rfl⟩
      obtain rfl : target = other := Option.some.inj (found.symm.trans joins.2.1)
      exact joins.2.2.1 (by simpa using excluded)
    · next included =>
      split
      · next unknown =>
        refine Or.inr ⟨fun source other joins => ?_, rfl⟩
        obtain rfl : target = other := Option.some.inj (found.symm.trans joins.2.1)
        obtain ⟨file, known⟩ := joins.2.2.2
        exact absurd known (by simp [unknown])
      · next file known =>
        exact Or.inl ⟨target, ⟨rfl, found, by simpa using included, file, known⟩, foldl_use _ _ _⟩

theorem Built.addImport {graph : UsageGraph} (built : graph.Built) (index : SourceIndex)
    (ref : ImportRef) : (UsageGraph.addImport index graph ref).Built := by
  unfold UsageGraph.addImport
  split
  · exact built
  · split
    · exact built.addBoundary ref
    · split
      · exact built
      · exact (built.addEdge _ _).foldl_use _ _

theorem mem_successors_addImport (index : SourceIndex) (graph : UsageGraph) (ref : ImportRef)
    (source target : String) :
    target ∈ (addImport index graph ref).successors source ↔
      target ∈ graph.successors source ∨ Joins index ref source target := by
  rcases addImport_cases index graph ref with ⟨added, joins, same⟩ | ⟨none, same⟩
  · rw [successors, same, ← successors, mem_successors_addEdge]
    refine or_congr_right ⟨?_, ?_⟩
    · rintro ⟨rfl, rfl⟩
      exact joins
    · rintro ⟨rfl, led, -⟩
      exact ⟨rfl, Option.some.inj (led.symm.trans joins.2.1)⟩
  · rw [successors, same, ← successors]
    exact ⟨Or.inl, fun either => either.elim id fun joins => absurd joins (none source target)⟩

theorem mem_files_addImport (index : SourceIndex) (graph : UsageGraph) (ref : ImportRef)
    (tested : String) :
    tested ∈ (addImport index graph ref).files ↔
      tested ∈ graph.files ∨
        ∃ source target, Joins index ref source target ∧ (tested = source ∨ tested = target) := by
  rcases addImport_cases index graph ref with ⟨added, joins, same⟩ | ⟨none, same⟩
  · rw [files, same, ← files, mem_files_addEdge]
    constructor
    · rintro (first | second | old)
      · exact Or.inr ⟨_, _, joins, Or.inl first⟩
      · exact Or.inr ⟨_, _, joins, Or.inr second⟩
      · exact Or.inl old
    · rintro (old | ⟨source, target, other, ends⟩)
      · exact Or.inr (Or.inr old)
      · obtain rfl : added = target := Option.some.inj (joins.2.1.symm.trans other.2.1)
        exact ends.elim (fun first => Or.inl (first.trans other.1.symm))
          fun second => Or.inr (Or.inl second)
  · rw [files, same, ← files]
    refine ⟨Or.inl, fun either => either.elim id ?_⟩
    rintro ⟨source, target, joins, -⟩
    exact absurd joins (none source target)

theorem Built.foldl_addImport (index : SourceIndex) (refs : List ImportRef) {graph : UsageGraph}
    (built : graph.Built) : (refs.foldl (UsageGraph.addImport index) graph).Built := by
  induction refs generalizing graph with
  | nil => exact built
  | cons ref rest inductionHypothesis => exact inductionHypothesis (built.addImport index ref)

theorem mem_successors_foldl_addImport (index : SourceIndex) (refs : List ImportRef)
    (graph : UsageGraph) (source target : String) :
    target ∈ (refs.foldl (addImport index) graph).successors source ↔
      target ∈ graph.successors source ∨ ∃ ref ∈ refs, Joins index ref source target := by
  induction refs generalizing graph with
  | nil => simp
  | cons ref rest inductionHypothesis =>
    rw [List.foldl_cons, inductionHypothesis, mem_successors_addImport]
    simp only [List.mem_cons, exists_eq_or_imp, or_assoc]

theorem mem_files_foldl_addImport (index : SourceIndex) (refs : List ImportRef)
    (graph : UsageGraph) (tested : String) :
    tested ∈ (refs.foldl (addImport index) graph).files ↔
      tested ∈ graph.files ∨ ∃ ref ∈ refs,
        ∃ source target, Joins index ref source target ∧ (tested = source ∨ tested = target) := by
  induction refs generalizing graph with
  | nil => simp
  | cons ref rest inductionHypothesis =>
    rw [List.foldl_cons, inductionHypothesis, mem_files_addImport]
    simp only [List.mem_cons, exists_eq_or_imp, or_assoc]

end References

/-- The graph of an index is built by operations. -/
theorem ofIndex_built (index : SourceIndex) : (ofIndex index).Built :=
  (Built.empty.foldl_addSource index.files.values).foldl_addImport index _

/-- The edges of the graph of a labelled index are its imports. -/
theorem mem_successors_ofIndex (labelled : index.Labelled) (source target : String) :
    target ∈ (ofIndex index).successors source ↔ Imports index source target := by
  have start : (index.files.values.foldl addSource empty).successors source = [] := by
    rw [successors_foldl_addSource]
    rfl
  simp only [ofIndex, mem_successors_foldl_addImport, start, List.not_mem_nil, false_or,
    List.mem_flatMap, mem_values_iff]
  constructor
  · rintro ⟨ref, ⟨file, ⟨path, stored⟩, listed⟩, same, led, -, known⟩
    obtain rfl : path = source := (labelled.imported path file stored ref listed).symm.trans same
    exact ⟨file, stored, ref, listed, led, known⟩
  · rintro ⟨file, stored, ref, listed, led, found, known⟩
    exact ⟨ref, ⟨file, ⟨source, stored⟩, listed⟩,
      labelled.imported source file stored ref listed, led,
      labelled.apart target found known, found, known⟩

/-- An import is a path of the graph. -/
theorem reaches_of_import (consistent : index.Consistent) {source target : String}
    (edge : Imports index source target) : (ofIndex index).Reaches source target :=
  Relation.ReflTransGen.tail Relation.ReflTransGen.refl
    ((mem_successors_ofIndex consistent.labelled source target).mpr edge)

/-- The nodes of the graph of a labelled index are its files. -/
theorem mem_files_ofIndex (labelled : index.Labelled) (path : String) :
    path ∈ (ofIndex index).files ↔ ∃ file, index.file? path = some file := by
  have own : ∀ file ∈ index.files.values, ∀ symbol ∈ file.exports, symbol.file = file.path := by
    intro file listed symbol present
    obtain ⟨place, stored⟩ := (mem_values_iff index file).mp listed
    exact (labelled.exported place file stored symbol present).trans
      (labelled.keyed place file stored).symm
  have sources : path ∈ (index.files.values.foldl addSource empty).files ↔
      ∃ file, index.file? path = some file := by
    rw [mem_files_foldl_addSource _ own]
    simp only [mem_values_iff]
    constructor
    · rintro (absent | ⟨file, ⟨place, stored⟩, same⟩)
      · exact absurd absent List.not_mem_nil
      · obtain rfl : place = path := (labelled.keyed place file stored).symm.trans same
        exact ⟨file, stored⟩
    · rintro ⟨file, stored⟩
      exact Or.inr ⟨file, ⟨path, stored⟩, labelled.keyed path file stored⟩
  rw [ofIndex, mem_files_foldl_addImport, sources]
  refine ⟨fun either => either.elim id ?_, Or.inl⟩
  rintro ⟨ref, listed, source, target, joins, ends⟩
  obtain ⟨file, inside, present⟩ := List.mem_flatMap.mp listed
  obtain ⟨place, stored⟩ := (mem_values_iff index file).mp inside
  rcases ends with rfl | rfl
  · obtain rfl : place = path :=
      (labelled.imported place file stored ref present).symm.trans joins.1
    exact ⟨file, stored⟩
  · exact joins.2.2.2

end UsageGraph

end FeatureLayout
