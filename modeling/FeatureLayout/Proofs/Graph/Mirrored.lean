import FeatureLayout.Proofs.Graph.Operations
import Mathlib

/-!
# Edges in both directions

A usage graph stores each edge twice, with its source and with its target, in two tables that are
written apart. However a graph came about, the second table is the first one read backwards: they
list the same files in the same order, and exchanging them gives a graph that operations build as
well. What is known of the files that a file imports so holds of the files that import it.

The files and the edges of a graph are those that were named when it was built, in whatever order
and however often. Imports into excluded folders name none of them.
-/

namespace FeatureLayout

namespace Ledger

section Keys

variable {κ ν : Type} [DecidableEq κ] (ledger : Ledger κ ν) {key : κ}

/-- Providing for a key that is there changes nothing. -/
theorem putNew_of_mem (listed : key ∈ ledger.keys) (start : ν) :
    ledger.putNew key start = ledger :=
  if_pos ((contains_iff ledger key).mpr listed)

/-- A key that is provided for comes last, unless it is there. -/
theorem keys_putNew (key : κ) (start : ν) :
    (ledger.putNew key start).keys =
      if key ∈ ledger.keys then ledger.keys else ledger.keys ++ [key] := by
  by_cases listed : key ∈ ledger.keys
  · rw [putNew_of_mem ledger listed, if_pos listed]
  · rw [putNew, if_neg (mt (contains_iff ledger key).mp listed), keys_put]

/-- Changing what is stored under a key that is there leaves the keys. -/
theorem keys_modify_of_mem (listed : key ∈ ledger.keys) (start : ν) (change : ν → ν) :
    (ledger.modify key start change).keys = ledger.keys := by
  rw [modify, keys_put, if_pos listed]

end Keys

section Links

variable {κ : Type} [DecidableEq κ] (edges : Ledger κ (List κ))

/-- How many neighbours all nodes have together. -/
def links : Nat := (edges.values.map List.length).sum

/-- A write exchanges the neighbours that are counted for its node. -/
theorem links_put (key : κ) (neighbours : List κ) :
    (edges.put key neighbours).links + (edges.next key).length =
      edges.links + neighbours.length := by
  have written : ∀ entries : List (κ × List κ),
      (((write key neighbours entries).map Prod.snd).map List.length).sum +
          ((lookup key entries).getD []).length =
        ((entries.map Prod.snd).map List.length).sum + neighbours.length := by
    intro entries
    induction entries with
    | nil => simp [write, lookup]
    | cons head rest inductionHypothesis =>
      obtain ⟨stored, old⟩ := head
      by_cases same : stored = key
      · simp only [write, lookup, same, if_true, List.map_cons, List.sum_cons, Option.getD_some]
        omega
      · simp only [write, lookup, same, if_false, List.map_cons, List.sum_cons]
        omega
  exact written edges.entries

/-- Providing for a node gives it no neighbours. -/
theorem links_putNew (key : κ) : (edges.putNew key []).links = edges.links := by
  by_cases listed : key ∈ edges.keys
  · rw [putNew_of_mem edges listed]
  · have counted := links_put edges key []
    have none : edges.next key = [] := by
      rw [next, (find?_eq_none_iff edges key).mpr listed, Option.getD_none]
    rw [putNew, if_neg (mt (contains_iff edges key).mp listed)]
    simpa [none] using counted

/-- Adding a neighbour to a node adds one. -/
theorem links_modify (key added : κ) :
    (edges.modify key [] (· ++ [added])).links = edges.links + 1 := by
  have counted := links_put edges key (edges.next key ++ [added])
  rw [List.length_append, List.length_singleton] at counted
  have whole : edges.modify key [] (· ++ [added]) = edges.put key (edges.next key ++ [added]) := rfl
  rw [whole]
  omega

end Links

end Ledger

namespace UsageGraph

variable {graph : UsageGraph}

/-- The graph with its edges turned around. -/
def reverse (graph : UsageGraph) : UsageGraph :=
  { graph with outgoing := graph.incoming, incoming := graph.outgoing }

@[simp] theorem successors_reverse (path : String) :
    graph.reverse.successors path = graph.predecessors path := rfl

@[simp] theorem files_reverse : graph.reverse.files = graph.incoming.keys := rfl

@[simp] theorem predecessors_addFile (path tested : String) :
    (graph.addFile path).predecessors tested = graph.predecessors tested :=
  Ledger.next_putNew graph.incoming path tested

/-- Files that are there are not added again. -/
theorem addFile_of_mem (graph : UsageGraph) {path : String} (listed : path ∈ graph.files)
    (also : path ∈ graph.incoming.keys) : graph.addFile path = graph := by
  rw [addFile, Ledger.putNew_of_mem _ listed, Ledger.putNew_of_mem _ also]

/-- A file that is added is added to both tables. -/
theorem keys_incoming_addFile (same : graph.incoming.keys = graph.files) (path : String) :
    (graph.addFile path).incoming.keys = (graph.addFile path).files := by
  simp only [addFile, files, Ledger.keys_putNew] at same ⊢
  rw [same]

/-- The ends of an edge are there before it is entered. -/
theorem ends_mem_files (graph : UsageGraph) (source target : String) :
    source ∈ ((graph.addFile source).addFile target).files ∧
      target ∈ ((graph.addFile source).addFile target).files := by
  simp [mem_files_addFile]

/-- An edge that is new is entered with its source and with its target. -/
theorem addEdge_of_not_mem {source target : String} (absent : target ∉ graph.successors source) :
    graph.addEdge source target =
      { (graph.addFile source).addFile target with
        outgoing := ((graph.addFile source).addFile target).outgoing.modify source []
          (· ++ [target])
        incoming := ((graph.addFile source).addFile target).incoming.modify target []
          (· ++ [source]) } := by
  rw [addEdge_eq, if_neg absent]

/-- The number of edges is what the files import together. -/
theorem edgeCount_eq (graph : UsageGraph) : graph.edgeCount = graph.outgoing.links := by
  have counted : ∀ (lists : List (List String)) (start : Nat),
      lists.foldl (fun count successors => count + successors.length) start =
        start + (lists.map List.length).sum := by
    intro lists
    induction lists with
    | nil => exact fun start => rfl
    | cons first rest inductionHypothesis =>
      intro start
      rw [List.foldl_cons, inductionHypothesis, List.map_cons, List.sum_cons, Nat.add_assoc]
  rw [edgeCount, counted, Nat.zero_add, Ledger.links]

namespace Built

/-- Both tables of a built graph list the same files in the same order.

Induct on the operations: both tables provide for a file alike, and an edge is entered between
files that are provided for. -/
theorem keys_incoming (built : graph.Built) : graph.incoming.keys = graph.files := by
  induction built with
  | empty => rfl
  | addFile path built inductionHypothesis => exact keys_incoming_addFile inductionHypothesis path
  | define symbol built inductionHypothesis =>
    exact keys_incoming_addFile inductionHypothesis symbol.file
  | use qualified user built inductionHypothesis => exact inductionHypothesis
  | @addEdge graph source target built inductionHypothesis =>
    have provided := keys_incoming_addFile (keys_incoming_addFile inductionHypothesis source) target
    obtain ⟨first, second⟩ := ends_mem_files graph source target
    by_cases present : target ∈ graph.successors source
    · rwa [addEdge_eq, if_pos present]
    · rw [addEdge_of_not_mem present, files, Ledger.keys_modify_of_mem _ (provided ▸ second),
        Ledger.keys_modify_of_mem _ first, provided, files]
  | addBoundary ref built inductionHypothesis => exact inductionHypothesis

/-- In a built graph, one file is imported by another exactly when that one imports it.

Induct on the operations: an edge is entered in both tables or, when the first one has it, in none
of them. -/
theorem mem_predecessors_iff (built : graph.Built) {source target : String} :
    source ∈ graph.predecessors target ↔ target ∈ graph.successors source := by
  induction built with
  | empty => exact iff_of_false List.not_mem_nil List.not_mem_nil
  | addFile path built inductionHypothesis =>
    rw [predecessors_addFile, successors_addFile, inductionHypothesis]
  | define symbol built inductionHypothesis =>
    rw [successors_define, ← inductionHypothesis]
    exact iff_of_eq (congrArg (source ∈ ·) (predecessors_addFile symbol.file target))
  | use qualified user built inductionHypothesis => exact inductionHypothesis
  | @addEdge graph first second built inductionHypothesis =>
    rw [mem_successors_addEdge, ← inductionHypothesis]
    have old : ((graph.addFile first).addFile second).predecessors target =
        graph.predecessors target := by
      rw [predecessors_addFile, predecessors_addFile]
    by_cases present : second ∈ graph.successors first
    · rw [addEdge_eq, if_pos present, old]
      refine ⟨Or.inl, fun either => either.elim id ?_⟩
      rintro ⟨rfl, rfl⟩
      exact inductionHypothesis.mpr present
    · rw [addEdge_of_not_mem present]
      have changed := Ledger.next_modify ((graph.addFile first).addFile second).incoming second
        target (· ++ [first])
      simp only [predecessors] at old ⊢
      rw [changed, old]
      by_cases same : second = target
      · simp [same]
      · simp [same, Ne.symm same]
  | addBoundary ref built inductionHypothesis => exact inductionHypothesis

/-- Turning the edges of a built graph around gives a built graph.

Induct on the operations. A new edge from one file to another is the edge from the other to the one
in the reverse graph, once both files are there: they come in the order in which the edge of the
graph names them. -/
theorem reverse (built : graph.Built) : graph.reverse.Built := by
  induction built with
  | empty => exact .empty
  | addFile path built inductionHypothesis => exact inductionHypothesis.addFile path
  | define symbol built inductionHypothesis => exact inductionHypothesis.define symbol
  | use qualified user built inductionHypothesis => exact inductionHypothesis.use qualified user
  | @addEdge graph source target built inductionHypothesis =>
    have ends := (inductionHypothesis.addFile source).addFile target
    by_cases present : target ∈ graph.successors source
    · rw [addEdge_eq, if_pos present]
      exact ends
    · have provided := (built.addFile source).addFile target
      obtain ⟨first, second⟩ := ends_mem_files graph source target
      have absent : source ∉ ((graph.reverse.addFile source).addFile target).successors target := by
        rw [successors_addFile, successors_addFile, successors_reverse]
        exact mt built.mem_predecessors_iff.mp present
      have turned := ends.addEdge target source
      have provides {path : String}
          (listed : path ∈ ((graph.addFile source).addFile target).files) :
          ((graph.reverse.addFile source).addFile target).addFile path =
            (graph.reverse.addFile source).addFile target := by
        have also := listed
        rw [← provided.keys_incoming] at also
        exact addFile_of_mem _ also listed
      rw [addEdge_of_not_mem absent, provides second, provides first] at turned
      rw [addEdge_of_not_mem present]
      exact turned
  | addBoundary ref built inductionHypothesis => exact inductionHypothesis.addBoundary ref

/-- The files are imported as often as they import.

Induct on the operations: a new edge adds one to both counts. -/
theorem links_incoming (built : graph.Built) : graph.incoming.links = graph.outgoing.links := by
  induction built with
  | empty => rfl
  | addFile path built inductionHypothesis =>
    exact (Ledger.links_putNew _ path).trans
      (inductionHypothesis.trans (Ledger.links_putNew _ path).symm)
  | define symbol built inductionHypothesis =>
    exact (Ledger.links_putNew _ symbol.file).trans
      (inductionHypothesis.trans (Ledger.links_putNew _ symbol.file).symm)
  | use qualified user built inductionHypothesis => exact inductionHypothesis
  | @addEdge graph source target built inductionHypothesis =>
    have ends : ((graph.addFile source).addFile target).incoming.links =
        ((graph.addFile source).addFile target).outgoing.links := by
      simp only [UsageGraph.addFile, Ledger.links_putNew, inductionHypothesis]
    by_cases present : target ∈ graph.successors source
    · rwa [addEdge_eq, if_pos present]
    · rw [addEdge_of_not_mem present, Ledger.links_modify, Ledger.links_modify, ends]
  | addBoundary ref built inductionHypothesis => exact inductionHypothesis

end Built

/-- The two tables of a graph tell of the same files and of the same edges, each of them once. -/
structure Mirrored (graph : UsageGraph) : Prop where
  keys : graph.incoming.keys = graph.outgoing.keys
  transposed : ∀ source target,
    source ∈ graph.predecessors target ↔ target ∈ graph.successors source
  successors_nodup : ∀ path, (graph.successors path).Nodup
  predecessors_nodup : ∀ path, (graph.predecessors path).Nodup
  successor_mem : ∀ source, ∀ target ∈ graph.successors source, target ∈ graph.files
  predecessor_mem : ∀ target, ∀ source ∈ graph.predecessors target, source ∈ graph.files
  counted : graph.edgeCount = (graph.incoming.values.map List.length).sum

/-- The tables of a built graph mirror each other. What holds of predecessors is what holds of
successors in the reverse graph. -/
theorem Built.mirrored (built : graph.Built) : graph.Mirrored where
  keys := built.keys_incoming
  transposed _ _ := built.mem_predecessors_iff
  successors_nodup := built.successors_nodup
  predecessors_nodup := built.reverse.successors_nodup
  successor_mem _ _ := built.successor_mem
  predecessor_mem target source adjacent := by
    have listed : source ∈ graph.reverse.files := built.reverse.successor_mem adjacent
    rwa [files_reverse, built.keys_incoming] at listed
  counted := by
    rw [edgeCount_eq, ← built.links_incoming, Ledger.links]

/-- One change of a graph. -/
inductive Change where
  | addFile (path : String)
  | addEdge (source target : String)
  | define (symbol : Symbol)
  | use (qualified user : String)
  | addBoundary (ref : ImportRef)

namespace Change

/-- The graph after a change. -/
def apply (graph : UsageGraph) : Change → UsageGraph
  | .addFile path => graph.addFile path
  | .addEdge source target => graph.addEdge source target
  | .define symbol => graph.define symbol
  | .use qualified user => graph.use qualified user
  | .addBoundary ref => graph.addBoundary ref

/-- The files that a change adds. -/
def files : Change → List String
  | .addFile path => [path]
  | .addEdge source target => [source, target]
  | .define symbol => [symbol.file]
  | .use _ _ | .addBoundary _ => []

/-- Whether a change records an import into an excluded folder. -/
def isBoundary : Change → Bool
  | .addBoundary _ => true
  | _ => false

theorem apply_built (built : graph.Built) (change : Change) : (change.apply graph).Built := by
  cases change with
  | addFile path => exact built.addFile path
  | addEdge source target => exact built.addEdge source target
  | define symbol => exact built.define symbol
  | use qualified user => exact built.use qualified user
  | addBoundary ref => exact built.addBoundary ref

theorem mem_files_apply (change : Change) (path : String) :
    path ∈ (change.apply graph).files ↔ path ∈ graph.files ∨ path ∈ change.files := by
  cases change with
  | addFile added =>
    rw [apply, mem_files_addFile, files, List.mem_singleton, or_comm]
  | addEdge source target =>
    rw [apply, mem_files_addEdge, files, List.mem_cons, List.mem_singleton, ← or_assoc, or_comm]
  | define symbol =>
    rw [apply, mem_files_define, files, List.mem_singleton, or_comm]
  | use qualified user => simp [apply, files]
  | addBoundary ref => simp [apply, files]

theorem mem_successors_apply (change : Change) (source target : String) :
    target ∈ (change.apply graph).successors source ↔
      target ∈ graph.successors source ∨ change = .addEdge source target := by
  cases change with
  | addFile path => simp [apply]
  | addEdge first second =>
    rw [apply, mem_successors_addEdge, Change.addEdge.injEq, eq_comm (a := source),
      eq_comm (a := target)]
  | define symbol => simp [apply]
  | use qualified user => simp [apply]
  | addBoundary ref => simp [apply]

/-- What is recorded of excluded folders plays no part in other changes. -/
theorem apply_withBoundary (records : Ledger String (List ImportRef)) {change : Change}
    (different : change.isBoundary = false) :
    change.apply { graph with boundary := records } =
      { change.apply graph with boundary := records } := by
  cases change with
  | addEdge source target =>
    let other : UsageGraph := { graph with boundary := records }
    by_cases present : target ∈ graph.successors source
    · have kept : target ∈ other.successors source := present
      rw [apply, apply, addEdge_eq, addEdge_eq, if_pos present, if_pos kept]
      rfl
    · have kept : target ∉ other.successors source := present
      rw [apply, apply, addEdge_of_not_mem present, addEdge_of_not_mem kept]
      rfl
  | addFile _ | define _ | use _ _ => rfl
  | addBoundary ref => cases different

end Change

/-- The graph that changes lead to, one after the other. -/
def ofChanges (changes : List Change) : UsageGraph := changes.foldl Change.apply empty

section Changes

variable (changes : List Change)

theorem built_foldl_apply (built : graph.Built) : (changes.foldl Change.apply graph).Built := by
  induction changes generalizing graph with
  | nil => exact built
  | cons change rest inductionHypothesis => exact inductionHypothesis (change.apply_built built)

theorem mem_files_foldl_apply (path : String) :
    path ∈ (changes.foldl Change.apply graph).files ↔
      path ∈ graph.files ∨ ∃ change ∈ changes, path ∈ change.files := by
  induction changes generalizing graph with
  | nil => simp
  | cons change rest inductionHypothesis =>
    rw [List.foldl_cons, inductionHypothesis, Change.mem_files_apply, or_assoc,
      List.exists_mem_cons_iff]

theorem mem_successors_foldl_apply (source target : String) :
    target ∈ (changes.foldl Change.apply graph).successors source ↔
      target ∈ graph.successors source ∨ .addEdge source target ∈ changes := by
  induction changes generalizing graph with
  | nil => simp
  | cons change rest inductionHypothesis =>
    rw [List.foldl_cons, inductionHypothesis, Change.mem_successors_apply, or_assoc, List.mem_cons,
      eq_comm (a := change)]

/-- Leaving out the records of excluded folders leaves out nothing else. -/
theorem foldl_apply_filter (graph : UsageGraph) (records : Ledger String (List ImportRef)) :
    (changes.filter (!·.isBoundary)).foldl Change.apply { graph with boundary := records } =
      { changes.foldl Change.apply graph with boundary := records } := by
  induction changes generalizing graph with
  | nil => rfl
  | cons change rest inductionHypothesis =>
    cases kind : change.isBoundary with
    | true =>
      rw [List.filter_cons_of_neg (by simp [kind]), List.foldl_cons, ← inductionHypothesis]
      cases change with
      | addBoundary ref => rfl
      | addFile _ | addEdge _ _ | define _ | use _ _ => cases kind
    | false =>
      rw [List.filter_cons_of_pos (by simp [kind]), List.foldl_cons, List.foldl_cons,
        Change.apply_withBoundary records kind, inductionHypothesis]

/-- Whatever changes lead to a graph, its two tables mirror each other, its files and edges are
those that the changes name, and it is the graph without its records of excluded folders that the
other changes lead to. -/
theorem ofChanges_mirrored :
    (ofChanges changes).Mirrored ∧
    (∀ path, path ∈ (ofChanges changes).files ↔ ∃ change ∈ changes, path ∈ change.files) ∧
    (∀ source target, target ∈ (ofChanges changes).successors source ↔
      .addEdge source target ∈ changes) ∧
    ofChanges (changes.filter (!·.isBoundary)) = { ofChanges changes with boundary := .empty } := by
  refine ⟨?mirrored, fun path => ?files, fun source target => ?edges, ?boundary⟩
  case mirrored => exact (built_foldl_apply changes .empty).mirrored
  case files =>
    rw [ofChanges, mem_files_foldl_apply]
    exact or_iff_right List.not_mem_nil
  case edges =>
    rw [ofChanges, mem_successors_foldl_apply]
    exact or_iff_right List.not_mem_nil
  case boundary => exact foldl_apply_filter changes empty .empty

end Changes

end UsageGraph

end FeatureLayout
