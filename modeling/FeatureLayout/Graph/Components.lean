import FeatureLayout.Graph.Basic

/-!
# Import cycles

Files that import each other, directly or through others, form one component. The search for
components walks depth first, numbers the files in the order in which it meets them, and keeps those
whose component is not complete on a stack. A visit answers the lowest number on the stack that the
file is known to lead back to; when that is the file's own number, the file and all that lie above
it on the stack form a component. Each component is complete after every other component it imports
from.

The condensation has one node for each component. Its edges lead from later to earlier components
only, so it has no cycles.
-/

namespace FeatureLayout

open Text

/-- The progress of a search for components. -/
structure ComponentSearch where
  /-- The number of each file met, in the order in which they were met. -/
  numbers : Ledger String Nat
  /-- The files met whose component is not complete, latest first. -/
  stack : List String
  /-- The complete components. -/
  components : List (List String)

namespace ComponentSearch

/-- Nothing met yet. -/
def empty : ComponentSearch := ⟨.empty, [], []⟩

/-- A file is met for the first time. -/
def enter (search : ComponentSearch) (path : String) : ComponentSearch :=
  { search with
    numbers := search.numbers.put path search.numbers.size
    stack := path :: search.stack }

/-- Completes the component of a file: all that lie above it on the stack, and the file. -/
def cut (search : ComponentSearch) (path : String) : ComponentSearch :=
  { search with
    stack := (search.stack.dropWhile (· != path)).tail
    components :=
      search.components ++ [sorted (search.stack.takeWhile (· != path) ++ [path])] }

/-- Goes on with a successor, given how files are visited: one that is new is visited, and one on
the stack may lower the number that is known to be led back to. -/
def follow (visit : ComponentSearch → String → ComponentSearch × Nat)
    (progress : ComponentSearch × Nat) (successor : String) : ComponentSearch × Nat :=
  match progress.1.numbers.find? successor with
  | none => ((visit progress.1 successor).1, min progress.2 (visit progress.1 successor).2)
  | some number =>
    if progress.1.stack.contains successor then (progress.1, min progress.2 number) else progress

/-- Visits a file that is new, with everything behind it down to a depth, and answers the lowest
number that it leads back to. -/
def visit (next : String → List String) : Nat → ComponentSearch → String → ComponentSearch × Nat
  | 0, search, _ => (search, 0)
  | depth + 1, search, path =>
    let number := search.numbers.size
    let (search, lowest) :=
      (next path).foldl (follow (visit next depth)) (search.enter path, number)
    (if lowest = number then search.cut path else search, lowest)

/-- Visits a file unless it has been met. -/
def start (next : String → List String) (depth : Nat) (search : ComponentSearch) (path : String) :
    ComponentSearch :=
  if search.numbers.contains path then search else (visit next depth search path).1

end ComponentSearch

namespace UsageGraph

/-- The components, each after those it imports from. -/
def components (graph : UsageGraph) : List (List String) :=
  let start := ComponentSearch.start graph.successors (graph.nodeCount + 1)
  (graph.files.foldl start .empty).components

/-- The components of two files and more. -/
def cycles (graph : UsageGraph) : List (List String) :=
  graph.components.filter fun members => 1 < members.length

end UsageGraph

/-- A usage graph with every component collapsed into one node. Nodes are numbered from zero in the
order of the components. -/
structure Condensation where
  members : List (List String)
  /-- The nodes that each node has an edge to. -/
  successors : List (List Nat)
  deriving Repr

namespace Condensation

/-- The node of a file. -/
def nodeIn (members : List (List String)) (path : String) : Option Nat :=
  members.findIdx? (·.contains path)

/-- The node of a file. -/
def node? (condensation : Condensation) (path : String) : Option Nat :=
  nodeIn condensation.members path

/-- The condensation of a graph. -/
def ofGraph (graph : UsageGraph) : Condensation :=
  let members := graph.components
  let targets (entry : List String × Nat) :=
    let reached := (entry.1.flatMap graph.successors).filterMap (nodeIn members)
    (reached.filter (· != entry.2)).eraseDups
  ⟨members, members.zipIdx.map targets⟩

/-- The files of a node. -/
def filesOf (condensation : Condensation) (node : Nat) : List String :=
  (condensation.members[node]?).getD []

/-- The nodes that a node has an edge to. -/
def successorsOf (condensation : Condensation) (node : Nat) : List Nat :=
  (condensation.successors[node]?).getD []

/-- Whether a node stands for several files. -/
def isCyclic (condensation : Condensation) (node : Nat) : Bool :=
  1 < (condensation.filesOf node).length

/-- The nodes reached from a list of nodes, these included. -/
def reach (condensation : Condensation) (starts : List Nat) : List Nat :=
  (Walk.visit condensation.successorsOf (condensation.members.length + 1) .empty starts).finished

/-- The files of the nodes that stand for several, in the order of the nodes. -/
def cycles (condensation : Condensation) : List (List String) :=
  ((List.range condensation.members.length).filter condensation.isCyclic).map condensation.filesOf

end Condensation

end FeatureLayout
