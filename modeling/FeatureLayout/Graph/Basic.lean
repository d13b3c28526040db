import FeatureLayout.Graph.Search
import FeatureLayout.Index.Basic
import FeatureLayout.Text.Order

/-!
# Usage graphs

A usage graph has the files of a source tree as nodes and an edge from each file to every file it
imports. It also knows which file defines which symbol, which files use a symbol, and which imports
lead into excluded folders; the latter are no edges.

Edges are stored in both directions, and each once.
-/

namespace FeatureLayout

open Text

/-- References between files. -/
structure UsageGraph where
  /-- The files that each file imports. -/
  outgoing : Ledger String (List String)
  /-- The files that import each file. -/
  incoming : Ledger String (List String)
  /-- The defined symbols by qualified name. -/
  symbols : Ledger String Symbol
  /-- The uses of symbols: a qualified name and the file that uses it. -/
  uses : List (String × String)
  /-- The imports into excluded folders, by the importing file. -/
  boundary : Ledger String (List ImportRef)

namespace UsageGraph

/-- The graph without files. -/
def empty : UsageGraph := ⟨.empty, .empty, .empty, [], .empty⟩

/-- Adds a file. -/
def addFile (graph : UsageGraph) (path : String) : UsageGraph :=
  { graph with
    outgoing := graph.outgoing.putNew path []
    incoming := graph.incoming.putNew path [] }

/-- Records that a file defines a symbol. -/
def define (graph : UsageGraph) (symbol : Symbol) : UsageGraph :=
  let graph := graph.addFile symbol.file
  { graph with symbols := graph.symbols.put symbol.qualified symbol }

/-- Records that a file uses a symbol. -/
def use (graph : UsageGraph) (qualified user : String) : UsageGraph :=
  { graph with uses := graph.uses ++ [(qualified, user)] }

/-- The files that a file imports. -/
def successors (graph : UsageGraph) (path : String) : List String := graph.outgoing.next path

/-- The files that import a file. -/
def predecessors (graph : UsageGraph) (path : String) : List String := graph.incoming.next path

/-- Adds both ends and the edge from one file to another, unless it is there. -/
def addEdge (graph : UsageGraph) (source target : String) : UsageGraph :=
  let graph := (graph.addFile source).addFile target
  if (graph.successors source).contains target then graph
  else
    { graph with
      outgoing := graph.outgoing.modify source [] (· ++ [target])
      incoming := graph.incoming.modify target [] (· ++ [source]) }

/-- Records an import into an excluded folder. -/
def addBoundary (graph : UsageGraph) (ref : ImportRef) : UsageGraph :=
  { graph with boundary := graph.boundary.modify ref.source [] (· ++ [ref]) }

/-- The files, in the order in which they were added. -/
def files (graph : UsageGraph) : List String := graph.outgoing.keys

/-- Whether a file is in the graph. -/
def contains (graph : UsageGraph) (path : String) : Bool := graph.outgoing.contains path

/-- The imports of a file into excluded folders. -/
def boundaryRefs (graph : UsageGraph) (path : String) : List ImportRef :=
  (graph.boundary.find? path).getD []

/-- The symbols that a file defines. -/
def symbolsOf (graph : UsageGraph) (path : String) : List Symbol :=
  graph.symbols.values.filter (·.file == path)

/-- The files that use a symbol, sorted. -/
def usersOf (graph : UsageGraph) (qualified : String) : List String :=
  sortedDistinct ((graph.uses.filter (·.1 == qualified)).map (·.2))

/-- The number of files. -/
def nodeCount (graph : UsageGraph) : Nat := graph.outgoing.size

/-- The number of edges. -/
def edgeCount (graph : UsageGraph) : Nat :=
  graph.outgoing.values.foldl (fun count successors => count + successors.length) 0

/-- The files reached from those of a list that are in the graph, these included. -/
def reach (graph : UsageGraph) (starts : List String) : List String :=
  graph.outgoing.reach (starts.filter graph.contains)

/-- The size of a graph in one line. -/
def summary (graph : UsageGraph) : String :=
  "UsageGraph(nodes=" ++ toString graph.nodeCount ++ ", edges=" ++ toString graph.edgeCount ++ ")"

end UsageGraph

end FeatureLayout
