import FeatureLayout.Graph.Basic

/-!
# Import chains

A chain follows imports from one file to another. `shortestChain?` searches breadth first: it keeps
one chain to every file met so far, extends the chains of one length to those of the next, and stops
at the first chain that arrives. Of several shortest chains it finds the one whose files were met
first.
-/

namespace FeatureLayout

namespace Chain

/-- Chains of one length, last file first, and all files met so far. -/
structure Level where
  met : List String
  chains : List (List String)

/-- Extends a chain by a file unless the file has been met. -/
def extendBy (chain : List String) (level : Level) (path : String) : Level :=
  if level.met.contains path then level
  else ⟨path :: level.met, level.chains ++ [path :: chain]⟩

/-- Extends a chain in every possible way. -/
def extend (next : String → List String) (level : Level) (chain : List String) : Level :=
  match chain with
  | [] => level
  | last :: _ => (next last).foldl (extendBy chain) level

/-- The chains that are longer by one file. -/
def following (next : String → List String) (level : Level) : Level :=
  level.chains.foldl (extend next) ⟨level.met, []⟩

/-- The first chain that ends at a file, searched level by level. -/
def search (next : String → List String) (target : String) : Nat → Level → Option (List String)
  | 0, level => level.chains.find? (·.head? == some target)
  | steps + 1, level =>
    match level.chains.find? (·.head? == some target) with
    | some chain => some chain
    | none => search next target steps (following next level)

end Chain

/-- A chain in one line. -/
def Chain.summary (chain : List String) : String :=
  "ImportChain(" ++ Text.joinWith " -> " chain ++ ")"

/-- A shortest chain of imports from one file of a graph to another. -/
def UsageGraph.shortestChain? (graph : UsageGraph) (source target : String) :
    Option (List String) :=
  if graph.contains source && graph.contains target then
    (Chain.search graph.successors target graph.nodeCount ⟨[source], [[source]]⟩).map List.reverse
  else none

end FeatureLayout
