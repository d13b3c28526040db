import FeatureLayout.Ledger

/-!
# Searching adjacency lists

`walk` visits everything that can be reached from a list of starts, depth first. It enters a node
when it first meets it and finishes it when all its neighbours are finished, so the order of
finishing puts a node behind what it leads to, as far as there are no cycles.

Along one path every node is entered once, so the number of nodes that have neighbours bounds the
depth.
-/

namespace FeatureLayout

variable {α : Type} [DecidableEq α]

/-- The progress of a depth-first walk. -/
structure Walk (α : Type) where
  /-- The nodes met so far, latest first. -/
  entered : List α
  /-- The nodes left for good, latest first. -/
  finished : List α
  deriving Repr

namespace Walk

/-- Nothing met yet. -/
def empty : Walk α := ⟨[], []⟩

/-- A node is met for the first time. -/
def enter (walk : Walk α) (node : α) : Walk α := { walk with entered := node :: walk.entered }

/-- All neighbours of a node have been visited. -/
def finish (walk : Walk α) (node : α) : Walk α := { walk with finished := node :: walk.finished }

/-- Visits the nodes of a list in order, each with everything behind it down to a depth. -/
def visit (next : α → List α) : Nat → Walk α → List α → Walk α
  | 0, walk, _ => walk
  | depth + 1, walk, nodes =>
    nodes.foldl
      (fun walk node =>
        if walk.entered.contains node then walk
        else (visit next depth (walk.enter node) (next node)).finish node)
      walk

end Walk

namespace Ledger

/-- The neighbours of a node, none for an unknown one. -/
def next (edges : Ledger α (List α)) (node : α) : List α := (edges.find? node).getD []

/-- The nodes reached from a list of starts, the starts included, in the order of finishing. -/
def finishing (edges : Ledger α (List α)) (starts : List α) : List α :=
  (Walk.visit edges.next (edges.size + 1) .empty starts).finished.reverse

/-- The nodes reached from a list of starts, the starts included. -/
def reach (edges : Ledger α (List α)) (starts : List α) : List α := edges.finishing starts

end Ledger

end FeatureLayout
