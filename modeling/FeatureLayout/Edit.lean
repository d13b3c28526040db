import FeatureLayout.Text.Order
import FeatureLayout.Text.Slice

/-!
# Text edits

An edit replaces a stretch of a text; one whose stretch is empty inserts. Edits are sorted by place
and applied from the last to the first, so that the offsets of the others stay valid. Edits that
overlap are refused.
-/

namespace FeatureLayout

open Text

/-- Replace a stretch of a text. -/
structure Edit where
  span : Span
  replacement : String
  deriving DecidableEq, Repr, Inhabited

/-- Two edits of which the later one starts before the earlier one ends. -/
structure Overlap where
  first : Span
  second : Span
  deriving DecidableEq, Repr

namespace Edit

/-- The order of edits: by start, by stop, then by replacement. -/
def atMost (first second : Edit) : Bool :=
  if first.span = second.span then Text.atMost first.replacement second.replacement
  else first.span.atMost second.span

/-- Edits in the order of their places. -/
def ordered (edits : List Edit) : List Edit := edits.mergeSort atMost

/-- The first two neighbours that overlap. -/
def overlap? : List Edit → Option Overlap
  | first :: second :: rest =>
    if second.span.start < first.span.stop then some ⟨first.span, second.span⟩
    else overlap? (second :: rest)
  | _ => none

/-- A text with one stretch replaced. -/
def apply (edit : Edit) (text : List Char) : List Char :=
  text.take edit.span.start ++ edit.replacement.toList ++ text.drop edit.span.stop

/-- A text with edits applied, which may be given in any order. -/
def applyAll (edits : List Edit) (text : List Char) : Except Overlap (List Char) :=
  match overlap? (ordered edits) with
  | some overlap => .error overlap
  | none => .ok ((ordered edits).foldr apply text)

end Edit

/-- How an overlap is described. -/
def Overlap.message (overlap : Overlap) : String :=
  let span (s : Span) := toString s.start ++ "-" ++ toString s.stop
  "Overlapping edits at " ++ span overlap.first ++ " and " ++ span overlap.second

end FeatureLayout
