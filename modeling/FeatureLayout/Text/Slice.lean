/-!
# Offsets, slices and lines

Texts are measured in characters. An offset counts the characters before a place, a span is a pair
of offsets with its end excluded, and lines are counted from one.
-/

namespace FeatureLayout.Text

/-- A stretch of text: from the offset `start` up to, and not including, the offset `stop`. -/
structure Span where
  start : Nat
  stop : Nat
  deriving DecidableEq, Repr, Inhabited

/-- The characters between two offsets; offsets past the end mean the end. -/
def slice (text : List Char) (start stop : Nat) : List Char := (text.take stop).drop start

/-- The characters of a span. -/
def Span.of (span : Span) (text : List Char) : List Char := slice text span.start span.stop

/-- The order of spans: by start, then by stop. -/
def Span.atMost (first second : Span) : Bool :=
  first.start < second.start || (first.start == second.start && first.stop ≤ second.stop)

/-- The number, from one, of the line that an offset lies on. -/
def lineAt (text : List Char) (offset : Nat) : Nat := (text.take offset).count '\n' + 1

/-- Whether one text occurs in another. -/
def occursIn (part : List Char) : List Char → Bool
  | [] => part.isEmpty
  | c :: rest => part.isPrefixOf (c :: rest) || occursIn part rest

/-- The characters after the first line break. -/
def afterLine : List Char → Option (List Char)
  | [] => none
  | c :: rest => if c == '\n' then some rest else afterLine rest

theorem length_slice (text : List Char) (start stop : Nat) :
    (slice text start stop).length = min stop text.length - start := by
  simp [slice]

end FeatureLayout.Text
