import FeatureLayout.Text.Blank
import FeatureLayout.Text.Width

/-!
# Wrapped lines

A line that is wider than its place is broken in front of words. Blanks belong to the word before
them, and those at the front of the line to its first word. What is still too wide gives up blanks
at its end, and then is cut and ends with dots.
-/

namespace FeatureLayout.Wrap

open Text

/-- A part of a line that a tab ends, filled up to a multiple of eight columns, and the columns
after it. A tab takes one column at least. -/
def tabStop (column : Nat) (part : List Char) : List Char × Nat :=
  let reached := column + width (part ++ [' '])
  let missing := (8 - reached % 8) % 8
  (part ++ List.replicate (missing + 1) ' ', reached + missing)

/-- The parts of a line between its tabs, with blanks in the place of the tabs. -/
def expandParts : Nat → List (List Char) → List Char
  | _, [] => []
  | _, [part] => part
  | column, part :: rest =>
    let (filled, reached) := tabStop column part
    filled ++ expandParts reached rest

/-- A line with blanks in the place of its tabs. -/
def expandTabs (line : List Char) : List Char := expandParts 0 (fields '\t' line)

/-- The words of a line with their blanks. -/
def blankedWords (line : List Char) : List (List Char) :=
  match line.splitBy fun c next => !(isBlank c && !isBlank next) with
  | blanks :: word :: rest =>
    if blanks.all isBlank then (blanks ++ word) :: rest else blanks :: word :: rest
  | short => short

/-- Breaks words into lines, given the line that was begun and its columns. A word fits when its
columns without the blanks behind it do. -/
def breakFrom (columns : Nat) (line : List Char) (used : Nat) :
    List (List Char) → List (List Char)
  | [] => [line]
  | word :: rest =>
    if line.isEmpty || used + width (trimBack word) ≤ columns then
      breakFrom columns (line ++ word) (used + width word) rest
    else line :: breakFrom columns word (width word) rest

/-- A line without blanks at its end, as far as it has more characters than there are columns. -/
def trimExcess (columns : Nat) (line : List Char) : List Char :=
  let blanks := (line.reverse.takeWhile isBlank).length
  line.take (line.length - min blanks (line.length - columns))

/-- The longest start of a text that fits into a number of columns; `start` was read of it. -/
def fittingFrom (columns : Nat) (start : List Char) : List Char → List Char
  | [] => start
  | c :: rest =>
    if width (start ++ [c]) ≤ columns then fittingFrom columns (start ++ [c]) rest else start

/-- A text filled up with blanks to a number of columns. -/
def fill (columns : Nat) (text : List Char) : List Char :=
  text ++ List.replicate (columns - width text) ' '

/-- A text in exactly so many columns. -/
def fit (columns : Nat) (text : List Char) : List Char :=
  if width text ≤ columns then fill columns text
  else fill (columns - 1) (fittingFrom (columns - 1) [] text) ++ ['…']

/-- The lines of a text in a number of columns. -/
def lines (columns : Nat) (text : List Char) : List (List Char) :=
  (fields '\n' text).flatMap fun line =>
    (breakFrom columns [] 0 (blankedWords (expandTabs line))).map
      fun part => fit columns (trimExcess columns part)

example : expandTabs "ab\tc\t".toList = "ab      c       ".toList := by decide

example : (lines 5 "a bc def\nghijkl".toList).map String.ofList = ["a bc ", "def  ", "ghij…"] := by
  cbv

end FeatureLayout.Wrap
