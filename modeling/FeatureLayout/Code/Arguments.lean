import FeatureLayout.Code.Literal
import FeatureLayout.Text.Slice
import FeatureLayout.Text.Blank

/-!
# Call arguments

The arguments of a call are the stretches between the commas at the depth of its own parenthesis,
without white space at their ends; an empty stretch is no argument. All three kinds of brackets
count, whatever closes them, and literals are skipped as a whole.
-/

namespace FeatureLayout.Code

open Text

/-- Why the arguments of a call cannot be listed. -/
inductive CallProblem where
  /-- No bracket closes the parenthesis at this offset. -/
  | unbalanced (start : Nat)
  /-- A template inside the call is never closed. -/
  | openTemplate
  deriving DecidableEq, Repr

/-- The arguments of a call and the offset of the bracket that closes it. -/
structure Arguments where
  spans : List Span
  close : Nat
  deriving DecidableEq, Repr

/-- Whether a character opens a bracket. -/
def isOpening (c : Char) : Bool := c == '(' || c == '[' || c == '{'

/-- Whether a character closes a bracket. -/
def isClosing (c : Char) : Bool := c == ')' || c == ']' || c == '}'

namespace Arguments

/-- The argument that was read last character first up to an offset, without white space at its
ends; none when nothing is left. -/
def argument? (read : List Char) (stop : Nat) : Option Span :=
  let back := read.takeWhile isBlank
  let body := read.dropWhile isBlank
  let front := body.reverse.takeWhile isBlank
  if body.isEmpty then none
  else some ⟨stop - read.length + front.length, stop - back.length⟩

/-- Reads arguments. `read` holds the characters of the current one, last first, and `depth` counts
the open brackets, the call's own included. -/
def scanFrom (start : Nat) : Reading → Int → List Char → Nat → List Char →
    Except CallProblem Arguments
  | reading, _, _, _, [] =>
    if reading.opensTemplate then .error .openTemplate else .error (.unbalanced start)
  | .inside quote escaped, depth, read, offset, c :: rest =>
    scanFrom start ((Reading.inside quote escaped).next c) depth (c :: read) (offset + 1) rest
  | .outside, depth, read, offset, c :: rest =>
    if isOpening c then scanFrom start .outside (depth + 1) (c :: read) (offset + 1) rest
    else if isClosing c then
      if depth = 1 then .ok ⟨(argument? read offset).toList, offset⟩
      else scanFrom start .outside (depth - 1) (c :: read) (offset + 1) rest
    else if c = ',' ∧ depth = 1 then
      (scanFrom start .outside depth [] (offset + 1) rest).map fun arguments =>
        { arguments with spans := (argument? read offset).toList ++ arguments.spans }
    else scanFrom start (Reading.outside.next c) depth (c :: read) (offset + 1) rest

end Arguments

/-- The change of depth that a character makes. -/
def depthChange (c : Char) : Int := if isOpening c then 1 else if isClosing c then -1 else 0

/-- The arguments of the call whose parenthesis stands at an offset. -/
def scanArguments (text : List Char) (start : Nat) : Except CallProblem Arguments :=
  match text.drop start with
  | [] => .error (.unbalanced start)
  | c :: rest =>
    Arguments.scanFrom start (Reading.outside.next c) (depthChange c) [] (start + 1) rest

example : scanArguments "f( a , ')', [b, c])".toList 1 =
    .ok ⟨[⟨3, 4⟩, ⟨7, 10⟩, ⟨12, 18⟩], 18⟩ := rfl

end FeatureLayout.Code
