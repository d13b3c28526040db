import FeatureLayout.Text.Slice
import FeatureLayout.Text.Word

/-!
# Search patterns

A pattern describes stretches of text: character classes and runs of them, sequences, choices in
order of preference, optional parts, named captures, and tests of the surroundings. Several
stretches may fit at one place; `successes` lists them in order of preference, where a run prefers
to be long, an optional part prefers to be present, and a choice prefers its first branch.

A search walks the text from left to right, takes the preferred stretch at the first place that has
one, and goes on behind it.
-/

namespace FeatureLayout

open Text

/-- A pattern whose captures are named by `κ`. -/
inductive Pattern (κ : Type) where
  /-- Nothing at all. -/
  | nothing
  /-- One character of a class. -/
  | one (holds : Char → Bool)
  /-- A run of characters of a class, possibly empty, long ones first. -/
  | run (holds : Char → Bool)
  /-- One pattern after another. -/
  | seq (first second : Pattern κ)
  /-- A choice, the first branch preferred. -/
  | either (first second : Pattern κ)
  /-- A pattern whose stretch is remembered under a name. -/
  | capture (name : κ) (inner : Pattern κ)
  /-- The empty stretch after a character that passes a test. -/
  | after (holds : Char → Bool)
  /-- The empty stretch that does not follow a character that passes a test. -/
  | notAfter (holds : Char → Bool)
  /-- The empty stretch where no stretch of a pattern starts. -/
  | notBefore (inner : Pattern κ)
  /-- The empty stretch between a word character and something else. -/
  | wordEdge
  /-- The empty stretch at the end of a line or of the text. -/
  | lineEnd

/-- A place in a text: the character before it, the characters after it, and its offset. -/
structure Cursor where
  before : Option Char
  ahead : List Char
  offset : Nat

/-- A remembered stretch of text. -/
structure Captured (κ : Type) where
  name : κ
  span : Span
  text : List Char

/-- A cursor reached by a pattern, with the stretches remembered on the way. -/
structure Reached (κ : Type) where
  cursor : Cursor
  captured : List (Captured κ)

/-- A stretch found by a search. -/
structure Match (κ : Type) where
  span : Span
  text : List Char
  captured : List (Captured κ)

namespace Cursor

/-- The start of a text. -/
def start (text : List Char) : Cursor := ⟨none, text, 0⟩

/-- The places that a run of a class leads to, shortest run first. -/
def runFrom (holds : Char → Bool) : Option Char → Nat → List Char → List Cursor
  | before, offset, [] => [⟨before, [], offset⟩]
  | before, offset, c :: rest =>
    ⟨before, c :: rest, offset⟩ :: if holds c then runFrom holds (some c) (offset + 1) rest else []

/-- Whether exactly one neighbour of the place is a word character. -/
def atWordEdge (cursor : Cursor) : Bool := cursor.before.any isWord != cursor.ahead.head?.any isWord

/-- Whether a line, or the text, ends at the place. -/
def atLineEnd (cursor : Cursor) : Bool :=
  match cursor.ahead with
  | [] => true
  | c :: _ => c == '\n'

end Cursor

namespace Pattern

variable {κ : Type}

/-- Every way to fit a pattern at a place, in order of preference. -/
def successes : Pattern κ → Reached κ → List (Reached κ)
  | .nothing, reached => [reached]
  | .one holds, ⟨⟨_, ahead, offset⟩, captured⟩ =>
    match ahead with
    | [] => []
    | c :: rest => if holds c then [⟨⟨some c, rest, offset + 1⟩, captured⟩] else []
  | .run holds, ⟨⟨before, ahead, offset⟩, captured⟩ =>
    (Cursor.runFrom holds before offset ahead).reverse.map fun cursor => ⟨cursor, captured⟩
  | .seq first second, reached => (first.successes reached).flatMap second.successes
  | .either first second, reached => first.successes reached ++ second.successes reached
  | .capture name inner, reached =>
    (inner.successes reached).map fun found =>
      let span : Span := ⟨reached.cursor.offset, found.cursor.offset⟩
      ⟨found.cursor,
        ⟨name, span, reached.cursor.ahead.take (span.stop - span.start)⟩ :: found.captured⟩
  | .after holds, reached => if reached.cursor.before.any holds then [reached] else []
  | .notAfter holds, reached => if reached.cursor.before.any holds then [] else [reached]
  | .notBefore inner, reached => if (inner.successes reached).isEmpty then [reached] else []
  | .wordEdge, reached => if reached.cursor.atWordEdge then [reached] else []
  | .lineEnd, reached => if reached.cursor.atLineEnd then [reached] else []

/-- One pattern after another, for a list of patterns. -/
def sequence : List (Pattern κ) → Pattern κ
  | [] => .nothing
  | [last] => last
  | first :: rest => .seq first (sequence rest)

/-- A choice among patterns, earlier ones preferred. -/
def choice : List (Pattern κ) → Pattern κ
  | [] => .nothing
  | [last] => last
  | first :: rest => .either first (choice rest)

/-- A pattern that may be left out, preferred present. -/
def optional (inner : Pattern κ) : Pattern κ := .either inner .nothing

/-- A run of at least one character of a class. -/
def someRun (holds : Char → Bool) : Pattern κ := .seq (.one holds) (.run holds)

/-- A fixed text. -/
def exactly (text : String) : Pattern κ := sequence (text.toList.map fun c => .one (· == c))

/-- The matches that start at a place, in order of preference. -/
def matchesAt (pattern : Pattern κ) (cursor : Cursor) : List (Match κ) :=
  (pattern.successes ⟨cursor, []⟩).map fun reached =>
    ⟨⟨cursor.offset, reached.cursor.offset⟩,
      cursor.ahead.take (reached.cursor.offset - cursor.offset), reached.captured⟩

/-- The matches that a search reports at one place, and the offset where it goes on: the preferred
match, and after an empty one also the first match at the place that is not empty. -/
def report (pattern : Pattern κ) (cursor : Cursor) : List (Match κ) × Nat :=
  let found := pattern.matchesAt cursor
  match found with
  | [] => ([], cursor.offset)
  | preferred :: _ =>
    if preferred.span.stop = cursor.offset then
      match found.find? (fun candidate => candidate.span.stop != cursor.offset) with
      | some longer => ([preferred, longer], longer.span.stop)
      | none => ([preferred], cursor.offset)
    else ([preferred], preferred.span.stop)

/-- Searches on from a place; offsets before `resume` lie inside the last match. -/
def searchFrom (pattern : Pattern κ) : Option Char → Nat → Nat → List Char → List (Match κ)
  | before, offset, resume, [] =>
    if offset < resume then [] else (pattern.report ⟨before, [], offset⟩).1
  | before, offset, resume, c :: rest =>
    if offset < resume then pattern.searchFrom (some c) (offset + 1) resume rest
    else
      let (found, resume) := pattern.report ⟨before, c :: rest, offset⟩
      found ++ pattern.searchFrom (some c) (offset + 1) resume rest

/-- All matches of a search through a text, from left to right. -/
def search (pattern : Pattern κ) (text : List Char) : List (Match κ) :=
  pattern.searchFrom none 0 0 text

/-- The preferred match at the start of a text. -/
def matchStart? (pattern : Pattern κ) (text : List Char) : Option (Match κ) :=
  (pattern.matchesAt (Cursor.start text)).head?

end Pattern

namespace Match

variable {κ : Type} [DecidableEq κ]

/-- What was captured under a name. -/
def captured? (found : Match κ) (name : κ) : Option (Captured κ) :=
  found.captured.find? fun captured => captured.name = name

/-- The text captured under a name; empty when nothing was. -/
def textOf (found : Match κ) (name : κ) : List Char :=
  ((found.captured? name).map (·.text)).getD []

end Match

end FeatureLayout
