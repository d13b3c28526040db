/-!
# Glob patterns

A glob is matched against a whole text: `*` stands for any run of characters, `?` for one character,
and a bracket for one character of a set, or outside of it when the set starts with `!`. No
character is special to the wildcards, so `*` also crosses slashes.

A bracket may list ranges. A hyphen is literal at the front of the set, at its end, and directly
after a range; a range whose ends are out of order is dropped together with its ends. A bracket that
is never closed stands for itself.
-/

namespace FeatureLayout.Text

/-- One position of a glob. -/
inductive GlobItem where
  | anyRun
  | one (holds : Char → Bool)

namespace Glob

/-- Splits a set at the hyphens that make ranges. `current` is the piece being read, last character
first, and `needed` the number of characters it still takes before a hyphen can end it. -/
def pieces : List Char → Nat → List Char → List (List Char)
  | current, _, [] => [current.reverse]
  | current, needed, c :: rest =>
    if c = '-' ∧ needed = 0 then current.reverse :: pieces [] 2 rest
    else pieces (c :: current) (needed - 1) rest

/-- A hyphen that ends the set belongs to the piece before it. -/
def closePieces : List (List Char) → List (List Char)
  | [] => []
  | [piece, []] => [piece ++ ['-']]
  | piece :: rest => piece :: closePieces rest

/-- Drops the ends of ranges that are out of order, from the last range to the first. -/
def dropEmptyRanges : List (List Char) → List (List Char)
  | [] => []
  | piece :: rest =>
    match dropEmptyRanges rest with
    | [] => [piece]
    | next :: others =>
      match piece.getLast?, next.head? with
      | some first, some last =>
        if last < first then (piece.dropLast ++ next.tail) :: others else piece :: next :: others
      | _, _ => piece :: next :: others

/-- Whether a character lies in one of the ranges between neighbouring pieces. -/
def inRange (c : Char) : List (List Char) → Bool
  | first :: second :: rest =>
    (match first.getLast?, second.head? with
      | some low, some high => low ≤ c && c ≤ high
      | _, _ => false) || inRange c (second :: rest)
  | _ => false

/-- Whether a character belongs to a set given as pieces: as a listed character or in a range. -/
def inPieces (c : Char) (set : List (List Char)) : Bool :=
  set.any (·.contains c) || inRange c set

/-- The test that the contents of a bracket stand for. -/
def bracketTest (contents : List Char) : Char → Bool :=
  let set :=
    if contents.contains '-' then
      let reserved := if contents.head? = some '!' then 2 else 1
      dropEmptyRanges (closePieces (pieces [] reserved contents))
    else [contents]
  match set with
  | [[]] => fun _ => false
  | ('!' :: first) :: others => fun c => !inPieces c (first :: others)
  | _ => fun c => inPieces c set

/-- Splits what follows an opening bracket at the bracket that closes it. The first character of a
set, after `!` if there is one, does not close it. -/
def splitBracket (text : List Char) : Option (List Char × List Char) :=
  let guarded :=
    match text with
    | '!' :: ']' :: _ => 2
    | '!' :: _ => 1
    | ']' :: _ => 1
    | _ => 0
  let inside := (text.drop guarded).takeWhile (· != ']')
  match (text.drop guarded).dropWhile (· != ']') with
  | [] => none
  | _ :: rest => some (text.take guarded ++ inside, rest)

/-- Reads the positions of a glob; `fuel` bounds their number. -/
def itemsFrom : Nat → List Char → List GlobItem
  | 0, _ => []
  | _, [] => []
  | fuel + 1, '*' :: rest => .anyRun :: itemsFrom fuel rest
  | fuel + 1, '?' :: rest => .one (fun _ => true) :: itemsFrom fuel rest
  | fuel + 1, '[' :: rest =>
    match splitBracket rest with
    | none => .one (· == '[') :: itemsFrom fuel rest
    | some (contents, after) => .one (bracketTest contents) :: itemsFrom fuel after
  | fuel + 1, c :: rest => .one (· == c) :: itemsFrom fuel rest

/-- The positions of a glob. -/
def items (glob : String) : List GlobItem := itemsFrom glob.toList.length glob.toList

/-- Turns a match that ends at some offset into matches that end there and at all later ones. -/
def spread : Bool → List Bool → List Bool
  | _, [] => []
  | before, ends :: rest => (before || ends) :: spread (before || ends) rest

/-- The offsets at which matches end after one more position, given those at which they ended before
it. There is one flag for each offset, from the front of the text to its end. -/
def advance (text : List Char) (ends : List Bool) : GlobItem → List Bool
  | .anyRun => spread false ends
  | .one holds => false :: List.zipWith (fun c ends => ends && holds c) text ends

/-- Whether positions match a whole text. The offsets at which a match of the first positions ends
are kept all at once, so that the work does not grow with the number of ways to match. -/
def matchesItems (items : List GlobItem) (text : List Char) : Bool :=
  (items.foldl (advance text) (true :: text.map fun _ => false)).getLast? == some true

end Glob

/-- Whether a glob matches a whole text. -/
def globMatches (glob text : String) : Bool := Glob.matchesItems (Glob.items glob) text.toList

example : globMatches "a*[!c-e]?" "a/b.fx" = true := by decide

example : globMatches "*b*b*b" "abab" = false := by decide

end FeatureLayout.Text
