/-!
# Console markup

Printed texts may hold tags in square brackets that set a style, and others that end it. On a
console without colours nothing is left of a tag. A bracket starts a tag only when a small letter or
one of `#`, `/`, `@` follows and no other bracket comes before the closing one. Backslashes in front
of a tag escape it: every two stand for one, and one that is left over makes the tag plain text.

`pieces` splits a text at its tags, and `escape` makes plain text of all of them.
-/

namespace FeatureLayout

/-- Why a marked text cannot be shown. -/
inductive MarkupProblem where
  /-- A tag ends a style that is not open. -/
  | notOpen
  /-- The parameters of a handler are no literal. -/
  | badParameters
  /-- A part of a colour is empty where a number should be. -/
  | noNumber
  deriving DecidableEq, Repr

namespace Markup

/-- Whether a tag may begin with a character. -/
def startsTag (c : Char) : Bool := ('a' ≤ c && c ≤ 'z') || c == '#' || c == '/' || c == '@'

/-- The tag at the start of a text, without its brackets, and the text after it. -/
def tag? : List Char → Option (List Char × List Char)
  | '[' :: first :: rest =>
    let inside (c : Char) := c != '[' && c != ']'
    match rest.dropWhile inside with
    | ']' :: after =>
      if startsTag first then some (first :: rest.takeWhile inside, after) else none
    | _ => none
  | _ => none

/-- A part of a marked text. -/
inductive Piece where
  | plain (text : List Char)
  | tag (name : List Char)
  deriving DecidableEq, Repr

/-- Plain text that was read last character first. -/
def plainOf (read : List Char) : List Piece := if read.isEmpty then [] else [.plain read.reverse]

/-- The parts of a text with a tag behind backslashes. -/
def taggedPieces (slashes : Nat) (name : List Char) : List Piece :=
  plainOf (List.replicate (slashes / 2) '\\') ++
    [if slashes % 2 = 1 then .plain ('[' :: name ++ [']']) else .tag name]

/-- Splits a text at its tags. `read` holds the plain text before it, last character first, and
`fuel` bounds the number of steps. -/
def piecesFrom : Nat → List Char → List Char → List Piece
  | 0, read, _ => plainOf read
  | _, read, [] => plainOf read
  | fuel + 1, read, c :: rest =>
    let slashes := (c :: rest).takeWhile (· == '\\')
    let behind := (c :: rest).dropWhile (· == '\\')
    match tag? behind with
    | some (name, after) =>
      plainOf read ++ taggedPieces slashes.length name ++ piecesFrom fuel [] after
    | none =>
      if slashes.isEmpty then piecesFrom fuel (c :: read) rest
      else piecesFrom fuel (slashes ++ read) behind

/-- The parts of a marked text. -/
def pieces (text : List Char) : List Piece := piecesFrom (text.length + 1) [] text

/-- Plain text with brackets that a backslash escapes. -/
def unescaped : List Char → List Char
  | '\\' :: '[' :: rest => '[' :: unescaped rest
  | c :: rest => c :: unescaped rest
  | [] => []

/-- Puts backslashes in front of all tags; `fuel` bounds the number of steps. -/
def escapeFrom : Nat → List Char → List Char
  | 0, text => text
  | _, [] => []
  | fuel + 1, c :: rest =>
    let slashes := (c :: rest).takeWhile (· == '\\')
    let behind := (c :: rest).dropWhile (· == '\\')
    match tag? behind with
    | some (name, after) =>
      slashes ++ slashes ++ '\\' :: '[' :: name ++ ']' :: escapeFrom fuel after
    | none =>
      if slashes.isEmpty then c :: escapeFrom fuel rest else slashes ++ escapeFrom fuel behind

/-- A text that shows as it is. A single backslash at its end is doubled, so that it escapes nothing
that follows. -/
def escape (text : String) : String :=
  let escaped := escapeFrom (text.toList.length + 1) text.toList
  let slashes := escaped.reverse.takeWhile (· == '\\')
  String.ofList (if slashes.length = 1 then escaped ++ ['\\'] else escaped)

/-- A text in a style. -/
def styled (style text : String) : String := "[" ++ style ++ "]" ++ text ++ "[/]"

example : pieces "a[b]c\\[/b]".toList =
    [.plain "a".toList, .tag "b".toList, .plain "c".toList, .plain "[/b]".toList] := by
  decide

example : escape "a[b]\\" = "a\\[b]\\\\" := by decide

end Markup

end FeatureLayout
