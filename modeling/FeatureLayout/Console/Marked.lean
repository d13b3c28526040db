import FeatureLayout.Console.Emoji
import FeatureLayout.Console.Literal.Basic
import FeatureLayout.Console.Markup
import FeatureLayout.Console.Style

/-!
# Marked texts

What a marked text shows is its plain text, with pictures in the place of their names and without
the characters that control a terminal. Its tags have to make sense: a tag that ends a style by name
ends the one of that name that was opened last, and one without a name ends the last of all. Behind
a `=` a tag has parameters; those of a handler, whose name begins with `@`, have to be a literal.

A style that nothing means changes nothing. A colour that cannot be read as one stops the text.
-/

namespace FeatureLayout

open Text

/-- A tag that opens a style. -/
structure Tag where
  name : String
  /-- What follows the first `=`. -/
  parameters : Option (List Char)
  deriving DecidableEq, Repr

namespace Tag

/-- The name in a tag. -/
def nameOf (text : List Char) : List Char := text.takeWhile (· != '=')

/-- The style that a tag opens, by the normal form of its name. -/
def ofText (text : List Char) : Except StyleProblem Tag := do
  let name ← Style.normalForm (nameOf text)
  return ⟨name, (text.dropWhile (· != '=')).tail?⟩

/-- Whether a tag names a handler. -/
def isHandler (tag : Tag) : Bool := tag.name.toList.head? == some '@'

/-- Whether the parameters of a tag are a literal, if there are any. -/
def hasLiteral (tag : Tag) : Bool :=
  match tag.parameters with
  | none | some [] => true
  | some parameters => Literal.isLiteral (Literal.ofParameters parameters)

/-- The text of the style that a tag sets. -/
def style (tag : Tag) : List Char :=
  tag.name.toList ++ (tag.parameters.map (' ' :: ·)).getD []

end Tag

/-- How far a marked text is read. -/
structure Marked where
  /-- The plain text. -/
  text : List Char
  /-- The styles that are open, the last opened first. -/
  opened : List Tag
  /-- The styles that were ended. -/
  ended : List Tag

namespace Marked

/-- Whether a character controls a terminal and is never shown. -/
def isControl (c : Char) : Bool := [0x07, 0x08, 0x0b, 0x0c, 0x0d].contains c.toNat

/-- The style that a tag ends, given its text without the slash, and the other open styles. -/
def close (text : List Char) (opened : List Tag) : Except MarkupProblem (Tag × List Tag) := do
  match trim (Tag.nameOf text) with
  | [] =>
    match opened with
    | [] => .error .notOpen
    | tag :: rest => return (tag, rest)
  | name =>
    let normal ← (Style.normalForm name).mapError fun _ => .noNumber
    match opened.find? (·.name == normal) with
    | none => .error .notOpen
    | some tag => return (tag, opened.eraseP (·.name == normal))

/-- Reads one part of a marked text. -/
def read (marked : Marked) : Markup.Piece → Except MarkupProblem Marked
  | .plain text =>
    let shown := (Emoji.replaced (Markup.unescaped text)).filter (!isControl ·)
    return { marked with text := marked.text ++ shown }
  | .tag ('/' :: text) => do
    let (tag, opened) ← close text marked.opened
    if !tag.isHandler then return { marked with opened, ended := tag :: marked.ended }
    else if tag.hasLiteral then return { marked with opened }
    else .error .badParameters
  | .tag text => do
    let tag ← (Tag.ofText text).mapError fun _ => .noNumber
    return { marked with opened := tag :: marked.opened }

/-- Reads a marked text. -/
def ofText (text : String) : Except MarkupProblem Marked :=
  (Markup.pieces text.toList).foldlM read ⟨[], [], []⟩

/-- Checks that no style has a colour that cannot be read. -/
def checkStyles (marked : Marked) : Except MarkupProblem Unit :=
  if (marked.opened ++ marked.ended).any fun tag =>
      match Style.parse tag.style with
      | .error .noNumber => true
      | _ => false then
    .error .noNumber
  else .ok ()

/-- The plain text of a marked text. -/
def plain (text : String) : Except MarkupProblem (List Char) := do
  let marked ← ofText text
  checkStyles marked
  return marked.text

example : (plain "[b]1[/ BOLD ]:key:[/x]").toOption = none := by decide

example : (plain "[b]\\[i][@f=(1)]a[/][/bold]").toOption = some "[i]a".toList := by decide

end Marked

end FeatureLayout
