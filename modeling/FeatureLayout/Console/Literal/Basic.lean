import FeatureLayout.Console.Literal.Token
import FeatureLayout.Text.Blank
import FeatureLayout.Text.Word

/-!
# Literals

A literal is a number, a text, a constant, or a tuple, a set or a table of literals. A number may
have one sign, and a real number may have an imaginary one added to it or taken from it; texts side
by side are one text. The items of sets and the keys of tables are not sets or tables themselves,
nor tuples that hold some.

`isLiteral` reads tokens one after another and keeps the brackets that are open, innermost first.
The parameters of a tag that names a handler have to be a literal, perhaps behind the handler's
name.
-/

namespace FeatureLayout.Literal

open Text

/-- What matters of a literal for the literal around it. -/
inductive Shape where
  /-- A real number without a sign. -/
  | real
  | signedReal
  /-- An imaginary number without a sign. -/
  | imaginary
  /-- Any other literal that may be a key. -/
  | plain
  /-- A literal that may be no key. -/
  | keyless
  deriving DecidableEq, Repr

/-- How far an item is read. -/
inductive Part where
  | nothing
  /-- A sign, which a number has to follow. -/
  | sign
  | value (shape : Shape)
  | text (bytes : Bool)
  /-- A real number and a sign, which an imaginary number has to follow. -/
  | sum
  /-- The word for empty sets, which empty brackets have to follow. -/
  | setName
  deriving DecidableEq, Repr

/-- What stands around items. -/
inductive Bracket where
  /-- The whole literal. -/
  | whole
  | round
  | curly
  /-- The brackets behind the word for empty sets. -/
  | call
  deriving DecidableEq, Repr

/-- A bracket that is open, and what was read in it. -/
structure Frame where
  bracket : Bracket
  part : Part
  /-- The items before the last comma. -/
  items : List Shape
  /-- Whether the key of a table's entry was read. -/
  keyed : Bool
  /-- Whether curly brackets hold a table; open until the first item or key is read. -/
  table : Option Bool

namespace Frame

/-- A bracket that was just opened. -/
def start (bracket : Bracket) : Frame := ⟨bracket, .nothing, [], false, none⟩

/-- Adds a value to the item that is being read. -/
def take (frame : Frame) (shape : Shape) : Option Frame :=
  match frame.part, shape with
  | .nothing, shape => some { frame with part := .value shape }
  | .sign, .real => some { frame with part := .value .signedReal }
  | .sign, .imaginary | .sum, .imaginary => some { frame with part := .value .plain }
  | _, _ => none

/-- Adds a sign to the item that is being read. -/
def takeSign (frame : Frame) : Option Frame :=
  match frame.part with
  | .nothing => some { frame with part := .sign }
  | .value .real | .value .signedReal => some { frame with part := .sum }
  | _ => none

/-- Adds a quoted text to the item that is being read. -/
def takeText (frame : Frame) (bytes : Bool) : Option Frame :=
  match frame.part with
  | .nothing => some { frame with part := .text bytes }
  | .text before => if before = bytes then some frame else none
  | _ => none

/-- The shape of the item that was read, if it is complete. -/
def shape? (frame : Frame) : Option Shape :=
  match frame.part with
  | .value shape => some shape
  | .text _ => some .plain
  | _ => none

/-- Reads the key of a table's entry. -/
def finishKey (frame : Frame) : Option Frame :=
  match frame.bracket, frame.shape? with
  | .curly, some shape =>
    if shape = .keyless ∨ frame.keyed ∨ frame.table = some false then none
    else some { frame with part := .nothing, keyed := true, table := some true }
  | _, _ => none

/-- Closes the item that was read. -/
def finishItem (frame : Frame) : Option Frame := do
  let shape ← frame.shape?
  let done := { frame with part := .nothing, items := shape :: frame.items, keyed := false }
  match frame.bracket with
  | .call => none
  | .whole | .round => some done
  | .curly =>
    if frame.keyed then some done
    else if shape = .keyless ∨ frame.table = some true then none
    else some { done with table := some false }

/-- The shape of a tuple. -/
def tupleShape (items : List Shape) : Shape := if items.contains .keyless then .keyless else .plain

/-- The shape of what stands in brackets that are closed. A single item in round brackets and
without a comma is the item itself. -/
def close (frame : Frame) : Option Shape :=
  match frame.part with
  | .nothing =>
    if frame.keyed then none
    else
      match frame.bracket with
      | .round => some (tupleShape frame.items)
      | _ => some .keyless
  | _ => do
    let done ← frame.finishItem
    match frame.bracket, frame.items with
    | .round, [] => frame.shape?
    | .round, _ => some (tupleShape done.items)
    | _, _ => some .keyless

end Frame

/-- Whether a bracket is closed by a curly one. -/
def Bracket.closesBy (bracket : Bracket) (curly : Bool) : Bool :=
  match bracket with
  | .whole => false
  | .round | .call => !curly
  | .curly => curly

/-- The most brackets that may be open at once. -/
def mostOpen : Nat := 200

/-- Reads one token, given the open brackets. -/
def step (token : Token) : List Frame → Option (List Frame)
  | [] => none
  | frame :: outer =>
    match token with
    | .real => (frame.take .real).map (· :: outer)
    | .imaginary => (frame.take .imaginary).map (· :: outer)
    | .constant => (frame.take .plain).map (· :: outer)
    | .text bytes => (frame.takeText bytes).map (· :: outer)
    | .sign => frame.takeSign.map (· :: outer)
    | .setName =>
      if frame.part = .nothing then some ({ frame with part := .setName } :: outer) else none
    | .comma => frame.finishItem.map (· :: outer)
    | .colon => frame.finishKey.map (· :: outer)
    | .opening curly =>
      if mostOpen ≤ outer.length then none
      else if frame.part = .setName then
        if curly then none
        else some (.start .call :: { frame with part := .nothing } :: outer)
      else some (.start (if curly then .curly else .round) :: frame :: outer)
    | .closing curly =>
      if frame.bracket.closesBy curly then do
        let shape ← frame.close
        match outer with
        | [] => none
        | around :: outer => (around.take shape).map (· :: outer)
      else none

/-- Reads tokens, given the open brackets. -/
def run : List Frame → List Token → Option (List Frame)
  | frames, [] => some frames
  | frames, token :: rest => (step token frames).bind fun frames => run frames rest

/-- Whether a text is a literal. -/
def isLiteral (text : List Char) : Bool :=
  match (tokens? text).bind (run [.start .whole]) with
  | some [frame] => frame.shape?.isSome || (frame.part == .nothing && !frame.items.isEmpty)
  | _ => false

/-- The literal in the parameters of a handler, which stands in round brackets behind the name of
the handler. A name alone has no parameters, and all else is no name. -/
def ofParameters (parameters : List Char) : List Char :=
  let given := trim parameters
  let name := given.takeWhile fun c => isWord c || c == '.'
  match given.drop name.length with
  | [] => "()".toList
  | '(' :: rest => if rest.getLast? == some ')' && !rest.contains '\n' then '(' :: rest else given
  | _ => given

example : isLiteral "(1, -2.5e3 + 4j, 'it' \"s\", \x7b'a': (None,)\x7d)".toList = true := by
  decide

example : isLiteral "\x7b(1, \x7b\x7d)\x7d".toList = false := by decide

example : isLiteral "f(1)".toList = false := by decide

example : ofParameters " on.click(1) ".toList = "(1)".toList := by decide

end FeatureLayout.Literal
