import FeatureLayout.Number.Decimal
import FeatureLayout.Text.Blank
import FeatureLayout.Text.Order
import FeatureLayout.Text.Quoted

/-!
# JSON documents

Reports and answers are JSON documents, written in ASCII: on one line, or with one member to a line
and two blanks for each level. Members keep the order in which they are given; `sortKeys` puts them
in the order of their keys.
-/

namespace FeatureLayout

open Text

/-- A JSON document. -/
inductive Json where
  | null
  | flag (set : Bool)
  | number (value : Int)
  | decimal (value : Binary64)
  | text (content : String)
  | array (items : List Json)
  | object (members : List (String × Json))
  deriving Repr, Inhabited

namespace Json

/-- An array of texts. -/
def texts (items : List String) : Json := .array (items.map .text)

/-- The escape of a character in ASCII: one unit of 16 bits, or two for the characters beyond. -/
def unitEscape (c : Char) : List Char :=
  let unit (code : Nat) := '\\' :: 'u' :: hex 4 code
  if c.toNat < 0x10000 then unit c.toNat
  else
    let above := c.toNat - 0x10000
    unit (0xd800 + above / 0x400) ++ unit (0xdc00 + above % 0x400)

/-- One character inside quotes. -/
def writtenChar (c : Char) : List Char :=
  if c = '"' ∨ c = '\\' then ['\\', c]
  else if c = '\n' then ['\\', 'n']
  else if c = '\r' then ['\\', 'r']
  else if c = '\t' then ['\\', 't']
  else if c.toNat = 0x0c then ['\\', 'f']
  else if c.toNat = 0x08 then ['\\', 'b']
  else if 0x20 ≤ c.toNat ∧ c.toNat < 0x7f then [c]
  else unitEscape c

/-- A text between double quotes. -/
def writtenText (content : String) : String :=
  String.ofList ('"' :: content.toList.flatMap writtenChar ++ ['"'])

/-- A decimal number; JSON has no such numbers as the last three, and they are written as names. -/
def writtenDecimal : Binary64 → String
  | .undefined => "NaN"
  | .infinite false => "Infinity"
  | .infinite true => "-Infinity"
  | value => value.shown

mutual

/-- A document on one line. -/
def line : Json → String
  | .null => "null"
  | .flag true => "true"
  | .flag false => "false"
  | .number value => toString value
  | .decimal value => writtenDecimal value
  | .text content => writtenText content
  | .array items => "[" ++ joinWith ", " (itemLines items) ++ "]"
  | .object members => "\x7b" ++ joinWith ", " (memberLines members) ++ "\x7d"

/-- Items, each on one line. -/
def itemLines : List Json → List String
  | [] => []
  | item :: rest => item.line :: itemLines rest

/-- Members, each on one line. -/
def memberLines : List (String × Json) → List String
  | [] => []
  | (key, value) :: rest => (writtenText key ++ ": " ++ value.line) :: memberLines rest

end

/-- A line break and the blanks of a level. -/
def newLine (level : Nat) : String := String.ofList ('\n' :: List.replicate (2 * level) ' ')

/-- Parts between brackets, each on a line of its own. -/
def bracketed (level : Nat) (opening closing : String) (parts : List String) : String :=
  if parts.isEmpty then opening ++ closing
  else
    let inner := newLine (level + 1)
    opening ++ inner ++ joinWith ("," ++ inner) parts ++ newLine level ++ closing

mutual

/-- A document whose members stand on lines of their own, below a level. -/
def indented (level : Nat) : Json → String
  | .null => "null"
  | .flag true => "true"
  | .flag false => "false"
  | .number value => toString value
  | .decimal value => writtenDecimal value
  | .text content => writtenText content
  | .array items => bracketed level "[" "]" (indentedItems (level + 1) items)
  | .object members => bracketed level "\x7b" "\x7d" (indentedMembers (level + 1) members)

/-- The items of an array at a level. -/
def indentedItems (level : Nat) : List Json → List String
  | [] => []
  | item :: rest => item.indented level :: indentedItems level rest

/-- The members of an object at a level. -/
def indentedMembers (level : Nat) : List (String × Json) → List String
  | [] => []
  | (key, value) :: rest =>
    (writtenText key ++ ": " ++ value.indented level) :: indentedMembers level rest

end

/-- A document with its members on lines of their own. -/
def pretty (document : Json) : String := document.indented 0

mutual

/-- A document with the members of all objects in the order of their keys. -/
def sortKeys : Json → Json
  | .array items => .array (sortItems items)
  | .object members => .object (sortedBy Prod.fst (sortMembers members))
  | document => document

/-- Items with sorted members. -/
def sortItems : List Json → List Json
  | [] => []
  | item :: rest => item.sortKeys :: sortItems rest

/-- Members whose values have sorted members. -/
def sortMembers : List (String × Json) → List (String × Json)
  | [] => []
  | (key, value) :: rest => (key, value.sortKeys) :: sortMembers rest

end

example : (object [("a", texts ["é"]), ("b", .array [])]).pretty =
    "\x7b\n  \"a\": [\n    \"\\u00e9\"\n  ],\n  \"b\": []\n\x7d" := by decide

end Json

end FeatureLayout
