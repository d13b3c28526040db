import FeatureLayout.Console.Emoji.Names
import FeatureLayout.Text.Blank
import FeatureLayout.Text.LowerCase

/-!
# Pictures by name

Between two colons, printed texts name pictures. A name may end in `-emoji` or `-text`, which asks
for the coloured or the plain form of the picture. A name that no picture has stays as it is, colons
included, and its closing colon opens no other name.
-/

namespace FeatureLayout.Emoji

open Text

/-- The value of a lower-case hexadecimal digit. -/
def hexValue (c : Char) : Nat :=
  if c.isDigit then c.toNat - '0'.toNat else c.toNat - 'a'.toNat + 10

/-- The character whose code point is given in hexadecimal. -/
def charOf (digits : List Char) : Char :=
  Char.ofNat (digits.foldl (fun code c => code * 16 + hexValue c) 0)

/-- The name and the picture of an entry of the table. -/
def entryOf (entry : List Char) : List Char × List Char :=
  (entry.takeWhile (· != '='),
    (fields '-' ((entry.dropWhile (· != '=')).drop 1)).map charOf)

/-- All pictures by their names. -/
def entries : List (List Char × List Char) :=
  nameLines.flatMap fun line => (words line.toList).map entryOf

/-- The picture with a name. -/
def picture? (name : List Char) : Option (List Char) :=
  (entries.find? (·.1 == lower name)).map (·.2)

/-- The endings of names that ask for a form of a picture, and the selectors of these forms. -/
def forms : List (List Char × Char) :=
  [("-emoji".toList, Char.ofNat 0xfe0f), ("-text".toList, Char.ofNat 0xfe0e)]

/-- What is shown for a name between colons. -/
def shownName (name : List Char) : List Char :=
  let found :=
    match forms.find? (·.1.isSuffixOf name) with
    | some (ending, selector) =>
      (picture? (name.take (name.length - ending.length))).map (· ++ [selector])
    | none => picture? name
  found.getD (':' :: name ++ [':'])

/-- A text with pictures in the place of their names. `open?` holds the name that is being read,
last character first. -/
def replacedFrom : (open? : Option (List Char)) → List Char → List Char
  | none, [] => []
  | some read, [] => ':' :: read.reverse
  | none, c :: rest =>
    if c = ':' then replacedFrom (some []) rest else c :: replacedFrom none rest
  | some read, c :: rest =>
    if c = ':' then shownName read.reverse ++ replacedFrom none rest
    else if isBlank c then ':' :: read.reverse ++ c :: replacedFrom none rest
    else replacedFrom (some (c :: read)) rest

/-- A text with pictures in the place of their names. -/
def replaced (text : List Char) : List Char := replacedFrom none text

end FeatureLayout.Emoji
