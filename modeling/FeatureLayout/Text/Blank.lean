/-!
# Blanks, words and fields

White space is the Unicode set of 29 characters: the ASCII controls from tab to carriage return and
from file separator to space, the next-line control, and the space separators. Scanners, word
splitting and trimming all use this one set.
-/

namespace FeatureLayout.Text

/-- Whether a character is white space. -/
def isBlank (c : Char) : Bool :=
  let code := c.toNat
  (0x09 ≤ code && code ≤ 0x0d) || (0x1c ≤ code && code ≤ 0x20) || code == 0x85 || code == 0xa0 ||
    code == 0x1680 || (0x2000 ≤ code && code ≤ 0x200a) || code == 0x2028 || code == 0x2029 ||
    code == 0x202f || code == 0x205f || code == 0x3000

/-- The text without white space at its front. -/
def trimFront (text : List Char) : List Char := text.dropWhile isBlank

/-- The text without white space at its end. -/
def trimBack (text : List Char) : List Char := (text.reverse.dropWhile isBlank).reverse

/-- The text without white space at either end. -/
def trim (text : List Char) : List Char := trimBack (trimFront text)

/-- Splits off words; `current` holds the letters of the word being read, last letter first. -/
def wordsFrom : List Char → List Char → List (List Char)
  | current, [] => if current.isEmpty then [] else [current.reverse]
  | current, c :: rest =>
    if isBlank c then
      if current.isEmpty then wordsFrom [] rest else current.reverse :: wordsFrom [] rest
    else wordsFrom (c :: current) rest

/-- The maximal runs of characters that are not white space. -/
def words (text : List Char) : List (List Char) := wordsFrom [] text

/-- The pieces between separators; a text without separator is one piece, even when empty. -/
def fields (separator : Char) : List Char → List (List Char)
  | [] => [[]]
  | c :: rest =>
    if c == separator then [] :: fields separator rest
    else
      match fields separator rest with
      | [] => [[c]]
      | first :: others => (c :: first) :: others

/-- The pieces of a string between separators. -/
def fieldsOf (separator : Char) (text : String) : List String :=
  (fields separator text.toList).map String.ofList

/-- Puts a separator between texts. -/
def joinWith (separator : String) (parts : List String) : String :=
  String.intercalate separator parts

example : words " a  b\tc ".toList = ["a".toList, "b".toList, "c".toList] := by decide

example : fields ',' "a,,b".toList = ["a".toList, [], "b".toList] := by decide

end FeatureLayout.Text
