import FeatureLayout.Text.Blank

/-!
# Name lists

Import and export clauses list names between braces: `a`, `b as c`, each perhaps marked as a type.
-/

namespace FeatureLayout.Code

open Text

/-- A listed name: the one its module declares and the one it is given. -/
structure ListedName where
  declared : String
  given : String
  deriving DecidableEq, Repr

/-- One entry of a name list, from its words. -/
def listedName? (words : List String) : Option ListedName :=
  let named :=
    match words with
    | "type" :: second :: rest => second :: rest
    | words => words
  match named with
  | declared :: "as" :: given :: _ => some ⟨declared, given⟩
  | declared :: _ => some ⟨declared, declared⟩
  | [] => none

/-- The names listed between commas. -/
def listedNames (body : List Char) : List ListedName :=
  (fields ',' body).filterMap fun part => listedName? ((words part).map String.ofList)

/-- A text without braces at its ends. -/
def withoutBraces (text : List Char) : List Char :=
  let isBrace (c : Char) := c == '{' || c == '}'
  ((text.dropWhile isBrace).reverse.dropWhile isBrace).reverse

end FeatureLayout.Code
