/-!
# String and template literals

A literal starts at a single quote, a double quote or a backtick and ends at the next unescaped
occurrence of the same character; a backslash escapes the character after it. A quoted literal also
ends in front of a line break, because an apostrophe in markup or in a regular expression opens
nothing. A template may span lines and has to be closed.

`Reading` follows a text character by character and knows whether a place lies inside a literal. It
looks no deeper: an expression inside a template is text to it.
-/

namespace FeatureLayout.Code

/-- Whether a character opens a literal. -/
def isQuote (c : Char) : Bool := c == '\'' || c == '"' || c == '`'

/-- Where a place stands with respect to literals. -/
inductive Reading where
  /-- In code. -/
  | outside
  /-- Inside the literal that `quote` opened; `escaped` right after a backslash. -/
  | inside (quote : Char) (escaped : Bool)
  deriving DecidableEq, Repr

namespace Reading

/-- The reading after one more character. -/
def next : Reading → Char → Reading
  | .outside, c => if isQuote c then .inside c false else .outside
  | .inside quote true, _ => .inside quote false
  | .inside quote false, c =>
    if c = '\\' then .inside quote true
    else if c = quote then .outside
    else if c = '\n' ∧ quote ≠ '`' then .outside
    else .inside quote false

/-- Whether a text that stops here stops inside a template. -/
def opensTemplate : Reading → Bool
  | .inside '`' _ => true
  | _ => false

end Reading

/-- A template literal is not closed before the text ends. -/
structure OpenTemplate where
  deriving DecidableEq, Repr

/-- How many more characters belong to the literal that is being read. -/
def literalLength : Reading → List Char → Except OpenTemplate Nat
  | .outside, _ => .ok 0
  | .inside quote escaped, [] =>
    if (Reading.inside quote escaped).opensTemplate then .error {} else .ok 0
  | .inside quote escaped, c :: rest =>
    match (Reading.inside quote escaped).next c with
    | .outside => .ok (if c = quote then 1 else 0)
    | reading => (literalLength reading rest).map (· + 1)

/-- The offset behind the literal that starts at an offset, whatever character opens it there; none
when the text does not reach that far. -/
def literalEnd (text : List Char) (start : Nat) : Option (Except OpenTemplate Nat) :=
  match text.drop start with
  | [] => none
  | quote :: rest =>
    some ((literalLength (.inside quote false) rest).map fun length => start + 1 + length)

end FeatureLayout.Code
