import FeatureLayout.Code.Names
import FeatureLayout.Pattern

/-!
# Imports

An import statement names a module by a specifier between quotes. Four forms are found in a text
whose comments are blanked: `import … from`, `export … from`, `import` for its effects alone, and
the calls `import(…)` and `require(…)`. Each form is searched for on its own, so a stretch of text
may count under several.
-/

namespace FeatureLayout.Code

open Text Pattern

/-- An import found in a module. `span` covers the specifier between its quotes. -/
structure Import where
  specifier : String
  /-- The imported names: `default`, names of the other module, or `*` for the module as a whole. -/
  names : List String
  line : Nat
  span : Span
  reexport : Bool
  dynamic : Bool
  deriving DecidableEq, Repr

namespace Import

/-- The parts of an import statement that are captured. -/
inductive Part where
  | clause
  | specifier
  deriving DecidableEq, Repr

/-- White space, possibly none. -/
def blanks : Pattern Part := .run isBlank

/-- White space, at least one character. -/
def someBlanks : Pattern Part := someRun isBlank

/-- An identifier. -/
def name : Pattern Part := someRun isNameChar

/-- A word that does not continue another one in front. -/
def keyword (word : String) : Pattern Part := .seq .wordEdge (exactly word)

/-- The marker of imports and exports that carry types only. -/
def typeMarker : Pattern Part := optional (.seq (exactly "type") someBlanks)

/-- A specifier between quotes of one kind. -/
def specifierIn (quote : Char) : Pattern Part :=
  sequence [.one (· == quote),
    .capture .specifier (someRun fun c => c != '\'' && c != '"' && c != '\n'), .one (· == quote)]

/-- A specifier between quotes. -/
def specifierPattern : Pattern Part := .either (specifierIn '\'') (specifierIn '"')

/-- Names between braces. -/
def braced : Pattern Part := sequence [.one (· == '{'), .run (· != '}'), .one (· == '}')]

/-- A module as a whole under a name. -/
def namespaced : Pattern Part := sequence [.one (· == '*'), blanks, exactly "as", someBlanks, name]

/-- `import … from`. -/
def fromPattern : Pattern Part :=
  sequence [keyword "import", someBlanks, typeMarker,
    .capture .clause
      (choice [
        .seq name
          (optional (sequence [blanks, .one (· == ','), blanks, .either braced namespaced])),
        braced, namespaced]),
    blanks, exactly "from", blanks, specifierPattern]

/-- `export … from`. -/
def reexportPattern : Pattern Part :=
  sequence [keyword "export", someBlanks, typeMarker,
    .capture .clause
      (.either
        (.seq (.one (· == '*')) (optional (sequence [blanks, exactly "as", someBlanks, name])))
        braced),
    blanks, exactly "from", blanks, specifierPattern]

/-- `import` for effects alone. -/
def effectPattern : Pattern Part := sequence [keyword "import", blanks, specifierPattern]

/-- The calls `import(…)` and `require(…)` of a fixed specifier. -/
def callPattern : Pattern Part :=
  sequence [.wordEdge, .either (exactly "import") (exactly "require"), blanks, .one (· == '('),
    blanks, specifierPattern, blanks, .one (· == ')')]

/-- The names that a clause of `import … from` imports. -/
def clauseNames (clause : List Char) : List String :=
  let clause := trim clause
  let (first, listed) :=
    match clause with
    | '{' :: _ => ([], clause)
    | _ =>
      match clause.dropWhile (· != ',') with
      | _ :: listed => (["default"], trim listed)
      | [] => ([if clause.head? = some '*' then "*" else "default"], [])
  match listed with
  | [] => first
  | '*' :: _ => first ++ ["*"]
  | listed => first ++ (listedNames (withoutBraces listed)).map (·.declared)

/-- The names that a clause of `export … from` imports. -/
def reexportNames (clause : List Char) : List String :=
  if clause.head? = some '*' then ["*"]
  else (listedNames (withoutBraces clause)).map (·.declared)

/-- The import that a match stands for. A form that names nothing imports the module as a whole. -/
def ofMatch (text : List Char) (names : List Char → List String) (reexport dynamic : Bool)
    (found : Match Part) : Import :=
  let specifier := found.captured? .specifier
  let named := names (found.textOf .clause)
  { specifier := String.ofList (found.textOf .specifier)
    names := if named.isEmpty then ["*"] else named
    line := lineAt text found.span.start
    span := (specifier.map (·.span)).getD found.span
    reexport := reexport
    dynamic := dynamic }

/-- The imports of a text without comments, by the place of their specifiers. -/
def ofText (text : List Char) : List Import :=
  let whole : List Char → List String := fun _ => ["*"]
  let found :=
    (fromPattern.search text).map (ofMatch text clauseNames false false) ++
    (reexportPattern.search text).map (ofMatch text reexportNames true false) ++
    (effectPattern.search text).map (ofMatch text whole false false) ++
    (callPattern.search text).map (ofMatch text whole false true)
  found.mergeSort fun first second => first.span.atMost second.span

end Import

end FeatureLayout.Code
