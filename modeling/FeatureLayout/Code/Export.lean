import FeatureLayout.Code.Kind
import FeatureLayout.Code.Names
import FeatureLayout.Pattern

/-!
# Exports

Exports are found in a text whose comments are blanked: declarations marked `export`, names exported
as default, export lists, and at last a default export of some other expression. Each exported name
counts once, for the first form that has it.
-/

namespace FeatureLayout.Code

open Text Pattern

/-- An export found in a module. -/
structure Export where
  name : String
  kind : SymbolKind
  line : Nat
  /-- The declaring keyword; empty when the export declares nothing. -/
  declaration : String
  /-- The name inside the module, where the export tells it apart. -/
  localName : Option String
  deriving DecidableEq, Repr

namespace Export

/-- The parts of an export statement that are captured. -/
inductive Part where
  | marker
  | declaration
  | name
  | names
  deriving DecidableEq, Repr

/-- White space, possibly none. -/
def blanks : Pattern Part := .run isBlank

/-- White space, at least one character. -/
def someBlanks : Pattern Part := someRun isBlank

/-- A modifier in front of a declaration, which may be missing. -/
def modifier (word : String) : Pattern Part := optional (.seq (exactly word) someBlanks)

/-- An identifier, captured. -/
def nameCapture : Pattern Part := .capture .name (someRun isNameChar)

/-- The start of every export. -/
def exportWord : Pattern Part := .seq .wordEdge (exactly "export")

/-- The start of every default export. -/
def defaultWords : Pattern Part := sequence [exportWord, someBlanks, exactly "default"]

/-- The declaring keywords. -/
def declarationWord : Pattern Part :=
  choice [exactly "function", exactly "class",
    sequence [exactly "const", someBlanks, exactly "enum"],
    exactly "const", exactly "let", exactly "var", exactly "interface", exactly "type",
    exactly "enum"]

/-- An exported declaration. Its name has to stand apart from the keyword. -/
def declarationPattern : Pattern Part :=
  sequence [exportWord, someBlanks,
    optional (.capture .marker (.seq (exactly "default") someBlanks)),
    modifier "declare", modifier "abstract", modifier "async",
    .capture .declaration
      (sequence [declarationWord, .wordEdge, optional (.seq blanks (.one (· == '*')))]),
    optional (sequence [blanks, .after (fun c => isBlank c || c == '*'), nameCapture])]

/-- A name exported as default, alone on the rest of its line. -/
def defaultNamePattern : Pattern Part :=
  sequence [defaultWords, someBlanks, nameCapture, blanks, optional (.one (· == ';')),
    .run (fun c => c == ' ' || c == '\t'), optional (.one (· == '\r')), .lineEnd]

/-- An export list that takes its names from no other module. -/
def listPattern : Pattern Part :=
  sequence [exportWord, someBlanks, optional (.seq (exactly "type") someBlanks), .one (· == '{'),
    .capture .names (.run (· != '}')), .one (· == '}'), .notBefore (.seq blanks (exactly "from"))]

/-- Any default export. -/
def defaultPattern : Pattern Part := .seq defaultWords .wordEdge

/-- Words that may stand where a name is expected and are none. -/
def notNames : List String := ["extends", "implements", "function", "class", "async"]

/-- An exported name with the place and the manner of its export. -/
structure Candidate where
  offset : Nat
  name : String
  declaration : String
  localName : Option String

/-- The captured name, unless it is none. -/
def capturedName? (found : Match Part) : Option String :=
  (found.captured? .name).bind fun captured =>
    let name := String.ofList captured.text
    if notNames.contains name then none else some name

/-- The candidate of an exported declaration. -/
def ofDeclaration? (found : Match Part) : Option Candidate :=
  let keyword := (words ((found.textOf .declaration).filter (· != '*'))).map String.ofList
  let declaration := joinWith " " keyword
  let name := capturedName? found
  if (found.captured? .marker).isSome then
    some ⟨found.span.start, "default", declaration, name⟩
  else name.map fun name => ⟨found.span.start, name, declaration, none⟩

/-- The candidate of a name exported as default. -/
def ofDefaultName? (found : Match Part) : Option Candidate :=
  (capturedName? found).map fun name => ⟨found.span.start, "default", "", some name⟩

/-- The candidates of an export list. -/
def ofList (found : Match Part) : List Candidate :=
  (listedNames (found.textOf .names)).map fun listed =>
    ⟨found.span.start, listed.given, "", some listed.declared⟩

/-- All candidates of a text, in order of preference. -/
def candidates (text : List Char) : List Candidate :=
  (declarationPattern.search text).filterMap ofDeclaration? ++
  (defaultNamePattern.search text).filterMap ofDefaultName? ++
  (listPattern.search text).flatMap ofList ++
  (defaultPattern.search text).head?.toList.map fun found => ⟨found.span.start, "default", "", none⟩

/-- Keeps the first candidate of each name. -/
def firstOfEach : List String → List Candidate → List Candidate
  | _, [] => []
  | seen, candidate :: rest =>
    if seen.contains candidate.name then firstOfEach seen rest
    else candidate :: firstOfEach (candidate.name :: seen) rest

/-- The export of a candidate in the file at a path. A default export without a name of its own goes
by the file's name. -/
def ofCandidate (text : List Char) (path : String) (candidate : Candidate) : Export :=
  let named :=
    match candidate.localName with
    | some name => name
    | none => if candidate.name = "default" then Path.stem path else candidate.name
  { name := candidate.name
    kind := SymbolKind.infer named candidate.declaration path
    line := lineAt text candidate.offset
    declaration := candidate.declaration
    localName := candidate.localName }

/-- The exports of a text without comments, by the place of their statements. -/
def ofText (text : List Char) (path : String) : List Export :=
  ((firstOfEach [] (candidates text)).mergeSort fun first second =>
    first.offset ≤ second.offset).map (ofCandidate text path)

end Export

end FeatureLayout.Code
