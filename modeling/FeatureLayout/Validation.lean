import FeatureLayout.Code.Module
import FeatureLayout.Code.Strings
import FeatureLayout.Index.Resolve
import FeatureLayout.Persistence.Substitution

/-!
# Validating the staged texts

The imports of the staged texts are read again and looked up by module path. Four things are
checked: no feature's file imports another feature's; no feature's file refers to a storage object,
apart from the calls that are out of scope; every feature owns a page that its entry points reach;
and a feature refers to every shared file. A text that cannot be read is an error too.
-/

namespace FeatureLayout

open Text Code Pattern

/-- What the checks found. -/
structure Validation where
  /-- The planned files that each staged text imports. -/
  edges : Ledger String (List String)
  errors : List Diagnostic

namespace Validation

/-- Whether nothing fatal was found. -/
def passed (validation : Validation) : Bool := !validation.errors.any Diagnostic.isFatal

/-- The planned files that a module imports through the alias of the target tree. -/
def targetsOf (shorthand : String) (byModulePath : Ledger String String) (found : Code.Module) :
    List String :=
  (found.imports.filterMap fun imported =>
    if startsWith imported.specifier shorthand then
      byModulePath.find? (String.ofList (imported.specifier.toList.drop shorthand.length))
    else none).eraseDups

/-- Reads the imports of a staged text. -/
def addText (shorthand : String) (byModulePath : Ledger String String) (validation : Validation)
    (staged : String × String) : Validation :=
  match Code.Module.ofText staged.2.toList staged.1 with
  | .error problem =>
    { validation with errors := validation.errors ++ [.unscannable staged.1 problem] }
  | .ok found =>
    let targets := targetsOf shorthand byModulePath found
    { validation with edges := validation.edges.put staged.1 targets }

/-- The imports of all staged texts, by source. -/
def edgesOf (scope : Scope) (layout : Layout) (staged : Ledger String String) : Validation :=
  (sortedBy Prod.fst staged.entries).foldl (addText scope.targetAlias.content layout.byModulePath)
    ⟨.empty, []⟩

/-- Whether a staged text can be read and imports anything. -/
def hasImport (staged : String × String) : Bool :=
  match Code.Module.ofText staged.2.toList staged.1 with
  | .error _ => false
  | .ok found => !found.imports.isEmpty

/-- Why imports cannot be looked up: there are some, and the alias of the target tree is no text. -/
def aliasProblem? (scope : Scope) (staged : Ledger String String) : Option SettingProblem :=
  if !scope.targetAlias.isText && staged.entries.any hasImport then some .wrongKind else none

/-- The imports that cross from one feature into another. -/
def crossings (classification : Classification) (edges : Ledger String (List String)) :
    List Diagnostic :=
  edges.entries.flatMap fun entry =>
    match classification.featureOf entry.1 with
    | none => []
    | some feature =>
      entry.2.filterMap fun target =>
        match classification.featureOf target with
        | none => none
        | some other =>
          if other ≠ feature then some (.remainingCrossImport entry.1 feature target other)
          else none

/-- A storage object that stands for itself; absent when there is none to look for. -/
def storagePattern? (storage : StorageInterface) : Option (Pattern Unit) :=
  let identifiers := sorted storage.identifiers
  if joinWith "|" identifiers == "" then none
  else
    some (sequence [.notAfter isNameChar, choice (identifiers.map exactly), .wordEdge])

/-- Blanks a stretch of a text, its line breaks apart. -/
def blankSpan (text : List Char) (span : Span) : List Char :=
  text.take span.start ++ (span.of text).map (fun c => if c == '\n' then c else ' ') ++
    text.drop (max span.start span.stop)

/-- Whether a call has a resource that no feature owns. -/
def isOutOfScope (scope : Scope) (call : StorageCall) : Except SettingProblem Bool :=
  if call.resource.isNull then .ok false
  else (scope.resourceOwner call.resource).map Option.isNone

/-- A staged text without comments, contents of literals and calls that are out of scope. -/
def checkedText (scope : Scope) (source : String) (text : List Char) :
    Except Fault (List Char) := do
  let calls ← (StorageCall.allIn scope.storage text source).mapError (Fault.ofSearch source)
  let allowed ← (calls.filterM (isOutOfScope scope)).mapError Fault.setting
  let masked ← (maskComments text >>= maskStrings).mapError (Fault.ofScan source)
  return (allowed.map (·.span)).foldl blankSpan masked

/-- The references to storage objects that are left in a feature's file. -/
def residuesOf (scope : Scope) (pattern : Pattern Unit) (move : Move) (content : String) :
    Except Fault (List Diagnostic) := do
  let checked ← checkedText scope move.source content.toList
  return (pattern.search checked).map fun found =>
    .residual move.destination move.source (lineAt checked found.span.start)
      (String.ofList found.text)

/-- The references to storage objects that are left in the features' files. -/
def residues (scope : Scope) (layout : Layout) (staged : Ledger String String) :
    Except Fault (List Diagnostic) :=
  match storagePattern? scope.storage with
  | none => .ok []
  | some pattern =>
    (layout.moves.values.mapM fun (move : Move) =>
      match move.owner, staged.find? move.source with
      | .feature _, some content => residuesOf scope pattern move content
      | _, _ => .ok []).map List.flatten

/-- Whether a feature owns a page that its entry points reach. Only the entry points that it owns
count. -/
def hasPage (layout : Layout) (edges : Ledger String (List String)) (feature : Feature) : Bool :=
  let owner := Owner.feature feature.name
  let entries := feature.entryPoints.filter fun entry =>
    (layout.move? entry).any (·.owner = owner)
  let reached := edges.reach entries
  layout.moves.values.any fun move =>
    move.owner = owner && move.kind == .page && reached.contains move.source

/-- The features without such a page. -/
def missingPages (scope : Scope) (layout : Layout) (edges : Ledger String (List String)) :
    List Diagnostic :=
  (scope.features.filter (!hasPage layout edges ·)).map fun feature =>
    .missingPage feature.name feature.entryPoints

/-- The shared files that no feature refers to. -/
def unreferenced (layout : Layout) (edges : Ledger String (List String)) : List Diagnostic :=
  let moves := layout.moves.values
  let reached := edges.reach ((moves.filter (·.owner ≠ .shared)).map (·.source))
  (moves.filter fun move => move.owner = .shared && !reached.contains move.source).map fun move =>
    .unreferencedShared move.destination move.source

/-- Runs all checks. -/
def ofStaged (scope : Scope) (classification : Classification) (layout : Layout)
    (staged : Ledger String String) : Except Fault Validation := do
  if let some problem := aliasProblem? scope staged then throw (.setting problem)
  let read := edgesOf scope layout staged
  let residues ← residues scope layout staged
  return {
    edges := read.edges
    errors := read.errors ++ crossings classification read.edges ++ residues ++
      missingPages scope layout read.edges ++ unreferenced layout read.edges }

end Validation

end FeatureLayout
