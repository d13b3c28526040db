import FeatureLayout.Code.Comments
import FeatureLayout.Layout
import FeatureLayout.Persistence.Contract

/-!
# Substituting storage calls

In every planned file, storage calls are replaced by calls of the contract entries they are bound
to, with their argument expressions. Calls for resources outside the scope are left alone and
flagged; all others that cannot be bound are errors. A file with replaced calls gets the import that
the replacements need: after its last static import, or else after the directives at its start.
-/

namespace FeatureLayout

open Text Code Pattern

/-- What became of the storage calls. -/
structure Substitution where
  /-- The edits of each file with replaced calls. -/
  edits : Ledger String (List Edit)
  substituted : List (StorageCall × ContractEntry)
  /-- The calls left alone because no feature owns their resource. -/
  flagged : List StorageCall
  errors : List Diagnostic

namespace Substitution

/-- The edits of a file. -/
def editsFor (substitution : Substitution) (source : String) : List Edit :=
  (substitution.edits.find? source).getD []

/-- What becomes of one call. -/
structure Outcome where
  edit : Option Edit
  entry : Option ContractEntry
  flagged : Bool
  error : Option Diagnostic

/-- Binds a call and renders its replacement. -/
def outcomeOf (scope : Scope) (binding : Binding) (call : StorageCall) : Except Fault Outcome := do
  match ← (call.bind scope binding).mapError Fault.setting with
  | .refused problem => return ⟨none, none, problem.code == .outOfScopeCall, some problem⟩
  | .contested => return ⟨none, none, false, none⟩
  | .bound entry =>
    let text ← StorageCall.render scope.storage entry call.arguments
    return ⟨some ⟨call.span, text⟩, some entry, false, none⟩

/-- A directive such as `'use client';`. -/
def directive : Pattern Unit :=
  let quotedBy (quote : Char) : Pattern Unit :=
    sequence [.one (· == quote), exactly "use ",
      someRun fun c => c != '\'' && c != '"' && c != '\n', .one (· == quote)]
  sequence [.run isBlank, .either (quotedBy '\'') (quotedBy '"'),
    .run (fun c => c == ' ' || c == '\t'), optional (.one (· == ';'))]

/-- How many characters at the start of a text are directives; `fuel` bounds their number. -/
def directivesLength : Nat → List Char → Nat
  | 0, _ => 0
  | fuel + 1, text =>
    match directive.matchStart? text with
    | none => 0
    | some found => found.span.stop + directivesLength fuel (text.drop found.span.stop)

/-- The offset behind the next line break after an offset. -/
def nextLine? (text : List Char) (offset : Nat) : Option Nat :=
  (afterLine (text.drop offset)).map fun rest => text.length - rest.length

/-- The edit that adds an import behind an offset: on the line after it, or at the end of the text.
-/
def insertAfter (text : List Char) (offset : Nat) (line newline : String) : Edit :=
  match nextLine? text offset with
  | some place => ⟨⟨place, place⟩, line ++ newline⟩
  | none => ⟨⟨text.length, text.length⟩, newline ++ line⟩

/-- The edit that adds the import of the replacements to a file, unless the file has it. -/
def importEdit (line : String) (text : List Char) (imports : List ImportRef) :
    Except ScanProblem (Option Edit) :=
  if line == "" || occursIn line.toList text then .ok none
  else
    let newline := if occursIn "\r\n".toList text then "\r\n" else "\n"
    match ((imports.filter (!·.dynamic)).map (·.span.stop)).max? with
    | some last => .ok (some (insertAfter text last line newline))
    | none =>
      (maskComments text).map fun masked =>
        match directivesLength masked.length masked with
        | 0 => some ⟨⟨0, 0⟩, line ++ newline⟩
        | last => some (insertAfter text last line newline)

/-- The edit that adds the import of a storage interface to a file. The import has to be a text, or
not to be given at all. -/
def interfaceImport (storage : StorageInterface) (text : List Char) (imports : List ImportRef) :
    Except Fault (Option Edit) :=
  if storage.importLine.isMisfit then .error (.setting .wrongKind)
  else (importEdit storage.importLine.content text imports).mapError (Fault.ofScan "<text>")

/-- Adds the outcomes of one file. -/
def addFile (scope : Scope) (binding : Binding) (substitution : Substitution)
    (file : SourceFile) (source : String) (content : String) : Except Fault Substitution := do
  let text := content.toList
  let calls ← (StorageCall.allIn scope.storage text source).mapError (Fault.ofSearch source)
  let outcomes ← calls.mapM fun call =>
    (outcomeOf scope binding call).map fun outcome => (call, outcome)
  let replaced := outcomes.filterMap (·.2.edit)
  let edits ←
    if replaced.isEmpty then pure substitution.edits
    else do
      let added ← interfaceImport scope.storage text file.imports
      pure (substitution.edits.put source (Edit.ordered (replaced ++ added.toList)))
  return {
    edits := edits
    substituted := substitution.substituted ++ outcomes.filterMap fun outcome =>
      outcome.2.entry.map fun entry => (outcome.1, entry)
    flagged := substitution.flagged ++ (outcomes.filter (·.2.flagged)).map (·.1)
    errors := substitution.errors ++ outcomes.filterMap (·.2.error) }

/-- Substitutes the storage calls of all planned files. -/
def ofLayout (scope : Scope) (index : SourceIndex) (layout : Layout) :
    Except Fault Substitution := do
  let binding ← (Binding.ofContract scope.contract).mapError Fault.setting
  layout.moves.values.foldlM
    (fun substitution move =>
      match (index.file? move.source).bind fun file => file.content.map (file, ·) with
      | none => pure substitution
      | some (file, content) => addFile scope binding substitution file move.source content)
    ⟨.empty, [], [], binding.conflicts⟩

end Substitution

end FeatureLayout
