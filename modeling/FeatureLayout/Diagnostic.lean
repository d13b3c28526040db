import FeatureLayout.Edit
import FeatureLayout.Persistence.Call
import FeatureLayout.Text.Quoted
import FeatureLayout.Violation

/-!
# Diagnostics

A diagnostic says what is wrong, with the data that its wording needs. Passes collect diagnostics
instead of stopping at the first one; `Diagnostic.violation` turns each into a finding with a code,
a message and paths.
-/

namespace FeatureLayout

open Text Code

/-- Why a file cannot be read as text. -/
inductive ReadProblem where
  | missing
  | notText
  | refused
  deriving DecidableEq, Repr

/-- The wording of a reading problem. Devices and decoders word the same problems in their own ways,
which differ from one system to another and are not repeated here. -/
def ReadProblem.message : ReadProblem → String
  | missing => "the file does not exist"
  | notText => "the file is not encoded in UTF-8"
  | refused => "the file cannot be opened"

/-- What is wrong with a source tree, a plan or a rewritten text. -/
inductive Diagnostic where
  /-- A file cannot be read. -/
  | unreadable (path : String) (problem : ReadProblem)
  /-- A comment or a template is never closed. -/
  | unscannable (path : String) (problem : ScanProblem)
  /-- A specifier that points into the tree leads to no file. -/
  | unresolved (path specifier : String) (line : Nat)
  /-- No feature reaches a file. -/
  | unreached (path : String)
  /-- A feature starts at a file that is not indexed. -/
  | missingEntryPoint (entry feature : String)
  /-- A file imports from an excluded folder. -/
  | boundary (path specifier : String) (line : Nat) (target : Option String)
  /-- Several files would move to one place. -/
  | planConflict (modulePath : String) (sources : List String)
  /-- A feature's file imports another feature's. -/
  | crossImport (source sourceFeature target targetFeature : String)
  /-- A feature's rewritten file still imports another feature's. -/
  | remainingCrossImport (source sourceFeature target targetFeature : String)
  /-- Several contract entries serve one operation on one resource. -/
  | contractConflict (operation : Operation) (resource : Value) (names : List String)
  /-- A call lists a storage, and nothing says which resource that stands for. -/
  | listsStorage (call : StorageCall)
  /-- The key of a call is no plain literal. -/
  | computedKey (call : StorageCall)
  /-- No feature owns the resource of a call. -/
  | outOfScope (call : StorageCall)
  /-- No contract entry serves a call. -/
  | unmapped (call : StorageCall)
  /-- A contract entry takes another number of arguments than a call passes. -/
  | argumentMismatch (call : StorageCall) (entry : ContractEntry)
  /-- A contract entry returns something else than a call did. -/
  | resultMismatch (call : StorageCall) (entry : ContractEntry)
  /-- The edits of a file overlap. -/
  | overlappingEdits (source : String) (overlap : Overlap)
  /-- A feature's rewritten file still refers to a storage object. -/
  | residual (destination source : String) (line : Nat) (identifier : String)
  /-- A feature owns no page that its entry points reach. -/
  | missingPage (feature : String) (entryPoints : List String)
  /-- No feature refers to a shared file. -/
  | unreferencedShared (destination source : String)
  deriving Repr

namespace Diagnostic

/-- The kind of finding that a diagnostic is. -/
def code : Diagnostic → ViolationCode
  | unreadable .. | unscannable .. | unresolved .. => .parse
  | unreached .. => .deadCode
  | missingEntryPoint .. => .missingEntryPoint
  | boundary .. => .boundary
  | planConflict .. => .planConflict
  | crossImport .. | remainingCrossImport .. => .crossFeatureImport
  | contractConflict .. => .contractConflict
  | listsStorage .. | computedKey .. | unmapped .. | overlappingEdits .. => .unmappedCall
  | outOfScope .. => .outOfScopeCall
  | argumentMismatch .. | resultMismatch .. => .contractShape
  | residual .. => .residualPersistence
  | missingPage .. => .missingPage
  | unreferencedShared .. => .unreferencedShared

/-- Whether a diagnostic keeps a run from writing anything. -/
def isFatal (diagnostic : Diagnostic) : Bool := diagnostic.code.isFatal

/-- The place and the function of a call. -/
def callAt (call : StorageCall) : String :=
  call.file ++ ":" ++ toString call.line ++ " " ++ call.callee ++ "()"

/-- A file that belongs to a feature. -/
def owned (path feature : String) : String := path ++ " (" ++ feature ++ ")"

/-- The wording of a diagnostic. -/
def message : Diagnostic → String
  | unreadable path problem => "Cannot read " ++ path ++ ": " ++ problem.message
  | unscannable path .openComment => "Unterminated block comment in " ++ path
  | unscannable path .openTemplate => "Unterminated template literal in " ++ path
  | unresolved path specifier line =>
    "Cannot resolve '" ++ specifier ++ "' imported from " ++ path ++ ":" ++ toString line
  | unreached path => path ++ " is not reachable from any feature entry point"
  | missingEntryPoint entry feature =>
    "Entry point " ++ entry ++ " of feature " ++ quoted feature ++ " is not in the index"
  | boundary path specifier line target =>
    path ++ ":" ++ toString line ++ " imports '" ++ specifier ++ "' from excluded folder (" ++
      target.getD "None" ++ ")"
  | planConflict modulePath sources =>
    toString sources.length ++ " files planned to " ++ modulePath ++ ": " ++ joinWith ", " sources
  | crossImport source sourceFeature target targetFeature =>
    owned source sourceFeature ++ " imports " ++ owned target targetFeature
  | remainingCrossImport source sourceFeature target targetFeature =>
    "Rewritten " ++ owned source sourceFeature ++ " still imports " ++ owned target targetFeature
  | contractConflict operation resource names =>
    toString names.length ++ " contract entries for " ++ operation.text ++ " " ++ resource.shown ++
      ": " ++ joinWith ", " names
  | listsStorage call => callAt call ++ " lists storage but no list_resource is declared"
  | computedKey call => callAt call ++ " has a non-literal key and cannot be bound"
  | outOfScope call =>
    call.file ++ ":" ++ toString call.line ++ " " ++ call.operation.text ++ " of " ++
      call.resource.shown ++ " is outside the in-scope features"
  | unmapped call =>
    call.file ++ ":" ++ toString call.line ++ " no contract entry for " ++ call.operation.text ++
      " " ++ call.resource.shown
  | argumentMismatch call entry =>
    callAt call ++ " passes " ++ toString call.arguments.length ++ " argument(s) but " ++
      entry.name.display ++ " (" ++ entry.signature ++ ") expects " ++ toString entry.params.length
  | resultMismatch call entry =>
    let returned := if entry.returns.isGiven then entry.returns.display else "void"
    callAt call ++ " returned " ++ call.operation.localResult ++ " but " ++ entry.name.display ++
      " returns " ++ returned ++ "; give the entry a template that adapts the response"
  | overlappingEdits source overlap => "Cannot rewrite " ++ source ++ ": " ++ overlap.message
  | residual destination _ line identifier =>
    destination ++ ":" ++ toString line ++ " still references " ++ identifier
  | missingPage feature _ =>
    "Feature " ++ quoted feature ++ " owns no page reachable from its entry point"
  | unreferencedShared destination _ =>
    destination ++ " is SHARED but no feature references it"

/-- The paths that a diagnostic is about. -/
def paths : Diagnostic → List String
  | unreadable path _ | unscannable path _ | unresolved path _ _ | unreached path => [path]
  | missingEntryPoint entry _ => [entry]
  | boundary path specifier _ target =>
    [path,
      match target with
      | none | some "" => specifier
      | some target => target]
  | planConflict _ sources => sources
  | crossImport source _ target _ | remainingCrossImport source _ target _ => [source, target]
  | contractConflict .. => []
  | listsStorage call | computedKey call | outOfScope call | unmapped call
  | argumentMismatch call _ | resultMismatch call _ => [call.file]
  | overlappingEdits source _ => [source]
  | residual _ source _ _ => [source]
  | missingPage _ entryPoints => entryPoints
  | unreferencedShared _ source => [source]

/-- A diagnostic as a finding. -/
def violation (diagnostic : Diagnostic) : Violation :=
  ⟨diagnostic.code, diagnostic.message, diagnostic.paths⟩

end Diagnostic

end FeatureLayout
