import FeatureLayout.Disk.Staging
import FeatureLayout.Graph.Usage
import FeatureLayout.Index.Build
import FeatureLayout.Report
import FeatureLayout.Rewrite.Staged
import FeatureLayout.Validation

/-!
# Migrations

A migration analyses a source tree, rewrites its files, checks the result and puts it in the place
of the destination. Every step collects its findings, so that a failed run reports all of them, and
nothing is written unless there is no fatal one.

A destination is refused when replacing it could destroy the sources, the configuration or files
that do not come from an earlier run.
-/

namespace FeatureLayout

open Text FileSystem

/-- All that is known of a source tree before anything is written. -/
structure Analysis where
  index : SourceIndex
  graph : UsageGraph
  classification : Classification
  layout : Layout

namespace Analysis

/-- The analysis of an index. -/
def ofIndex (scope : Scope) (index : SourceIndex) : Except SettingProblem Analysis := do
  let graph := UsageGraph.ofIndex index
  let classification ← Classification.decided scope graph
  return ⟨index, graph, classification, Layout.ofOwners scope index classification.owners⟩

/-- What was found wrong. -/
def errors (analysis : Analysis) : List Diagnostic :=
  analysis.index.errors ++ analysis.classification.errors ++ analysis.layout.errors

/-- The findings. -/
def violations (analysis : Analysis) : List Violation :=
  analysis.errors.map Diagnostic.violation

/-- The reasons for the classification of an indexed file. -/
def explain (analysis : Analysis) (scope : Scope) (path : String) : Except Fault Explanation :=
  if analysis.graph.contains path then
    .ok (analysis.classification.explain scope analysis.graph path)
  else .error (.config (.notIndexed path scope.root))

/-- The members of a document about the moves of some owners. -/
def planMembers (analysis : Analysis) (shown : Owner → Bool) : List (String × Json) :=
  [("files", .array ((analysis.layout.orderedMoves.filter fun move => shown move.owner).map
      Move.toJson)),
    ("unreached", .texts analysis.classification.unreached),
    ("cycles", .array (analysis.classification.cycles.map Json.texts))]

/-- The findings that pass a test, as a document. -/
def violationsJson (analysis : Analysis) (shown : Violation → Bool) : Json :=
  .array ((analysis.violations.filter shown).map Violation.toJson)

/-- An analysis as a document. -/
def toJson (analysis : Analysis) : Json :=
  .object (analysis.planMembers (fun _ => true) ++
    [("warnings", analysis.violationsJson (!·.isFatal)),
      ("violations", analysis.violationsJson Violation.isFatal)])

end Analysis

/-- The steps of a run. -/
inductive Stage where
  | index
  | rewrite
  | validate
  | commit
  deriving DecidableEq, Repr

/-- The written name of a step. -/
def Stage.text : Stage → String
  | index => "index"
  | rewrite => "rewrite"
  | validate => "validate"
  | commit => "commit"

/-- All that a run computes before it writes. -/
structure Rewritten where
  imports : ImportRewrite
  substitution : Substitution
  staged : Staged

namespace Rewritten

/-- Rewrites the files of an analysis. -/
def ofAnalysis (scope : Scope) (analysis : Analysis) : Except Fault Rewritten := do
  let imports :=
    ImportRewrite.ofLayout scope analysis.index analysis.classification analysis.layout
  let substitution ← Substitution.ofLayout scope analysis.index analysis.layout
  return ⟨imports, substitution,
    Staged.ofEdits analysis.index analysis.layout imports substitution⟩

/-- What was found wrong. -/
def errors (rewritten : Rewritten) : List Diagnostic :=
  rewritten.imports.errors ++ rewritten.substitution.errors ++ rewritten.staged.errors

end Rewritten

/-- What a run did. -/
structure Run where
  report : Report
  /-- The steps that the run went through. -/
  stages : List Stage

namespace Migration

/-- The file that marks a tree as the output of a run. -/
def marker : String := ".featureslice"

/-- The contents of the marker. -/
def markerText : String := "featureslice 0.1.0\n"

/-- The report of a run, and the texts to write. -/
def prepare (scope : Scope) (analysis : Analysis) (dryRun : Bool) :
    Except Fault (Report × Staged) := do
  let rewritten ← Rewritten.ofAnalysis scope analysis
  let validation ←
    Validation.ofStaged scope analysis.classification analysis.layout rewritten.staged.texts
  let errors := analysis.errors ++ rewritten.errors ++ validation.errors
  let report : Report :=
    { status := if errors.any Diagnostic.isFatal then .failed else .success
      dryRun := dryRun
      moves := analysis.layout.orderedMoves
      unreached := analysis.classification.unreached
      cycles := analysis.classification.cycles
      substituted := rewritten.substitution.substituted.map fun pair =>
        .ofSubstituted pair.1 pair.2
      flagged := rewritten.substitution.flagged.map fun call => .ofCall call []
      violations := errors.map Diagnostic.violation }
  return (report, rewritten.staged)

variable {m : Type → Type} [Monad m] [MonadExceptOf Fault m] [FileSystem m]

/-- An answer, or a fault that ends the run. -/
def orThrow {α : Type} : Except Fault α → m α
  | .ok answer => return answer
  | .error problem => throw problem

/-- Why a file could not be read, if a fault says that. -/
def readProblem : Fault → ReadProblem
  | .disk .missing | .disk .notFolder => .missing
  | .disk .notText => .notText
  | _ => .refused

/-- Reads a file of the source tree. -/
def readSource (scope : Scope) (path : String) : m (String × Except ReadProblem String) := do
  tryCatch (do return (path, .ok (← readText (scope.root.follow path))))
    fun problem => return (path, .error (readProblem problem))

/-- Indexes the source tree. -/
def index (scope : Scope) : m SourceIndex := do
  let paths ← filesBelow scope.root
  let contents ← (Discovery.ofPaths scope paths).sources.mapM (readSource scope)
  let read (path : String) : Except ReadProblem String :=
    ((contents.find? (·.1 == path)).map (·.2)).getD (.error .missing)
  orThrow ((SourceIndex.ofTree scope paths read).mapError Fault.setting)

/-- Analyses the source tree. -/
def analyze (scope : Scope) : m Analysis := do
  orThrow ((Analysis.ofIndex scope (← index scope)).mapError Fault.setting)

/-- Refuses a destination. -/
def refuse {α : Type} (scope : Scope) (destination : Location) (problem : DestinationProblem) :
    m α :=
  throw (.config (.destination destination scope.root problem))

/-- Why a place cannot be a destination, whatever is there: replacing it would destroy the sources
or the configuration. -/
def placeProblem? (scope : Scope) (destination : Location) : Option DestinationProblem :=
  if destination.isWithin scope.root then some .insideRoot
  else if scope.root.isBelow destination then some .containsRoot
  else
    match scope.configFile with
    | some config => if config.isBelow destination then some (.containsConfig config) else none
    | none => none

/-- Refuses a destination whose replacement could destroy anything but earlier output. -/
def checkDestination (scope : Scope) (destination : Location) : m Unit := do
  match placeProblem? scope destination with
  | some problem => refuse scope destination problem
  | none =>
    match ← kind? destination with
    | none => return ()
    | some .file => refuse scope destination .notFolder
    | some .folder =>
      if !(← names destination).isEmpty then
        if (← kind? (destination ++ [marker])) != some EntryKind.file then
          refuse scope destination .foreign

/-- The bytes of a planned file: its staged text, or for an asset the bytes of its source. -/
def contentOf (scope : Scope) (staged : Staged) (move : Move) : m ByteArray :=
  match staged.texts.find? move.source with
  | some text => return text.toUTF8
  | none => read (scope.root.follow move.source)

/-- Writes the planned files and the marker into a staging area. -/
def writeAll (scope : Scope) (layout : Layout) (staged : Staged) (area : StagingArea) : m Unit := do
  layout.moves.values.forM fun move => do
    area.writeFile move.destination (← contentOf scope staged move)
  area.writeFile marker markerText.toUTF8

/-- Migrates a source tree to a destination; a dry run does everything but write. -/
def run (scope : Scope) (destination : Location) (dryRun : Bool) : m Run := do
  if destination.any Path.isBroken then throw (.setting .brokenPath)
  checkDestination scope destination
  let analysis ← analyze scope
  let (report, staged) ← orThrow (prepare scope analysis dryRun)
  if report.status = .failed ∨ dryRun then
    return ⟨report, [.index, .rewrite, .validate]⟩
  else
    StagingArea.fill destination (writeAll scope analysis.layout staged)
    return ⟨report, [.index, .rewrite, .validate, .commit]⟩

end Migration

end FeatureLayout
