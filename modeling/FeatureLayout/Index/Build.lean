import FeatureLayout.Code.Module
import FeatureLayout.Index.Basic
import FeatureLayout.Index.Resolve

/-!
# Building an index

The files of a source tree are visited in the order of their paths, compared folder by folder.
Hidden files and the folders of builds and dependencies are skipped, files in excluded folders are
only remembered, and of the others the source files and the assets are kept.

Source files are read and their imports resolved against everything that is known: the source files
that could be read, the assets and the excluded files. A file that cannot be read is left out, and
imports that lead nowhere are reported.
-/

namespace FeatureLayout

open Text

/-- The extensions of assets. -/
def assetExtensions : List String :=
  [".css", ".scss", ".sass", ".less", ".svg", ".png", ".jpg", ".jpeg", ".gif", ".webp", ".json"]

/-- Folders and files that never belong to the sources. -/
def skippedNames : List String := ["node_modules", "dist", "build", "coverage", "__snapshots__"]

/-- The files of a source tree, sorted by what becomes of them. -/
structure Discovery where
  /-- The files to index, in the order of the walk. -/
  inScope : List String
  /-- The files in excluded folders. -/
  excluded : List String
  deriving Repr

namespace Discovery

/-- Whether a file is hidden or part of a build. -/
def isSkipped (path : String) : Bool :=
  (fieldsOf '/' path).any fun part => startsWith part "." || skippedNames.contains part

/-- Whether a path ends in one of some extensions. -/
def endsInOneOf (extensions : List String) (path : String) : Bool :=
  extensions.any (SymbolKind.endsIn path)

/-- Paths in the order of a walk through their folders. -/
def walkOrder (paths : List String) : List String :=
  paths.mergeSort fun first second => listAtMost (fieldsOf '/' first) (fieldsOf '/' second)

/-- Sorts the files of a tree. -/
def ofPaths (scope : Scope) (paths : List String) : Discovery :=
  let kept := (walkOrder paths).filter (!isSkipped ·)
  ⟨kept.filter fun path =>
      !scope.isExcluded path && endsInOneOf (Code.sourceExtensions ++ assetExtensions) path,
    kept.filter scope.isExcluded⟩

/-- The source files to index. -/
def sources (discovery : Discovery) : List String := discovery.inScope.filter Code.isSource

/-- The assets to index. -/
def assets (discovery : Discovery) : List String :=
  discovery.inScope.filter (endsInOneOf assetExtensions)

end Discovery

namespace SourceIndex

/-- A source file as it was read. -/
structure ReadFile where
  path : String
  content : String
  found : Code.Module

/-- Reads a source file off its text. -/
def readFile (read : String → Except ReadProblem String) (path : String) :
    Except Diagnostic ReadFile :=
  match read path with
  | .error problem => .error (.unreadable path problem)
  | .ok content =>
    match Code.Module.ofText content.toList path with
    | .error problem => .error (.unscannable path problem)
    | .ok found => .ok ⟨path, content, found⟩

/-- The result of an attempt, if it succeeded. -/
def success? {ε α : Type} : Except ε α → Option α
  | .ok value => some value
  | .error _ => none

/-- The reason why an attempt failed, if it did. -/
def failure? {ε α : Type} : Except ε α → Option ε
  | .ok _ => none
  | .error problem => some problem

/-- The file that an import of a source file leads to. -/
def targetOf (shorthand : String) (known : List String) (path : String) (found : Code.Import) :
    Option String :=
  Specifier.resolve found.specifier path known.contains shorthand

/-- The imported names of a source file with their targets. -/
def refsOf (shorthand : String) (known : List String) (file : ReadFile) : List ImportRef :=
  file.found.imports.flatMap fun found =>
    found.names.map fun name =>
      { source := file.path
        name := name
        specifier := found.specifier
        line := found.line
        span := found.span
        target := targetOf shorthand known file.path found
        dynamic := found.dynamic }

/-- The imports of a source file that point into the tree and lead nowhere. -/
def unresolvedOf (shorthand : String) (known : List String) (file : ReadFile) : List Diagnostic :=
  (file.found.imports.filter fun found =>
    (targetOf shorthand known file.path found).isNone &&
      Specifier.isLocal found.specifier shorthand).map
      fun found => .unresolved file.path found.specifier found.line

/-- The indexed form of a source file. -/
def sourceFileOf (shorthand : String) (known : List String) (file : ReadFile) : SourceFile :=
  { path := file.path
    kind := file.found.kind
    exports := file.found.exports.map fun found =>
      ⟨found.name, file.path, found.kind, found.localName⟩
    imports := refsOf shorthand known file
    content := some file.content }

/-- Indexes what was read of a tree. -/
def ofAttempts (scope : Scope) (discovery : Discovery)
    (attempts : List (Except Diagnostic ReadFile)) : SourceIndex :=
  let files := sortedBy ReadFile.path (attempts.filterMap success?)
  let known := files.map (·.path) ++ discovery.assets ++ discovery.excluded
  let shorthand := scope.sourceAlias.content
  let indexed :=
    files.map (sourceFileOf shorthand known) ++ discovery.assets.map SourceFile.ofAsset
  { files := Ledger.ofList ((sortedBy SourceFile.path indexed).map fun file => (file.path, file))
    excluded := discovery.excluded
    errors := attempts.filterMap failure? ++ files.flatMap (unresolvedOf shorthand known) }

/-- Whether a file names anything that does not start with a dot, and so may start with an alias. -/
def looksAtAlias (file : ReadFile) : Bool :=
  file.found.imports.any fun found => !startsWith found.specifier "."

/-- Indexes what was read of a tree, unless specifiers are compared with an alias that is no text.
-/
def resolved (scope : Scope) (discovery : Discovery)
    (attempts : List (Except Diagnostic ReadFile)) : Except SettingProblem SourceIndex :=
  if scope.sourceAlias.isMisfit && (attempts.filterMap success?).any looksAtAlias then
    .error .wrongKind
  else .ok (ofAttempts scope discovery attempts)

/-- Indexes a tree, given the paths of all its files and a way to read them. -/
def ofTree (scope : Scope) (paths : List String) (read : String → Except ReadProblem String) :
    Except SettingProblem SourceIndex :=
  let discovery := Discovery.ofPaths scope paths
  resolved scope discovery (discovery.sources.map (readFile read))

end SourceIndex

end FeatureLayout
