import FeatureLayout.Layout

/-!
# Rewriting imports

Every specifier that leads to a planned file is replaced by the alias of the target tree and the
module path of that file. Specifiers of packages and of files that are not planned stay as they are.
A feature's file that imports another feature's is an error.
-/

namespace FeatureLayout

open Text

/-- The edits of specifiers in each file. -/
structure ImportRewrite where
  edits : Ledger String (List Edit)
  /-- The number of edits. -/
  rewritten : Nat
  errors : List Diagnostic

namespace ImportRewrite

/-- The edits of a file. -/
def editsFor (rewrite : ImportRewrite) (source : String) : List Edit :=
  (rewrite.edits.find? source).getD []

/-- How an import names a module path of the target tree. -/
def specifierOf (scope : Scope) (modulePath : String) : String :=
  scope.targetAlias.display ++ modulePath

/-- The error of an import that crosses from one feature into another. Features without a name do
not count. -/
def crossing? (classification : Classification) (source target : String) : Option Diagnostic :=
  match classification.featureOf source, classification.featureOf target with
  | some first, some second =>
    if first ≠ "" ∧ second ≠ "" ∧ first ≠ second then
      some (.crossImport source first target second)
    else none
  | _, _ => none

/-- The imports that lead to planned files, with the moves of their targets. -/
def led (layout : Layout) (imports : List ImportRef) : List (ImportRef × Move) :=
  imports.filterMap fun ref => (ref.target.bind layout.move?).map fun move => (ref, move)

/-- Adds an import unless there is one with its specifier. -/
def keep (kept : List (ImportRef × Move)) (candidate : ImportRef × Move) :
    List (ImportRef × Move) :=
  if kept.any (·.1.span == candidate.1.span) then kept else kept ++ [candidate]

/-- The imports that lead to planned files, one for each specifier, with the moves of their targets.
-/
def planned (layout : Layout) (imports : List ImportRef) : List (ImportRef × Move) :=
  (led layout imports).foldl keep []

/-- The edits of a file, in no order. -/
def editsOf (scope : Scope) (layout : Layout) (file : SourceFile) : List Edit :=
  (planned layout file.imports).map fun pair =>
    ⟨pair.1.span, specifierOf scope pair.2.modulePath⟩

/-- The imports of a file that cross into other features. -/
def crossings (classification : Classification) (layout : Layout) (source : String)
    (file : SourceFile) : List Diagnostic :=
  (planned layout file.imports).filterMap fun pair =>
    crossing? classification source pair.2.source

/-- Adds the edits of one file. -/
def addFile (scope : Scope) (classification : Classification) (layout : Layout)
    (rewrite : ImportRewrite) (source : String) (file : SourceFile) : ImportRewrite :=
  let edits := editsOf scope layout file
  { edits := if edits.isEmpty then rewrite.edits else rewrite.edits.put source (Edit.ordered edits)
    rewritten := rewrite.rewritten + edits.length
    errors := rewrite.errors ++ crossings classification layout source file }

/-- Adds the edits of a planned file, unless it is an asset. -/
def addMove (scope : Scope) (index : SourceIndex) (classification : Classification)
    (layout : Layout) (rewrite : ImportRewrite) (move : Move) : ImportRewrite :=
  match index.file? move.source with
  | none => rewrite
  | some file =>
    if file.isAsset then rewrite
    else addFile scope classification layout rewrite move.source file

/-- Rewrites the imports of all planned files. -/
def ofLayout (scope : Scope) (index : SourceIndex) (classification : Classification)
    (layout : Layout) : ImportRewrite :=
  layout.moves.values.foldl (addMove scope index classification layout) ⟨.empty, 0, []⟩

end ImportRewrite

end FeatureLayout
