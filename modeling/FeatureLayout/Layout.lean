import FeatureLayout.Classification

/-!
# The target layout

A file of a feature moves to the folder of its kind below the feature's own folder, and a shared
file to the folder of its kind at the top. Files keep their names, so several files may be planned
to one module path, the path that imports name; that is a conflict, and no file is renamed to avoid
it.
-/

namespace FeatureLayout

open Text

/-- The planned move of a file. -/
structure Move where
  source : String
  destination : String
  /-- How imports name the destination: without extension, unless the file is an asset. -/
  modulePath : String
  owner : Owner
  kind : SymbolKind
  deriving DecidableEq, Repr, Inhabited

/-- The planned moves by source. -/
structure Layout where
  moves : Ledger String Move
  errors : List Diagnostic

namespace Layout

/-- The folder that holds the folders of the features. -/
def featuresFolder : String := "features"

/-- Where a file of an owner and a kind moves. -/
def destinationOf (scope : Scope) (source : String) (owner : Owner) (kind : SymbolKind) : String :=
  let place := (scope.bucket kind).display ++ "/" ++ Path.baseName source
  match owner with
  | .shared => place
  | .feature name => featuresFolder ++ "/" ++ name ++ "/" ++ place

/-- How imports name a destination. -/
def modulePathOf (destination : String) (isAsset : Bool) : String :=
  if isAsset then destination else Path.withoutExtension destination

/-- The move of a file to its owner. -/
def moveOf (scope : Scope) (file : SourceFile) (source : String) (owner : Owner) : Move :=
  let destination := destinationOf scope source owner file.kind
  { source := source
    destination := destination
    modulePath := modulePathOf destination file.isAsset
    owner := owner
    kind := file.kind }

/-- Adds the move of an owned file, unless the file is not in the index. -/
def addOwned (scope : Scope) (index : SourceIndex) (moves : Ledger String Move)
    (entry : String × Owner) : Ledger String Move :=
  match index.file? entry.1 with
  | none => moves
  | some file => moves.put entry.1 (moveOf scope file entry.1 entry.2)

/-- The moves of all owned files of an index. -/
def movesOf (scope : Scope) (index : SourceIndex) (owners : Ledger String Owner) :
    Ledger String Move :=
  owners.entries.foldl (addOwned scope index) .empty

/-- The sources planned to each module path. -/
def claims (moves : List Move) : Ledger String (List String) :=
  moves.foldl (fun claims move => claims.modify move.modulePath [] (· ++ [move.source])) .empty

/-- The module paths that several files are planned to. -/
def conflicts (moves : List Move) : List Diagnostic :=
  ((sortedBy Prod.fst (claims moves).entries).filter (1 < ·.2.length)).map fun claim =>
    .planConflict claim.1 (sorted claim.2)

/-- Plans a move for every owned file of an index. -/
def ofOwners (scope : Scope) (index : SourceIndex) (owners : Ledger String Owner) : Layout :=
  let moves := movesOf scope index owners
  ⟨moves, conflicts moves.values⟩

/-- The move of a source file. -/
def move? (layout : Layout) (source : String) : Option Move := layout.moves.find? source

/-- The source planned to each module path. -/
def byModulePath (layout : Layout) : Ledger String String :=
  Ledger.ofList (layout.moves.values.map fun move => (move.modulePath, move.source))

/-- The moves in the order of their sources. -/
def orderedMoves (layout : Layout) : List Move := sortedBy (·.source) layout.moves.values

end Layout

end FeatureLayout
