import FeatureLayout.Disk.Basic

/-!
# Staging a tree

Output is written into a scratch folder beside its destination and takes the destination's place in
one step. What was there before is moved aside first, comes back when the step fails, and is removed
when it succeeds. Work that ends without a commit leaves nothing behind.
-/

namespace FeatureLayout

open FileSystem

/-- A scratch folder for a destination. -/
structure StagingArea where
  destination : Location
  scratch : Location
  /-- Whether the scratch folder has taken the destination's place. -/
  committed : Bool
  deriving DecidableEq, Repr

/-- A commit that took place. -/
structure Commit where
  area : StagingArea
  /-- Why the replaced tree is still there, if it could not be removed. -/
  leftover : Option Fault

namespace StagingArea

variable {m : Type → Type} [Monad m] [MonadExceptOf Fault m] [FileSystem m]

/-- How the names of scratch folders for a destination begin. -/
def scratchName (destination : Location) (purpose : String) : String :=
  "." ++ destination.getLast?.getD "" ++ "." ++ purpose ++ "-"

/-- Creates the scratch folder, and the folders around it as far as they do not exist. -/
def enter (destination : Location) : m StagingArea := do
  let parent := destination.dropLast
  provideFolders [] parent
  let scratch ← makeScratch parent (scratchName destination "staging")
  return ⟨destination, scratch, false⟩

/-- Writes a file of the staged tree. -/
def writeFile (area : StagingArea) (path : String) (content : ByteArray) : m Unit :=
  writeAt area.scratch path content

/-- Moves a destination that exists aside, and tells where to. -/
def moveAside (area : StagingArea) : m (Option Location) := do
  if ← exists? area.destination then
    let backup ← makeScratch area.destination.dropLast (scratchName area.destination "backup")
    removeFolder backup
    rename area.destination backup
    return some backup
  else return none

/-- Brings back what was moved aside, and ends with the fault that stood in the way. -/
def restore (area : StagingArea) (backup? : Option Location) (problem : Fault) : m Unit := do
  match backup? with
  | some backup => rename backup area.destination
  | none => pure ()
  throw problem

/-- Removes what was moved aside. -/
def discard (area : StagingArea) : Option Location → m Commit
  | none => return ⟨area, none⟩
  | some backup =>
    tryCatch (do removeTree backup; return ⟨area, none⟩) fun problem => return ⟨area, some problem⟩

/-- Puts the staged tree in the place of the destination. -/
def commit (area : StagingArea) : m Commit := do
  let backup? ← area.moveAside
  tryCatch (rename area.scratch area.destination) (area.restore backup?)
  discard { area with committed := true } backup?

/-- Removes the scratch folder of work that was not committed. -/
def leave (area : StagingArea) : m Unit := do
  if !area.committed then
    if ← exists? area.scratch then removeTree area.scratch

/-- Stages a tree with some work, commits it and leaves nothing else behind. -/
def fill (destination : Location) (work : StagingArea → m Unit) : m Unit := do
  let area ← enter destination
  let done ←
    try
      work area
      area.commit
    catch problem =>
      area.leave
      throw problem
  done.area.leave
  match done.leftover with
  | none => return ()
  | some problem => throw problem

end StagingArea

end FeatureLayout
