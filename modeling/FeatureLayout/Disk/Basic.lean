import FeatureLayout.Fault
import FeatureLayout.Path

/-!
# Disk operations

`FileSystem m` offers the operations on a disk that a migration needs, each as one action that may
fail with a fault of its own. What a migration does to a disk is written once over these operations;
`FeatureLayout.Disk.Memory` gives them a meaning that can be reasoned about.
-/

namespace FeatureLayout

/-- What exists at a place. -/
inductive EntryKind where
  | file
  | folder
  deriving DecidableEq, Repr

/-- The operations on a disk. -/
class FileSystem (m : Type → Type) where
  /-- What exists at a place, if anything does. -/
  kind? : Location → m (Option EntryKind)
  /-- The names in a folder. -/
  names : Location → m (List String)
  /-- The relative paths of all files below a folder; none when there is no such folder. -/
  filesBelow : Location → m (List String)
  read : Location → m ByteArray
  /-- Creates or replaces a file in a folder that exists. -/
  write : Location → ByteArray → m Unit
  /-- Creates a folder in a folder that exists. -/
  makeFolder : Location → m Unit
  /-- Creates a folder with a name of its own that begins in a given way. -/
  makeScratch : Location → String → m Location
  /-- Moves a file or a folder to a place where nothing exists. -/
  rename : Location → Location → m Unit
  /-- Removes an empty folder. -/
  removeFolder : Location → m Unit
  /-- Removes a folder with everything in it. -/
  removeTree : Location → m Unit

namespace FileSystem

variable {m : Type → Type} [Monad m] [MonadExceptOf Fault m] [FileSystem m]

/-- Whether anything exists at a place. -/
def exists? (place : Location) : m Bool := return (← kind? place).isSome

/-- Creates a folder unless it exists; `last` tells whether it is the folder that is asked for or
one on the way to it. -/
def provideFolder (place : Location) (last : Bool) : m Unit := do
  match ← kind? place with
  | none => makeFolder place
  | some .folder => return ()
  | some .file => throw (.disk (if last then .occupied else .notFolder))

/-- Creates the folders of a path one after another, as far as they do not exist. -/
def provideFolders : Location → List String → m Unit
  | _, [] => return ()
  | place, segment :: rest => do
    provideFolder (place.step segment) rest.isEmpty
    provideFolders (place.step segment) rest

/-- Writes a file at a path that starts at a folder, and creates the folders on the way. -/
def writeAt (folder : Location) (path : String) (content : ByteArray) : m Unit := do
  if Path.isBroken path then throw (.setting .brokenPath)
  let start := if Path.isAbsolute path then [] else folder
  provideFolders [] (start ++ Path.folders path)
  write (folder.follow path) content

/-- Goes from a folder to a place through folders that exist. -/
def walkThrough : Location → List String → m Location
  | place, [] => return place
  | place, segment :: rest => do
    match ← kind? place with
    | some .folder => walkThrough (place.step segment) rest
    | some .file => throw (.disk .notFolder)
    | none => throw (.disk .missing)

/-- The place that a path leads to from a folder, provided that all folders on the way exist. -/
def walk (folder : Location) (path : String) : m Location :=
  walkThrough (if Path.isAbsolute path then [] else folder) (Path.segments path)

/-- The bytes of a file as a text. -/
def readText (place : Location) : m String := do
  match String.fromUTF8? (← read place) with
  | some text => return text
  | none => throw (.disk .notText)

end FileSystem

end FeatureLayout
