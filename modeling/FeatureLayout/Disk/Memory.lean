import FeatureLayout.Disk.Basic
import FeatureLayout.Ledger

/-!
# A disk in memory

A disk is a table of files and folders by location. The folder of every entry is an entry too; the
root is always there. `DiskM` runs the operations of `FileSystem` on such a disk, and can be told to
refuse one operation that would change it, in order to see what is left behind then.
-/

namespace FeatureLayout

/-- A file or a folder. -/
inductive DiskEntry where
  | file (content : ByteArray)
  | folder

/-- The files and folders below the root. -/
structure Disk where
  entries : Ledger Location DiskEntry

namespace Disk

/-- The disk with nothing but its root. -/
def empty : Disk := ⟨.empty⟩

/-- The entry at a location. -/
def entry? (disk : Disk) (place : Location) : Option DiskEntry :=
  if place.isEmpty then some .folder else disk.entries.find? place

/-- What exists at a location. -/
def kind? (disk : Disk) (place : Location) : Option EntryKind :=
  (disk.entry? place).map fun entry =>
    match entry with
    | .file _ => .file
    | .folder => .folder

/-- Why nothing can be found at a location: a file stands on the way, or nothing does. -/
def absence (disk : Disk) (place : Location) : DiskProblem :=
  if (List.range place.length).any fun count => disk.kind? (place.take count) == some .file then
    .notFolder
  else .missing

/-- Stores an entry, provided that its folder exists. -/
def store (disk : Disk) (place : Location) (entry : DiskEntry) : Except DiskProblem Disk :=
  match disk.kind? place.dropLast with
  | some .folder => .ok ⟨disk.entries.put place entry⟩
  | some .file => .error .notFolder
  | none => .error (disk.absence place)

/-- Creates a folder. -/
def makeFolder (disk : Disk) (place : Location) : Except DiskProblem Disk :=
  if (disk.entry? place).isSome then .error .occupied else disk.store place .folder

/-- Creates or replaces a file. -/
def write (disk : Disk) (place : Location) (content : ByteArray) : Except DiskProblem Disk :=
  if disk.kind? place = some .folder then .error .isFolder else disk.store place (.file content)

/-- The bytes of a file. -/
def read (disk : Disk) (place : Location) : Except DiskProblem ByteArray :=
  match disk.entry? place with
  | some (.file content) => .ok content
  | some .folder => .error .isFolder
  | none => .error (disk.absence place)

/-- The locations of all entries strictly below a folder. -/
def placesBelow (disk : Disk) (folder : Location) : List Location :=
  disk.entries.keys.filter (·.isBelow folder)

/-- The names in a folder. -/
def names (disk : Disk) (folder : Location) : Except DiskProblem (List String) :=
  match disk.kind? folder with
  | some .folder =>
    .ok (((disk.placesBelow folder).filter (·.length = folder.length + 1)).filterMap
      (·.getLast?))
  | some .file => .error .notFolder
  | none => .error (disk.absence folder)

/-- The relative paths of all files below a folder. -/
def filesBelow (disk : Disk) (folder : Location) : List String :=
  ((disk.placesBelow folder).filter (disk.kind? · == some .file)).map (·.below folder)

/-- The disk without a location and everything below it. -/
def without (disk : Disk) (place : Location) : Disk :=
  ⟨disk.entries.filter fun entry => !entry.1.isWithin place⟩

/-- The entries of a location and of everything below it, as they lie at another location. -/
def carried (disk : Disk) (source target : Location) : List (Location × DiskEntry) :=
  (disk.entries.entries.filter (·.1.isWithin source)).map fun entry =>
    (target ++ entry.1.drop source.length, entry.2)

/-- Moves what exists at a location. -/
def rename (disk : Disk) (source target : Location) : Except DiskProblem Disk :=
  if (disk.entry? source).isNone then .error (disk.absence source)
  else if (disk.entry? target).isSome then .error .occupied
  else
    match disk.kind? target.dropLast with
    | some .folder =>
      let kept := (disk.without source).entries.entries
      .ok ⟨Ledger.ofList (kept ++ disk.carried source target)⟩
    | some .file => .error .notFolder
    | none => .error (disk.absence target)

/-- Removes an empty folder. -/
def removeFolder (disk : Disk) (place : Location) : Except DiskProblem Disk :=
  match disk.kind? place with
  | some .folder =>
    if (disk.placesBelow place).isEmpty then .ok (disk.without place) else .error .occupied
  | some .file => .error .notFolder
  | none => .error (disk.absence place)

/-- Removes a folder with everything in it. -/
def removeTree (disk : Disk) (place : Location) : Except DiskProblem Disk :=
  match disk.kind? place with
  | some .folder => .ok (disk.without place)
  | some .file => .error .notFolder
  | none => .error (disk.absence place)

/-- The first location in a folder, named by a text and a number, where nothing exists; `attempts`
bounds the search. -/
def freePlace (disk : Disk) (folder : Location) (start : String) : Nat → Nat → Location
  | 0, number => folder ++ [start ++ toString number]
  | attempts + 1, number =>
    let place := folder ++ [start ++ toString number]
    if (disk.entry? place).isNone then place else freePlace disk folder start attempts (number + 1)

end Disk

/-- A disk in use. -/
structure Device where
  disk : Disk
  /-- How many changes succeed before one is refused; none is refused when absent. -/
  refusal : Option Nat

/-- Actions on a disk in memory. -/
abbrev DiskM := ExceptT Fault (StateM Device)

namespace DiskM

/-- Looks something up on the disk. -/
def look {α : Type} (find : Disk → Except DiskProblem α) : DiskM α := do
  match find (← get).disk with
  | .ok found => return found
  | .error problem => throw (.disk problem)

/-- Counts a change, and refuses it when its turn has come. -/
def permit : DiskM Unit := do
  let device ← get
  match device.refusal with
  | none => return ()
  | some 0 =>
    set { device with refusal := none }
    throw (.disk .refused)
  | some (remaining + 1) => set { device with refusal := some remaining }

/-- Changes the disk. -/
def change (act : Disk → Except DiskProblem Disk) : DiskM Unit := do
  permit
  let device ← get
  match act device.disk with
  | .ok disk => set { device with disk := disk }
  | .error problem => throw (.disk problem)

instance : FileSystem DiskM where
  kind? place := look fun disk => .ok (disk.kind? place)
  names folder := look (·.names folder)
  filesBelow folder := look fun disk => .ok (disk.filesBelow folder)
  read place := look (·.read place)
  write place content := change (·.write place content)
  makeFolder place := change (·.makeFolder place)
  makeScratch folder start := do
    let disk := (← get).disk
    let place := disk.freePlace folder start (disk.entries.size + 1) 0
    change (·.makeFolder place)
    return place
  rename source target := change (·.rename source target)
  removeFolder place := change (·.removeFolder place)
  removeTree place := change (·.removeTree place)

/-- Runs actions on a disk: what they answer, and the disk they leave. -/
def runOn {α : Type} (actions : DiskM α) (disk : Disk) : Except Fault α × Disk :=
  let (answer, device) := actions.run.run ⟨disk, none⟩
  (answer, device.disk)

end DiskM

end FeatureLayout
