import FeatureLayout.CommandLine

/-!
# The program

Runs the command line on the disk of the machine, in the working directory. Output goes to standard
output, and the wording of a fault to standard error.
-/

namespace FeatureLayout

/-- Actions on the disk of the machine. -/
abbrev MachineM := ExceptT Fault IO

namespace MachineM

/-- What an error of the machine means to a migration. -/
def problemOf : IO.Error → DiskProblem
  | .noFileOrDirectory .. => .missing
  | .alreadyExists .. => .occupied
  | .inappropriateType .. => .notFolder
  | _ => .refused

/-- Runs an action of the machine. -/
def perform {α : Type} (action : IO α) : MachineM α := do
  match ← action.toBaseIO with
  | .ok answer => return answer
  | .error problem => throw (.disk (problemOf problem))

/-- What exists at a location. -/
def kindAt (place : Location) : IO (Option EntryKind) := do
  let path := (← IO.currentDir) / place.text
  if ← path.isDir then return some .folder
  else if ← path.pathExists then return some .file
  else return none

/-- The names in a folder. -/
def namesIn (folder : Location) : IO (List String) := do
  let entries ← ((← IO.currentDir) / folder.text).readDir
  return entries.toList.map (·.fileName)

/-- The locations of all files below a folder. -/
partial def filesIn (folder : Location) : IO (List Location) := do
  match ← kindAt folder with
  | some .folder =>
    let found ← (← namesIn folder).mapM fun name => do
      let place := folder ++ [name]
      if (← kindAt place) == some EntryKind.file then return [place] else filesIn place
    return found.flatten
  | _ => return []

/-- Creates a folder with a name that is not in use. -/
partial def scratchIn (folder : Location) (start : String) (number : Nat) : IO Location := do
  let place := folder ++ [start ++ toString number]
  if (← kindAt place).isSome then scratchIn folder start (number + 1)
  else
    IO.FS.createDir place.text
    return place

/-- Moves a file or a folder to a place where nothing exists. -/
def move (source target : Location) : MachineM Unit := do
  if (← perform (kindAt target)).isSome then throw (.disk .occupied)
  perform (IO.FS.rename source.text target.text)

instance : FileSystem MachineM where
  kind? place := perform (kindAt place)
  names folder := perform (namesIn folder)
  filesBelow folder := perform do return (← filesIn folder).map (·.below folder)
  read place := perform (IO.FS.readBinFile place.text)
  write place content := perform (IO.FS.writeBinFile place.text content)
  makeFolder place := perform (IO.FS.createDir place.text)
  makeScratch folder start := perform (scratchIn folder start 0)
  rename source target := move source target
  removeFolder place := perform (IO.FS.removeDir place.text)
  removeTree place := perform (IO.FS.removeDirAll place.text)

end MachineM

end FeatureLayout

open FeatureLayout in
def main (arguments : List String) : IO UInt32 := do
  let folder : Location := Path.segments (← IO.currentDir).toString
  match ← (CommandLine.run folder arguments : MachineM CommandLine.Outcome).run with
  | .error problem =>
    IO.eprintln problem.message
    return 1
  | .ok outcome =>
    IO.print outcome.printed
    if let some problem := outcome.fault then IO.eprintln problem.message
    return outcome.exitCode.toUInt32
