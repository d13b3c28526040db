import FeatureLayout.Text.Blank

/-!
# Paths

Source files are named by relative paths with slashes. The functions here are purely textual: they
take names, folders, stems and extensions apart and normalize dots, and never look at a disk.

A `Location` is a place on a disk, given by the segments from the root down. Following a path from a
location resolves `.` and `..`; going up from the root stays at the root.
-/

namespace FeatureLayout

namespace Path

open Text

/-- The segments of a path, without empty ones and single dots. -/
def segments (path : String) : List String :=
  (fieldsOf '/' path).filter fun segment => segment != "" && segment != "."

/-- Whether a path holds the character that ends names on disks, so that nothing can be there. -/
def isBroken (path : String) : Bool := path.toList.contains '\x00'

/-- Whether a path starts at the root. -/
def isAbsolute (path : String) : Bool := path.toList.head? == some '/'

/-- The slashes that an absolute path keeps at its front: two if it starts with exactly two. -/
def rootMark (path : String) : String :=
  match (path.toList.takeWhile (· == '/')).length with
  | 0 => ""
  | 2 => "//"
  | _ => "/"

/-- A path with repeated slashes and single dots removed; nothing at all is written as a dot. -/
def clean (path : String) : String :=
  let text := rootMark path ++ joinWith "/" (segments path)
  if text == "" then "." else text

/-- A cleaned path without slashes at its ends. -/
def relative (path : String) : String :=
  String.ofList ((((clean path).toList.dropWhile (· == '/')).reverse.dropWhile (· == '/')).reverse)

/-- The last segment of a path. -/
def fileName (path : String) : String := (segments path).getLast?.getD ""

/-- The folders of a path, outermost first. -/
def folders (path : String) : List String := (segments path).dropLast

/-- A file name cut at its last dot, when there is something on both sides of the dot. -/
def cutName (name : List Char) : Option (List Char × List Char) :=
  match name.reverse.dropWhile (· != '.') with
  | _ :: before =>
    let ending := (name.reverse.takeWhile (· != '.')).reverse
    if before.isEmpty || ending.isEmpty then none else some (before.reverse, '.' :: ending)
  | [] => none

/-- The extension of a path, with its dot; empty when there is none. -/
def extension (path : String) : String :=
  match cutName (fileName path).toList with
  | some (_, ending) => String.ofList ending
  | none => ""

/-- The file name of a path without its extension. -/
def stem (path : String) : String :=
  match cutName (fileName path).toList with
  | some (front, _) => String.ofList front
  | none => fileName path

/-- What follows the last slash of a path. -/
def baseName (path : String) : String := (fieldsOf '/' path).getLast?.getD ""

/-- What stands before the last slash of a path, without slashes at its end unless it has nothing
else. -/
def parent (path : String) : String :=
  let front := path.toList.reverse.dropWhile (· != '/')
  if front.all (· == '/') then String.ofList front
  else String.ofList (front.dropWhile (· == '/')).reverse

/-- A path without the extension of its last segment; dots at the front of a name are no extension.
-/
def withoutExtension (path : String) : String :=
  let ends (c : Char) := c != '.' && c != '/'
  match path.toList.reverse.dropWhile ends with
  | '.' :: before =>
    if (before.takeWhile (· != '/')).all (· == '.') then path else String.ofList before.reverse
  | _ => path

/-- A path followed from a folder; an absolute one replaces the folder. -/
def join (folder path : String) : String :=
  if isAbsolute path then path
  else if folder == "" || folder.toList.getLast? == some '/' then folder ++ path
  else folder ++ "/" ++ path

/-- Resolves `..` against the segments before it, which are given last first. Those that would climb
above the start are kept, except at the root. -/
def climb (absolute : Bool) (above : List String) (segment : String) : List String :=
  if segment != ".." then segment :: above
  else
    match above with
    | [] => if absolute then [] else [".."]
    | last :: rest => if last == ".." then ".." :: above else rest

/-- A path with slashes, single dots and `..` resolved; nothing at all is written as a dot. -/
def normal (path : String) : String :=
  let resolved := ((segments path).foldl (climb (isAbsolute path)) []).reverse
  let text := rootMark path ++ joinWith "/" resolved
  if text == "" then "." else text

end Path

/-- A place on a disk: the segments from the root down. -/
abbrev Location := List String

namespace Location

/-- One step from a location. -/
def step (location : Location) (segment : String) : Location :=
  if segment == ".." then location.dropLast else location ++ [segment]

/-- The location that a path leads to from a folder. -/
def follow (folder : Location) (path : String) : Location :=
  (Path.segments path).foldl step (if Path.isAbsolute path then [] else folder)

/-- The absolute path of a location. -/
def text (location : Location) : String := "/" ++ Text.joinWith "/" location

/-- Whether a location lies below a folder, or is the folder. -/
def isWithin (location folder : Location) : Bool := folder.isPrefixOf location

/-- Whether a location lies strictly below a folder. -/
def isBelow (location folder : Location) : Bool :=
  folder.isPrefixOf location && folder.length < location.length

/-- The path of a location relative to a folder that holds it. -/
def below (location folder : Location) : String := Text.joinWith "/" (location.drop folder.length)

end Location

end FeatureLayout
