import FeatureLayout.Code.Module
import FeatureLayout.Path

/-!
# Resolving specifiers

A specifier that starts with a dot is followed from the folder of the importing file, and one that
starts with the alias of the source root from the root. All others name packages. What is reached is
tried as it is, then with each extension of source files, then as a folder with an index file.
-/

namespace FeatureLayout

/-- Whether a text starts with another. -/
def startsWith (text start : String) : Bool := start.toList.isPrefixOf text.toList

namespace Specifier

/-- Whether a specifier starts with an alias; the empty alias starts nothing. -/
def isAliased (specifier shorthand : String) : Bool :=
  shorthand != "" && startsWith specifier shorthand

/-- Whether a specifier points into the source tree rather than at a package. -/
def isLocal (specifier shorthand : String) : Bool :=
  startsWith specifier "." || startsWith specifier "/" || isAliased specifier shorthand

/-- The path, relative to the root, that a specifier names before extensions are tried. -/
def base? (specifier importer shorthand : String) : Option String :=
  if startsWith specifier "." then
    some (Path.normal (Path.join (Path.parent importer) specifier))
  else if isAliased specifier shorthand then
    some (Path.normal (String.ofList (specifier.toList.drop shorthand.length)))
  else none

/-- The files that a path may stand for, in the order in which they are tried. -/
def candidates (base : String) : List String :=
  base :: Code.sourceExtensions.map (base ++ ·) ++ Code.sourceExtensions.map (base ++ "/index" ++ ·)

/-- The known file that a specifier leads to from an importing file. -/
def resolve (specifier importer : String) (isKnown : String → Bool) (shorthand : String) :
    Option String :=
  match base? specifier importer shorthand with
  | none => none
  | some base =>
    if startsWith base ".." || base == "." then none else (candidates base).find? isKnown

end Specifier

end FeatureLayout
