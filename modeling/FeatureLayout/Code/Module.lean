import FeatureLayout.Code.Comments
import FeatureLayout.Code.Export
import FeatureLayout.Code.Import

/-!
# Modules

What is read off a module: its exports, its imports and its kind. This is no parser: comments are
blanked, and the statement forms are searched for in what is left, which is enough to see which file
refers to which and to change specifiers in place.
-/

namespace FeatureLayout.Code

/-- What is read off a module. -/
structure Module where
  exports : List Export
  imports : List Import
  kind : SymbolKind
  deriving DecidableEq, Repr

/-- The extensions of source files. -/
def sourceExtensions : List String := [".ts", ".tsx", ".js", ".jsx", ".mjs", ".cjs"]

/-- Whether a path has the extension of a source file. -/
def isSource (path : String) : Bool := sourceExtensions.contains (Path.extension path)

/-- Reads a module off its text; the path tells about kinds. -/
def Module.ofText (text : List Char) (path : String) : Except ScanProblem Module := do
  let masked ← maskComments text
  let exports := Export.ofText masked path
  return {
    exports := exports
    imports := Import.ofText masked
    kind := SymbolKind.ofFile (exports.map fun found => (found.name, found.kind)) path }

end FeatureLayout.Code
