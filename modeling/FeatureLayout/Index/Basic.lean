import FeatureLayout.Code.Kind
import FeatureLayout.Diagnostic
import FeatureLayout.Ledger
import FeatureLayout.Text.Slice

/-!
# Source indexes

An index holds every file of a source tree that takes part in a migration: its kind, the symbols it
exports, the names it imports with the files they come from, and its text. Assets have no text and
refer to nothing.
-/

namespace FeatureLayout

open Text

/-- An exported symbol, owned by one file. -/
structure Symbol where
  name : String
  file : String
  kind : SymbolKind
  localName : Option String
  deriving DecidableEq, Repr, Inhabited

/-- The name of a symbol with its file. -/
def Symbol.qualified (symbol : Symbol) : String := symbol.file ++ "#" ++ symbol.name

/-- One imported name of one import statement: `default`, a name of the other module, or `*` for the
module as a whole. The span covers the specifier between its quotes. -/
structure ImportRef where
  source : String
  name : String
  specifier : String
  line : Nat
  span : Span
  /-- The file that the specifier leads to; absent for packages. -/
  target : Option String
  dynamic : Bool
  deriving DecidableEq, Repr, Inhabited

/-- An indexed file. -/
structure SourceFile where
  path : String
  kind : SymbolKind
  exports : List Symbol
  imports : List ImportRef
  /-- The text of the file; assets have none. -/
  content : Option String
  deriving DecidableEq, Repr, Inhabited

namespace SourceFile

/-- Whether a file is an asset. -/
def isAsset (file : SourceFile) : Bool := file.kind == .asset

/-- The names that a file exports. -/
def exportedNames (file : SourceFile) : List String := file.exports.map (·.name)

/-- The file of an asset. -/
def ofAsset (path : String) : SourceFile := ⟨path, .asset, [], [], none⟩

end SourceFile

/-- The files of a source tree. -/
structure SourceIndex where
  /-- The files by path. -/
  files : Ledger String SourceFile
  /-- The paths found in excluded folders. -/
  excluded : List String
  /-- What was wrong with files and specifiers, in the order in which it was found. -/
  errors : List Diagnostic

namespace SourceIndex

/-- The file at a path. -/
def file? (index : SourceIndex) (path : String) : Option SourceFile := index.files.find? path

/-- The size of an index in one line. -/
def summary (index : SourceIndex) : String :=
  "SourceIndex(files=" ++ toString index.files.size ++ ", excluded=" ++
    toString index.excluded.length ++ ", errors=" ++ toString index.errors.length ++ ")"

end SourceIndex

end FeatureLayout
