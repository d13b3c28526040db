import FeatureLayout.Path
import FeatureLayout.Text.Case

/-!
# Kinds of symbols and files

Every exported symbol has a kind, inferred from how it is declared, what it is called and where its
file lies. A file has the kind of its default export, else its strongest export's kind, so that the
interface of a component's properties does not make the file a file of types. A file without exports
goes by its folders, then by its name.
-/

namespace FeatureLayout

open Text

/-- The kinds of exported symbols, and of the files that hold them. -/
inductive SymbolKind where
  | component
  | page
  | hook
  | context
  | type
  | util
  | apiCall
  | asset
  deriving DecidableEq, Repr, Inhabited

namespace SymbolKind

/-- All kinds. -/
def all : List SymbolKind := [component, page, hook, context, type, util, apiCall, asset]

/-- The written name of a kind. -/
def text : SymbolKind → String
  | component => "component"
  | page => "page"
  | hook => "hook"
  | context => "context"
  | type => "type"
  | util => "util"
  | apiCall => "api-call"
  | asset => "asset"

/-- The kind with a written name. -/
def ofText? (name : String) : Option SymbolKind := all.find? (·.text == name)

theorem ofText?_text (kind : SymbolKind) : ofText? kind.text = some kind := by
  cases kind <;> decide

/-- The strength of a kind as a file's kind; low ranks win. -/
def rank : SymbolKind → Nat
  | page => 0
  | component | context | hook => 1
  | util | apiCall => 2
  | type => 3
  | asset => 4

/-- The declaration words that declare types. -/
def typeWords : List String := ["interface", "type", "enum", "const enum"]

/-- Whether a name follows the naming of hooks: `use` and then a capital letter or a digit. -/
def isHookName (name : List Char) : Bool :=
  match name with
  | 'u' :: 's' :: 'e' :: c :: _ => ('A' ≤ c && c ≤ 'Z') || ('0' ≤ c && c ≤ '9')
  | _ => false

/-- Whether a text ends in another. -/
def endsIn (text ending : String) : Bool := ending.toList.isSuffixOf text.toList

/-- The kind of a symbol with a name, declared by a keyword (or by none), in the file at a path. -/
def infer (name declaration path : String) : SymbolKind :=
  let folders := Path.folders path
  let capitalized := name.toList.head?.any isUpper
  let markup := [".tsx", ".jsx"].contains (Path.extension path)
  if typeWords.contains declaration then .type
  else if isHookName name.toList then .hook
  else if capitalized && (endsIn name "Context" || endsIn name "Provider") then .context
  else if folders.contains "api" || folders.contains "services" then .apiCall
  else if capitalized && markup then
    if folders.contains "pages" || folders.contains "views" || endsIn name "Page" then .page
    else .component
  else .util

/-- The kind that a folder name stands for. -/
def ofFolder? : String → Option SymbolKind
  | "pages" | "views" => some .page
  | "components" => some .component
  | "hooks" => some .hook
  | "context" | "contexts" => some .context
  | "types" => some .type
  | "utils" | "lib" => some .util
  | "api" | "services" => some .apiCall
  | _ => none

/-- The kind of lowest rank; the earliest of those. -/
def strongest : SymbolKind → List SymbolKind → SymbolKind
  | best, [] => best
  | best, kind :: rest => if kind.rank < best.rank then strongest kind rest else strongest best rest

/-- The kind of a file at a path with exported names of given kinds, in order. -/
def ofFile (exported : List (String × SymbolKind)) (path : String) : SymbolKind :=
  match exported.find? (·.1 == "default"), exported with
  | some (_, kind), _ => kind
  | none, (_, first) :: rest => strongest first (rest.map Prod.snd)
  | none, [] =>
    ((Path.folders path).reverse.findSome? ofFolder?).getD (infer (Path.stem path) "" path)

end SymbolKind

end FeatureLayout
