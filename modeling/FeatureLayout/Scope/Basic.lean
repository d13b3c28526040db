import FeatureLayout.Code.Kind
import FeatureLayout.Ledger
import FeatureLayout.Scope.Problem
import FeatureLayout.Text.Glob

/-!
# Migration scopes

A scope says what a migration covers: the source tree, the features with their entry points and the
resources they own, the folders that stay out, the interface of the local storage calls to replace,
and the remote operations that replace them. It does not change during a run.

Settings that only some files make use of are kept as they were given, whatever they are: globs,
aliases, folders of kinds, templates and most of what a contract entry says. Each is meant to be a
text, and where another value cannot be used, using it is a `SettingProblem`.
-/

namespace FeatureLayout

open Text

/-- What a storage call does. -/
inductive Operation where
  | read
  | write
  | delete
  | list
  deriving DecidableEq, Repr, Inhabited

namespace Operation

/-- The written name of an operation. -/
def text : Operation → String
  | read => "read"
  | write => "write"
  | delete => "delete"
  | list => "list"

/-- The operation with a written name. -/
def ofText? : String → Option Operation
  | "read" => some read
  | "write" => some write
  | "delete" => some delete
  | "list" => some list
  | _ => none

theorem ofText?_text (operation : Operation) : ofText? operation.text = some operation := by
  cases operation <;> rfl

/-- The type that the local call of an operation returns; the code around a call relies on it. -/
def localResult : Operation → String
  | read => "string | null"
  | write => "void"
  | delete => "void"
  | list => "string[]"

end Operation

/-- A remote operation that a storage call can be bound to. -/
structure ContractEntry where
  name : Value
  operation : Operation
  resource : Value
  method : String
  path : Value
  params : List Value
  /-- The type of the remote result; not given when nothing is returned. -/
  returns : Value
  /-- The text to put in place of a call, if the entry has its own. -/
  template : Value
  deriving Repr, Inhabited

/-- The method and the path of a remote operation. -/
def ContractEntry.signature (entry : ContractEntry) : String :=
  entry.method ++ " " ++ entry.path.display

/-- A functional area to migrate. -/
structure Feature where
  name : String
  entryPoints : List String
  /-- The resources, none of them twice and all of them with a key. -/
  resources : List Value
  deriving Repr, Inhabited

/-- The local storage calls to replace, and how replacements look. -/
structure StorageInterface where
  /-- The operation of each function that is called. -/
  calls : Ledger String Operation
  callTemplate : Value
  importLine : Value
  /-- The resource that calls which list a storage stand for; null when none is declared. -/
  listResource : Value

namespace StorageInterface

/-- The functions called when nothing else is configured. -/
def usualCalls : Ledger String Operation :=
  Ledger.ofList [("localStorage.getItem", .read), ("localStorage.setItem", .write),
    ("localStorage.removeItem", .delete), ("sessionStorage.getItem", .read),
    ("sessionStorage.setItem", .write), ("sessionStorage.removeItem", .delete),
    ("Object.keys", .list)]

/-- The replacement of a call when nothing else is configured. -/
def usualTemplate : String := "api.\x7bname\x7d(\x7bargs\x7d)"

/-- The import that replacements need when nothing else is configured. -/
def usualImport : String := "import \x7b api \x7d from '@/api/client';"

/-- The interface when nothing else is configured. -/
def usual : StorageInterface := ⟨usualCalls, .text usualTemplate, .text usualImport, .null⟩

/-- The storage objects: what stands before the first dot of the functions that read, write or
delete. A function that lists a storage takes the object as its argument instead. -/
def identifiers (interface : StorageInterface) : List String :=
  ((interface.calls.entries.filter fun call => call.2 != .list).map fun call =>
    String.ofList (call.1.toList.takeWhile (· != '.'))).eraseDups

end StorageInterface

/-- The folder of each kind when nothing else is configured. -/
def SymbolKind.usualBucket : SymbolKind → String
  | component => "components"
  | page => "pages"
  | hook => "hooks"
  | context => "context"
  | type => "types"
  | util => "utils"
  | apiCall => "api"
  | asset => "assets"

/-- What a migration covers. -/
structure Scope where
  /-- The folder of the source tree. -/
  root : Location
  features : List Feature
  /-- Folders whose files stay out of the migration. -/
  excluded : List String
  /-- Globs of files to keep although no feature reaches them. -/
  retain : List Value
  /-- How specifiers that start at the source root begin. -/
  sourceAlias : Value
  /-- How rewritten specifiers begin. -/
  targetAlias : Value
  /-- The folder for the files of each kind. -/
  bucket : SymbolKind → Value
  storage : StorageInterface
  contract : List ContractEntry
  jobs : Nat
  configFile : Option Location

namespace Scope

/-- The feature with a name. -/
def feature? (scope : Scope) (name : String) : Option Feature :=
  scope.features.find? (·.name == name)

/-- Whether a path is a folder or lies in it. -/
def liesIn (path folder : String) : Bool :=
  path == folder || (folder ++ "/").toList.isPrefixOf path.toList

/-- Whether a path lies in an excluded folder. -/
def isExcluded (scope : Scope) (path : String) : Bool := scope.excluded.any (liesIn path)

/-- Whether a setting is a glob that matches a path. -/
def keeps (path : String) : Value → Bool
  | .text glob => globMatches glob path
  | _ => false

/-- Whether a path is kept although no feature may reach it. -/
def isRetained (scope : Scope) (path : String) : Bool := scope.retain.any (keeps path)

/-- Why it cannot be told whether a path is kept: the globs are tried in order, and something that
is no glob comes before the first that matches. -/
def retainProblem? (scope : Scope) (path : String) : Option SettingProblem :=
  match scope.retain.find? fun glob => keeps path glob || !glob.isText with
  | none | some (.text _) => none
  | some _ => some .wrongKind

/-- The feature that lists a resource with a key. -/
def ownerOf (scope : Scope) (resource : Value.Key) : Option String :=
  (scope.features.find? fun feature => feature.resources.any (·.key? == some resource)).map (·.name)

/-- The feature that owns a resource. What has no key cannot be looked for among resources. -/
def resourceOwner (scope : Scope) (resource : Value) : Except SettingProblem (Option String) :=
  match resource.key? with
  | some key => .ok (scope.ownerOf key)
  | none => if scope.features.isEmpty then .ok none else .error .wrongKind

theorem resourceOwner_text (scope : Scope) (resource : String) :
    scope.resourceOwner (.text resource) = .ok (scope.ownerOf (.text resource)) := rfl

/-- The names of a list that no feature has. -/
def unknownFeatures (scope : Scope) (names : List String) : List String :=
  sortedDistinct (names.filter fun name => !(scope.features.any (·.name == name)))

/-- The scope with the named features only, or the names that no feature has. -/
def restrict (scope : Scope) (names : List String) : Except (List String) Scope :=
  match scope.unknownFeatures names with
  | [] => .ok { scope with features := scope.features.filter fun f => names.contains f.name }
  | unknown => .error unknown

end Scope

end FeatureLayout
