import FeatureLayout.Scope.Basic
import FeatureLayout.Scope.Problem
import FeatureLayout.Text.Digit
import FeatureLayout.Text.Slice

/-!
# From configuration to scope

`Scope.ofValue` reads a scope off a configuration and refuses one that is inconsistent: no features,
a badly named feature, a feature without entry points or with one in an excluded folder, a resource
listed by two features, an unknown kind or operation, fewer than one job, or a contract entry that
lacks a field. The checks come in the order of the settings in this module, and the first that fails
decides.

Where a list is expected, a text stands for the list of its characters and a table for the list of
its keys. Settings that are only passed on, such as aliases, globs and the fields of contract
entries, are kept whatever they hold; what uses them finds out.
-/

namespace FeatureLayout

open Text

namespace Scope

/-- Refuses a configuration. -/
def refuse {α : Type} (problem : ConfigProblem) : Except ScopeProblem α := .error (.refused problem)

/-- A value that cannot be used in its place. -/
def unusable {α : Type} (problem : SettingProblem) : Except ScopeProblem α :=
  .error (.unusable problem)

/-- A value that has to be a text. -/
def textOf : Value → Except ScopeProblem String
  | .text content => .ok content
  | _ => unusable .wrongKind

/-- The items of a value that can be listed. -/
def itemsOf : Value → Except ScopeProblem (List Value)
  | .list items => .ok items
  | .text content => .ok (content.toList.map fun c => .text (String.singleton c))
  | .table settings => .ok (settings.map fun setting => .text setting.1)
  | _ => unusable .wrongKind

/-- The settings of a value that has to be a table. -/
def settingsOf : Value → Except ScopeProblem (List (String × Value))
  | .table settings => .ok settings
  | _ => unusable .noParts

/-- The items of a list in a table, none when it is not set. -/
def itemsAt (settings : List (String × Value)) (key : String) : Except ScopeProblem (List Value) :=
  itemsOf ((Value.setting? settings key).getD (.list []))

/-- A list of texts in a table, empty when it is not set. -/
def textsAt (settings : List (String × Value)) (key : String) :
    Except ScopeProblem (List String) := do
  (← itemsAt settings key).mapM textOf

/-- A setting as it was given, or a text when it is not set. -/
def settingOr (settings : List (String × Value)) (key usual : String) : Value :=
  (Value.setting? settings key).getD (.text usual)

/-- A setting as it was given, or null when it is not set. -/
def settingOrNull (settings : List (String × Value)) (key : String) : Value :=
  (Value.setting? settings key).getD .null

/-- A table in a table, empty when it is not set or holds nothing. -/
def tableAt (settings : List (String × Value)) (key : String) :
    Except ScopeProblem (List (String × Value)) :=
  let value := settingOrNull settings key
  if value.isGiven then settingsOf value else .ok []

/-- Whether a text is a lower-case letter followed by lower-case letters, digits and hyphens. -/
def isPlainName (name : List Char) : Bool :=
  let letter (c : Char) := 'a' ≤ c && c ≤ 'z'
  match name with
  | [] => false
  | first :: rest => letter first && rest.all fun c => letter c || ('0' ≤ c && c ≤ '9') || c == '-'

/-- Whether a text can name a feature. A line break may follow the name. -/
def isFeatureName (name : String) : Bool :=
  let text := name.toList
  isPlainName (if text.getLast? = some '\n' then text.dropLast else text)

/-- Values without those whose key is among those before them. Values without a key cannot be told
apart. -/
def distinctResources : List Value.Key → List Value → Except ScopeProblem (List Value)
  | _, [] => .ok []
  | keys, value :: rest =>
    match value.key? with
    | none => unusable .wrongKind
    | some key =>
      if keys.contains key then distinctResources keys rest
      else (distinctResources (key :: keys) rest).map (value :: ·)

/-- The owners of resources by their keys. -/
abbrev Owners := Ledger (Option Value.Key) String

/-- Enters the resources of a feature into the table of owners. -/
def claimResources (feature : String) : Owners → List Value → Except ScopeProblem Owners
  | owners, [] => .ok owners
  | owners, resource :: rest =>
    match owners.find? resource.key? with
    | some owner => refuse (.sharedResource resource owner feature)
    | none => claimResources feature (owners.put resource.key? feature) rest

/-- Reads one feature, given the owners of the resources of those before it. -/
def featureOf (excluded : List String) (owners : Owners) (name : String)
    (value : Value) : Except ScopeProblem (Feature × Owners) := do
  if !isFeatureName name then refuse (.badFeatureName name)
  let settings ← settingsOf value
  let entryPoints := (← textsAt settings "entry_points").map Path.relative
  if entryPoints.isEmpty then refuse (.noEntryPoints name)
  match entryPoints.find? fun entry => excluded.any (liesIn entry) with
  | some entry => refuse (.excludedEntryPoint entry name)
  | none => pure ()
  let resources ← distinctResources [] (← itemsAt settings "resources")
  let owners ← claimResources name owners resources
  return (⟨name, entryPoints, resources⟩, owners)

/-- Reads features in the order of their names in the configuration. -/
def featuresOf (excluded : List String) :
    Owners → List (String × Value) → Except ScopeProblem (List Feature)
  | _, [] => .ok []
  | owners, (name, value) :: rest => do
    let (feature, owners) ← featureOf excluded owners name value
    return feature :: (← featuresOf excluded owners rest)

/-- Reads the folders of kinds on top of others. -/
def bucketsOf (bucket : SymbolKind → Value) :
    List (String × Value) → Except ScopeProblem (SymbolKind → Value)
  | [] => .ok bucket
  | (name, folder) :: rest =>
    match SymbolKind.ofText? name with
    | none => refuse (.unknownBucketKind name)
    | some kind => bucketsOf (fun asked => if asked = kind then folder else bucket asked) rest

/-- The number that digits stand for, which may be grouped by single underscores. -/
def digitsValue? : Bool → Nat → List Char → Option Nat
  | grouped, number, [] => if grouped then none else some number
  | grouped, number, c :: rest =>
    match digitValue? c with
    | some digit => digitsValue? false (number * 10 + digit) rest
    | none => if c == '_' && !grouped then digitsValue? true number rest else none

/-- Whether a character may stand around a whole number: white space other than the four separators
of ASCII. -/
def isPadding (c : Char) : Bool := isBlank c && !(0x1c ≤ c.toNat && c.toNat ≤ 0x1f)

/-- The most digits that a text may have to stand for a number. -/
def mostDigits : Nat := 4300

/-- The whole number that digits stand for, if there are not too many of them. -/
def unsignedNumber? (digits : List Char) : Option Nat :=
  if mostDigits < (digits.filter (· != '_')).length then none else digitsValue? true 0 digits

/-- The whole number that a text stands for, with white space around it and a sign allowed. -/
def wholeNumber? (text : String) : Option Int :=
  let front := text.toList.dropWhile isPadding
  match (front.reverse.dropWhile isPadding).reverse with
  | '-' :: digits => (unsignedNumber? digits).map fun number => -(number : Int)
  | '+' :: digits => (unsignedNumber? digits).map Int.ofNat
  | digits => (unsignedNumber? digits).map Int.ofNat

/-- The whole number that a value stands for; decimals lose their fraction. -/
def numberOf : Value → Except ScopeProblem Int
  | .integer number => .ok number
  | .flag set => .ok (if set then 1 else 0)
  | .decimal (.infinite _) => unusable .endless
  | .decimal number =>
    match number.truncated? with
    | some whole => .ok whole
    | none => unusable .notNumber
  | .text content =>
    match wholeNumber? content with
    | some number => .ok number
    | none => unusable .notNumber
  | _ => unusable .wrongKind

/-- The operation that a value names. -/
def operationOf : Value → Except ScopeProblem Operation
  | .text name =>
    match Operation.ofText? name with
    | some operation => .ok operation
    | none => refuse (.unknownOperation (.text name))
  | value => refuse (.unknownOperation value)

/-- Reads the functions of the storage interface. -/
def callsOf : List (String × Value) → Except ScopeProblem (List (String × Operation))
  | [] => .ok []
  | (callee, value) :: rest => do
    let operation ← operationOf value
    return (callee, operation) :: (← callsOf rest)

/-- Reads the storage interface off a value that is not a table: there is nothing in it that could
be read. -/
def storageOfOther : Value → Except ScopeProblem StorageInterface
  | .text content =>
    if occursIn "calls".toList content.toList then unusable .wrongKind else unusable .noParts
  | .list items =>
    let named : Value → Bool
      | .text "calls" => true
      | _ => false
    if items.any named then unusable .wrongKind else unusable .noParts
  | _ => unusable .wrongKind

/-- Reads the storage interface. -/
def storageOf (value : Value) : Except ScopeProblem StorageInterface :=
  match value with
  | .table settings => do
    let calls ←
      match Value.setting? settings "calls" with
      | some calls => (callsOf (← settingsOf calls)).map Ledger.ofList
      | none => pure StorageInterface.usualCalls
    return {
      calls := calls
      callTemplate := settingOr settings "call_template" StorageInterface.usualTemplate
      importLine := settingOr settings "import_line" StorageInterface.usualImport
      listResource := settingOrNull settings "list_resource" }
  | other => storageOfOther other

/-- A field that a contract entry must have. -/
def fieldOf (settings : List (String × Value)) (field : String) : Except ScopeProblem Value :=
  match Value.setting? settings field with
  | some value => .ok value
  | none => refuse (.missingField field (.table settings))

/-- The method of a contract entry in capitals. -/
def methodOf (settings : List (String × Value)) : Except ScopeProblem String :=
  match (Value.setting? settings "method").getD (.text "GET") with
  | .text method => .ok (upper method)
  | _ => unusable .noParts

/-- Reads a contract entry. -/
def entryOf : Value → Except ScopeProblem ContractEntry
  | .table settings => do
    let name ← fieldOf settings "name"
    let operation ← operationOf (← fieldOf settings "operation")
    let resource ← fieldOf settings "resource"
    let method ← methodOf settings
    let path ← fieldOf settings "path"
    let params ← itemsAt settings "params"
    return {
      name := name
      operation := operation
      resource := resource
      method := method
      path := path
      params := params
      returns := settingOrNull settings "returns"
      template := settingOrNull settings "template" }
  | _ => unusable .wrongKind

/-- Reads the folder of the source tree. -/
def rootOf (base : Location) (settings : List (String × Value)) : Except ScopeProblem Location := do
  let path ← textOf (settingOr settings "source_root" ".")
  if Path.isBroken path then unusable .brokenPath
  return base.follow path

/-- Reads a scope off a configuration whose paths start at a base folder. -/
def ofValue (base : Location) (config : Value) : Except ScopeProblem Scope := do
  let settings ← settingsOf config
  let root ← rootOf base settings
  let excluded := (← textsAt settings "excluded").map Path.relative
  let named ← tableAt settings "features"
  if named.isEmpty then refuse .noFeatures
  let features ← featuresOf excluded .empty named
  let bucket ← bucketsOf (fun kind => .text kind.usualBucket) (← tableAt settings "kind_buckets")
  let jobs ← numberOf ((Value.setting? settings "jobs").getD (.integer 4))
  if jobs < 1 then refuse .tooFewJobs
  let retain ← itemsAt settings "retain"
  let persistence := settingOrNull settings "persistence"
  let storage ← if persistence.isGiven then storageOf persistence else pure .usual
  let contract ← (← itemsAt settings "contract").mapM entryOf
  return {
    root := root
    features := features
    excluded := excluded
    retain := retain
    sourceAlias := settingOr settings "source_alias" "@/"
    targetAlias := settingOr settings "target_alias" "@/"
    bucket := bucket
    storage := storage
    contract := contract
    jobs := jobs.toNat
    configFile := none }

end Scope

end FeatureLayout
