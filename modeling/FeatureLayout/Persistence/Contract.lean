import FeatureLayout.Fault

/-!
# Binding calls to a contract

A contract entry serves one operation on one resource. A call is bound to the only entry for its
operation and resource, provided that it passes as many arguments as the entry takes and that the
entry returns what the local call returned; an entry with a template of its own may return anything,
because its template adapts the result. When several entries compete, none is bound.

A contract may say what cannot be used: resources without a key cannot be told apart, competing
entries are listed by names that have to be texts, and so has a result type that is looked at, and a
template.
-/

namespace FeatureLayout

open Text

/-- What a contract entry serves: an operation on a resource, which stands for its key. -/
abbrev BindingKey := Operation × Option Value.Key

/-- What an entry serves. -/
def ContractEntry.served (entry : ContractEntry) : BindingKey :=
  (entry.operation, entry.resource.key?)

/-- A contract by what its entries serve, in the order of the first entries. -/
structure Binding where
  entries : Ledger BindingKey (List ContractEntry)

namespace Binding

/-- Groups entries by what they serve. -/
def grouped (contract : List ContractEntry) : Binding :=
  ⟨contract.foldl (fun entries entry => entries.modify entry.served [] (· ++ [entry])) .empty⟩

/-- The keys with exactly one entry, and that entry. -/
def bound (binding : Binding) : List (BindingKey × ContractEntry) :=
  binding.entries.entries.filterMap fun group =>
    match group.2 with
    | [entry] => some (group.1, entry)
    | _ => none

/-- The groups in which several entries compete. -/
def contested (binding : Binding) : List (List ContractEntry) :=
  binding.entries.values.filter (1 < ·.length)

/-- What is wrong with a group of competing entries; the first of them says what they serve. -/
def conflict : List ContractEntry → List Diagnostic
  | [] => []
  | first :: rest =>
    [.contractConflict first.operation first.resource
      ((first :: rest).map fun entry => entry.name.display)]

/-- The keys for which several entries compete. -/
def conflicts (binding : Binding) : List Diagnostic := binding.contested.flatMap conflict

/-- Groups the entries of a contract, unless they cannot be told apart or competing ones cannot be
listed. -/
def ofContract (contract : List ContractEntry) : Except SettingProblem Binding :=
  let binding := grouped contract
  if contract.any (·.resource.key?.isNone) then .error .wrongKind
  else if binding.contested.any (·.any (!·.name.isText)) then .error .wrongKind
  else .ok binding

end Binding

/-- The parts of a result type, without regard to their order; nothing and `undefined` are `void`.
-/
def resultShape (type : Option String) : List String :=
  let declared :=
    match type with
    | none | some "" => "void"
    | some declared => declared
  let part (text : List Char) :=
    let name := String.ofList (trim text)
    if name == "undefined" || name == "" then "void" else name
  ((fields '|' declared.toList).map part).eraseDups

/-- Whether two result types have the same parts. -/
def sameShape (first second : Option String) : Bool :=
  (resultShape first).all (resultShape second).contains &&
    (resultShape second).all (resultShape first).contains

namespace StorageCall

/-- What becomes of a call. -/
inductive Verdict where
  | bound (entry : ContractEntry)
  /-- Several entries compete, which is reported elsewhere. -/
  | contested
  | refused (problem : Diagnostic)

/-- Whether the result of a call fits an entry. The entry has to declare it as a text, or not at
all. -/
def fitsResult (call : StorageCall) (entry : ContractEntry) : Except SettingProblem Bool :=
  if !entry.template.isNull then .ok true
  else if entry.returns.isMisfit then .error .noParts
  else .ok (sameShape entry.returns.text? (some call.operation.localResult))

/-- Compares a call with the only entry that serves it. -/
def compare (call : StorageCall) (entry : ContractEntry) : Except SettingProblem Verdict :=
  if call.arguments.length ≠ entry.params.length then .ok (.refused (.argumentMismatch call entry))
  else
    (call.fitsResult entry).map fun fits =>
      if fits then .bound entry else .refused (.resultMismatch call entry)

/-- Looks for the contract entry of a call. -/
def bind (scope : Scope) (binding : Binding) (call : StorageCall) :
    Except SettingProblem Verdict :=
  if call.resource.isNull then
    .ok (.refused (if call.operation = .list then .listsStorage call else .computedKey call))
  else do
    match ← scope.resourceOwner call.resource with
    | none => return .refused (.outOfScope call)
    | some _ =>
      match binding.entries.find? (call.operation, call.resource.key?) with
      | none | some [] => return .refused (.unmapped call)
      | some [entry] => call.compare entry
      | some _ => return .contested

/-- The template that writes the calls of a contract entry. -/
def templateOf (storage : StorageInterface) (entry : ContractEntry) : Value :=
  if entry.template.isGiven then entry.template else storage.callTemplate

/-- What a template can show of an entry and of the arguments of a call. -/
def offered (entry : ContractEntry) (arguments : List String) : String → Option Subject
  | "name" => some (.value entry.name)
  | "args" => some (.ofText (joinWith ", " arguments))
  | "method" => some (.ofText entry.method)
  | "path" => some (.value entry.path)
  | "resource" => some (.value entry.resource)
  | _ => none

/-- The text that replaces a call with the given arguments after its key. -/
def render (storage : StorageInterface) (entry : ContractEntry) (arguments : List String) :
    Except Fault String :=
  match templateOf storage entry with
  | .text template =>
    (Template.fill template (offered entry arguments)).mapError Fault.template
  | _ => .error (.setting .noParts)

end StorageCall

end FeatureLayout
