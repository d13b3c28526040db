import FeatureLayout.Code.Arguments
import FeatureLayout.Code.Comments
import FeatureLayout.Pattern
import FeatureLayout.Scope.Basic

/-!
# Storage calls

The calls of the local storage interface in a module. A call is found where one of the interface's
functions, perhaps reached through `window.`, is followed by a parenthesis and does not continue a
longer name. Calls whose arguments cannot be listed are passed over, and so are calls that list
something other than a storage object.

Comments are blanked for the search; the arguments are taken from the text as it is written.
-/

namespace FeatureLayout

open Text Code Pattern

/-- A call of the local storage interface. -/
structure StorageCall where
  operation : Operation
  /-- The resource named by the call's key, or the one that listing calls stand for; null when the
  key is no plain literal or no resource is declared. -/
  resource : Value
  file : String
  line : Nat
  /-- From the start of the function's name to behind the closing bracket. -/
  span : Span
  /-- The arguments after the first. -/
  arguments : List String
  callee : String
  deriving Repr, Inhabited

/-- Why the storage calls of a text cannot be listed. -/
inductive SearchProblem where
  /-- The text cannot be scanned. -/
  | unscannable (problem : ScanProblem)
  /-- The arguments of a call hold a template that is never closed. -/
  | openArgument
  /-- A call was found for a function that the interface does not have. -/
  | unknownFunction
  deriving DecidableEq, Repr

namespace StorageCall

/-- The parts of a call that are captured. -/
inductive Part where
  | callee
  deriving DecidableEq, Repr

/-- The functions of an interface, long names first. -/
def callees (interface : StorageInterface) : List String :=
  interface.calls.keys.mergeSort fun first second => second.length ≤ first.length

/-- The start of a call, up to its parenthesis. -/
def pattern (interface : StorageInterface) : Pattern Part :=
  sequence [.notAfter (fun c => isNameChar c || c == '.'), optional (exactly "window."),
    .capture .callee (choice ((callees interface).map exactly)), .run isBlank, .one (· == '(')]

/-- The text of an argument without the `window.` at its front. -/
def storageObject (argument : List Char) : String :=
  let reached := "window.".toList
  String.ofList
    (trim (if reached.isPrefixOf argument then argument.drop reached.length else argument))

/-- The contents of an argument that is one plain literal: quoted on both sides by the same
character, without quotes, dollar signs or backslashes between. -/
def literalKey? (argument : List Char) : Option String :=
  match argument with
  | [] => none
  | quote :: rest =>
    let plain (c : Char) := !(isQuote c || c == '$' || c == '\\')
    if isQuote quote && rest.getLast? == some quote && rest.dropLast.all plain then
      some (String.ofList rest.dropLast)
    else none

/-- The call that a match in a text stands for, if its arguments can be listed and name a storage
object where they have to. -/
def ofMatch (interface : StorageInterface) (text masked : List Char) (file : String)
    (found : Match Part) : Except SearchProblem (Option StorageCall) :=
  match scanArguments masked (found.span.stop - 1) with
  | .error (.unbalanced _) => .ok none
  | .error .openTemplate => .error .openArgument
  | .ok listed =>
    let callee := String.ofList (found.textOf .callee)
    match interface.calls.find? callee with
    | none => .error .unknownFunction
    | some operation =>
      let arguments := listed.spans.map fun span => span.of text
      let call (resource : Value) : StorageCall :=
        { operation := operation
          resource := resource
          file := file
          line := lineAt masked found.span.start
          span := ⟨found.span.start, listed.close + 1⟩
          arguments := (arguments.drop 1).map String.ofList
          callee := callee }
      if operation = .list then
        match arguments with
        | first :: _ =>
          if interface.identifiers.contains (storageObject first) then
            .ok (some (call interface.listResource))
          else .ok none
        | [] => .ok none
      else
        let key := arguments.head?.bind literalKey?
        .ok (some (call ((key.map Value.text).getD .null)))

/-- The storage calls of a text, by place. -/
def allIn (interface : StorageInterface) (text : List Char) (file : String) :
    Except SearchProblem (List StorageCall) :=
  match maskComments text with
  | .error problem => .error (.unscannable problem)
  | .ok masked =>
    (((pattern interface).search masked).mapM (ofMatch interface text masked file)).map
      (·.filterMap id)

end StorageCall

end FeatureLayout
