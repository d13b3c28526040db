import FeatureLayout.Scope.Value

/-!
# What a template field picks

A field of a template names a value and may go on to something that belongs to it: an item by its
position, a setting by its key, or a property by its name. Every value has a kind, kinds have names
and lines of descent, and texts have operations. A template can reach all of these, and each has a
wording of its own.

Two things are left out. The wording of an operation of one text does not go on to the place of the
text in memory, which is another one in each run. And of the properties that are shared by all
values of a kind only those of texts and the parts of numbers are offered: a field that picks an
operation of a number, a list, a table, a day or a time is refused, as if there were none.
-/

namespace FeatureLayout

open Text

/-- The kinds of what a field can pick. -/
inductive ValueKind where
  | nothing
  | flag
  | integer
  | decimal
  | text
  | list
  | table
  | day
  | time
  | dayAndTime
  | row
  /-- The kind of kinds. -/
  | metakind
  /-- The kind that all others descend from. -/
  | anything
  /-- An operation of one text that is called by its name. -/
  | operation
  /-- An operation of one text that stands behind a sign. -/
  | signOperation
  /-- An operation of all texts that is called by its name. -/
  | kindOperation
  /-- An operation of all texts that stands behind a sign. -/
  | kindSignOperation
  deriving DecidableEq, Repr

namespace ValueKind

/-- The kind of a value. -/
def ofValue : Value → ValueKind
  | .null => nothing
  | .flag _ => flag
  | .integer _ => integer
  | .decimal _ => decimal
  | .text _ => text
  | .moment (.dayOnly _) => day
  | .moment (.timeOnly _) => time
  | .moment (.dayAndTime ..) => dayAndTime
  | .list _ => list
  | .table _ => table

/-- The name of a kind. -/
def name : ValueKind → String
  | nothing => "NoneType"
  | flag => "bool"
  | integer => "int"
  | decimal => "float"
  | text => "str"
  | list => "list"
  | table => "dict"
  | day => "date"
  | time => "time"
  | dayAndTime => "datetime"
  | row => "tuple"
  | metakind => "type"
  | anything => "object"
  | operation => "builtin_function_or_method"
  | signOperation => "method-wrapper"
  | kindOperation => "method_descriptor"
  | kindSignOperation => "wrapper_descriptor"

/-- The family of a kind. -/
def family : ValueKind → String
  | day | time | dayAndTime => "datetime"
  | _ => "builtins"

/-- A kind as texts show it. -/
def display (given : ValueKind) : String :=
  let front := if given.family = "builtins" then "" else given.family ++ "."
  "<class '" ++ front ++ given.name ++ "'>"

/-- The kind that a kind descends from. -/
def parent? : ValueKind → Option ValueKind
  | anything => none
  | flag => some integer
  | dayAndTime => some day
  | _ => some anything

/-- A kind with all kinds that it descends from. -/
def lineage (given : ValueKind) : List ValueKind :=
  match given.parent? with
  | none => [given]
  | some anything => [given, anything]
  | some parent => [given, parent, anything]

end ValueKind

/-- What a field can pick. -/
inductive Subject where
  | value (content : Value)
  | kind (given : ValueKind)
  | kinds (row : List ValueKind)
  /-- An operation of one text. -/
  | operation (name : String) (owner : String)
  /-- An operation of all texts. -/
  | kindOperation (name : String)
  deriving Repr

/-- Why a template cannot be filled. -/
inductive TemplateProblem where
  /-- A brace, conversion or layout is malformed. -/
  | malformed
  /-- A field names a value that is not offered, or a setting that a table does not have. -/
  | unknownName
  /-- A field asks for a position that does not exist. -/
  | noSuchPosition
  /-- A field looks for an item where there is none of that sort. -/
  | noItems
  /-- A field asks for a property that does not exist. -/
  | noProperty
  /-- A layout is given for something that has none. -/
  | noLayout
  /-- A number is too large for its layout. -/
  | tooLarge
  deriving DecidableEq, Repr

namespace Subject

/-- The operations of texts that are called by their names. -/
def namedOperations : List String := [
  "capitalize", "casefold", "center", "count", "encode", "endswith", "expandtabs", "find", "format",
  "format_map", "index", "isalnum", "isalpha", "isascii", "isdecimal", "isdigit", "isidentifier",
  "islower", "isnumeric", "isprintable", "isspace", "istitle", "isupper", "join", "ljust", "lower",
  "lstrip", "maketrans", "partition", "removeprefix", "removesuffix", "replace", "rfind", "rindex",
  "rjust", "rpartition", "rsplit", "rstrip", "split", "splitlines", "startswith", "strip",
  "swapcase", "title", "translate", "upper", "zfill", "__format__", "__sizeof__", "__getnewargs__"]

/-- The operations of texts that stand behind signs. -/
def signOperations : List String := [
  "__repr__", "__hash__", "__str__", "__getattribute__", "__lt__", "__le__", "__eq__", "__ne__",
  "__gt__", "__ge__", "__iter__", "__mod__", "__rmod__", "__len__", "__getitem__", "__add__",
  "__mul__", "__rmul__", "__contains__"]

/-- Whether texts have an operation. -/
def isOperation (name : String) : Bool :=
  namedOperations.contains name || signOperations.contains name

/-- What texts are, in words. -/
def textWords : String :=
  "str(object='') -> str\nstr(bytes_or_buffer[, encoding[, errors]]) -> str\n\n" ++
  "Create a new string object from the given object. If encoding or\n" ++
  "errors is specified, then the object must expose a data buffer\n" ++
  "that will be decoded using the given encoding and error handler.\n" ++
  "Otherwise, returns the result of object.__str__() (if defined)\n" ++
  "or repr(object).\nencoding defaults to sys.getdefaultencoding().\n" ++
  "errors defaults to 'strict'."

/-- A text as something to pick. -/
def ofText (content : String) : Subject := .value (.text content)

/-- The kind of what a field picked. -/
def kindOf : Subject → ValueKind
  | value content => ValueKind.ofValue content
  | kind _ => .metakind
  | kinds _ => .row
  | operation name _ => if signOperations.contains name then .signOperation else .operation
  | kindOperation name =>
    if signOperations.contains name then .kindSignOperation else .kindOperation

/-- What was picked, as texts show it. -/
def display : Subject → String
  | value content => content.display
  | kind given => given.display
  | kinds [only] => "(" ++ only.display ++ ",)"
  | kinds row => "(" ++ joinWith ", " (row.map ValueKind.display) ++ ")"
  | operation name _ =>
    if signOperations.contains name then "<method-wrapper '" ++ name ++ "' of str object>"
    else "<built-in method " ++ name ++ " of str object>"
  | kindOperation name =>
    if signOperations.contains name then "<slot wrapper '" ++ name ++ "' of 'str' objects>"
    else "<method '" ++ name ++ "' of 'str' objects>"

/-- What was picked, as messages show it. -/
def shown : Subject → String
  | value content => content.shown
  | subject => subject.display

/-- A property that every number has. -/
def numberProperty? (whole : Int) : String → Option Subject
  | "real" | "numerator" => some (.value (.integer whole))
  | "imag" => some (.value (.integer 0))
  | "denominator" => some (.value (.integer 1))
  | _ => none

/-- A property of a value other than its kind. -/
def valueProperty? (name : String) : Value → Option Subject
  | .text content =>
    if name = "__doc__" then some (ofText textWords)
    else if isOperation name then some (.operation name content)
    else none
  | .integer number => numberProperty? number name
  | .flag set => numberProperty? (if set then 1 else 0) name
  | .decimal number =>
    match name with
    | "real" => some (.value (.decimal number))
    | "imag" => some (.value (.decimal (Binary64.zero false)))
    | _ => none
  | _ => none

/-- A property of a kind other than its own kind. -/
def kindProperty? (name : String) (given : ValueKind) : Option Subject :=
  match name with
  | "__name__" | "__qualname__" => some (ofText given.name)
  | "__module__" => some (ofText given.family)
  | "__mro__" => some (.kinds given.lineage)
  | "__bases__" => some (.kinds given.parent?.toList)
  | "__base__" => some ((given.parent?.map Subject.kind).getD (.value .null))
  | name =>
    if given = .text ∧ name = "__doc__" then some (ofText textWords)
    else if given = .text ∧ isOperation name then some (.kindOperation name)
    else none

/-- A property of an operation other than its kind. -/
def operationProperty? (operation : String) : String → Option Subject
  | "__name__" => some (ofText operation)
  | "__qualname__" => some (ofText ("str." ++ operation))
  | _ => none

/-- A property of what was picked. -/
def property? (subject : Subject) (name : String) : Option Subject :=
  if name = "__class__" then some (.kind subject.kindOf)
  else
    match subject with
    | value content => valueProperty? name content
    | kind given => kindProperty? name given
    | kinds _ => none
    | operation called owner =>
      if name = "__self__" then some (ofText owner)
      else if name = "__module__" ∧ namedOperations.contains called then some (.value .null)
      else if name = "__objclass__" ∧ signOperations.contains called then some (.kind .text)
      else operationProperty? called name
    | kindOperation called =>
      if name = "__objclass__" then some (.kind .text) else operationProperty? called name

/-- The item at a position of what was picked. -/
def itemAt (subject : Subject) (place : Nat) : Except TemplateProblem Subject :=
  match subject with
  | value (.text content) =>
    match content.toList[place]? with
    | some c => .ok (ofText (String.singleton c))
    | none => .error .noSuchPosition
  | value (.list items) =>
    match items[place]? with
    | some item => .ok (.value item)
    | none => .error .noSuchPosition
  | kinds row =>
    match row[place]? with
    | some given => .ok (.kind given)
    | none => .error .noSuchPosition
  | value (.table _) => .error .unknownName
  | _ => .error .noItems

/-- The setting with a key of what was picked. -/
def settingOf (subject : Subject) (key : String) : Except TemplateProblem Subject :=
  match subject with
  | value (.table settings) =>
    match Value.setting? settings key with
    | some content => .ok (.value content)
    | none => .error .unknownName
  | _ => .error .noItems

end Subject

end FeatureLayout
