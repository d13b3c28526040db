import FeatureLayout.Number.Decimal
import FeatureLayout.Scope.Moment
import FeatureLayout.Text.Quoted

/-!
# Configuration values

A configuration is a table of settings whose values may be of any kind, whatever a setting expects.
Settings that are used late keep the value that was given, and fail where they are used.

`Value.shown` writes a value the way messages show it, and `Value.display` the way it stands in
other texts. `Value.key?` is what values are told apart by: numbers are one number however they are
written, a flag counts as one or zero, and lists and tables cannot be told apart at all.
-/

namespace FeatureLayout

open Text

/-- A value in a configuration. -/
inductive Value where
  | null
  | flag (set : Bool)
  | integer (number : Int)
  | decimal (number : Binary64)
  | text (content : String)
  | moment (moment : Moment)
  | list (items : List Value)
  /-- Settings in the order in which their keys were written. -/
  | table (settings : List (String × Value))
  deriving Repr, Inhabited

namespace Value

mutual

/-- A value as messages show it. -/
def shown : Value → String
  | .null => "None"
  | .flag true => "True"
  | .flag false => "False"
  | .integer number => toString number
  | .decimal number => number.shown
  | .text content => quoted content
  | .moment given => given.shown
  | .list items => "[" ++ joinWith ", " (shownItems items) ++ "]"
  | .table settings => "\x7b" ++ joinWith ", " (shownSettings settings) ++ "\x7d"

/-- The items of a list as messages show them. -/
def shownItems : List Value → List String
  | [] => []
  | item :: rest => item.shown :: shownItems rest

/-- The settings of a table as messages show them. -/
def shownSettings : List (String × Value) → List String
  | [] => []
  | (key, value) :: rest => (quoted key ++ ": " ++ value.shown) :: shownSettings rest

end

/-- A value as it stands in other texts. -/
def display : Value → String
  | .text content => content
  | .moment given => given.display
  | value => value.shown

/-- The text that a value is. -/
def text? : Value → Option String
  | .text content => some content
  | _ => none

/-- The text that a value is; other values count as the empty text. -/
def content (value : Value) : String := value.text?.getD ""

/-- Whether a value is a text. -/
def isText (value : Value) : Bool := value.text?.isSome

/-- The value of a setting. -/
def setting? (settings : List (String × Value)) (key : String) : Option Value :=
  (settings.find? (·.1 == key)).map (·.2)

/-- Whether a value is null. -/
def isNull : Value → Bool
  | .null => true
  | _ => false

/-- Whether a value counts as given: it is neither null, nor off, nor zero, nor empty. -/
def isGiven : Value → Bool
  | .null => false
  | .flag set => set
  | .integer number => number != 0
  | .decimal number => !number.isZero
  | .text content => content != ""
  | .moment _ => true
  | .list items => !items.isEmpty
  | .table settings => !settings.isEmpty

/-- Whether a value is given although it is no text. -/
def isMisfit (value : Value) : Bool := value.isGiven && !value.isText

mutual

/-- Whether a value is a moment or has one in it. -/
def holdsMoment : Value → Bool
  | .moment _ => true
  | .list items => itemsHoldMoment items
  | .table settings => settingsHoldMoment settings
  | _ => false

/-- Whether a list has a moment in it. -/
def itemsHoldMoment : List Value → Bool
  | [] => false
  | item :: rest => item.holdsMoment || itemsHoldMoment rest

/-- Whether a table has a moment in it. -/
def settingsHoldMoment : List (String × Value) → Bool
  | [] => false
  | (_, value) :: rest => value.holdsMoment || settingsHoldMoment rest

end

/-- What single values are told apart by. -/
inductive Key where
  | null
  /-- The number, over two to the power of `halvings`; it is odd unless there are none. -/
  | number (number : Int) (halvings : Nat)
  | endless (number : Binary64)
  | text (content : String)
  | moment (moment : Moment)
  deriving DecidableEq, Repr, Inhabited

/-- What a decimal number is told apart by. -/
def decimalKey : Binary64 → Key
  | .finite negative mantissa exponent =>
    let (odd, exponent) := Binary64.reduced 64 mantissa exponent
    let signed : Int := if negative then -(odd : Int) else odd
    if odd = 0 then .number 0 0
    else if 0 ≤ exponent then .number (signed * Nat.pow 2 exponent.toNat) 0
    else .number signed exponent.natAbs
  | number => .endless number

/-- What a value is told apart by; lists and tables have no such thing. -/
def key? : Value → Option Key
  | .null => some .null
  | .flag set => some (.number (if set then 1 else 0) 0)
  | .integer number => some (.number number 0)
  | .decimal number => some (decimalKey number)
  | .text content => some (.text content)
  | .moment given => some (.moment given)
  | .list _ | .table _ => none

@[simp] theorem key?_text (content : String) : (text content).key? = some (.text content) := rfl

example : (decimal (.ofDecimal false 10 (-1))).key? = (flag true).key? := by decide

end Value

end FeatureLayout
