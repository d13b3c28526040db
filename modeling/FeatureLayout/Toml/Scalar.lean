import FeatureLayout.Scope.Value
import FeatureLayout.Text.Slice
import FeatureLayout.Text.Word

/-!
# Simple values in TOML

Texts stand between double quotes, where a backslash escapes, or between single quotes, where
nothing does; three quotes allow line breaks. All other simple values are read off a word: flags,
whole numbers in four bases with underscores between digits, decimal numbers, dates and times.
-/

namespace FeatureLayout.Toml

open Text

/-- What is wrong with a document. -/
inductive Problem where
  /-- Something else is expected here. -/
  | unexpected (found : List Char)
  /-- A text is never closed. -/
  | openText
  /-- A text holds an escape that does not exist, or a control character. -/
  | badText
  /-- A word is no value. -/
  | badWord (word : List Char)
  /-- A key is defined twice. -/
  | duplicate (key : String)
  /-- A key does not lead to a table. -/
  | notTable (key : String)
  deriving DecidableEq, Repr

/-- The wording of a problem. -/
def Problem.message : Problem → String
  | unexpected [] => "unexpected end of the document"
  | unexpected (c :: _) => "unexpected " ++ quoted (String.singleton c)
  | openText => "a text is never closed"
  | badText => "a text holds an unknown escape or a control character"
  | badWord word => quoted (String.ofList word) ++ " is no value"
  | duplicate key => "the key " ++ quoted key ++ " is defined twice"
  | notTable key => "the key " ++ quoted key ++ " does not lead to a table"

/-- Whether a character is a blank within a line. -/
def isSpace (c : Char) : Bool := c == ' ' || c == '\t'

/-- Whether a character may not stand in a text. -/
def isControl (c : Char) : Bool := (c.toNat < 0x20 && c != '\t') || c.toNat == 0x7f

/-- The value of a hexadecimal digit. -/
def hexDigit? (c : Char) : Option Nat :=
  if '0' ≤ c ∧ c ≤ '9' then some (c.toNat - '0'.toNat)
  else if 'a' ≤ c ∧ c ≤ 'f' then some (c.toNat - 'a'.toNat + 10)
  else if 'A' ≤ c ∧ c ≤ 'F' then some (c.toNat - 'A'.toNat + 10)
  else none

/-- The character that a one-letter escape stands for. -/
def escaped? : Char → Option Char
  | 'b' => some '\x08'
  | 't' => some '\t'
  | 'n' => some '\n'
  | 'f' => some '\x0c'
  | 'r' => some '\r'
  | '"' => some '"'
  | '\\' => some '\\'
  | _ => none

/-- Where a place in a text between double quotes stands with respect to escapes. -/
inductive Escape where
  | plain
  /-- Behind a backslash. -/
  | opened
  /-- In a code point with some digits to come. -/
  | code (digits value : Nat)
  /-- Behind a backslash at the end of a line: white space is skipped. -/
  | folding

/-- Reads a text between double quotes, from behind the opening quotes. -/
def basicText (multi : Bool) : Escape → List Char → Except Problem (List Char × List Char)
  | _, [] => .error .openText
  | .code digits value, c :: rest =>
    match hexDigit? c with
    | none => .error .badText
    | some digit =>
      let value := value * 16 + digit
      if 1 < digits then basicText multi (.code (digits - 1) value) rest
      else if value.isValidChar then
        (basicText multi .plain rest).map fun (text, after) => (Char.ofNat value :: text, after)
      else .error .badText
  | .opened, c :: rest =>
    match escaped? c with
    | some shown => (basicText multi .plain rest).map fun (text, after) => (shown :: text, after)
    | none =>
      if c = 'u' then basicText multi (.code 4 0) rest
      else if c = 'U' then basicText multi (.code 8 0) rest
      else if multi ∧ (isSpace c ∨ c = '\n') then basicText multi .folding rest
      else .error .badText
  | escape, c :: rest =>
    if (match escape with | .folding => true | _ => false) && (isSpace c || c == '\n') then
      basicText multi .folding rest
    else if c = '\\' then basicText multi .opened rest
    else if c = '"' ∧ !multi then .ok ([], rest)
    else if c = '"' ∧ rest.take 2 = ['"', '"'] ∧ (rest.drop 2).head? ≠ some '"' then
      .ok ([], rest.drop 2)
    else if c = '\n' ∧ !multi then .error .openText
    else if isControl c ∧ c ≠ '\n' then .error .badText
    else (basicText multi .plain rest).map fun (text, after) => (c :: text, after)

/-- Reads a text between single quotes, from behind the opening quotes. -/
def literalText (multi : Bool) : List Char → Except Problem (List Char × List Char)
  | [] => .error .openText
  | c :: rest =>
    if c = '\'' ∧ !multi then .ok ([], rest)
    else if c = '\'' ∧ rest.take 2 = ['\'', '\''] ∧ (rest.drop 2).head? ≠ some '\'' then
      .ok ([], rest.drop 2)
    else if c = '\n' ∧ !multi then .error .openText
    else if isControl c ∧ c ≠ '\n' then .error .badText
    else (literalText multi rest).map fun (text, after) => (c :: text, after)

/-- A text without the line break at its front. -/
def dropBreak : List Char → List Char
  | '\n' :: rest => rest
  | text => text

/-- Reads a text between quotes, if one starts here. -/
def quotedText? : List Char → Option (Except Problem (List Char × List Char))
  | '"' :: '"' :: '"' :: rest => some (basicText true .plain (dropBreak rest))
  | '"' :: rest => some (basicText false .plain rest)
  | '\'' :: '\'' :: '\'' :: rest => some (literalText true (dropBreak rest))
  | '\'' :: rest => some (literalText false rest)
  | _ => none

/-- The number that digits of a base stand for, with single underscores between them. -/
def number? (base : Nat) : Bool → Nat → List Char → Option Nat
  | open_, number, [] => if open_ then none else some number
  | open_, number, c :: rest =>
    if c = '_' then if open_ then none else number? base true number rest
    else
      match hexDigit? c with
      | none => none
      | some digit =>
        if digit < base then number? base false (number * base + digit) rest else none

/-- A whole number without sign. -/
def natural? : List Char → Option Nat
  | '0' :: 'x' :: digits => number? 16 true 0 digits
  | '0' :: 'o' :: digits => number? 8 true 0 digits
  | '0' :: 'b' :: digits => number? 2 true 0 digits
  | ['0'] => some 0
  | '0' :: _ => none
  | digits => number? 10 true 0 digits

/-- A word without its sign, and the sign. -/
def signed : List Char → Int × List Char
  | '-' :: rest => (-1, rest)
  | '+' :: rest => (1, rest)
  | word => (1, word)

/-- The whole number that a word stands for. -/
def integer? (word : List Char) : Option Int :=
  let (sign, digits) := signed word
  (natural? digits).map fun number => sign * number

/-- The decimal number that a word stands for: digits, then a fraction, an exponent or both. A zero
has no sign. -/
def decimal? (word : List Char) : Option Binary64 := do
  let (sign, digits) := signed word
  let isMark (c : Char) := c == 'e' || c == 'E'
  let mantissa := digits.takeWhile (!isMark ·)
  let exponent ←
    match digits.dropWhile (!isMark ·) with
    | [] => pure 0
    | _ :: power =>
      let (sign, power) := signed power
      (number? 10 true 0 power).map fun number => sign * (number : Int)
  let whole := mantissa.takeWhile (· != '.')
  let fraction ←
    match mantissa.dropWhile (· != '.') with
    | [] => pure []
    | _ :: fraction => (number? 10 true 0 fraction).map fun _ => fraction.filter (· != '_')
  if fraction.isEmpty ∧ mantissa.length = digits.length then failure
  let front ← natural? whole
  let value := front * Nat.pow 10 fraction.length + ((number? 10 true 0 fraction).getD 0)
  let exponent := exponent - fraction.length
  let isZero := (Binary64.ofDecimal false value exponent).isZero
  return .ofDecimal (sign < 0 && !isZero) value exponent

/-- The value of a word that names no finite number. -/
def endless? (word : List Char) : Option Binary64 :=
  let (sign, name) := signed word
  if name = "inf".toList then some (.infinite (sign < 0))
  else if name = "nan".toList then some .undefined
  else none

/-- The number that some digits at the front of a text stand for, and the text after them. -/
def digitsOf? (count : Nat) (text : List Char) : Option (Nat × List Char) :=
  let front := text.take count
  if front.length = count ∧ front.all Char.isDigit then
    (number? 10 true 0 front).map fun number => (number, text.drop count)
  else none

/-- A text behind a character that has to stand at its front. -/
def behind? (allowed : List Char) : List Char → Option (List Char)
  | c :: rest => if allowed.contains c then some rest else none
  | [] => none

/-- The day at the front of a text, and the text after it. -/
def day? (text : List Char) : Option (Day × List Char) := do
  let (year, rest) ← digitsOf? 4 text
  let (month, rest) ← digitsOf? 2 (← behind? ['-'] rest)
  let (day, rest) ← digitsOf? 2 (← behind? ['-'] rest)
  return (← Day.ofNumbers? year month day, rest)

/-- The hour, the minute and the second at the front of a text, the digits of a fraction that may
follow, and the text after them. -/
def clock? (text : List Char) : Option (Nat × Nat × Nat × List Char × List Char) := do
  let (hour, rest) ← digitsOf? 2 text
  let (minute, rest) ← digitsOf? 2 (← behind? [':'] rest)
  let (second, rest) ← digitsOf? 2 (← behind? [':'] rest)
  match rest with
  | '.' :: fraction =>
    let digits := fraction.takeWhile Char.isDigit
    if digits.isEmpty then failure
    return (hour, minute, second, digits, fraction.dropWhile Char.isDigit)
  | rest => return (hour, minute, second, [], rest)

/-- The number of microseconds in a fraction of a second. -/
def microseconds (digits : List Char) : Nat :=
  let kept := digits.take 6
  ((number? 10 true 0 kept).getD 0) * Nat.pow 10 (6 - kept.length)

/-- The microseconds of a time without a day: three to six digits count as they are, and fewer count
nothing. -/
def looseMicroseconds (digits : List Char) : Nat :=
  if digits.length < 3 then 0 else (number? 10 true 0 (digits.take 6)).getD 0

/-- The distance from universal time that a text stands for. -/
def zone? : List Char → Option (Option Int)
  | [] => some none
  | ['Z'] | ['z'] => some (some 0)
  | sign :: rest => do
    let (hours, rest) ← digitsOf? 2 rest
    let (minutes, rest) ← digitsOf? 2 (← behind? [':'] rest)
    if !rest.isEmpty ∨ 23 < hours ∨ 59 < minutes then failure
    let distance : Int := hours * 60 + minutes
    if sign = '+' then return some distance
    else if sign = '-' then return some (-distance)
    else failure

/-- The day, the time or both that a word stands for. -/
def moment? (word : List Char) : Option Moment :=
  match day? word with
  | some (day, []) => some (.dayOnly day)
  | some (day, rest) => do
    let (hour, minute, second, digits, rest) ← clock? (← behind? ['T', 't', ' '] rest)
    let time ← TimeOfDay.ofNumbers? hour minute second (microseconds digits)
    return .dayAndTime day time (← zone? rest)
  | none => do
    let (hour, minute, second, digits, rest) ← clock? word
    if !rest.isEmpty then failure
    return .timeOnly (← TimeOfDay.ofNumbers? hour minute second (looseMicroseconds digits))

/-- The value that a word stands for. -/
def wordValue (word : List Char) : Except Problem Value :=
  match String.ofList word with
  | "true" => .ok (.flag true)
  | "false" => .ok (.flag false)
  | _ =>
    let found :=
      ((integer? word).map Value.integer).orElse fun _ =>
      ((endless? word).map Value.decimal).orElse fun _ =>
      ((decimal? word).map Value.decimal).orElse fun _ => (moment? word).map Value.moment
    match found with
    | some value => .ok value
    | none => .error (.badWord word)

/-- Whether a character may stand in the word of a value. -/
def isValueChar (c : Char) : Bool :=
  c.isAlphanum || c == '+' || c == '-' || c == '_' || c == '.' || c == ':'

/-- Reads the word of a value. A date and a time may be apart by a blank. -/
def word (text : List Char) : List Char × List Char :=
  let front := text.takeWhile isValueChar
  let rest := text.dropWhile isValueChar
  match rest with
  | ' ' :: c :: more =>
    if front.length = 10 && (day? front).isSome && c.isDigit then
      let time := (c :: more).takeWhile isValueChar
      (front ++ ' ' :: time, (c :: more).dropWhile isValueChar)
    else (front, rest)
  | _ => (front, rest)

end FeatureLayout.Toml
