import FeatureLayout.Number.Rounded
import FeatureLayout.Template.Subject
import FeatureLayout.Text.Digit

/-!
# Layouts of template fields

A layout says how a field is shown: a fill character and an alignment, a sign for positive numbers,
a width, a separator between groups of digits, a precision, and a form. Texts have a width and a
greatest length only. Whole numbers are shown in one of four bases or as a character, and any number
with a point, with a power of ten, or as a percentage.

Each part of a layout is refused for what cannot have it. Nothing but texts and numbers has a
layout.
-/

namespace FeatureLayout

open Text

namespace Template

/-- The number that a run of digits stands for: absent when the text is no such run, a problem when
it does not fit in 63 bits. -/
def position (text : List Char) : Except TemplateProblem (Option Nat) :=
  if text.isEmpty || !text.all isDecimal then .ok none
  else
    let number := numberOfDigits text
    if number < Nat.pow 2 63 then .ok (some number) else .error .malformed

/-- A number at the front of a layout, absent when there is no digit. -/
def leadingNumber (text : List Char) :
    Except TemplateProblem (Option Nat × List Char) :=
  (position (text.takeWhile isDecimal)).map fun number => (number, text.dropWhile isDecimal)

end Template

/-- How a field is shown. -/
structure FieldLayout where
  fill : Char
  align : Char
  /-- The sign of numbers that are not negative; absent when they have none. -/
  sign : Option Char
  /-- Whether a zero loses its sign. -/
  plainZero : Bool
  /-- Whether the form is written out: with the mark of its base, or with its point. -/
  marked : Bool
  width : Nat
  separator : Option Char
  precision : Option Nat
  form : Option Char
  deriving Repr

namespace FieldLayout

open Template

/-- Whether a character asks for an alignment. -/
def isAlignment (c : Char) : Bool := c == '<' || c == '>' || c == '^' || c == '='

/-- The fill character and the alignment at the front of a layout, if they are given. -/
def alignment : List Char → Option Char × Option Char × List Char
  | fill :: align :: rest =>
    if isAlignment align then (some fill, some align, rest)
    else if isAlignment fill then (none, some fill, align :: rest)
    else (none, none, fill :: align :: rest)
  | [align] => if isAlignment align then (none, some align, []) else (none, none, [align])
  | [] => (none, none, [])

/-- One of some characters at the front of a text, if it is there. -/
def optional (allowed : List Char) : List Char → Option Char × List Char
  | c :: rest => if allowed.contains c then (some c, rest) else (none, c :: rest)
  | [] => (none, [])

/-- The precision behind a point, if one is given. -/
def precisionOf : List Char → Except TemplateProblem (Option Nat × List Char)
  | '.' :: rest => do
    match ← leadingNumber rest with
    | (none, _) => throw .malformed
    | (some number, rest) => return (some number, rest)
  | rest => .ok (none, rest)

/-- The separator of groups of digits; only one may be given. -/
def separatorOf (text : List Char) : Except TemplateProblem (Option Char × List Char) :=
  match optional [',', '_'] text with
  | (some separator, rest) =>
    if (optional [',', '_'] rest).1.isSome then .error .malformed else .ok (some separator, rest)
  | found => .ok found

/-- The forms that may have a separator between their digits. -/
def allowsSeparator (separator : Char) : Option Char → Bool
  | none => true
  | some form =>
    ['d', 'e', 'f', 'g', 'E', 'G', '%', 'F'].contains form ||
      (separator == '_' && ['b', 'o', 'x', 'X'].contains form)

/-- Reads a layout for something that is aligned to the right or to the left by itself. -/
def parse (rightward : Bool) (text : List Char) : Except TemplateProblem FieldLayout := do
  let (fill, align, rest) := alignment text
  let (sign, rest) := optional [' ', '+', '-'] rest
  let (plainZero, rest) := optional ['z'] rest
  let (marked, rest) := optional ['#'] rest
  let (zeros, rest) := if fill.isNone then optional ['0'] rest else (none, rest)
  let (width, rest) ← leadingNumber rest
  let (separator, rest) ← separatorOf rest
  let (precision, rest) ← precisionOf rest
  let form ←
    match rest with
    | [] => pure none
    | [form] => pure (some form)
    | _ => throw .malformed
  match separator with
  | some separator => if !allowsSeparator separator form then throw .malformed
  | none => pure ()
  let usual := if !rightward then '<' else if zeros.isSome then '=' else '>'
  return {
    fill := fill.getD (zeros.getD ' ')
    align := align.getD usual
    sign := sign
    plainZero := plainZero.isSome
    marked := marked.isSome
    width := width.getD 0
    separator := separator
    precision := precision
    form := form }

/-- Pads a text, which starts with something that padding may follow. -/
def pad (layout : FieldLayout) (front text : List Char) : List Char :=
  let missing := layout.width - (front.length + text.length)
  let fill (count : Nat) := List.replicate count layout.fill
  match layout.align with
  | '>' => fill missing ++ front ++ text
  | '^' => fill (missing / 2) ++ front ++ text ++ fill (missing - missing / 2)
  | '=' => front ++ fill missing ++ text
  | _ => front ++ text ++ fill missing

/-- Lays a text out. -/
def layText (layout : FieldLayout) (text : List Char) : Except TemplateProblem (List Char) :=
  let plain := layout.sign.isNone && !layout.plainZero && !layout.marked &&
    layout.separator.isNone && layout.align != '=' && (layout.form.getD 's') == 's'
  if plain then
    .ok (layout.pad [] (match layout.precision with | some most => text.take most | none => text))
  else .error .malformed

/-- Puts zeros before digits up to a length, and a separator between groups of `size` digits. The
digits are given last first, and `fuel` bounds the number of groups. -/
def grouped (separator : Char) (size : Nat) : Nat → List Char → Int → List Char
  | 0, digits, _ => digits
  | fuel + 1, digits, least =>
    let taken := min size (max (max digits.length least.toNat) 1)
    let group := digits.take taken
    let group := group ++ List.replicate (taken - group.length) '0'
    let rest := digits.drop taken
    let left := least - taken
    if rest.isEmpty ∧ left ≤ 0 then group
    else group ++ separator :: grouped separator size fuel rest (left - 1)

/-- The digits of a number with zeros before them and separators between them, where `other` is the
number of characters around the digits. -/
def spread (layout : FieldLayout) (size other : Nat) (digits : List Char) : List Char :=
  let least : Int :=
    if layout.fill = '0' ∧ layout.align = '=' then (layout.width : Int) - other else 0
  if digits.isEmpty then []
  else
    match layout.separator with
    | none => List.replicate (least.toNat - digits.length) '0' ++ digits
    | some separator =>
      (grouped separator size (digits.length + layout.width + 1) digits.reverse least).reverse

/-- Lays a number out, given as a sign, the mark of its base, its digits and what follows them. -/
def layNumber (layout : FieldLayout) (size : Nat) (negative : Bool)
    (mark digits rest : List Char) : List Char :=
  let sign :=
    if negative then ['-']
    else
      match layout.sign with
      | some '+' => ['+']
      | some ' ' => [' ']
      | _ => []
  let front := sign ++ mark
  layout.pad front (layout.spread size (front.length + rest.length) digits ++ rest)

/-- A text in capitals when a form is a capital letter. -/
def raised (form : Char) (text : List Char) : List Char :=
  if form.isUpper then text.map Char.toUpper else text

/-- The digits of a finite number in a form, and what follows them. -/
def digitsIn (layout : FieldLayout) (form : Char) (mantissa : Nat) (exponent : Int) :
    List Char × List Char :=
  let places := layout.precision.getD 6
  match form with
  | 'f' | 'F' => Binary64.fixed layout.marked places mantissa exponent
  | '%' =>
    let (whole, rest) := Binary64.fixed layout.marked places mantissa exponent
    (whole, rest ++ ['%'])
  | 'e' | 'E' => Binary64.withPower layout.marked places mantissa exponent
  | _ => Binary64.general layout.marked false places mantissa exponent

/-- The digits of a finite number without a form, and what follows them. -/
def digitsOf (layout : FieldLayout) (mantissa : Nat) (exponent : Int) : List Char × List Char :=
  match layout.precision with
  | some count => Binary64.general layout.marked true count mantissa exponent
  | none =>
    let shown :=
      if mantissa = 0 then "0.0".toList else (Binary64.shortest mantissa exponent).written
    let rest := shown.dropWhile Char.isDigit
    (shown.takeWhile Char.isDigit,
      if layout.marked && rest.head? != some '.' then '.' :: rest else rest)

/-- Lays a decimal number out. -/
def layDecimal (layout : FieldLayout) (number : Binary64) :
    Except TemplateProblem (List Char) :=
  let form := layout.form.getD 'r'
  if layout.form.isSome ∧ !(['e', 'E', 'f', 'F', 'g', 'G', 'n', '%'].contains form) then
    .error .malformed
  else
    let number := if form = '%' then number.hundredfold else number
    let percent := if form = '%' then ['%'] else []
    match number with
    | .undefined => .ok (layout.layNumber 3 false [] [] (raised form "nan".toList ++ percent))
    | .infinite negative =>
      .ok (layout.layNumber 3 negative [] [] (raised form "inf".toList ++ percent))
    | .finite negative mantissa exponent =>
      let (digits, rest) :=
        if layout.form.isSome then layout.digitsIn form mantissa exponent
        else layout.digitsOf mantissa exponent
      let isZero := (digits ++ rest.takeWhile (· != 'e')).all fun c => !c.isDigit || c == '0'
      .ok (layout.layNumber 3 (negative && !(layout.plainZero && isZero)) [] digits
        (raised form rest))

/-- The base of a form, and the mark of that base. -/
def baseOf : Char → Option (Nat × List Char)
  | 'd' | 'n' => some (10, [])
  | 'b' => some (2, ['0', 'b'])
  | 'o' => some (8, ['0', 'o'])
  | 'x' => some (16, ['0', 'x'])
  | 'X' => some (16, ['0', 'X'])
  | _ => none

/-- Lays a whole number out. -/
def layInteger (layout : FieldLayout) (number : Int) : Except TemplateProblem (List Char) :=
  let form := layout.form.getD 'd'
  if ['e', 'E', 'f', 'F', 'g', 'G', '%'].contains form then
    match Binary64.ofWhole number with
    | .infinite _ => .error .tooLarge
    | number => layout.layDecimal number
  else if layout.precision.isSome ∨ layout.plainZero then .error .malformed
  else if form = 'c' then
    if layout.sign.isSome ∨ layout.marked then .error .malformed
    else if number < 0 ∨ 0x10ffff < number then .error .tooLarge
    else .ok (layout.layNumber 3 false [] [] [Char.ofNat number.toNat])
  else
    match baseOf form with
    | none => .error .malformed
    | some (base, mark) =>
      let size := if base = 10 then 3 else 4
      let digits := raised form (Nat.toDigits base number.natAbs)
      .ok (layout.layNumber size (number < 0) (if layout.marked then mark else []) digits [])

end FieldLayout

/-- Shows what a field picked in a layout. -/
def Subject.layOut (subject : Subject) (layout : List Char) : Except TemplateProblem (List Char) :=
  if layout.isEmpty then .ok subject.display.toList
  else
    match subject with
    | .value (.text content) => (FieldLayout.parse false layout).bind (·.layText content.toList)
    | .value (.integer number) => (FieldLayout.parse true layout).bind (·.layInteger number)
    | .value (.flag set) =>
      (FieldLayout.parse true layout).bind (·.layInteger (if set then 1 else 0))
    | .value (.decimal number) => (FieldLayout.parse true layout).bind (·.layDecimal number)
    | _ => .error .noLayout

end FeatureLayout
