import FeatureLayout.Number.Binary64

/-!
# Decimal forms of binary numbers

A binary number is written with the fewest decimal digits that read back as that number; of several
such numbers the nearest is taken, and of two that are as near the one whose last digit is even.

`Binary64.readsBack` says which decimal numbers read back: those that lie no farther than halfway
from the neighbours, and halfway too when the mantissa is even. `Binary64.shortest` tries one digit,
two digits and so on; the neighbours of the number on each grid of decimal numbers are the only
candidates.
-/

namespace FeatureLayout

/-- The number `digits` times ten to the power of `exponent`. -/
structure Decimal where
  digits : Nat
  exponent : Int
  deriving DecidableEq, Repr

namespace Decimal

/-- Compares a decimal number with a mantissa times a power of two. -/
def compareBinary (number : Decimal) (mantissa : Nat) (exponent : Int) : Ordering :=
  compare
    (number.digits * Nat.pow 10 number.exponent.toNat * Nat.pow 2 (-exponent).toNat)
    (mantissa * Nat.pow 2 exponent.toNat * Nat.pow 10 (-number.exponent).toNat)

/-- A number without the zeros at the end of its digits; `fuel` bounds their number. -/
def trimmed : Nat → Decimal → Decimal
  | 0, number => number
  | fuel + 1, number =>
    if number.digits ≠ 0 ∧ number.digits % 10 = 0 then
      trimmed fuel ⟨number.digits / 10, number.exponent + 1⟩
    else number

/-- The figures of a number, and the power of ten of the first one. -/
def figures (number : Decimal) : List Char × Int :=
  let shown := Nat.toDigits 10 number.digits
  (shown, number.exponent + shown.length - 1)

/-- Figures with a point, where the first figure counts `power` tens. At least one figure stands on
either side of the point. -/
def positional (figures : List Char) (power : Int) : List Char :=
  if power < 0 then
    '0' :: '.' :: List.replicate (power.natAbs - 1) '0' ++ figures
  else
    let whole := power.toNat + 1
    let padded := figures ++ List.replicate (whole - figures.length) '0'
    let fraction := padded.drop whole
    padded.take whole ++ '.' :: (if fraction.isEmpty then ['0'] else fraction)

/-- The sign and the figures of a power of ten, two figures at least. -/
def powerMark (power : Int) : List Char :=
  let shown := Nat.toDigits 10 power.natAbs
  'e' :: (if power < 0 then '-' else '+') :: List.replicate (2 - shown.length) '0' ++ shown

/-- Figures with a point behind the first and a power of ten. -/
def scientific (figures : List Char) (power : Int) : List Char :=
  (match figures with
    | [] => []
    | [first] => [first]
    | first :: rest => first :: '.' :: rest) ++ powerMark power

/-- A number in full when the power of its first figure is -4 at least and 15 at most, and with a
power of ten elsewhere. -/
def written (number : Decimal) : List Char :=
  let (figures, power) := number.figures
  if -4 ≤ power ∧ power < 16 then positional figures power else scientific figures power

end Decimal

namespace Binary64

/-- Whether a decimal number is read as the number with a mantissa and an exponent. Below a power of
two the numbers lie twice as close. -/
def readsBack (mantissa : Nat) (exponent : Int) (number : Decimal) : Bool :=
  let narrow := 2 * mantissa = mantissaBound ∧ leastExponent < exponent
  let below := number.compareBinary (4 * mantissa - (if narrow then 1 else 2)) (exponent - 2)
  let above := number.compareBinary (4 * mantissa + 2) (exponent - 2)
  let even := mantissa % 2 = 0
  (below = .gt || (even && below = .eq)) && (above = .lt || (even && above = .eq))

/-- The decimal number on the grid of a power of ten that reads back, the nearer one of two. -/
def onGrid? (mantissa : Nat) (exponent grid : Int) : Option Decimal :=
  let under := mantissa * Nat.pow 2 exponent.toNat * Nat.pow 10 (-grid).toNat
  let found := divided under (Nat.pow 2 (-exponent).toNat * Nat.pow 10 grid.toNat)
  let candidate (digits : Nat) : Option Decimal :=
    if readsBack mantissa exponent ⟨digits, grid⟩ then some ⟨digits, grid⟩ else none
  match candidate found.1, candidate (found.1 + 1) with
  | some _, some _ => some ⟨nearest found, grid⟩
  | some low, none => some low
  | none, high => high

/-- A power of ten above a number: the least one or the one after it. -/
def scaleOf (mantissa : Nat) (exponent : Int) : Int :=
  let binary : Int := mantissa.log2 + exponent + 1
  let estimate := (binary * 30103).fdiv 100000 + 1
  if (Decimal.mk 1 estimate).compareBinary mantissa exponent = .gt then estimate else estimate + 1

/-- The shortest decimal form of a number other than zero. Seventeen digits always suffice, and the
exact value stands for the case that they did not. -/
def shortest (mantissa : Nat) (exponent : Int) : Decimal :=
  let scale := scaleOf mantissa exponent
  let found := (List.range 19).findSome? fun (count : Nat) =>
    onGrid? mantissa exponent (scale - (count : Int))
  match found with
  | some number => Decimal.trimmed 20 number
  | none =>
    ⟨mantissa * Nat.pow 2 exponent.toNat * Nat.pow 5 (-exponent).toNat, min exponent 0⟩

/-- A number as messages show it. -/
def shown : Binary64 → String
  | undefined => "nan"
  | infinite negative => if negative then "-inf" else "inf"
  | finite negative mantissa exponent =>
    let text :=
      if mantissa = 0 then "0.0".toList else (shortest mantissa exponent).written
    String.ofList (if negative then '-' :: text else text)

example : (ofDecimal false 1 (-1)).shown = "0.1" := by decide

example : (ofDecimal false 1 23).shown = "1e+23" := by decide

example : (ofDecimal false 1234567890123456789 (-1)).shown = "1.2345678901234568e+17" := by
  decide

example : (ofDecimal true 5 (-324)).shown = "-5e-324" := by decide +kernel

example : (ofDecimal false 298023223876953125 (-25)).shown = "2.9802322387695312e-08" := by
  decide

end Binary64

end FeatureLayout
