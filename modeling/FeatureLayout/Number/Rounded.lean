import FeatureLayout.Number.Decimal

/-!
# Rounded forms of binary numbers

A binary number may be written with a fixed number of digits behind the point, or with a fixed
number of digits altogether. Both forms round the exact value, and a value halfway between two of
them goes to the one whose last digit is even.
-/

namespace FeatureLayout

namespace Binary64

/-- How often a number holds a power of ten, rounded. -/
def roundedAt (mantissa : Nat) (exponent grid : Int) : Nat :=
  nearest (divided (mantissa * Nat.pow 2 exponent.toNat * Nat.pow 10 (-grid).toNat)
    (Nat.pow 2 (-exponent).toNat * Nat.pow 10 grid.toNat))

/-- The power of ten of the first figure of a number other than zero. -/
def leadingPower (mantissa : Nat) (exponent : Int) : Int :=
  let power := scaleOf mantissa exponent - 1
  if (Decimal.mk 1 power).compareBinary mantissa exponent = .gt then power - 1 else power

/-- The figures of a number, `count` of them, and the power of ten of the first one. -/
def significant (count mantissa : Nat) (exponent : Int) : List Char × Int :=
  if mantissa = 0 then (List.replicate count '0', 0)
  else
    let power := leadingPower mantissa exponent
    let figures := Nat.toDigits 10 (roundedAt mantissa exponent (power - count + 1))
    (figures.take count, if count < figures.length then power + 1 else power)

/-- Figures behind a point, or nothing when there are none; `kept` keeps the point all the same. -/
def fraction (kept : Bool) (figures : List Char) : List Char :=
  if figures.isEmpty && !kept then [] else '.' :: figures

/-- A number with a fixed number of figures behind the point: what stands before the point, and what
follows. -/
def fixed (kept : Bool) (places mantissa : Nat) (exponent : Int) : List Char × List Char :=
  let figures := Nat.toDigits 10 (roundedAt mantissa exponent (-(places : Int)))
  let padded := List.replicate (places + 1 - figures.length) '0' ++ figures
  let whole := padded.length - places
  (padded.take whole, fraction kept (padded.drop whole))

/-- A number with a power of ten and a fixed number of figures behind the point. -/
def withPower (kept : Bool) (places mantissa : Nat) (exponent : Int) : List Char × List Char :=
  let (figures, power) := significant (places + 1) mantissa exponent
  (figures.take 1, fraction kept (figures.drop 1) ++ Decimal.powerMark power)

/-- Figures without zeros at their end. -/
def withoutZeros (figures : List Char) : List Char :=
  (figures.reverse.dropWhile (· == '0')).reverse

/-- A number with at most `count` figures, in full unless its first figure is too far from the
point. `kept` keeps all figures, and `pointed` asks for a figure behind the point. -/
def general (kept pointed : Bool) (count mantissa : Nat) (exponent : Int) :
    List Char × List Char :=
  let count := max count 1
  let (figures, power) := significant count mantissa exponent
  let limit : Int := if pointed then count - 1 else count
  let strip (figures : List Char) := if kept then figures else withoutZeros figures
  if power < -4 ∨ limit ≤ power then
    (figures.take 1, fraction kept (strip (figures.drop 1)) ++ Decimal.powerMark power)
  else if power < 0 then
    (['0'], fraction kept (List.replicate (power.natAbs - 1) '0' ++ strip figures))
  else
    let whole := power.toNat + 1
    let rest := strip (figures.drop whole)
    (figures.take whole ++ List.replicate (whole - figures.length) '0',
      fraction kept (if pointed && rest.isEmpty then ['0'] else rest))

/-- A hundred times a number. -/
def hundredfold : Binary64 → Binary64
  | finite negative mantissa exponent =>
    ofQuotient negative (mantissa * 100 * Nat.pow 2 exponent.toNat) (Nat.pow 2 (-exponent).toNat)
  | number => number

/-- The binary number nearest to a whole number. -/
def ofWhole (number : Int) : Binary64 := ofQuotient (number < 0) number.natAbs 1

end Binary64

end FeatureLayout
