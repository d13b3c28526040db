/-!
# Binary numbers of 64 bits

Decimal numbers in configurations are held with 53 binary digits, as most programs hold them. A
`Binary64` is a whole mantissa below two to the power of 53 times a power of two from -1074 to 971,
with a sign of its own even for zero, or one of the values that are no finite number.

`ofQuotient` rounds an exact quotient to the nearest such number, and a quotient halfway between two
of them to the one with the even mantissa. All arithmetic is exact arithmetic of whole numbers.
-/

namespace FeatureLayout

/-- A binary number of 64 bits. -/
inductive Binary64 where
  /-- The mantissa times two to the power of the exponent. -/
  | finite (negative : Bool) (mantissa : Nat) (exponent : Int)
  | infinite (negative : Bool)
  /-- No number at all. -/
  | undefined
  deriving DecidableEq, Repr, Inhabited

namespace Binary64

/-- The power of two of the numbers closest to zero. -/
def leastExponent : Int := -1074

/-- The power of two of the largest numbers. -/
def greatestExponent : Int := 971

/-- The first mantissa that is too large. -/
def mantissaBound : Nat := 0x20000000000000

/-- Zero with a sign. -/
def zero (negative : Bool) : Binary64 := .finite negative 0 leastExponent

/-- The whole part of a quotient, and whether the rest of it is less than (`lt`), equal to (`eq`) or
greater than (`gt`) one half. -/
def divided (dividend divisor : Nat) : Nat × Ordering :=
  (dividend / divisor, compare (2 * (dividend % divisor)) divisor)

/-- A quotient divided by a power of a base. -/
def scaled (base dividend divisor : Nat) (exponent : Int) : Nat × Ordering :=
  divided (dividend * Nat.pow base (-exponent).toNat) (divisor * Nat.pow base exponent.toNat)

/-- The neighbour that is nearer; the even one when both are as near. -/
def nearest (found : Nat × Ordering) : Nat :=
  match found.2 with
  | .lt => found.1
  | .gt => found.1 + 1
  | .eq => found.1 + found.1 % 2

/-- The exponent with which a quotient other than zero has a mantissa of 53 binary digits, or fewer
where the exponent would be too small. -/
def exponentOf (dividend divisor : Nat) : Int :=
  let estimate : Int := (dividend.log2 : Int) - (divisor.log2 : Int) - 53
  let exponent := max estimate leastExponent
  if (scaled 2 dividend divisor exponent).1 < mantissaBound then exponent else exponent + 1

/-- A number with a mantissa that may be too large by one, and an exponent that may be too large. -/
def packed (negative : Bool) (mantissa : Nat) (exponent : Int) : Binary64 :=
  let full := mantissa = mantissaBound
  let exponent := if full then exponent + 1 else exponent
  if greatestExponent < exponent then .infinite negative
  else .finite negative (if full then mantissa / 2 else mantissa) exponent

/-- The number nearest to a quotient. -/
def ofQuotient (negative : Bool) (dividend divisor : Nat) : Binary64 :=
  if dividend = 0 then zero negative
  else
    let exponent := exponentOf dividend divisor
    packed negative (nearest (scaled 2 dividend divisor exponent)) exponent

/-- The number nearest to `digits` times ten to the power of `exponent`. Powers beyond four hundred
decide the outcome whatever the digits are. -/
def ofDecimal (negative : Bool) (digits : Nat) (exponent : Int) : Binary64 :=
  if digits = 0 ∨ exponent + (digits.log2 : Int) < -400 then zero negative
  else if 400 < exponent then .infinite negative
  else ofQuotient negative (digits * Nat.pow 10 exponent.toNat) (Nat.pow 10 (-exponent).toNat)

/-- Whether a number is zero. -/
def isZero : Binary64 → Bool
  | finite _ mantissa _ => mantissa == 0
  | _ => false

/-- A finite number without its fraction. -/
def truncated? : Binary64 → Option Int
  | finite negative mantissa exponent =>
    let size := mantissa * Nat.pow 2 exponent.toNat / Nat.pow 2 (-exponent).toNat
    some (if negative then -(size : Int) else size)
  | _ => none

/-- A mantissa without its trailing zero bits, and the exponent that makes up for them; `fuel`
bounds their number. -/
def reduced : Nat → Nat → Int → Nat × Int
  | 0, mantissa, exponent => (mantissa, exponent)
  | fuel + 1, mantissa, exponent =>
    if mantissa ≠ 0 ∧ mantissa % 2 = 0 then reduced fuel (mantissa / 2) (exponent + 1)
    else (mantissa, exponent)

example : ofDecimal false 1 (-1) = .finite false 0x1999999999999a (-56) := by decide

example : ofDecimal false 9007199254740993 0 = .finite false 0x10000000000000 1 := by decide

example : ofDecimal true 5 (-324) = .finite true 1 leastExponent := by decide +kernel

example : ofDecimal false 17976931348623159 292 = .infinite false := by decide +kernel

end Binary64

end FeatureLayout
