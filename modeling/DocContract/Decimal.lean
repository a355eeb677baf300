import DocContract.Text.Digit

/-!
Decimal numbers and the 64-bit binary floating point numbers nearest to them.  The text of such a
number has as few digits as identify it.
-/

namespace DocContract

open DocContract.Text

/-- The number `digits * 10 ^ exponent`. -/
structure Decimal where
  digits : Nat
  exponent : Int
  deriving DecidableEq, Repr, Inhabited

/-- The number `mantissa * 2 ^ exponent`. -/
structure Binary64 where
  mantissa : Nat
  exponent : Int
  deriving DecidableEq, Repr, Inhabited

structure Fraction where
  numerator : Nat
  denominator : Nat
  deriving DecidableEq, Repr

def Fraction.scale (value : Fraction) (base : Nat) (exponent : Int) : Fraction :=
  if 0 ≤ exponent then ⟨value.numerator * Nat.pow base exponent.toNat, value.denominator⟩
  else ⟨value.numerator, value.denominator * Nat.pow base (-exponent).toNat⟩

def Decimal.toFraction (value : Decimal) : Fraction :=
  (Fraction.mk value.digits 1).scale 10 value.exponent

def Binary64.toFraction (value : Binary64) : Fraction :=
  (Fraction.mk value.mantissa 1).scale 2 value.exponent

namespace Fraction

def floor (value : Fraction) : Nat :=
  value.numerator / value.denominator

/-- The nearest integer; of two the even one. -/
def roundEven (value : Fraction) : Nat :=
  let quotient := value.floor
  let twice := 2 * (value.numerator % value.denominator)
  if twice < value.denominator then quotient
  else if value.denominator < twice then quotient + 1
  else quotient + quotient % 2

def le (left right : Fraction) : Bool :=
  left.numerator * right.denominator ≤ right.numerator * left.denominator

def lt (left right : Fraction) : Bool :=
  left.numerator * right.denominator < right.numerator * left.denominator

end Fraction

/-- The least mantissa of 53 binary digits.  Only the smallest numbers of the format have one
below. -/
def Binary64.leastMantissa : Nat := 0x10000000000000

/-- The exponent of the smallest positive number of the format. -/
def Binary64.leastExponent : Int := -1074

/-- The exponent of the largest number of the format. -/
def Binary64.greatestExponent : Int := 971

/-- The number of the format with 53 binary digits that is nearest to a positive fraction; none if
that lies beyond the largest. -/
def Binary64.nearest? (value : Fraction) : Option Binary64 :=
  let log : Int := value.numerator.log2 - value.denominator.log2
  let guess := max (log - 52) Binary64.leastExponent
  let exponent :=
    if leastExponent < guess ∧ (value.scale 2 (-guess)).floor < leastMantissa then guess - 1
    else guess
  let mantissa := (value.scale 2 (-exponent)).roundEven
  let rounded : Binary64 :=
    if mantissa = 2 * leastMantissa then ⟨leastMantissa, exponent + 1⟩ else ⟨mantissa, exponent⟩
  if Binary64.greatestExponent < rounded.exponent then none else some rounded

/-- The numbers nearest to `value` among all of its format lie between these two. -/
def Binary64.neighbourhood (value : Binary64) : Fraction × Fraction :=
  let below : Binary64 :=
    if value.mantissa = leastMantissa ∧ Binary64.leastExponent < value.exponent then
      ⟨4 * value.mantissa - 1, value.exponent - 2⟩
    else ⟨2 * value.mantissa - 1, value.exponent - 1⟩
  (below.toFraction, (Binary64.mk (2 * value.mantissa + 1) (value.exponent - 1)).toFraction)

/-- Whether the number of the format nearest to the decimal is `value`. -/
def Binary64.isNearestTo (value : Binary64) (decimal : Decimal) : Bool :=
  let (low, high) := value.neighbourhood
  let candidate := decimal.toFraction
  if value.mantissa % 2 = 0 then low.le candidate && candidate.le high
  else low.lt candidate && candidate.lt high

/-- The multiple of a power of ten that identifies `value` and is nearest to it; of two the
greater. -/
def Binary64.multiple? (value : Binary64) (exponent : Int) : Option Decimal :=
  let scaled := value.toFraction.scale 10 (-exponent)
  let below : Decimal := ⟨scaled.floor, exponent⟩
  let above : Decimal := ⟨scaled.floor + 1, exponent⟩
  match value.isNearestTo below, value.isNearestTo above with
  | true, true =>
    if 2 * (scaled.numerator % scaled.denominator) < scaled.denominator then some below
    else some above
  | true, false => some below
  | false, true => some above
  | false, false => none

/-- Tries the exponents from the given one downwards. -/
def Binary64.shortestFrom (value : Binary64) : Nat → Int → Decimal
  | 0, exponent => ⟨0, exponent⟩
  | count + 1, exponent =>
    match value.multiple? exponent with
    | some decimal =>
      if decimal.digits = 0 then value.shortestFrom count (exponent - 1) else decimal
    | none => value.shortestFrom count (exponent - 1)

/-- The decimal with the fewest digits that identifies `value`. -/
def Binary64.shortest (value : Binary64) : Decimal :=
  value.shortestFrom 660 309

/-- Decimal numbers with more digits than this before the point lie beyond every number of the
format, and with more zeros than this behind the point below every positive one. -/
def Decimal.digitBound : Int := 400

/-- The shortest decimal that stands for the same number of the format; none beyond the largest. -/
def Decimal.canonical? (value : Decimal) : Option Decimal :=
  let size : Int := (digitsOfNat value.digits).length + value.exponent
  if value.digits = 0 ∨ size < -Decimal.digitBound then some ⟨0, 0⟩
  else if Decimal.digitBound < size then none
  else (Binary64.nearest? value.toFraction).map fun binary =>
    if binary.mantissa = 0 then ⟨0, 0⟩ else binary.shortest

def Decimal.chars (value : Decimal) : List Char :=
  let digits := digitsOfNat value.digits
  if 0 ≤ value.exponent then
    if value.digits = 0 then digits
    else digits ++ List.replicate value.exponent.toNat '0'
  else
    let places := (-value.exponent).toNat
    let padded := List.replicate (places + 1 - digits.length) '0' ++ digits
    padded.take (padded.length - places) ++ '.' :: padded.drop (padded.length - places)

/-- A number of the 64-bit format by its shortest decimal. -/
inductive Number where
  | finite (negative : Bool) (size : Decimal)
  | infinite (negative : Bool)
  | notANumber
  deriving DecidableEq, Repr, Inhabited

/-- The number without an exponent, and without a point if it is whole. -/
def Number.text : Number → String
  | .finite negative size => String.ofList ((if negative then ['-'] else []) ++ size.chars)
  | .infinite negative => if negative then "-inf" else "inf"
  | .notANumber => "NaN"

/-- The number as messages show it: a whole one with a zero behind a point. -/
def Number.pointedText (value : Number) : String :=
  match value with
  | .finite _ size => if 0 ≤ size.exponent then value.text ++ ".0" else value.text
  | _ => value.text

end DocContract
