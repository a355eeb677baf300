import DocContract.Text.Ranges
import DocContract.Toml.Value

namespace DocContract.Toml

open DocContract.Text

/-- The longest run of digits with single underscores between them, without the underscores, and
what follows.  An underscore must be followed by a digit. -/
def digitRun? (isDigit : Char → Bool) : List Char → Option (List Char × List Char)
  | [] => none
  | c :: rest =>
    if isDigit c then
      match rest with
      | '_' :: more => (digitRun? isDigit more).map fun (digits, after) => (c :: digits, after)
      | d :: more =>
        if isDigit d then
          (digitRun? isDigit (d :: more)).map fun (digits, after) => (c :: digits, after)
        else some ([c], d :: more)
      | [] => some ([c], [])
    else none

/-- Whether there is a minus sign, and what follows the sign. -/
def sign (chars : List Char) : Bool × List Char :=
  match chars with
  | '-' :: rest => (true, rest)
  | '+' :: rest => (false, rest)
  | _ => (false, chars)

/-- The digits of a whole number: a zero, or digits of which the first is none. -/
def wholeDigits? (chars : List Char) : Option (List Char × List Char) :=
  match chars with
  | '0' :: rest => some (['0'], rest)
  | _ => digitRun? isAsciiDigit chars

/-- The exponent behind `e`, if there is one. -/
def exponent? (chars : List Char) : Option (Option Int × List Char) :=
  match chars with
  | [] => some (none, [])
  | mark :: rest =>
    if mark = 'e' ∨ mark = 'E' then
      let (negative, digits) := sign rest
      (digitRun? isAsciiDigit digits).map fun (digits, rest) =>
        let size : Int := natOfDigits digits
        (some (if negative then -size else size), rest)
    else some (none, chars)

def fraction? (chars : List Char) : Option (Option (List Char) × List Char) :=
  match chars with
  | '.' :: rest => (digitRun? isAsciiDigit rest).map fun (digits, rest) => (some digits, rest)
  | _ => some (none, chars)

/-- The number nearest to a decimal.  One too large for the format is infinite if it is negative,
and no number otherwise. -/
def nearestNumber? (negative : Bool) (size : Decimal) : Option Number :=
  match size.canonical? with
  | some size => some (.finite negative size)
  | none => if negative then some (.infinite true) else none

/-- A decimal number: an integer of 64 bits, or with a fraction or an exponent a float. -/
def decimal? (chars : List Char) : Option (Value × List Char) := do
  let (negative, unsigned) := sign chars
  let (whole, rest) ← wholeDigits? unsigned
  let (fraction, rest) ← fraction? rest
  let (exponent, rest) ← exponent? rest
  if fraction.isNone && exponent.isNone then
    let size := natOfDigits whole
    if size < int64Limit ∨ (negative ∧ size = int64Limit) then
      some (.integer (if negative then -size else size), rest)
    else none
  else
    let places := fraction.getD []
    let size : Decimal := ⟨natOfDigits (whole ++ places), exponent.getD 0 - places.length⟩
    let number ← nearestNumber? negative size
    some (.float number, rest)

/-- The names of the numbers that are not finite, behind an optional sign. -/
def special? (chars : List Char) : Option (Value × List Char) :=
  let (negative, unsigned) := sign chars
  ((afterOpening? ['i', 'n', 'f'] unsigned).map (.float (.infinite negative), ·)).or
    ((afterOpening? ['n', 'a', 'n'] unsigned).map (.float .notANumber, ·))

/-- An integer of 64 bits in another base. -/
def inBase? (base : Nat) (chars : List Char) : Option (Value × List Char) := do
  let isDigit := fun c => (Ranges.hexValue? c).any (· < base)
  let (digits, rest) ← digitRun? isDigit chars
  let size := digits.foldl (fun value c => value * base + (Ranges.hexValue? c).getD 0) 0
  if size < int64Limit then some (.integer size, rest) else none

/-- The number, date or time at the start. -/
def number? (chars : List Char) : Option (Value × List Char) :=
  match chars with
  | '0' :: 'x' :: rest => inBase? 16 rest
  | '0' :: 'o' :: rest => inBase? 8 rest
  | '0' :: 'b' :: rest => inBase? 2 rest
  | _ =>
    match datetime? chars with
    | some (value, rest) => some (.datetime value, rest)
    | none => (decimal? chars).or (special? chars)

end DocContract.Toml
