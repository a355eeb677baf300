import DocContract.Text.Digit
import DocContract.Text.Line

namespace DocContract.Toml

open DocContract.Text

structure Date where
  year : Nat
  month : Nat
  day : Nat
  deriving DecidableEq, Repr, Inhabited

structure Time where
  hour : Nat
  minute : Nat
  second : Nat
  nanosecond : Nat
  deriving DecidableEq, Repr, Inhabited

/-- How far a time is from universal time: not at all, or by minutes. -/
inductive Offset where
  | universal
  | minutes (negative : Bool) (count : Nat)
  deriving DecidableEq, Repr, Inhabited

/-- A date, a time, or both with or without an offset. -/
inductive Datetime where
  | date (date : Date)
  | time (time : Time)
  | localTime (date : Date) (time : Time)
  | offsetTime (date : Date) (time : Time) (offset : Offset)
  deriving DecidableEq, Repr, Inhabited

def padded (width value : Nat) : List Char :=
  let digits := digitsOfNat value
  List.replicate (width - digits.length) '0' ++ digits

def Date.chars (date : Date) : List Char :=
  padded 4 date.year ++ '-' :: padded 2 date.month ++ '-' :: padded 2 date.day

/-- The time; a fraction of a second is shown without zeros at its end, if there is one. -/
def Time.chars (time : Time) : List Char :=
  padded 2 time.hour ++ ':' :: padded 2 time.minute ++ ':' :: padded 2 time.second ++
    if time.nanosecond = 0 then []
    else '.' :: ((padded 9 time.nanosecond).reverse.dropWhile (· == '0')).reverse

def Offset.chars : Offset → List Char
  | .universal => ['Z']
  | .minutes negative count =>
    (if negative && count != 0 then '-' else '+') ::
      padded 2 (count / 60) ++ ':' :: padded 2 (count % 60)

def Datetime.text : Datetime → String
  | .date day => String.ofList day.chars
  | .time clock => String.ofList clock.chars
  | .localTime day clock => String.ofList (day.chars ++ 'T' :: clock.chars)
  | .offsetTime day clock shift => String.ofList (day.chars ++ 'T' :: clock.chars ++ shift.chars)

/-- Exactly so many digits at the start, and what follows. -/
def digits? (count : Nat) (chars : List Char) : Option (Nat × List Char) :=
  (nat? (chars.take count)).bind fun value =>
    if count ≤ chars.length then some (value, chars.drop count) else none

def twoDigits? (low high : Nat) (chars : List Char) : Option (Nat × List Char) :=
  (digits? 2 chars).filter fun (value, _) => low ≤ value && value ≤ high

def isLeapYear (year : Nat) : Bool :=
  year % 4 == 0 && (year % 100 != 0 || year % 400 == 0)

def daysInMonth (year month : Nat) : Nat :=
  if month = 2 then if isLeapYear year then 29 else 28
  else if month = 4 ∨ month = 6 ∨ month = 9 ∨ month = 11 then 30
  else 31

def date? (chars : List Char) : Option (Date × List Char) := do
  let (year, rest) ← digits? 4 chars
  let (month, rest) ← twoDigits? 1 12 (← afterOpening? ['-'] rest)
  let (day, rest) ← twoDigits? 1 (daysInMonth year month) (← afterOpening? ['-'] rest)
  some (⟨year, month, day⟩, rest)

/-- The nanoseconds that the digits behind the point of a second write; those beyond the ninth do
not count. -/
def nanoseconds (digits : List Char) : Nat :=
  let kept := digits.take 9
  natOfDigits kept * Nat.pow 10 (9 - kept.length)

def time? (chars : List Char) : Option (Time × List Char) := do
  let (hour, rest) ← twoDigits? 0 23 chars
  let (minute, rest) ← twoDigits? 0 59 (← afterOpening? [':'] rest)
  let (second, rest) ← twoDigits? 0 60 (← afterOpening? [':'] rest)
  match rest with
  | '.' :: fraction =>
    let digits := fraction.takeWhile isAsciiDigit
    if digits.isEmpty then some (⟨hour, minute, second, 0⟩, rest)
    else some (⟨hour, minute, second, nanoseconds digits⟩, fraction.dropWhile isAsciiDigit)
  | _ => some (⟨hour, minute, second, 0⟩, rest)

/-- The offset at the start.  A sign must be followed by hours and minutes. -/
def offset? (chars : List Char) : Option (Option Offset × List Char) :=
  match chars with
  | [] => some (none, [])
  | mark :: rest =>
    if mark = 'Z' ∨ mark = 'z' then some (some .universal, rest)
    else if mark = '+' ∨ mark = '-' then do
      let (hours, rest) ← twoDigits? 0 23 rest
      let (minutes, rest) ← twoDigits? 0 59 (← afterOpening? [':'] rest)
      some (some (.minutes (mark == '-') (60 * hours + minutes)), rest)
    else some (none, chars)

/-- What follows the character between a date and a time. -/
def afterDateMark? (chars : List Char) : Option (List Char) :=
  match chars with
  | mark :: rest => if mark = 'T' ∨ mark = 't' ∨ mark = ' ' then some rest else none
  | [] => none

/-- The date or time at the start.  A date that no time follows stands for itself. -/
def datetime? (chars : List Char) : Option (Datetime × List Char) :=
  match date? chars with
  | some (date, rest) =>
    match (afterDateMark? rest).bind time? with
    | some (time, rest) =>
      (offset? rest).map fun (offset, rest) =>
        match offset with
        | some offset => (.offsetTime date time offset, rest)
        | none => (.localTime date time, rest)
    | none => some (.date date, rest)
  | none => (time? chars).map fun (time, rest) => (.time time, rest)

end DocContract.Toml
