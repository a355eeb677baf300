import DocContract.Json.Value
import DocContract.Text.Digit
import DocContract.Text.Line
import DocContract.Text.Ranges

namespace DocContract.Json

open DocContract.Text

/-- The blanks that may stand between tokens. -/
def isBlank (c : Char) : Bool :=
  c == ' ' || c == '\n' || c == '\t' || c == '\r'

def dropBlanks (chars : List Char) : List Char :=
  chars.dropWhile isBlank

/-- The number that four hexadecimal digits write. -/
def codeUnit? (first second third fourth : Char) : Option Nat := do
  let a ← Ranges.hexValue? first
  let b ← Ranges.hexValue? second
  let c ← Ranges.hexValue? third
  let d ← Ranges.hexValue? fourth
  some (((a * 16 + b) * 16 + c) * 16 + d)

/-- The first of the two units that write a character beyond the first 65536. -/
def isHighUnit (unit : Nat) : Bool :=
  0xD800 ≤ unit && unit < 0xDC00

def isLowUnit (unit : Nat) : Bool :=
  0xDC00 ≤ unit && unit < 0xE000

def pairedChar (high low : Nat) : Char :=
  Char.ofNat (0x10000 + (high - 0xD800) * 0x400 + (low - 0xDC00))

/-- The character of a one-letter escape. -/
def escaped? (c : Char) : Option Char :=
  match c with
  | '"' => some '"'
  | '\\' => some '\\'
  | '/' => some '/'
  | 'b' => some '\x08'
  | 'f' => some '\x0c'
  | 'n' => some '\n'
  | 'r' => some '\r'
  | 't' => some '\t'
  | _ => none

/-- The characters of a string up to its closing quotation mark, and what follows that. -/
def stringBody? : List Char → Option (List Char × List Char)
  | [] => none
  | '"' :: rest => some ([], rest)
  | '\\' :: 'u' :: a :: b :: c :: d :: rest => do
    let unit ← codeUnit? a b c d
    if isHighUnit unit then
      match rest with
      | '\\' :: 'u' :: e :: f :: g :: h :: rest =>
        let low ← codeUnit? e f g h
        if isLowUnit low then
          let (body, after) ← stringBody? rest
          some (pairedChar unit low :: body, after)
        else none
      | _ => none
    else if isLowUnit unit then none
    else
      let (body, after) ← stringBody? rest
      some (Char.ofNat unit :: body, after)
  | '\\' :: c :: rest => do
    let char ← escaped? c
    let (body, after) ← stringBody? rest
    some (char :: body, after)
  | c :: rest =>
    if c.toNat < 0x20 ∨ c = '\\' then none
    else do
      let (body, after) ← stringBody? rest
      some (c :: body, after)

/-- What follows a string whose escapes need not stand for text. -/
def skipString? : List Char → Option (List Char)
  | [] => none
  | '"' :: rest => some rest
  | '\\' :: 'u' :: a :: b :: c :: d :: rest => do
    let _ ← codeUnit? a b c d
    skipString? rest
  | '\\' :: c :: rest => do
    let _ ← escaped? c
    skipString? rest
  | c :: rest => if c.toNat < 0x20 ∨ c = '\\' then none else skipString? rest

/-- The text of a string behind its opening quotation mark, unless it is garbled. -/
def string? (chars : List Char) : Option (Option String × List Char) :=
  match stringBody? chars with
  | some (body, rest) => some (some (String.ofList body), rest)
  | none => (skipString? chars).map (none, ·)

def ofString : Option String → Json
  | some text => .string text
  | none => .garbled

def ofMembers : Option (List (String × Json)) → Json
  | some members => .object members
  | none => .garbled

def digitRun (chars : List Char) : List Char × List Char :=
  (chars.takeWhile isAsciiDigit, chars.dropWhile isAsciiDigit)

/-- The digits before the point: a single zero, or digits that start with another. -/
def wholePart? (chars : List Char) : Option (List Char × List Char) :=
  match chars with
  | '0' :: rest => if rest.head?.any isAsciiDigit then none else some (['0'], rest)
  | _ => if chars.head?.any isAsciiDigit then some (digitRun chars) else none

/-- The point and the digits behind it, if there is a point. -/
def fraction? (chars : List Char) : Option (List Char × List Char) :=
  match chars with
  | '.' :: rest =>
    let (digits, after) := digitRun rest
    if digits.isEmpty then none else some ('.' :: digits, after)
  | _ => some ([], chars)

/-- The exponent, if there is one. -/
def exponent? (chars : List Char) : Option (List Char × List Char) :=
  match chars with
  | mark :: rest =>
    if mark = 'e' ∨ mark = 'E' then
      let (sign, unsigned) := match rest with
        | '+' :: unsigned => (['+'], unsigned)
        | '-' :: unsigned => (['-'], unsigned)
        | _ => ([], rest)
      let (digits, after) := digitRun unsigned
      if digits.isEmpty then none else some (mark :: sign ++ digits, after)
    else some ([], chars)
  | [] => some ([], [])

/-- The value of a number without fraction and exponent: an integer if it fits into 64 bits and is
no negative zero. -/
def wholeNumber (negative : Bool) (digits : List Char) : Json :=
  let value := natOfDigits digits
  if negative then
    if value = 0 ∨ int64Limit < value then .decimal (String.ofList ('-' :: digits))
    else .integer (-value)
  else if value < UInt64.size then .integer value
  else .decimal (String.ofList digits)

/-- The number at the start, without its sign. -/
def unsigned? (negative : Bool) (chars : List Char) : Option (Json × List Char) := do
  let (digits, rest) ← wholePart? chars
  let (fraction, rest) ← fraction? rest
  let (exponent, rest) ← exponent? rest
  if fraction.isEmpty && exponent.isEmpty then some (wholeNumber negative digits, rest)
  else
    let sign := if negative then ['-'] else []
    some (.decimal (String.ofList (sign ++ digits ++ fraction ++ exponent)), rest)

def scalar? (chars : List Char) : Option (Json × List Char) :=
  match chars with
  | '"' :: rest => (string? rest).map fun (text, after) => (ofString text, after)
  | '-' :: rest => unsigned? true rest
  | 'n' :: rest => (afterOpening? ['u', 'l', 'l'] rest).map (.null, ·)
  | 't' :: rest => (afterOpening? ['r', 'u', 'e'] rest).map (.bool true, ·)
  | 'f' :: rest => (afterOpening? ['a', 'l', 's', 'e'] rest).map (.bool false, ·)
  | _ => unsigned? false chars

mutual

/-- The value at the start, for text that nests no deeper than the fuel. -/
def value? : Nat → List Char → Option (Json × List Char)
  | 0, _ => none
  | fuel + 1, chars =>
    match dropBlanks chars with
    | '[' :: rest =>
      match dropBlanks rest with
      | ']' :: after => some (.array [], after)
      | _ => (items? fuel rest).map fun (items, after) => (.array items, after)
    | '{' :: rest =>
      match dropBlanks rest with
      | '}' :: after => some (.object [], after)
      | _ => (members? fuel rest).map fun (members, after) => (ofMembers members, after)
    | start => scalar? start

/-- One or more items and the closing bracket. -/
def items? : Nat → List Char → Option (List Json × List Char)
  | 0, _ => none
  | fuel + 1, chars => do
    let (item, rest) ← value? fuel chars
    match dropBlanks rest with
    | ',' :: rest =>
      let (items, after) ← items? fuel rest
      some (item :: items, after)
    | ']' :: after => some ([item], after)
    | _ => none

/-- One or more members and the closing brace; no members where a key is garbled. -/
def members? : Nat → List Char → Option (Option (List (String × Json)) × List Char)
  | 0, _ => none
  | fuel + 1, chars => do
    match dropBlanks chars with
    | '"' :: rest =>
      let (key, rest) ← string? rest
      match dropBlanks rest with
      | ':' :: rest =>
        let (value, rest) ← value? fuel rest
        let member := key.map (·, value)
        match dropBlanks rest with
        | ',' :: rest =>
          let (members, after) ← members? fuel rest
          some (member.bind fun member => members.map (member :: ·), after)
        | '}' :: after => some (member.map ([·]), after)
        | _ => none
      | _ => none
    | _ => none

end

/-- The value that the whole text writes. -/
def parse? (text : String) : Option Json := do
  let chars := text.toList
  let (value, rest) ← value? (2 * chars.length + 1) chars
  if (dropBlanks rest).isEmpty then some value else none

end DocContract.Json
