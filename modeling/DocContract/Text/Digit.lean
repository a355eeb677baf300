namespace DocContract.Text

/-- The code points of the digits zero of Unicode 15.0; the nine digits after each follow it. -/
def decimalZeros : List Nat :=
  [
    0x30, 0x660, 0x6F0, 0x7C0, 0x966, 0x9E6, 0xA66, 0xAE6, 0xB66, 0xBE6, 0xC66, 0xCE6, 0xD66,
    0xDE6, 0xE50, 0xED0, 0xF20, 0x1040, 0x1090, 0x17E0, 0x1810, 0x1946, 0x19D0, 0x1A80, 0x1A90,
    0x1B50, 0x1BB0, 0x1C40, 0x1C50, 0xA620, 0xA8D0, 0xA900, 0xA9D0, 0xA9F0, 0xAA50, 0xABF0,
    0xFF10, 0x104A0, 0x10D30, 0x11066, 0x110F0, 0x11136, 0x111D0, 0x112F0, 0x11450, 0x114D0,
    0x11650, 0x116C0, 0x11730, 0x118E0, 0x11950, 0x11C50, 0x11D50, 0x11DA0, 0x11F50, 0x16A60,
    0x16AC0, 0x16B50, 0x1D7CE, 0x1D7D8, 0x1D7E2, 0x1D7EC, 0x1D7F6, 0x1E140, 0x1E2F0, 0x1E4F0,
    0x1E950, 0x1FBF0
  ]

/-- A decimal digit of any script: the general category Decimal_Number. -/
def isDecimalDigit (c : Char) : Bool :=
  decimalZeros.any fun least => least ≤ c.toNat && c.toNat < least + 10

def isAsciiDigit (c : Char) : Bool :=
  '0' ≤ c && c ≤ '9'

def isAsciiLetter (c : Char) : Bool :=
  ('a' ≤ c && c ≤ 'z') || ('A' ≤ c && c ≤ 'Z')

def isAsciiAlphanumeric (c : Char) : Bool :=
  isAsciiLetter c || isAsciiDigit c

def digitValue (c : Char) : Nat :=
  c.toNat - '0'.toNat

/-- The number that ASCII digits write, the most significant first. -/
def natOfDigits (digits : List Char) : Nat :=
  digits.foldl (fun value c => value * 10 + digitValue c) 0

/-- The value of a text that consists of one or more of the digits `0` to `9`. -/
def nat? (digits : List Char) : Option Nat :=
  if digits ≠ [] ∧ digits.all isAsciiDigit then some (natOfDigits digits) else none

/-- Signed integers of 64 bits lie below this limit and not below its negation. -/
def int64Limit : Nat := 0x8000000000000000

/-- The digit that writes a number below ten. -/
def digitChar (value : Nat) : Char :=
  Char.ofNat ('0'.toNat + value)

/-- The decimal digits of a number, the most significant first and without leading zeros. -/
def digitsOfNat (value : Nat) : List Char :=
  if value < 10 then [digitChar value]
  else digitsOfNat (value / 10) ++ [digitChar (value % 10)]

def natText (value : Nat) : String :=
  String.ofList (digitsOfNat value)

/-- An integer in decimal, with a minus sign in front of a negative one. -/
def intText : Int → String
  | .ofNat value => natText value
  | .negSucc value => String.ofList ('-' :: digitsOfNat (value + 1))

end DocContract.Text
