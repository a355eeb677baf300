import DocContract.Text.Blank
import DocContract.Text.Digit
import DocContract.Text.Separated

namespace DocContract.Text

/-- What follows a dotted number with an optional dot behind it: the components of the number and
the rest. -/
def dottedNumber? (chars : List Char) : Option (List (List Char) × List Char) :=
  (separated? isDecimalDigit '.' chars).map fun (parts, rest) =>
    match rest with
    | '.' :: after => (parts, after)
    | _ => (parts, rest)

/-- The title without its number; blanks may stand in front of the number and must stand behind. -/
def dropNumber (title : List Char) : List Char :=
  match dottedNumber? (title.dropWhile isBlank) with
  | some (_, c :: rest) => if isBlank c then rest.dropWhile isBlank else title
  | _ => title

def stripNumber (title : String) : String :=
  String.ofList (dropNumber title.toList)

/-- The components of the number that opens a heading, with spaces or tabs and more text behind. -/
def headingNumber (title : List Char) : List (List Char) :=
  match dottedNumber? title with
  | some (parts, c :: rest) =>
    if isSpaceOrTab c && ((rest.dropWhile isSpaceOrTab).head?.any fun d => !isBlank d) then parts
    else []
  | _ => []

/-- The value of ASCII digits that fits into 32 bits. -/
def word? (digits : List Char) : Option UInt32 :=
  (nat? digits).bind fun value => if value < UInt32.size then some (UInt32.ofNat value) else none

end DocContract.Text
