import DocContract.Json.Value
import DocContract.Text.Digit
import DocContract.Text.Quoted

namespace DocContract.Json

open DocContract.Text

/-- One character inside a JSON string: quotation marks, backslashes and controls are escaped. -/
def escapeChar (c : Char) : List Char :=
  match c with
  | '"' => ['\\', '"']
  | '\\' => ['\\', '\\']
  | '\n' => ['\\', 'n']
  | '\r' => ['\\', 'r']
  | '\t' => ['\\', 't']
  | '\x08' => ['\\', 'b']
  | '\x0c' => ['\\', 'f']
  | _ =>
    if c.toNat < 0x20 then
      ['\\', 'u', '0', '0', hexDigit (c.toNat / 16), hexDigit (c.toNat % 16)]
    else [c]

/-- A JSON string with its quotation marks. -/
def stringChars (text : String) : List Char :=
  '"' :: text.toList.flatMap escapeChar ++ ['"']

/-- The text of a number or of one of the three words. -/
def scalarChars : Json → List Char
  | .null => "null".toList
  | .bool true => "true".toList
  | .bool false => "false".toList
  | .integer value => (intText value).toList
  | .decimal text => text.toList
  | .string text => stringChars text
  | .array _ => []
  | .object _ => []
  | .garbled => []

mutual

/-- The characters of a value without blanks. -/
def compactChars : Json → List Char
  | .array items => '[' :: compactItems items ++ [']']
  | .object members => '{' :: compactMembers members ++ ['}']
  | value => scalarChars value

def compactItems : List Json → List Char
  | [] => []
  | [item] => compactChars item
  | item :: next :: more => compactChars item ++ ',' :: compactItems (next :: more)

def compactMembers : List (String × Json) → List Char
  | [] => []
  | [(key, value)] => stringChars key ++ ':' :: compactChars value
  | (key, value) :: next :: more =>
    stringChars key ++ ':' :: compactChars value ++ ',' :: compactMembers (next :: more)

end

/-- A line end and the indentation of that depth. -/
def lineBreak (depth : Nat) : List Char :=
  '\n' :: List.replicate (2 * depth) ' '

mutual

/-- The characters of a value that stands at that depth, with every item and member on a line of its
own.  An empty array or object stays on one line. -/
def indentedChars (depth : Nat) : Json → List Char
  | .array [] => ['[', ']']
  | .array (item :: items) =>
    '[' :: indentedItems (depth + 1) (item :: items) ++ lineBreak depth ++ [']']
  | .object [] => ['{', '}']
  | .object (member :: members) =>
    '{' :: indentedMembers (depth + 1) (member :: members) ++ lineBreak depth ++ ['}']
  | value => scalarChars value

def indentedItems (depth : Nat) : List Json → List Char
  | [] => []
  | [item] => lineBreak depth ++ indentedChars depth item
  | item :: next :: more =>
    lineBreak depth ++ indentedChars depth item ++ ',' :: indentedItems depth (next :: more)

def indentedMembers (depth : Nat) : List (String × Json) → List Char
  | [] => []
  | [(key, value)] =>
    lineBreak depth ++ stringChars key ++ ':' :: ' ' :: indentedChars depth value
  | (key, value) :: next :: more =>
    lineBreak depth ++ stringChars key ++ ':' :: ' ' :: indentedChars depth value ++
      ',' :: indentedMembers depth (next :: more)

end

def compact (value : Json) : String :=
  String.ofList (compactChars value)

/-- The text of the value with two spaces of indentation. -/
def indented (value : Json) : String :=
  String.ofList (indentedChars 0 value)

end DocContract.Json
