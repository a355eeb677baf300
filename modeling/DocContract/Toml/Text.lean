import DocContract.Text.Blank
import DocContract.Text.Line
import DocContract.Text.Ranges

namespace DocContract.Toml

open DocContract.Text

def afterLineEnd? (chars : List Char) : Option (List Char) :=
  match chars with
  | '\n' :: rest => some rest
  | '\r' :: '\n' :: rest => some rest
  | _ => none

/-- The characters that comments and strings may hold: no controls but the tab. -/
def isPlain (c : Char) : Bool :=
  c == '\t' || (0x20 ≤ c.toNat && c.toNat ≠ 0x7F)

def dropComment (chars : List Char) : List Char :=
  match chars with
  | '#' :: rest => rest.dropWhile isPlain
  | _ => chars

/-- What follows a line's last token: blanks, a comment and a line end or the end of the text. -/
def afterLine? (chars : List Char) : Option (List Char) :=
  match dropComment (chars.dropWhile isSpaceOrTab) with
  | [] => some []
  | rest => afterLineEnd? rest

/-- Skips blanks, line ends and comments.  `comment` says that a comment is being skipped. -/
def dropGaps (comment : Bool) : List Char → List Char
  | [] => []
  | '\n' :: rest => dropGaps false rest
  | '\r' :: '\n' :: rest => dropGaps false rest
  | c :: rest =>
    if comment then if isPlain c then dropGaps true rest else c :: rest
    else if isSpaceOrTab c then dropGaps false rest
    else if c = '#' then dropGaps true rest
    else c :: rest

def charOfCode? (code : Nat) : Option Char :=
  if code.isValidChar then some (Char.ofNat code) else none

def charOfHex? (digits : List Char) : Option Char :=
  (digits.mapM Ranges.hexValue?).bind fun values =>
    charOfCode? (values.foldl (fun code value => code * 16 + value) 0)

def escaped? (c : Char) : Option Char :=
  match c with
  | 'b' => some '\x08'
  | 'f' => some '\x0c'
  | 'n' => some '\n'
  | 'r' => some '\r'
  | 't' => some '\t'
  | '"' => some '"'
  | '\\' => some '\\'
  | _ => none

/-- Puts a character in front of a string body that has been read. -/
def consChar (c : Char) (body : Option (List Char × List Char)) : Option (List Char × List Char) :=
  body.map fun (chars, rest) => (c :: chars, rest)

/-- The body of a basic string and what follows its closing quotation mark. -/
def basicBody? : List Char → Option (List Char × List Char)
  | [] => none
  | '"' :: rest => some ([], rest)
  | '\\' :: 'u' :: a :: b :: c :: d :: rest =>
    (charOfHex? [a, b, c, d]).bind fun char => consChar char (basicBody? rest)
  | '\\' :: 'U' :: a :: b :: c :: d :: e :: f :: g :: h :: rest =>
    (charOfHex? [a, b, c, d, e, f, g, h]).bind fun char => consChar char (basicBody? rest)
  | '\\' :: c :: rest => (escaped? c).bind fun char => consChar char (basicBody? rest)
  | c :: rest => if isPlain c && c != '\\' then consChar c (basicBody? rest) else none

/-- The body of a literal string and what follows its closing apostrophe. -/
def literalBody? : List Char → Option (List Char × List Char)
  | [] => none
  | '\'' :: rest => some ([], rest)
  | c :: rest => if isPlain c then consChar c (literalBody? rest) else none

/-- The marks that still belong to a multi-line string at whose end three of them stand already: at
most two more. -/
def closingMarks (mark : Char) (chars : List Char) : List Char × List Char :=
  match chars with
  | c :: d :: rest =>
    if c = mark then if d = mark then ([mark, mark], rest) else ([mark], d :: rest)
    else ([], c :: d :: rest)
  | [c] => if c = mark then ([mark], []) else ([], [c])
  | [] => ([], [])

/-- Whether only blanks stand before the next line end. -/
def endsLine (chars : List Char) : Bool :=
  (afterLineEnd? (chars.dropWhile isSpaceOrTab)).isSome

/-- The body of a multi-line basic string.  `skipping` says that blanks and line ends do not
count, as is so behind a backslash at the end of a line. -/
def multilineBasic? (skipping : Bool) : List Char → Option (List Char × List Char)
  | [] => none
  | '"' :: '"' :: '"' :: rest => some (closingMarks '"' rest)
  | '\n' :: rest =>
    if skipping then multilineBasic? true rest else consChar '\n' (multilineBasic? false rest)
  | '\r' :: '\n' :: rest =>
    if skipping then multilineBasic? true rest else consChar '\n' (multilineBasic? false rest)
  | '\\' :: 'u' :: a :: b :: c :: d :: rest =>
    (charOfHex? [a, b, c, d]).bind fun char => consChar char (multilineBasic? false rest)
  | '\\' :: 'U' :: a :: b :: c :: d :: e :: f :: g :: h :: rest =>
    (charOfHex? [a, b, c, d, e, f, g, h]).bind fun char =>
      consChar char (multilineBasic? false rest)
  | '\\' :: c :: rest =>
    if endsLine (c :: rest) then multilineBasic? true (c :: rest)
    else (escaped? c).bind fun char => consChar char (multilineBasic? false rest)
  | c :: rest =>
    if skipping && isSpaceOrTab c then multilineBasic? true rest
    else if isPlain c && c != '\\' then consChar c (multilineBasic? false rest)
    else none

def multilineLiteral? : List Char → Option (List Char × List Char)
  | [] => none
  | '\'' :: '\'' :: '\'' :: rest => some (closingMarks '\'' rest)
  | '\n' :: rest => consChar '\n' (multilineLiteral? rest)
  | '\r' :: '\n' :: rest => consChar '\n' (multilineLiteral? rest)
  | c :: rest => if isPlain c then consChar c (multilineLiteral? rest) else none

/-- A line end directly behind the opening of a multi-line string does not count. -/
def dropFirstLineEnd (chars : List Char) : List Char :=
  (afterLineEnd? chars).getD chars

def string? (chars : List Char) : Option (List Char × List Char) :=
  match chars with
  | '"' :: '"' :: '"' :: rest => multilineBasic? false (dropFirstLineEnd rest)
  | '"' :: rest => basicBody? rest
  | '\'' :: '\'' :: '\'' :: rest => multilineLiteral? (dropFirstLineEnd rest)
  | '\'' :: rest => literalBody? rest
  | _ => none

/-- The characters of keys that are not quoted. -/
def isKeyChar (c : Char) : Bool :=
  ('a' ≤ c && c ≤ 'z') || ('A' ≤ c && c ≤ 'Z') || ('0' ≤ c && c ≤ '9') || c == '_' || c == '-'

def keyPart? (chars : List Char) : Option (List Char × List Char) :=
  match chars with
  | '"' :: rest => basicBody? rest
  | '\'' :: rest => literalBody? rest
  | _ =>
    let name := chars.takeWhile isKeyChar
    if name.isEmpty then none else some (name, chars.dropWhile isKeyChar)

/-- The parts of a key between dots, at most as many as the fuel, and what follows them. -/
def keyParts? : Nat → List Char → Option (List String × List Char)
  | 0, _ => none
  | fuel + 1, chars => do
    let (name, rest) ← keyPart? (chars.dropWhile isSpaceOrTab)
    match rest.dropWhile isSpaceOrTab with
    | '.' :: rest =>
      let (names, rest) ← keyParts? fuel rest
      some (String.ofList name :: names, rest)
    | rest => some ([String.ofList name], rest)

def keyLimit : Nat := 79

/-- The key at the start with the blanks around it. -/
def key? (chars : List Char) : Option (List String × List Char) :=
  keyParts? keyLimit chars

end DocContract.Toml
