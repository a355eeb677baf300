import DocContract.Regex.Flags
import DocContract.Text.Property
import DocContract.Text.Script
import DocContract.Toml.Text

namespace DocContract.Regex

open DocContract.Text

inductive Escape where
  | char (c : Char)
  | set (set : CharClass)
  | assert (condition : Assertion)
  deriving Repr

/-- The longest part at the start that hexadecimal digits write, up to a closing brace. -/
def bracedDigits? (flags : Flags) : Nat → List Char → Option (List Char × List Char)
  | 0, _ => none
  | fuel + 1, chars =>
    match flags.skip chars with
    | [] => none
    | '\x7d' :: rest => some ([], rest)
    | c :: rest =>
      if (Ranges.hexValue? c).isSome then
        (bracedDigits? flags fuel rest).map fun (digits, rest) => (c :: digits, rest)
      else none

/-- Exactly so many hexadecimal digits. -/
def fixedDigits? (flags : Flags) : Nat → List Char → Option (List Char × List Char)
  | 0, chars => some ([], chars)
  | count + 1, chars =>
    match flags.skip chars with
    | [] => none
    | c :: rest =>
      if (Ranges.hexValue? c).isSome then
        (fixedDigits? flags count rest).map fun (digits, rest) => (c :: digits, rest)
      else none

/-- The character named by its code point, behind the letter that tells how many digits name it. -/
def hexEscape? (flags : Flags) (count : Nat) (chars : List Char) : Option (Char × List Char) := do
  let (digits, rest) ← match flags.skip chars with
    | '\x7b' :: rest => bracedDigits? flags (rest.length + 1) rest
    | start => fixedDigits? flags count start
  if digits.isEmpty then none else some (← Toml.charOfHex? digits, rest)

/-- The character named by two digits, or by any number of them in braces.  Two digits name no
character beyond ASCII where only ASCII is known. -/
def byteEscape? (flags : Flags) (chars : List Char) : Option (Char × List Char) :=
  (hexEscape? flags 2 chars).filter fun (c, _) =>
    flags.unicode || c.toNat < 0x80 || (flags.skip chars).head? == some '\x7b'

/-- The name of a property as it is looked up: ASCII alone, in lower case, without blanks,
underscores, dashes and a leading `is`. -/
def propertyKey (name : List Char) : String :=
  let isOpened := (name.take 2).map Char.toLower == ['i', 's']
  let kept := ((if isOpened then name.drop 2 else name).filter fun c =>
    c.toNat < 0x80 && c != ' ' && c != '_' && c != '-').map Char.toLower
  if isOpened && kept == ['c'] then "isc" else String.ofList kept

/-- The class of a general category, or of one of three groups of characters. -/
def categoryClass? (key : String) : Option CharClass :=
  match key with
  | "any" => some .anything
  | "assigned" => some (.complement (.listed categoryCn))
  | "ascii" => some .ascii
  | _ => (category? key).map fun parts => CharClass.unionAll (parts.map .listed)

def scriptClass? (key : String) : Option CharClass :=
  (script? key).map .listed

/-- The class that a name alone stands for: a property, a category or a script.  Three short names
are those of categories. -/
def namedClass? (name : List Char) : Option CharClass :=
  let key := propertyKey name
  let properties :=
    if key = "cf" ∨ key = "sc" ∨ key = "lc" then none else (property? key).map CharClass.listed
  properties.or ((categoryClass? key).or (scriptClass? key))

/-- The class of the characters for which a property has a value. -/
def valueClass? (name value : List Char) : Option CharClass :=
  let key := propertyKey value
  match propertyKey name with
  | "gc" | "generalcategory" => categoryClass? key
  | "sc" | "script" | "scx" | "scriptextensions" => scriptClass? key
  | _ => none

/-- The class that stands between braces: whether it is negated there, and itself. -/
def bracedClass? (content : List Char) : Option (Bool × CharClass) :=
  match indexOf? ['!', '='] content, content.findIdx? (· == ':'), content.findIdx? (· == '=') with
  | some index, _, _ =>
    (valueClass? (content.take index) (content.drop (index + 2))).map (true, ·)
  | none, some index, _ =>
    (valueClass? (content.take index) (content.drop (index + 1))).map (false, ·)
  | none, none, some index =>
    (valueClass? (content.take index) (content.drop (index + 1))).map (false, ·)
  | none, none, none => (namedClass? content).map (false, ·)

def bracedName? (flags : Flags) : Nat → List Char → Option (List Char × List Char)
  | 0, _ => none
  | fuel + 1, chars =>
    match flags.skip chars with
    | [] => none
    | '\x7d' :: rest => some ([], rest)
    | c :: rest => (bracedName? flags fuel rest).map fun (name, rest) => (c :: name, rest)

/-- The class of a property behind `p`, or behind `P` the others. -/
def propertyEscape? (flags : Flags) (negated : Bool) (chars : List Char) :
    Option (CharClass × List Char) := do
  if !flags.unicode then none
  let (inverted, set, rest) ← match flags.skip chars with
    | [] => none
    | '\x7b' :: rest => do
      let (content, rest) ← bracedName? flags (rest.length + 1) rest
      let (inverted, set) ← bracedClass? content
      some (inverted, set, rest)
    | c :: rest =>
      if c = '\\' then none else (namedClass? [c]).map fun set => (false, set, rest)
  some (.negateIf (negated != inverted) (flags.fold set), rest)

/-- A class of ASCII characters for expressions that do not know others. -/
def asciiClass (chars : List Char) : CharClass :=
  CharClass.unionAll (chars.map .single)

/-- The class of a letter such as `d`, and of its capital the others.  Without characters beyond
ASCII the others cannot be told. -/
def letterClass? (flags : Flags) (letter : Char) : Option CharClass :=
  let named : Option (CharClass × CharClass) := match letter.toLower with
    | 'd' => some (.digit, .range '0' '9')
    | 's' => some (.blank, asciiClass ['\t', '\n', '\x0b', '\x0c', '\r', ' '])
    | 'w' => some (.word, .unionAll [.range '0' '9', .range 'A' 'Z', .range 'a' 'z', .single '_'])
    | _ => none
  named.bind fun (unicode, ascii) =>
    if flags.unicode then some (.negateIf letter.isUpper unicode)
    else if letter.isUpper then none
    else some ascii

/-- The letters and dashes up to a closing brace. -/
def boundaryName? (flags : Flags) : Nat → List Char → Option (List Char × List Char)
  | 0, _ => none
  | fuel + 1, chars =>
    match flags.skip chars with
    | [] => none
    | '\x7d' :: rest => some ([], rest)
    | c :: rest =>
      if isAsciiLetter c ∨ c = '-' then
        (boundaryName? flags fuel rest).map fun (name, rest) => (c :: name, rest)
      else none

/-- A boundary of words, or with a name in braces one side of it.  Braces around anything else than
letters and dashes are a repetition. -/
def boundary? (flags : Flags) (chars : List Char) : Option (Assertion × List Char) :=
  match chars with
  | '\x7b' :: rest =>
    match flags.skip rest with
    | [] => none
    | c :: more =>
      if isAsciiLetter c ∨ c = '-' then
        (boundaryName? flags (rest.length + 1) (c :: more)).bind fun (name, after) =>
          match String.ofList name with
          | "start" => some (.wordStart flags.unicode, after)
          | "end" => some (.wordEnd flags.unicode, after)
          | "start-half" => some (.wordStartHalf flags.unicode, after)
          | "end-half" => some (.wordEndHalf flags.unicode, after)
          | _ => none
      else some (.wordBoundary flags.unicode, chars)
  | _ => some (.wordBoundary flags.unicode, chars)

/-- Any ASCII character but letters, digits, `<` and `>` stands for itself behind a backslash. -/
def isEscapable (c : Char) : Bool :=
  c.toNat < 0x80 && !isAsciiAlphanumeric c && c != '<' && c != '>'

/-- What the escape stands for whose backslash has been read. -/
def escape? (flags : Flags) (chars : List Char) : Option (Escape × List Char) :=
  match chars with
  | [] => none
  | c :: rest =>
    let char := fun (value : Char) => some (Escape.char value, rest)
    let assert := fun condition => some (Escape.assert condition, rest)
    if isEscapable c then char c
    else match c with
      | 'x' => (byteEscape? flags rest).map fun (c, rest) => (.char c, flags.skip rest)
      | 'u' => (hexEscape? flags 4 rest).map fun (c, rest) => (.char c, flags.skip rest)
      | 'U' => (hexEscape? flags 8 rest).map fun (c, rest) => (.char c, flags.skip rest)
      | 'p' => (propertyEscape? flags false rest).map fun (set, rest) => (.set set, rest)
      | 'P' => (propertyEscape? flags true rest).map fun (set, rest) => (.set set, rest)
      | 'a' => char '\x07'
      | 'f' => char '\x0c'
      | 't' => char '\t'
      | 'n' => char '\n'
      | 'r' => char '\r'
      | 'v' => char '\x0b'
      | 'A' => assert .textStart
      | 'z' => assert .textEnd
      | 'B' => assert (.notWordBoundary flags.unicode)
      | '<' => assert (.wordStart flags.unicode)
      | '>' => assert (.wordEnd flags.unicode)
      | 'b' => (boundary? flags rest).map fun (condition, rest) => (.assert condition, rest)
      | _ => (letterClass? flags c).map fun set => (.set set, rest)

end DocContract.Regex
