import DocContract.Json.Record
import DocContract.Outline.Fence
import DocContract.Text.Line
import DocContract.Text.Numbering

namespace DocContract.Outline

open DocContract.Text

/-- A heading: its line counted from one, its level, its title and the components of its number. -/
structure Heading where
  line : Nat
  level : UInt8
  title : String
  numbered : Bool
  numberParts : List UInt32
  deriving DecidableEq, Repr, Inhabited

def joinNumber (parts : List UInt32) : String :=
  ".".intercalate (parts.map fun part => natText part.toNat)

/-- The number of the heading as its title shows it. -/
def Heading.number (heading : Heading) : String :=
  joinNumber heading.numberParts

def Heading.toJson (heading : Heading) : Json :=
  .object
    [("level", .nat heading.level.toNat), ("line", .nat heading.line),
      ("number_parts", .array (heading.numberParts.map fun part => .nat part.toNat)),
      ("numbered", .bool heading.numbered), ("title", .string heading.title)]

def Heading.ofJson? (value : Json) : Option Heading := do
  let [line, level, title, numbered, numberParts] ←
    Json.fields? ["line", "level", "title", "numbered", "number_parts"] value | none
  some
    { line := ← line.bind (Json.below? UInt64.size)
      level := ← level.bind Json.byte?
      title := ← title.bind Json.text?
      numbered := ← numbered.bind Json.bool?
      numberParts := ← numberParts.bind (Json.list? Json.word?) }

/-- A heading's text without blanks at its end and without a closing run of `#` behind a blank. -/
def dropClosing (text : List Char) : List Char :=
  let body := dropEndWhile isSpaceOrTab text
  let opened := dropEndWhile (· == '#') body
  if opened.length < body.length ∧ (opened.getLast?.any isSpaceOrTab) then
    dropEndWhile isSpaceOrTab opened
  else body

/-- The level and title of a line that is a heading: one to six `#` behind at most three spaces,
then a space or a tab. -/
def headingLine? (line : List Char) : Option (Nat × List Char) :=
  let marks := line.dropWhile (· == ' ')
  let level := (marks.takeWhile (· == '#')).length
  match marks.dropWhile (· == '#') with
  | [] => none
  | c :: rest =>
    if (line.takeWhile (· == ' ')).length ≤ 3 ∧ 1 ≤ level ∧ level ≤ 6 ∧ isSpaceOrTab c then
      some (level, trimChars (dropClosing (rest.dropWhile isSpaceOrTab)))
    else none

/-- The heading that stands on the line of that number; one without a title is none. -/
def heading? (number : Nat) (line : List Char) : Option Heading :=
  (headingLine? line).bind fun (level, title) =>
    if title.isEmpty then none
    else
      let parts := (headingNumber title).filterMap word?
      some ⟨number, UInt8.ofNat level, String.ofList title, !parts.isEmpty, parts⟩

def headingsOfLines (fence : Option OpenFence) (number : Nat) (lines : List (List Char)) :
    List Heading :=
  (outsideFences fence number lines).filterMap fun (number, line) => heading? number line

/-- The headings of the text outside fenced code. -/
def scanHeadings (text : String) : List Heading :=
  headingsOfLines none 1 (splitLines text.toList)

end DocContract.Outline
