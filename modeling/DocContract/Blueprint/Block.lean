import DocContract.Blueprint.Decoding
import DocContract.TitlePattern.Metacharacter
import DocContract.Toml.Document

/-!
The blocks of a blueprint.  A block is opened by a line with a tag and closed by the first later
line with the matching closing tag; between them, fenced code holds a table and a body.
-/

namespace DocContract.Blueprint

open DocContract.Text

def isTagChar (c : Char) : Bool :=
  isAsciiAlphanumeric c || c == '_' || c == '-'

/-- The tag that the line opens a block with: a letter and more tag characters, behind `@cpt:` and
between backticks. -/
def openingTag? (line : List Char) : Option (List Char) :=
  match afterOpening? "`@cpt:".toList (trimChars line) with
  | some (c :: rest) =>
    if isAsciiLetter c ∧ rest.dropWhile isTagChar = ['`'] then some (c :: rest.takeWhile isTagChar)
    else none
  | _ => none

/-- Whether the line closes a block with this tag. -/
def closes (tag : List Char) (line : List Char) : Bool :=
  trimChars line == "`@/cpt:".toList ++ tag ++ ['`']

/-- A block that was opened on the line of that number: closed, with the lines inside it, or not. -/
inductive Block where
  | closed (tag : List Char) (start : Nat) (body : List (List Char))
  | unclosed (tag : List Char) (start : Nat)
  deriving DecidableEq, Repr

/-- The blocks of the lines, the first of which has the given number.  After a block that is not
closed the next line may open another. -/
def blocks (number : Nat) : List (List Char) → List Block
  | [] => []
  | line :: rest =>
    match openingTag? line with
    | none => blocks (number + 1) rest
    | some tag =>
      match rest.findIdx? (closes tag) with
      | none => .unclosed tag number :: blocks (number + 1) rest
      | some index =>
        .closed tag number (rest.take index) :: blocks (number + index + 2) (rest.drop (index + 1))
termination_by lines => lines.length
decreasing_by all_goals simp only [List.length_cons, List.length_drop]; omega

/-- How many backticks open fenced code on the line, and the word behind them in lower case.  No
more backticks may follow. -/
def fenceOpening? (line : List Char) : Option (Nat × List Char) :=
  let marks := line.dropWhile isBlank
  let width := (marks.takeWhile (· == '`')).length
  let info := marks.dropWhile (· == '`')
  if 3 ≤ width ∧ '`' ∉ info then
    some (width, ((info.dropWhile isBlank).takeWhile fun c => !isBlank c).map Char.toLower)
  else none

/-- Whether the line closes fenced code that so many backticks opened. -/
def closesFence (width : Nat) (line : List Char) : Bool :=
  let marks := trimChars line
  3 ≤ marks.length && width ≤ marks.length && marks.all (· == '`')

/-- Fenced code with the word that opens it and the number of its first line. -/
structure Fence where
  info : List Char
  start : Nat
  lines : List (List Char)
  deriving DecidableEq, Repr

/-- The fenced code of the lines, the first of which has the given number.  Where a fence is not
closed the answer is its line. -/
def fences (number : Nat) : List (List Char) → Except Nat (List Fence)
  | [] => .ok []
  | line :: rest =>
    match fenceOpening? line with
    | none => fences (number + 1) rest
    | some (width, info) =>
      match rest.findIdx? (closesFence width) with
      | none => .error number
      | some index =>
        (fences (number + index + 2) (rest.drop (index + 1))).map
          (⟨info, number + 1, rest.take index⟩ :: ·)
termination_by lines => lines.length
decreasing_by all_goals simp only [List.length_cons, List.length_drop]; omega

def Fence.text (fence : Fence) : String :=
  joinLines (fence.lines.map String.ofList)

/-- The first fenced code that is opened with one of the words. -/
def fenceOf? (words : List String) (found : List Fence) : Option Fence :=
  found.find? fun fence => words.contains (String.ofList fence.info)

/-- What is wrong with a block. -/
inductive Flaw where
  | unclosedMarker (tag : String)
  | unknownMarker (tag : String)
  | unclosedFence (kind : MarkerKind)
  | invalidToml (kind : MarkerKind)
  | invalidPayload (kind : MarkerKind) (fault : DecodeFault)

/-- A flaw and the line that it is reported for. -/
structure Problem where
  line : Nat
  flaw : Flaw

namespace Problem

def tag (problem : Problem) : String :=
  match problem.flaw with
  | .unclosedMarker tag => tag
  | .unknownMarker tag => tag
  | .unclosedFence kind => kind.tag
  | .invalidToml kind => kind.tag
  | .invalidPayload kind _ => kind.tag

/-- The tag as blueprints write it. -/
def marker (problem : Problem) : String :=
  "`@cpt:" ++ problem.tag ++ "`"

/-- The message of the problem.  What is wrong with a table that is no TOML is not told. -/
def message (problem : Problem) : String :=
  "line " ++ natText problem.line ++ ": " ++
    match problem.flaw with
    | .unclosedMarker _ => "unclosed marker " ++ problem.marker
    | .unknownMarker _ => "unknown marker type " ++ problem.marker
    | .unclosedFence _ => "unclosed code fence in " ++ problem.marker
    | .invalidToml _ => "invalid toml in " ++ problem.marker
    | .invalidPayload _ fault => "invalid " ++ problem.marker ++ " payload: " ++ fault.message

end Problem

/-- A block that declares something.  `table` is the raw table, and the lines are those of the
opening and closing tags. -/
structure Marker where
  payload : Payload
  table : Toml.Entries
  markdown : Option String
  lineStart : Nat
  lineEnd : Nat

def Marker.kind (marker : Marker) : MarkerKind :=
  marker.payload.kind

/-- Reads the table and the body of a block of the kind. -/
def marker (kind : MarkerKind) (start : Nat) (body : List (List Char)) : Except Problem Marker := do
  let found ← (fences (start + 1) body).mapError fun line => ⟨line, .unclosedFence kind⟩
  let table ← match fenceOf? ["toml"] found with
    | none => pure []
    | some fence =>
      match Toml.parse? fence.text with
      | some table => pure table
      | none => throw ⟨fence.start, .invalidToml kind⟩
  let payload ← (Payload.decode kind table).mapError fun fault =>
    ⟨start, .invalidPayload kind fault⟩
  return {
    payload, table
    markdown := (fenceOf? ["markdown", "md"] found).map Fence.text
    lineStart := start
    lineEnd := start + body.length + 1 }

/-- The marker of a block, or what is wrong with the block. -/
def Block.read : Block → Except Problem Marker
  | .unclosed tag start => throw ⟨start, .unclosedMarker (String.ofList tag)⟩
  | .closed tag start body =>
    match MarkerKind.ofTag? (String.ofList tag) with
    | none => throw ⟨start, .unknownMarker (String.ofList tag)⟩
    | some kind => marker kind start body

/-- The title that a heading has in the generated skeleton: the declared one, or else its literal
pattern, its description or its id. -/
def HeadingDeclaration.templateTitle (declaration : HeadingDeclaration) : Option String :=
  declaration.template
    |>.or (declaration.pattern.filter fun pattern => !TitlePattern.isRegexPattern pattern)
    |>.or declaration.description
    |>.or declaration.id

end DocContract.Blueprint
