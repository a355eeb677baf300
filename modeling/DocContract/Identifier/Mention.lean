import DocContract.Json.Value
import DocContract.Outline.Fence
import DocContract.Text.Line
import DocContract.Text.Numbering

/-!
Identifiers as they are written in a document.  A line can define one identifier, behind `**ID**`,
and refer to any number of others.
-/

namespace DocContract.Identifier

open DocContract.Text DocContract.Outline

/-- Whether an identifier is defined or referred to where it stands. -/
inductive Role where
  | definition
  | reference
  deriving DecidableEq, Repr, Inhabited

/-- An identifier on a line.  `hasTask` tells whether the line has a check box, `checked` whether
that is ticked, and `priority` is the one written on the line. -/
structure Mention where
  id : String
  role : Role
  line : Nat
  checked : Bool
  hasTask : Bool
  priority : Option UInt32
  deriving DecidableEq, Repr, Inhabited

def Role.name : Role → String
  | .definition => "definition"
  | .reference => "reference"

def Mention.toJson (mention : Mention) : Json :=
  .object
    [("checked", .bool mention.checked), ("has_task", .bool mention.hasTask),
      ("id", .string mention.id), ("line", .nat mention.line),
      ("priority", .ofOption (fun priority => .nat priority.toNat) mention.priority),
      ("type", .string mention.role.name)]

/-- What all identifiers start with. -/
def opening : List Char := ['c', 'p', 't', '-']

def isSlugChar (c : Char) : Bool :=
  ('a' ≤ c && c ≤ 'z') || isAsciiDigit c

/-- The characters that may not stand directly in front of an identifier. -/
def isWordChar (c : Char) : Bool :=
  isAsciiAlphanumeric c || c == '_' || c == '-'

/-- The longest identifier at the start: the opening and two or more words joined by dashes. -/
def idAt? (chars : List Char) : Option (List Char) :=
  (afterOpening? opening chars).bind fun rest =>
    (separated? isSlugChar '-' rest).bind fun (words, _) =>
      if 2 ≤ words.length then some (opening ++ joinWith '-' words) else none

/-- The identifiers of a line with their offsets, where `before` is the character in front. -/
def idsFrom (offset : Nat) (before : Option Char) : List Char → List (Nat × List Char)
  | [] => []
  | c :: rest =>
    let more := idsFrom (offset + 1) (some c) rest
    if before.any isWordChar then more
    else match idAt? (c :: rest) with
      | some id => (offset, id) :: more
      | none => more

/-- Marks the first identifier behind the offset as defined and all others as referred to. -/
def withRoles (definedAfter : Option Nat) :
    List (Nat × List Char) → List (Role × List Char)
  | [] => []
  | (offset, id) :: rest =>
    if definedAfter.any (· < offset) then (.definition, id) :: withRoles none rest
    else (.reference, id) :: withRoles definedAfter rest

/-- What follows a bullet or the number of a list item. -/
def afterBullet? (chars : List Char) : Option (List Char) :=
  match chars with
  | [] => none
  | c :: rest =>
    if c = '-' ∨ c = '*' ∨ c = '+' then some rest
    else if isDecimalDigit c then
      match rest.dropWhile isDecimalDigit with
      | '.' :: after => some after
      | ')' :: after => some after
      | _ => none
    else none

/-- Whether the check box of a list item is ticked, if the line has one. -/
def checkBox? (line : List Char) : Option Bool :=
  match afterBullet? (line.dropWhile isBlank) with
  | some (c :: rest) =>
    if isBlank c then
      match rest.dropWhile isBlank with
      | '[' :: mark :: ']' :: _ =>
        if mark = ' ' then some false
        else if mark = 'x' ∨ mark = 'X' then some true
        else none
      | _ => none
    else none
  | _ => none

/-- The digits of a priority at the start, such as those of `p1` between backticks. -/
def priorityAt? (chars : List Char) : Option (List Char) :=
  match chars with
  | '`' :: 'p' :: rest =>
    let digits := rest.takeWhile isDecimalDigit
    if digits ≠ [] ∧ (rest.dropWhile isDecimalDigit).head? = some '`' then some digits else none
  | _ => none

/-- The digits of the first priority on a line. -/
def priorityDigits? : List Char → Option (List Char)
  | [] => none
  | c :: rest => (priorityAt? (c :: rest)).or (priorityDigits? rest)

/-- The words behind which a line defines an identifier. -/
def definitionMark : List Char := "**ID**".toList

/-- The identifiers on the line of that number, from left to right. -/
def mentionsOfLine (number : Nat) (line : List Char) : List Mention :=
  let box := checkBox? line
  (withRoles (indexOf? definitionMark line) (idsFrom 0 none line)).map fun (role, id) =>
    { id := String.ofList id, role, line := number,
      checked := box.getD false, hasTask := box.isSome,
      priority := (priorityDigits? line).bind word? }

/-- The identifiers on these lines, the first of which has the given number. -/
def mentionsOfLines (fence : Option OpenFence) (number : Nat) (lines : List (List Char)) :
    List Mention :=
  (outsideFences fence number lines).flatMap fun (number, line) => mentionsOfLine number line

/-- The identifiers of the text outside fenced code. -/
def scanIdentifiers (text : String) : List Mention :=
  mentionsOfLines none 1 (splitLines text.toList)

end DocContract.Identifier
