import DocContract.Regex.Basic

namespace DocContract.Regex

open DocContract.Text

structure Flags where
  ignoreCase : Bool
  multiLine : Bool
  dotAll : Bool
  returns : Bool
  unicode : Bool
  extended : Bool
  deriving DecidableEq, Repr

namespace Flags

/-- The flags at the start of the pattern of a title: case does not count. -/
def initial : Flags :=
  ⟨true, false, false, false, true, false⟩

/-- Sets or clears the flag of that letter.  `U` is known but changes no search. -/
def set? (flags : Flags) (value : Bool) (letter : Char) : Option Flags :=
  match letter with
  | 'i' => some { flags with ignoreCase := value }
  | 'm' => some { flags with multiLine := value }
  | 's' => some { flags with dotAll := value }
  | 'R' => some { flags with returns := value }
  | 'u' => some { flags with unicode := value }
  | 'x' => some { flags with extended := value }
  | 'U' => some flags
  | _ => none

/-- Reads flags up to `:` or `)`: the flags then in force, whether there was any, and the rest with
that mark.  No letter and no dash may come twice, and a dash must not come last. -/
def read? (flags : Flags) (seen : List Char) : List Char → Option (Flags × Bool × List Char)
  | [] => none
  | c :: rest =>
    if c = ':' ∨ c = ')' then
      if seen.head? = some '-' then none else some (flags, !seen.isEmpty, c :: rest)
    else if seen.contains c then none
    else if c = '-' then read? flags (c :: seen) rest
    else (flags.set? (!seen.contains '-') c).bind fun flags => read? flags (c :: seen) rest

/-- The class with all characters that differ by case alone, where case does not count. -/
def fold (flags : Flags) (set : CharClass) : CharClass :=
  if !flags.ignoreCase then set
  else if flags.unicode then .caseless set
  else set.asciiCaseless

end Flags

/-- What follows blanks and comments, which count as nothing where the flag says so.  `comment` says
that a comment is being skipped. -/
def dropGaps (comment : Bool) : List Char → List Char
  | [] => []
  | c :: rest =>
    if comment then dropGaps (c != '\n') rest
    else if isBlank c then dropGaps false rest
    else if c = '#' then dropGaps true rest
    else c :: rest

def Flags.skip (flags : Flags) (chars : List Char) : List Char :=
  if flags.extended then dropGaps false chars else chars

end DocContract.Regex
