import DocContract.Text.Blank
import DocContract.Text.CaseMap
import DocContract.Text.Category
import DocContract.Text.Digit
import DocContract.Text.Letter

namespace DocContract.Regex

open DocContract.Text

/-- The characters of words: letters, marks, digits, connecting punctuation and joiners. -/
def isWordChar (c : Char) : Bool :=
  if c.toNat < 0x80 then isAsciiAlphanumeric c || c == '_'
  else alphabetic.contains c.toNat || isDecimalDigit c || c == '\u200c' || c == '\u200d' ||
    [categoryMn, categoryMc, categoryMe, categoryPc].any (·.contains c.toNat)

/-- The characters of words among ASCII. -/
def isAsciiWordChar (c : Char) : Bool :=
  isAsciiAlphanumeric c || c == '_'

/-- A class of characters.  `listed` holds those in some ranges of code points, and `caseless` those
that differ by case alone from one in a class. -/
inductive CharClass where
  | nothing
  | range (first last : Char)
  | listed (ranges : Ranges)
  | digit
  | blank
  | word
  | union (left right : CharClass)
  | inter (left right : CharClass)
  | complement (inner : CharClass)
  | caseless (inner : CharClass)
  deriving DecidableEq, Repr, Inhabited

namespace CharClass

def has : CharClass → Char → Bool
  | .nothing, _ => false
  | .range first last, c => first ≤ c && c ≤ last
  | .listed ranges, c => ranges.contains c.toNat
  | .digit, c => isDecimalDigit c
  | .blank, c => isBlank c
  | .word, c => isWordChar c
  | .union left right, c => left.has c || right.has c
  | .inter left right, c => left.has c && right.has c
  | .complement inner, c => !inner.has c
  | .caseless inner, c => (c :: caseOrbit c).any inner.has

def single (c : Char) : CharClass := .range c c

def anything : CharClass := .complement .nothing

def diff (left right : CharClass) : CharClass :=
  .inter left (.complement right)

/-- The characters of exactly one of two classes. -/
def symmetricDiff (left right : CharClass) : CharClass :=
  .union (diff left right) (diff right left)

def unionAll (classes : List CharClass) : CharClass :=
  classes.foldl .union .nothing

def negateIf (negated : Bool) (inner : CharClass) : CharClass :=
  if negated then .complement inner else inner

def ascii : CharClass := .range '\x00' '\x7f'

/-- The class with the ASCII letters that differ by case alone from an ASCII letter in it. -/
def asciiCaseless (inner : CharClass) : CharClass :=
  .union inner (.inter (.caseless (.inter inner ascii)) ascii)

def isAscii : CharClass → Bool
  | .nothing => true
  | .range _ last => last.toNat < 0x80
  | .listed ranges => ranges.all fun (_, high) => high < 0x80
  | .digit => false
  | .blank => false
  | .word => false
  | .union left right => left.isAscii && right.isAscii
  | .inter left right => left.isAscii || right.isAscii
  | .complement _ => false
  | .caseless inner => inner.isAscii

/-- About how much room a program that tests for the class takes. -/
def size : CharClass → Nat
  | .nothing => 32
  | .range _ last => if last.toNat < 0x80 then 48 else 160
  | .listed ranges => 64 + 30 * ranges.length
  | .digit => 2500
  | .blank => 600
  | .word => 22000
  | .union left right => left.size + right.size
  | .inter left right => left.size + right.size
  | .complement inner => 500 + inner.size
  | .caseless inner => inner.size

end CharClass

end DocContract.Regex
