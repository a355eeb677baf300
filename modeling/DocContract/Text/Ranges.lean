namespace DocContract.Text

/-- Inclusive ranges of code points, in increasing order and apart from each other. -/
abbrev Ranges := List (Nat × Nat)

namespace Ranges

/-- Whether the code point lies in one of the ranges; the search ends at the first range above it.
-/
def contains : Ranges → Nat → Bool
  | [], _ => false
  | (low, high) :: rest, code => if code < low then false else code ≤ high || contains rest code

def hexValue? (c : Char) : Option Nat :=
  if '0' ≤ c ∧ c ≤ '9' then some (c.toNat - '0'.toNat)
  else if 'A' ≤ c ∧ c ≤ 'F' then some (c.toNat - 'A'.toNat + 10)
  else if 'a' ≤ c ∧ c ≤ 'f' then some (c.toNat - 'a'.toNat + 10)
  else none

/-- Reads ranges `41-5A` and single code points `AA` from hexadecimal text.  `low` is the bound
before a dash and `value` the number read so far. -/
def read (low value : Option Nat) : List Char → Ranges
  | [] => close low value []
  | c :: rest =>
    match hexValue? c with
    | some digit => read low (some (value.getD 0 * 16 + digit)) rest
    | none => if c = '-' then read value none rest else close low value (read none none rest)
where
  /-- Puts a range that has just ended in front of those after it. -/
  close (low value : Option Nat) (rest : Ranges) : Ranges :=
    match value with
    | some high => (low.getD high, high) :: rest
    | none => rest

/-- The ranges written in the text, with blanks or line ends between them. -/
def ofText (text : String) : Ranges :=
  read none none text.toList

end Ranges

end DocContract.Text
