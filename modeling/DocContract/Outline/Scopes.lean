import DocContract.Outline.Heading

namespace DocContract.Outline

/-- A section that a heading opens.  `active` are the ids of the slots that the heading and those it
stands under are in, the outermost first. -/
structure Scope where
  line : Nat
  level : UInt8
  active : List String
  deriving DecidableEq, Repr, Inhabited

/-- The sections of a document in the order of their lines. -/
abbrev Scopes := List Scope

namespace Scopes

/-- The sections that headings open, each given with the id of its slot.  `around` are those that
are open, the innermost first. -/
def buildFrom (around : List (UInt8 × Option String)) : List (Heading × Option String) → Scopes
  | [] => []
  | (heading, id) :: rest =>
    let inside := (heading.level, id) :: around.dropWhile fun entry => heading.level ≤ entry.1
    ⟨heading.line, heading.level, (inside.filterMap Prod.snd).reverse⟩ :: buildFrom inside rest

def build (entries : List (Heading × Option String)) : Scopes :=
  buildFrom [] entries

/-- Looks for the last of the sections that starts no later than the line, among as many as `size`
from `start` on.  The lines increase, so half of them are left at each step. -/
def searchFrom (scopes : Scopes) (line start size : Nat) : Nat :=
  if size ≤ 1 then start
  else
    let half := size / 2
    let middle := start + half
    let next := if (scopes[middle]?.any fun scope => scope.line ≤ line) then middle else start
    searchFrom scopes line next (size - half)
termination_by size

/-- The position of the section that the line is in. -/
def sectionAt? (scopes : Scopes) (line : Nat) : Option Nat :=
  let index := searchFrom scopes line 0 scopes.length
  if (scopes[index]?.any fun scope => scope.line ≤ line) then some index else none

/-- The ids of the slots that the line stands under, the outermost first. -/
def activeAt (scopes : Scopes) (line : Nat) : List String :=
  (((sectionAt? scopes line).bind fun index => scopes[index]?).map (·.active)).getD []

/-- Whether the inner section is the outer one or lies in it. -/
def contains (scopes : Scopes) (outer inner : Nat) : Bool :=
  match scopes[outer]? with
  | none => false
  | some opener =>
    outer ≤ inner && inner < scopes.length &&
      ((scopes.drop (outer + 1)).take (inner - outer)).all fun scope => opener.level < scope.level

end Scopes

end DocContract.Outline
