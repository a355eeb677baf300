import DocContract.Text.Blank

/-!
Fenced code in documents.  Lines inside a fence hold neither headings nor identifiers.
-/

namespace DocContract.Outline

open DocContract.Text

structure FenceLine where
  mark : Char
  width : Nat
  /-- What stands behind the run of marks. -/
  info : List Char
  deriving DecidableEq

/-- Reads three or more backticks or tildes behind at most three spaces. -/
def fenceLine? (line : List Char) : Option FenceLine :=
  match line.dropWhile (· == ' ') with
  | [] => none
  | mark :: rest =>
    let run := (mark :: rest).takeWhile (· == mark)
    if (line.takeWhile (· == ' ')).length ≤ 3 ∧ (mark = '`' ∨ mark = '~') ∧ 3 ≤ run.length then
      some ⟨mark, run.length, (mark :: rest).dropWhile (· == mark)⟩
    else none

/-- The open fence: its mark and how many marks opened it. -/
structure OpenFence where
  mark : Char
  width : Nat
  deriving DecidableEq

/-- A line closes the fence with at least as many of its marks and nothing else. -/
def OpenFence.isClosedBy (fence : OpenFence) (line : FenceLine) : Bool :=
  line.mark == fence.mark && fence.width ≤ line.width && line.info.all isBlank

/-- A line opens a fence unless backticks come again after its run of backticks. -/
def FenceLine.opens (line : FenceLine) : Bool :=
  !(line.mark == '`' && line.info.contains '`')

/-- The fence that is open after the line, given the one open before it. -/
def fenceAfter (fence : Option OpenFence) (line : List Char) : Option OpenFence :=
  match fence, fenceLine? line with
  | some fence, some mark => if fence.isClosedBy mark then none else some fence
  | some fence, none => some fence
  | none, some mark => if mark.opens then some ⟨mark.mark, mark.width⟩ else none
  | none, none => none

/-- The numbered lines outside fences, where `fence` is open before the first. -/
def outsideFences (fence : Option OpenFence) (number : Nat) :
    List (List Char) → List (Nat × List Char)
  | [] => []
  | line :: rest =>
    let after := fenceAfter fence line
    if fence.isNone && after.isNone then
      (number, line) :: outsideFences after (number + 1) rest
    else outsideFences after (number + 1) rest

end DocContract.Outline
