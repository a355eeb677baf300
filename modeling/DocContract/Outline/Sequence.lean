import DocContract.Issue
import DocContract.Outline.Heading

/-!
The order of heading numbers.  Numbered headings of one level that follow each other with the same
components in front count up by one.
-/

namespace DocContract.Outline

open DocContract.Text

/-- The latest number of a level that headings may go on from. -/
structure Run where
  level : UInt8
  leading : List UInt32
  last : UInt32
  line : Nat
  deriving DecidableEq, Repr

/-- A heading whose number does not follow that of the run. -/
structure Gap where
  heading : Heading
  run : Run
  deriving DecidableEq, Repr

/-- The component after the last one of the run; the largest has none. -/
def Run.successor? (run : Run) : Option UInt32 :=
  if run.last.toNat + 1 < UInt32.size then some (run.last + 1) else none

/-- Whether a heading with that last component does not follow the run. -/
def Run.isBrokenBy (run : Run) (last : UInt32) : Bool :=
  run.successor?.any (· != last)

/-- The runs that go on behind the heading: a heading ends all deeper runs, and begins one of its
own level unless it has no number. -/
def runsAfter (runs : List Run) (heading : Heading) : List Run :=
  let others := runs.filter fun run => run.level < heading.level
  match heading.numberParts.getLast? with
  | none => others
  | some last => ⟨heading.level, heading.numberParts.dropLast, last, heading.line⟩ :: others

def gap? (runs : List Run) (heading : Heading) : Option Gap :=
  heading.numberParts.getLast?.bind fun last =>
    ((runs.find? fun run => run.level == heading.level).filter fun run =>
      run.leading == heading.numberParts.dropLast && run.isBrokenBy last).map (⟨heading, ·⟩)

/-- The gaps in the numbers of the headings, where the runs go on from in front of them. -/
def gapsFrom (runs : List Run) : List Heading → List Gap
  | [] => []
  | heading :: rest => (gap? runs heading).toList ++ gapsFrom (runsAfter runs heading) rest

def gaps (headings : List Heading) : List Gap :=
  gapsFrom [] headings

namespace Gap

def expected (gap : Gap) : String :=
  joinNumber (gap.run.leading ++ [gap.run.last + 1])

def previous (gap : Gap) : String :=
  joinNumber (gap.run.leading ++ [gap.run.last])

def toIssue (path : String) (gap : Gap) : Issue :=
  .ofEntries .error .headingNumberSequence path (some gap.heading.line)
    ("heading number " ++ gap.heading.number ++ " should be " ++ gap.expected ++ " (follows " ++
      gap.previous ++ ")")
    [("expected", .string gap.expected), ("found", .string gap.heading.number),
      ("previous", .string gap.previous), ("previous_line", .nat gap.run.line)]

end Gap

def sequenceIssues (path : String) (headings : List Heading) : List Issue :=
  (gaps headings).map (·.toIssue path)

end DocContract.Outline
