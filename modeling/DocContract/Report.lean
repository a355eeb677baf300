import DocContract.Issue

namespace DocContract

inductive Status where
  | pass
  | fail
  deriving DecidableEq, Repr, Inhabited

def Status.name : Status → String
  | .pass => "PASS"
  | .fail => "FAIL"

/-- Issues in the order of their discovery, the errors apart from the warnings. -/
structure Report where
  errors : List Issue
  warnings : List Issue
  deriving Inhabited

namespace Report

def ofIssues (issues : List Issue) : Report where
  errors := issues.filter (·.isError)
  warnings := issues.filter fun issue => !issue.isError

/-- A report without errors passes. -/
def status (report : Report) : Status :=
  if report.errors.isEmpty then .pass else .fail

def passed (report : Report) : Bool :=
  report.status == .pass

/-- All issues as they are shown, errors first. -/
def issues (report : Report) : List Issue :=
  report.errors ++ report.warnings

def toJson (report : Report) : Json :=
  .object
    [("status", .string report.status.name),
      ("errors", .array (report.errors.map Issue.toJson)),
      ("warnings", .array (report.warnings.map Issue.toJson))]

end Report

end DocContract
