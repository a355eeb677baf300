import DocContract.Identifier.Occurrence
import DocContract.Issue

/-!
Whether tasks are done: the task of a section is done exactly when all tasks in the sections inside
it are.
-/

namespace DocContract.Identifier

open DocContract.Outline DocContract.Text

/-- Whether the second definition stands in a section inside that of the first. -/
def isInside (scopes : Scopes) (outer inner : Occurrence) : Bool :=
  match outer.scope, inner.scope with
  | some outer, some inner => inner != outer && scopes.contains outer inner
  | _, _ => false

/-- The tasks in the sections inside that of a definition. -/
def innerTasks (scopes : Scopes) (tasks : List Occurrence) (outer : Occurrence) :
    List Occurrence :=
  tasks.filter (isInside scopes outer)

/-- A task is open although all tasks inside its section are done. -/
def allDoneIssue (path : String) (task : Occurrence) (count : Nat) : Issue :=
  .ofEntries .error .parentUncheckedAllDone path (some task.line)
    ("`" ++ task.id ++ "` is unchecked but all " ++ natText count ++ " nested item(s) are done")
    [("id", .string task.id)]

/-- A task is done although tasks inside its section are open. -/
def openInsideIssue (path : String) (task : Occurrence) (unchecked : List String) : Issue :=
  .ofEntries .error .parentCheckedNestedUnchecked path (some task.line)
    ("`" ++ task.id ++ "` is checked but nested item(s) are not done: " ++
      ", ".intercalate unchecked)
    [("id", .string task.id), ("unchecked", .strings unchecked)]

/-- The issue of one task with those inside its section. -/
def completionIssue? (path : String) (scopes : Scopes) (tasks : List Occurrence)
    (task : Occurrence) : Option Issue :=
  let inner := innerTasks scopes tasks task
  let unchecked := (inner.filter fun task => !task.checked).map Occurrence.id
  if inner.isEmpty then none
  else if !task.checked && unchecked.isEmpty then some (allDoneIssue path task inner.length)
  else if task.checked && !unchecked.isEmpty then some (openInsideIssue path task unchecked)
  else none

def completionIssues (path : String) (scopes : Scopes) (definitions : List Occurrence) :
    List Issue :=
  let tasks := definitions.filter (·.hasTask)
  tasks.filterMap (completionIssue? path scopes tasks)

end DocContract.Identifier
