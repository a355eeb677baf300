import DocContract.Text.Line

namespace DocContract.Pathname

open DocContract.Text

/-- A step of a path.  A leading dot is a step of its own; elsewhere a dot is none. -/
inductive Step where
  | root
  | current
  | parent
  | name (text : String)
  deriving DecidableEq, Repr, Inhabited

/-- The step that a part between slashes stands for, behind the first. -/
def stepOf? (part : List Char) : Option Step :=
  if part = [] ∨ part = ['.'] then none
  else if part = ['.', '.'] then some .parent
  else some (.name (String.ofList part))

/-- The steps of the path.  Repeated slashes and dots inside it do not count. -/
def steps (path : String) : List Step :=
  match splitAt '/' path.toList with
  | [] => []
  | first :: rest =>
    let start := if first = [] ∧ rest ≠ [] then [.root]
      else if first = ['.'] then [.current]
      else (stepOf? first).toList
    start ++ rest.filterMap stepOf?

def Step.rank : Step → Nat
  | .root => 0
  | .current => 1
  | .parent => 2
  | .name _ => 3

/-- Names come last, in the order of their characters. -/
def Step.before (left right : Step) : Bool :=
  match left, right with
  | .name left, .name right => left < right
  | _, _ => left.rank < right.rank

/-- Whether the first steps come before the others or are the same: the first difference decides,
and a beginning comes before the whole. -/
def stepsLe : List Step → List Step → Bool
  | [], _ => true
  | _ :: _, [] => false
  | left :: lefts, right :: rights =>
    if left.before right then true
    else if right.before left then false
    else stepsLe lefts rights

/-- The order of paths, by their steps. -/
def le (left right : String) : Bool :=
  stepsLe (steps left) (steps right)

/-- The name without its last extension.  A dot at the start begins no extension. -/
def stem (name : List Char) : List Char :=
  match (splitAt '.' name).dropLast with
  | [] => name
  | [[]] => name
  | parts => joinWith '.' parts

/-- The name of the file that the path leads to, without its last extension. -/
def fileStem? (path : String) : Option String :=
  match (steps path).getLast? with
  | some (.name text) => some (String.ofList (stem text.toList))
  | _ => none

/-- The reversed path without slashes at its end and without the parts there that are a single dot.
A first slash or dot stays. -/
def trimEnd : List Char → List Char
  | '/' :: c :: rest => trimEnd (c :: rest)
  | '.' :: '/' :: rest => trimEnd ('/' :: rest)
  | reversed => reversed

/-- The path that leads to the directory of the file; none if the path has no last step but the
root. -/
def parent? (path : String) : Option String :=
  let reversed := trimEnd path.toList.reverse
  if reversed = [] ∨ reversed = ['/'] then none
  else some (String.ofList (trimEnd (reversed.dropWhile (· != '/'))).reverse)

theorem length_trimEnd_le (reversed : List Char) : (trimEnd reversed).length ≤ reversed.length := by
  fun_induction trimEnd reversed with
  | case1 c rest ih => simp only [List.length_cons] at *; omega
  | case2 rest ih => simp only [List.length_cons] at *; omega
  | case3 => exact Nat.le_refl _

theorem eq_nil_of_trimEnd {reversed rest : List Char} (slash : trimEnd reversed = '/' :: rest) :
    rest = [] := by
  fun_induction trimEnd reversed with
  | case1 c more ih => exact ih slash
  | case2 more ih => exact ih slash
  | case3 chars noSlash _ =>
    cases rest with
    | nil => rfl
    | cons c more => exact (noSlash c more slash).elim

theorem length_lt_of_parent? {path around : String} (found : parent? path = some around) :
    around.length < path.length := by
  have shorter := length_trimEnd_le path.toList.reverse
  simp only [parent?] at found
  generalize trimmed : trimEnd path.toList.reverse = reversed at found shorter
  split at found
  · cases found
  · next proper =>
    cases reversed with
    | nil => simp at proper
    | cons c rest =>
      have inner : c ≠ '/' := by
        rintro rfl
        simp [eq_nil_of_trimEnd trimmed] at proper
      have around := Option.some.inj found
      subst around
      have trimmedLength := length_trimEnd_le (rest.dropWhile (· != '/'))
      have dropped := (List.dropWhile_sublist (· != '/') (l := rest)).length_le
      simp only [List.length_reverse, List.length_cons, String.length_toList] at shorter
      simp only [List.dropWhile_cons, bne_iff_ne, ne_eq, inner, not_false_eq_true, if_true,
        String.length_ofList, List.length_reverse]
      omega

/-- The path and those of all folders around it, from the inside.  The empty path is none of them.
-/
def upwards (path : String) : List String :=
  if path = "" then []
  else
    path :: match _found : parent? path with
      | some around => upwards around
      | none => []
termination_by path.length
decreasing_by exact length_lt_of_parent? ‹_›

/-- The path that leads from the base to where the other path leads from there.  One that starts at
the root does not need the base. -/
def join (base path : String) : String :=
  if path.toList.head? = some '/' then path
  else
    match base.toList.getLast? with
    | none => path
    | some '/' => base ++ path
    | some _ => base ++ "/" ++ path

end DocContract.Pathname
