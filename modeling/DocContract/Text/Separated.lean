namespace DocContract.Text

/-- The longest sequence at the start of one or more non-empty runs of member characters with one
separator between neighbours: the runs, and what follows them. -/
def separated? (isMember : Char → Bool) (separator : Char) (chars : List Char) :
    Option (List (List Char) × List Char) :=
  let run := chars.takeWhile isMember
  if run.isEmpty then none
  else match _found : chars.dropWhile isMember with
    | c :: rest =>
      if c = separator then
        match separated? isMember separator rest with
        | some (runs, after) => some (run :: runs, after)
        | none => some ([run], c :: rest)
      else some ([run], c :: rest)
    | [] => some ([run], [])
termination_by chars.length
decreasing_by
  have shorter := (List.dropWhile_sublist (l := chars) isMember).length_le
  rw [_found] at shorter
  exact shorter

end DocContract.Text
