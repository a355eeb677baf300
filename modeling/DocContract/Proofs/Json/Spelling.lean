import DocContract.Proofs.Json.Scalar

namespace DocContract.Json

open DocContract.Text

variable {c : Char} {chars rest gap : List Char} {value : Json} {fuel : Nat}

/-- Blanks that may stand between two tokens. -/
def Blanks (chars : List Char) : Prop :=
  ∀ c ∈ chars, isBlank c

mutual

/-- The characters are a text of the value, in which every number is an integer of 64 bits. -/
inductive Spells : Json → List Char → Prop where
  | scalar {value : Json} (exact : ExactScalar value) : Spells value (scalarChars value)
  | emptyArray {gap : List Char} (blanks : Blanks gap) : Spells (.array []) ('[' :: (gap ++ [']']))
  | array {items : List Json} {chars : List Char} (each : SpellsItems items chars) :
      Spells (.array items) ('[' :: chars)
  | emptyObject {gap : List Char} (blanks : Blanks gap) :
      Spells (.object []) ('{' :: (gap ++ ['}']))
  | object {members : List (String × Json)} {chars : List Char}
      (each : SpellsMembers members chars) : Spells (.object members) ('{' :: chars)

inductive SpellsItems : List Json → List Char → Prop where
  | last {before chars behind : List Char} {item : Json} (blanksBefore : Blanks before)
      (spells : Spells item chars) (blanksBehind : Blanks behind) :
      SpellsItems [item] (before ++ (chars ++ (behind ++ [']'])))
  | comma {before chars behind following : List Char} {item : Json} {items : List Json}
      (blanksBefore : Blanks before) (spells : Spells item chars) (blanksBehind : Blanks behind)
      (more : SpellsItems items following) :
      SpellsItems (item :: items) (before ++ (chars ++ (behind ++ ',' :: following)))

inductive SpellsMembers : List (String × Json) → List Char → Prop where
  | last {before between chars behind : List Char} {key : String} {value : Json}
      (blanksBefore : Blanks before) (blanksBetween : Blanks between) (spells : Spells value chars)
      (blanksBehind : Blanks behind) :
      SpellsMembers [(key, value)]
        (before ++ (stringChars key ++ ':' :: (between ++ (chars ++ (behind ++ ['}'])))))
  | comma {before between chars behind following : List Char} {key : String} {value : Json}
      {members : List (String × Json)} (blanksBefore : Blanks before)
      (blanksBetween : Blanks between) (spells : Spells value chars) (blanksBehind : Blanks behind)
      (more : SpellsMembers members following) :
      SpellsMembers ((key, value) :: members)
        (before ++ (stringChars key ++
          ':' :: (between ++ (chars ++ (behind ++ ',' :: following)))))

end

theorem Blanks.nil : Blanks [] := nofun

theorem dropBlanks_cons (notBlank : isBlank c = false) : dropBlanks (c :: rest) = c :: rest :=
  List.dropWhile_cons_of_neg (by simp [notBlank])

theorem dropBlanks_append (blanks : Blanks gap) (chars : List Char) :
    dropBlanks (gap ++ chars) = dropBlanks chars :=
  List.dropWhile_append_of_pos blanks

theorem value?_append (blanks : Blanks gap) (chars : List Char) :
    value? fuel (gap ++ chars) = value? fuel chars := by
  cases fuel with
  | zero => rw [value?, value?]
  | succ fuel => rw [value?, value?, dropBlanks_append blanks]

theorem delimited_append (blanks : Blanks gap) (delimited : Delimited rest) :
    Delimited (gap ++ rest) := by
  cases gap with
  | nil => exact delimited
  | cons c more => exact .blank (blanks c List.mem_cons_self) _

theorem notBlank_of_digit (digit : isAsciiDigit c) : isBlank c = false := by
  rw [Bool.eq_false_iff]
  intro blank
  rcases isBlank_iff.mp blank with rfl | rfl | rfl | rfl <;> exact absurd digit (by decide)

theorem notBracket_of_digit (digit : isAsciiDigit c) : c ∉ ['[', ']', '{'] := by
  intro bracket
  simp only [List.mem_cons, List.not_mem_nil, or_false] at bracket
  rcases bracket with rfl | rfl | rfl <;> exact absurd digit (by decide)

theorem scalarChars_starts (exact : ExactScalar value) :
    ∃ first more, scalarChars value = first :: more ∧ isBlank first = false ∧
      first ∉ ['[', ']', '{'] := by
  cases exact with
  | null => exact ⟨_, _, rfl, by decide, by decide⟩
  | bool flag => cases flag <;> exact ⟨_, _, rfl, by decide, by decide⟩
  | string text => exact ⟨_, _, rfl, by decide, by decide⟩
  | @integer number fits =>
    cases number with
    | ofNat number =>
      obtain ⟨first, more, digits, digit⟩ := digitsOfNat_starts number
      have chars : scalarChars (.integer number) = first :: more := by
        simpa [scalarChars, intText, natText] using digits
      exact ⟨first, more, chars, notBlank_of_digit digit, notBracket_of_digit digit⟩
    | negSucc number =>
      have chars : scalarChars (.integer (.negSucc number)) = '-' :: digitsOfNat (number + 1) := by
        simp [scalarChars, intText]
      exact ⟨_, _, chars, by decide, by decide⟩

theorem Spells.starts (spells : Spells value chars) :
    ∃ first more, chars = first :: more ∧ isBlank first = false ∧ first ≠ ']' := by
  cases spells with
  | scalar exact =>
    obtain ⟨first, more, chars, notBlank, notBracket⟩ := scalarChars_starts exact
    refine ⟨first, more, chars, notBlank, ?_⟩
    rintro rfl
    exact notBracket (by decide)
  | _ => exact ⟨_, _, rfl, by decide, by decide⟩

theorem dropBlanks_value {before : List Char} (blanks : Blanks before)
    (spells : Spells value chars) (rest : List Char) :
    ∃ first following, dropBlanks (before ++ (chars ++ rest)) = first :: following ∧
      first ≠ ']' := by
  obtain ⟨first, more, rfl, notBlank, notClosing⟩ := spells.starts
  rw [dropBlanks_append blanks, List.cons_append, dropBlanks_cons notBlank]
  exact ⟨_, _, rfl, notClosing⟩

theorem SpellsItems.starts {items : List Json} (each : SpellsItems items chars)
    (rest : List Char) :
    ∃ first following, dropBlanks (chars ++ rest) = first :: following ∧ first ≠ ']' := by
  cases each with
  | last blanks item | comma blanks item =>
    rw [List.append_assoc, List.append_assoc]
    exact dropBlanks_value blanks item _

/-- What is read where a member starts. -/
theorem dropBlanks_key {before : List Char} (blanks : Blanks before) (key : String)
    (rest : List Char) :
    dropBlanks (before ++ (stringChars key ++ rest)) =
      '"' :: (key.toList.flatMap escapeChar ++ '"' :: rest) := by
  rw [dropBlanks_append blanks, stringChars_append]
  exact dropBlanks_cons rfl

theorem SpellsMembers.starts {members : List (String × Json)} (each : SpellsMembers members chars)
    (rest : List Char) : ∃ following, dropBlanks (chars ++ rest) = '"' :: following := by
  cases each with
  | last blanks | comma blanks =>
    rw [List.append_assoc, List.append_assoc, dropBlanks_key blanks]
    exact ⟨_, rfl⟩

/-- Every text that is shorter than the fuel is read as what it was written for. -/
structure ReadsBack (fuel : Nat) : Prop where
  value {value : Json} {chars rest : List Char} (spells : Spells value chars)
    (enough : chars.length < fuel) (delimited : Delimited rest) :
    value? fuel (chars ++ rest) = some (value, rest)
  items {items : List Json} {chars : List Char} (each : SpellsItems items chars)
    (enough : chars.length < fuel) (rest : List Char) :
    items? fuel (chars ++ rest) = some (items, rest)
  members {members : List (String × Json)} {chars : List Char} (each : SpellsMembers members chars)
    (enough : chars.length < fuel) (rest : List Char) :
    members? fuel (chars ++ rest) = some (some members, rest)

theorem value?_scalar (exact : ExactScalar value) (delimited : Delimited rest) :
    value? (fuel + 1) (scalarChars value ++ rest) = some (value, rest) := by
  obtain ⟨first, more, chars, notBlank, notBracket⟩ := scalarChars_starts exact
  have read := scalar?_scalarChars exact delimited
  rw [chars] at read ⊢
  rw [value?, List.cons_append, dropBlanks_cons notBlank]
  split
  · next shape =>
    obtain ⟨rfl, -⟩ := List.cons.inj shape
    exact absurd (by decide) notBracket
  · next shape =>
    obtain ⟨rfl, -⟩ := List.cons.inj shape
    exact absurd (by decide) notBracket
  · exact read

theorem value?_succ (reads : ReadsBack fuel) (spells : Spells value chars)
    (enough : chars.length < fuel + 1) (delimited : Delimited rest) :
    value? (fuel + 1) (chars ++ rest) = some (value, rest) := by
  cases spells with
  | scalar exact => exact value?_scalar exact delimited
  | emptyArray blanks =>
    rw [value?, List.cons_append, List.append_assoc, dropBlanks_cons (rfl : isBlank '[' = false)]
    simp [dropBlanks_append blanks, dropBlanks_cons (rfl : isBlank ']' = false)]
  | array each =>
    have read := reads.items each (Nat.lt_of_succ_lt_succ enough) rest
    obtain ⟨first, following, start, notClosing⟩ := each.starts rest
    rw [value?, List.cons_append, dropBlanks_cons (rfl : isBlank '[' = false)]
    simp [start, notClosing, read]
  | emptyObject blanks =>
    rw [value?, List.cons_append, List.append_assoc, dropBlanks_cons (rfl : isBlank '{' = false)]
    simp [dropBlanks_append blanks, dropBlanks_cons (rfl : isBlank '}' = false)]
  | object each =>
    have read := reads.members each (Nat.lt_of_succ_lt_succ enough) rest
    obtain ⟨following, start⟩ := each.starts rest
    rw [value?, List.cons_append, dropBlanks_cons (rfl : isBlank '{' = false)]
    simp [start, read, ofMembers]

/-- A comma or a closing mark behind a value is found behind the blanks. -/
theorem dropBlanks_mark (blanks : Blanks gap) (mark : isBlank c = false) (rest : List Char) :
    dropBlanks (gap ++ c :: rest) = c :: rest := by
  rw [dropBlanks_append blanks, dropBlanks_cons mark]

theorem items?_succ (reads : ReadsBack fuel) {items : List Json} (each : SpellsItems items chars)
    (enough : chars.length < fuel + 1) (rest : List Char) :
    items? (fuel + 1) (chars ++ rest) = some (items, rest) := by
  cases each with
  | last blanksBefore spells blanksBehind =>
    simp only [List.length_append, List.length_cons] at enough
    have read := reads.value spells (by omega) (delimited_append blanksBehind (.bracket rest))
    have closed := dropBlanks_mark blanksBehind (rfl : isBlank ']' = false) rest
    simp [items?, value?_append blanksBefore, read, closed]
  | @comma _ _ _ following _ _ blanksBefore spells blanksBehind more =>
    simp only [List.length_append, List.length_cons] at enough
    have read := reads.value spells (by omega)
      (delimited_append blanksBehind (.comma (following ++ rest)))
    have mark := dropBlanks_mark blanksBehind (rfl : isBlank ',' = false) (following ++ rest)
    have others := reads.items more (by omega) rest
    simp [items?, value?_append blanksBefore, read, mark, others]

theorem members?_succ (reads : ReadsBack fuel) {members : List (String × Json)}
    (each : SpellsMembers members chars) (enough : chars.length < fuel + 1) (rest : List Char) :
    members? (fuel + 1) (chars ++ rest) = some (some members, rest) := by
  have colon (chars : List Char) : dropBlanks (':' :: chars) = ':' :: chars := dropBlanks_cons rfl
  cases each with
  | last blanksBefore blanksBetween spells blanksBehind =>
    simp only [List.length_append, List.length_cons] at enough
    have read := reads.value spells (by omega) (delimited_append blanksBehind (.brace rest))
    have closed := dropBlanks_mark blanksBehind (rfl : isBlank '}' = false) rest
    simp [members?, dropBlanks_key blanksBefore, string?_escape, colon,
      value?_append blanksBetween, read, closed]
  | @comma _ _ _ _ following _ _ _ blanksBefore blanksBetween spells blanksBehind more =>
    simp only [List.length_append, List.length_cons] at enough
    have read := reads.value spells (by omega)
      (delimited_append blanksBehind (.comma (following ++ rest)))
    have mark := dropBlanks_mark blanksBehind (rfl : isBlank ',' = false) (following ++ rest)
    have others := reads.members more (by omega) rest
    simp [members?, dropBlanks_key blanksBefore, string?_escape, colon,
      value?_append blanksBetween, read, mark, others]

theorem readsBack (fuel : Nat) : ReadsBack fuel := by
  -- The readers call one another with less fuel, so one induction carries all three.
  induction fuel with
  | zero => constructor <;> exact fun _ enough => absurd enough (Nat.not_lt_zero _)
  | succ fuel reads => exact ⟨value?_succ reads, items?_succ reads, members?_succ reads⟩

/-- The whole text of a value, with blanks behind it, is read as that value. -/
theorem parse?_of_spells (spells : Spells value chars) (blanks : Blanks gap) :
    parse? (String.ofList (chars ++ gap)) = some value := by
  have enough : chars.length < 2 * (chars ++ gap).length + 1 := by
    rw [List.length_append]
    omega
  have delimited : Delimited gap := by
    simpa using delimited_append blanks .finished
  have read := (readsBack _).value spells enough delimited
  have finished : dropBlanks gap = [] := by
    simpa [dropBlanks] using dropBlanks_append blanks []
  simp [parse?, -List.length_append, read, finished]

end DocContract.Json
