import DocContract.Proofs.Text.Trim
import DocContract.Text.Line

namespace DocContract.Text

variable {c : Char} {text front rest line blanks : List Char} {lines more : List (List Char)}

/-- The text ends where its last line does. -/
def EndsLine (text : List Char) : Prop :=
  text = [] ∨ text.getLast? = some '\n'

/-- All characters are blanks. -/
def Blank (text : List Char) : Prop :=
  ∀ c ∈ text, isBlank c = true

theorem blank_nil : Blank [] :=
  List.forall_mem_nil _

/-- The lines with the character in front of the first one. -/
def prepend (c : Char) : List (List Char) → List (List Char)
  | [] => [[c]]
  | line :: more => (c :: line) :: more

theorem prepend_append (nonempty : lines ≠ []) :
    prepend c (lines ++ more) = prepend c lines ++ more := by
  cases lines with
  | nil => exact absurd rfl nonempty
  | cons line others => rfl

theorem splitLines_feed : splitLines ('\n' :: rest) = [] :: splitLines rest := by
  rw [splitLines]

theorem splitLines_return : splitLines ('\r' :: '\n' :: rest) = [] :: splitLines rest := by
  rw [splitLines]

theorem splitLines_cons (feed : c ≠ '\n') (alone : c = '\r' → rest.head? ≠ some '\n') :
    splitLines (c :: rest) = prepend c (splitLines rest) := by
  rw [splitLines]
  · cases splitLines rest <;> rfl
  · exact feed
  · rintro following rfl rfl
    exact alone rfl rfl

/-- Induction over a text by the ends of its lines and the characters in front of these. -/
theorem splitLines_induction {motive : List Char → Prop} (nil : motive [])
    (feed : ∀ rest, motive rest → motive ('\n' :: rest))
    (both : ∀ rest, motive rest → motive ('\r' :: '\n' :: rest))
    (inside : ∀ c rest, c ≠ '\n' → (c = '\r' → rest.head? ≠ some '\n') → motive rest →
      motive (c :: rest)) (text : List Char) : motive text := by
  induction size : text.length using Nat.strongRecOn generalizing text with
  | ind length ih =>
    have shorter (rest : List Char) (less : rest.length < length) : motive rest :=
      ih rest.length less rest rfl
    cases text with
    | nil => exact nil
    | cons c rest =>
      rw [List.length_cons] at size
      by_cases ends : c = '\n'
      · exact ends ▸ feed rest (shorter rest (by omega))
      · by_cases alone : c = '\r' → rest.head? ≠ some '\n'
        · exact inside c rest ends alone (shorter rest (by omega))
        · obtain ⟨rfl, following⟩ := Classical.not_imp.mp alone
          obtain ⟨behind, rfl⟩ := List.head?_eq_some_iff.mp (not_not.mp following)
          rw [List.length_cons] at size
          exact both behind (shorter behind (by omega))

theorem splitLines_ne_nil (nonempty : text ≠ []) : splitLines text ≠ [] := by
  induction text using splitLines_induction with
  | nil => exact absurd rfl nonempty
  | feed rest _ => simp [splitLines_feed]
  | both rest _ => simp [splitLines_return]
  | inside c rest ends alone _ =>
    rw [splitLines_cons ends alone]
    cases splitLines rest <;> simp [prepend]

theorem EndsLine.tail (closed : EndsLine (c :: rest)) : EndsLine rest := by
  cases rest with
  | nil => exact .inl rfl
  | cons next behind =>
    have last := closed.resolve_left (List.cons_ne_nil _ _)
    exact .inr (by rwa [List.getLast?_cons_cons] at last)

theorem EndsLine.append (first : EndsLine front) (second : EndsLine rest) :
    EndsLine (front ++ rest) := by
  rcases second with rfl | last
  · rwa [List.append_nil]
  · exact .inr (by rw [List.getLast?_append, last, Option.some_or])

/-- Complete lines are cut on their own. -/
theorem splitLines_append (closed : EndsLine front) :
    splitLines (front ++ rest) = splitLines front ++ splitLines rest := by
  induction front using splitLines_induction with
  | nil => rfl
  | feed behind ih =>
    rw [List.cons_append, splitLines_feed, splitLines_feed, ih closed.tail, List.cons_append]
  | both behind ih =>
    rw [List.cons_append, List.cons_append, splitLines_return, splitLines_return,
      ih closed.tail.tail, List.cons_append]
  | inside c behind ends alone ih =>
    have nonempty : behind ≠ [] := by
      rintro rfl
      exact ends (by simpa [EndsLine] using closed)
    have still : c = '\r' → (behind ++ rest).head? ≠ some '\n' := by
      rw [List.head?_append_of_ne_nil behind nonempty]
      exact alone
    rw [List.cons_append, splitLines_cons ends still, splitLines_cons ends alone,
      ih closed.tail, prepend_append (splitLines_ne_nil nonempty)]

theorem splitLines_line (feed : '\n' ∉ line) (ending : line.getLast? ≠ some '\r') :
    splitLines (line ++ ['\n']) = [line] := by
  induction line with
  | nil => simp [splitLines]
  | cons c rest ih =>
    rw [List.mem_cons, not_or] at feed
    cases rest with
    | nil =>
      have alone : c = '\r' → (['\n'] : List Char).head? ≠ some '\n' := by
        rintro rfl
        exact absurd rfl ending
      rw [List.cons_append, List.nil_append, splitLines_cons (Ne.symm feed.1) alone]
      simp [splitLines, prepend]
    | cons next behind =>
      have alone : c = '\r' → ((next :: behind) ++ ['\n']).head? ≠ some '\n' := by
        intro _ following
        obtain rfl : next = '\n' := by simpa using following
        exact feed.2 List.mem_cons_self
      rw [List.cons_append, splitLines_cons (Ne.symm feed.1) alone,
        ih feed.2 (by rwa [List.getLast?_cons_cons] at ending)]
      rfl

/-- A line that a line feed behind it ends: it holds none itself, and no carriage return at its end
would become a part of the line end. -/
def IsLine (line : List Char) : Prop :=
  '\n' ∉ line ∧ line.getLast? ≠ some '\r'

instance (line : List Char) : Decidable (IsLine line) :=
  inferInstanceAs (Decidable (_ ∧ _))

theorem isLine_of_forall (plain : ∀ c ∈ line, c ≠ '\n' ∧ c ≠ '\r') : IsLine line :=
  ⟨fun feed => (plain _ feed).1 rfl, fun last => (plain _ (List.mem_of_getLast? last)).2 rfl⟩

theorem splitLines_last (nonempty : line ≠ []) (feed : '\n' ∉ line) : splitLines line = [line] := by
  induction line with
  | nil => exact absurd rfl nonempty
  | cons c rest ih =>
    rw [List.mem_cons, not_or] at feed
    have alone : c = '\r' → rest.head? ≠ some '\n' :=
      fun _ following => feed.2 (List.mem_of_head? following)
    rw [splitLines_cons (Ne.symm feed.1) alone]
    cases rest with
    | nil => rfl
    | cons next behind => rw [ih (List.cons_ne_nil _ _) feed.2, prepend]

theorem joinLines_cons {first : String} {others : List String} (nonempty : others ≠ []) :
    joinLines (first :: others) = first ++ "\n" ++ joinLines others := by
  obtain ⟨next, more, rfl⟩ := List.exists_cons_of_ne_nil nonempty
  exact String.intercalate_cons_cons

/-- Lines that are joined are cut again, whether the last one has a line end or not. -/
theorem splitLines_joinLines {ending last : String} {others : List String}
    (whole : ∀ line ∈ others, IsLine line.toList) (final : IsLine last.toList) (some : last ≠ "")
    (ends : ending = "" ∨ ending = "\n") :
    splitLines (joinLines (others ++ [last]) ++ ending).toList =
      (others ++ [last]).map String.toList := by
  induction others with
  | nil =>
    rw [List.nil_append, joinLines, String.intercalate_singleton, String.toList_append]
    rcases ends with rfl | rfl
    · have visible : last.toList ≠ [] := fun empty => some (String.toList_eq_nil_iff.mp empty)
      simpa using splitLines_last visible final.1
    · exact splitLines_line final.1 final.2
  | cons first others ih =>
    obtain ⟨own, behind⟩ := List.forall_mem_cons.mp whole
    have joined : (joinLines (first :: (others ++ [last])) ++ ending).toList =
        (first.toList ++ ['\n']) ++ (joinLines (others ++ [last]) ++ ending).toList := by
      rw [joinLines_cons (by simp)]
      simp
    rw [List.cons_append, joined, splitLines_append (.inr (by simp)),
      splitLines_line own.1 own.2, ih behind]
    rfl

theorem mem_of_mem_splitLines (member : line ∈ splitLines text) (inside : c ∈ line) :
    c ∈ text := by
  induction text using splitLines_induction generalizing line with
  | nil => simp [splitLines] at member
  | feed rest ih =>
    rw [splitLines_feed] at member
    rcases List.mem_cons.mp member with rfl | later
    · cases inside
    · exact List.mem_cons_of_mem _ (ih later inside)
  | both rest ih =>
    rw [splitLines_return] at member
    rcases List.mem_cons.mp member with rfl | later
    · cases inside
    · exact List.mem_cons_of_mem _ (List.mem_cons_of_mem _ (ih later inside))
  | inside first rest ends alone ih =>
    rw [splitLines_cons ends alone] at member
    cases cut : splitLines rest with
    | nil =>
      rw [cut, prepend, List.mem_singleton] at member
      exact List.mem_singleton.mp (member ▸ inside) ▸ List.mem_cons_self
    | cons next more =>
      rw [cut, prepend] at member
      rw [cut] at ih
      rcases List.mem_cons.mp member with rfl | later
      · rcases List.mem_cons.mp inside with rfl | behind
        · exact List.mem_cons_self
        · exact List.mem_cons_of_mem _ (ih List.mem_cons_self behind)
      · exact List.mem_cons_of_mem _ (ih (List.mem_cons_of_mem _ later) inside)

theorem blank_of_mem_splitLines (blank : Blank text) (member : line ∈ splitLines text) :
    Blank line :=
  fun _ inside => blank _ (mem_of_mem_splitLines member inside)

/-- The text ends with a character that is no blank. -/
def EndsPlain (text : List Char) : Prop :=
  ∃ c, text.getLast? = some c ∧ isBlank c = false

theorem EndsPlain.tail (plain : EndsPlain (c :: rest)) (nonempty : rest ≠ []) :
    EndsPlain rest := by
  obtain ⟨next, behind, rfl⟩ := List.exists_cons_of_ne_nil nonempty
  obtain ⟨last, found, visible⟩ := plain
  exact ⟨last, by rwa [List.getLast?_cons_cons] at found, visible⟩

theorem EndsPlain.append_left (plain : EndsPlain text) (front : List Char) :
    EndsPlain (front ++ text) := by
  obtain ⟨last, found, visible⟩ := plain
  exact ⟨last, by rw [List.getLast?_append, found, Option.some_or], visible⟩

theorem EndsPlain.ne_nil_of_blank (plain : EndsPlain (c :: rest)) (blank : isBlank c = true) :
    rest ≠ [] := by
  rintro rfl
  obtain ⟨last, found, visible⟩ := plain
  obtain rfl : c = last := by simpa using found
  exact Bool.false_ne_true (visible.symm.trans blank)

theorem splitLines_blanks_singleton (visible : isBlank c = false) (blank : Blank blanks) :
    ∃ extra behind, splitLines [c, '\n'] = [[c]] ∧
      splitLines (c :: blanks) = ([c] ++ extra) :: behind ∧
      Blank extra ∧ ∀ line ∈ behind, Blank line := by
  have ends : c ≠ '\n' := by
    rintro rfl
    cases visible
  have alone (rest : List Char) : c = '\r' → rest.head? ≠ some '\n' := by
    rintro rfl
    cases visible
  have single : splitLines [c, '\n'] = [[c]] := by
    rw [splitLines_cons ends (alone _)]
    simp [splitLines, prepend]
  rw [splitLines_cons ends (alone blanks)]
  cases cut : splitLines blanks with
  | nil => exact ⟨[], [], single, rfl, blank_nil, List.forall_mem_nil _⟩
  | cons next more =>
    have empty {line : List Char} (member : line ∈ next :: more) : Blank line :=
      blank_of_mem_splitLines blank (cut ▸ member)
    exact ⟨next, more, single, rfl, empty List.mem_cons_self,
      fun line later => empty (List.mem_cons_of_mem _ later)⟩

/-- Blanks behind a text that does not end with one lengthen its last line and add blank lines. -/
theorem splitLines_blanks (plain : EndsPlain text) (blank : Blank blanks) :
    ∃ before line extra behind, splitLines (text ++ ['\n']) = before ++ [line] ∧
      splitLines (text ++ blanks) = before ++ (line ++ extra) :: behind ∧
      Blank extra ∧ ∀ line ∈ behind, Blank line := by
  induction text using splitLines_induction with
  | nil =>
    obtain ⟨last, found, _⟩ := plain
    cases found
  | feed rest ih =>
    have nonempty := plain.ne_nil_of_blank rfl
    obtain ⟨before, line, extra, behind, cut, whole, ends, empty⟩ := ih (plain.tail nonempty)
    refine ⟨[] :: before, line, extra, behind, ?_, ?_, ends, empty⟩
    · rw [List.cons_append, splitLines_feed, cut, List.cons_append]
    · rw [List.cons_append, splitLines_feed, whole, List.cons_append]
  | both rest ih =>
    have feed := plain.tail (List.cons_ne_nil _ _)
    have nonempty := feed.ne_nil_of_blank rfl
    obtain ⟨before, line, extra, behind, cut, whole, ends, empty⟩ := ih (feed.tail nonempty)
    refine ⟨[] :: before, line, extra, behind, ?_, ?_, ends, empty⟩
    · rw [List.cons_append, List.cons_append, splitLines_return, cut, List.cons_append]
    · rw [List.cons_append, List.cons_append, splitLines_return, whole, List.cons_append]
  | inside c rest ends alone ih =>
    by_cases nonempty : rest = []
    · subst nonempty
      obtain ⟨last, found, visible⟩ := plain
      obtain rfl : c = last := by simpa using found
      obtain ⟨extra, behind, single, lengthened, blankEnd, empty⟩ :=
        splitLines_blanks_singleton visible blank
      exact ⟨[], [c], extra, behind, single, lengthened, blankEnd, empty⟩
    · obtain ⟨before, line, extra, behind, cut, whole, blankEnd, empty⟩ :=
        ih (plain.tail nonempty)
      have still (after : List Char) : c = '\r' → (rest ++ after).head? ≠ some '\n' := by
        rw [List.head?_append_of_ne_nil rest nonempty]
        exact alone
      have first : splitLines (c :: rest ++ ['\n']) = prepend c (before ++ [line]) := by
        rw [List.cons_append, splitLines_cons ends (still _), cut]
      have second : splitLines (c :: rest ++ blanks) =
          prepend c (before ++ (line ++ extra) :: behind) := by
        rw [List.cons_append, splitLines_cons ends (still _), whole]
      cases before with
      | nil => exact ⟨[], c :: line, extra, behind, first, second, blankEnd, empty⟩
      | cons opening others =>
        exact ⟨(c :: opening) :: others, line, extra, behind, first, second, blankEnd, empty⟩

/-- Trimming a text at its end trims its last line that is not blank, and drops those behind. -/
theorem splitLines_trimEnd (visible : dropEndWhile isBlank text ≠ []) :
    ∃ before line extra behind,
      splitLines (dropEndWhile isBlank text ++ ['\n']) = before ++ [line] ∧
        splitLines text = before ++ (line ++ extra) :: behind ∧
        Blank extra ∧ ∀ line ∈ behind, Blank line := by
  have last : ¬ isBlank ((dropEndWhile isBlank text).getLast visible) = true :=
    List.rdropWhile_last_not isBlank text visible
  have plain : EndsPlain (dropEndWhile isBlank text) :=
    ⟨_, List.getLast?_eq_some_getLast visible, Bool.eq_false_iff.mpr last⟩
  have blank : Blank (text.rtakeWhile isBlank) := fun _ => List.mem_rtakeWhile_imp
  have whole : dropEndWhile isBlank text ++ text.rtakeWhile isBlank = text :=
    List.rdropWhile_append_rtakeWhile
  have lines := splitLines_blanks plain blank
  rwa [whole] at lines

end DocContract.Text
