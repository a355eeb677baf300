import DocContract.Proofs.Text.Numbering
import DocContract.TitlePattern

namespace DocContract.TitlePattern

open DocContract.Text

variable {title other expected written : String} {bare : List Char} {pattern : TitlePattern}

/-- The written pattern does not ask for a number: it is a regular expression, or no digit opens
it. -/
def LeavesNumber (written : String) : Prop :=
  isRegexPattern written = true ∨ (trim written).toList.head?.any isAsciiDigit = false

instance (written : String) : Decidable (LeavesNumber written) :=
  inferInstanceAs (Decidable (_ ∨ _))

/-- No digit opens the text that a literal is compared with, since lower case makes none. -/
theorem opened_of_compile? (free : LeavesNumber written)
    (compiled : compile? written = some (.literal expected)) :
    expected.toList.head?.any isAsciiDigit = false := by
  unfold compile? at compiled
  split at compiled
  · obtain ⟨_, _, impossible⟩ := Option.map_eq_some_iff.mp compiled
    cases impossible
  · next literal =>
    obtain rfl : lowercase (trim written) = expected := by simpa using compiled
    have opening := free.resolve_left literal
    rw [lowercase, String.toList_ofList]
    cases text : (trim written).toList with
    | nil => rfl
    | cons first rest =>
      have plain : isAsciiDigit first = false := by simpa [text] using opening
      obtain ⟨lowered, more, whole, rfl | opens⟩ := exists_lowerFrom_cons [] first rest
      · rwa [whole]
      · rw [whole]
        apply Bool.eq_false_iff.mpr
        intro digit
        exact Bool.false_ne_true (opens.1.symm.trans (isDecimalDigit_of_isAsciiDigit digit))

/-- A literal is compared with the bare title: a title in front of which a number stands is not
the literal, and behind its number it is bare. -/
theorem accepts_literal (isBare : IsBare bare) (numbered : Numbered title.toList bare)
    (opened : expected.toList.head?.any isAsciiDigit = false) :
    (TitlePattern.literal expected).accepts title =
      (String.ofList (lowerTrimmed bare) == expected) := by
  have lowered : lowercase (trim title) = String.ofList (lowerTrimmed title.toList) := by
    rw [lowercase, trim, String.toList_ofList]
    rfl
  have inner : Numbered (lowerTrimmed title.toList) (lowerTrimmed bare) := numbered.lower isBare
  have dropped : trim (stripNumber (String.ofList (lowerTrimmed title.toList))) =
      String.ofList (lowerTrimmed bare) := by
    rw [trim, stripNumber, String.toList_ofList, String.toList_ofList,
      dropNumber_of_numbered inner isBare.trim.lower, isBare.trimChars_lowerTrimmed]
  rw [accepts, lowered, dropped]
  rcases inner with same | ⟨front, number, whole⟩
  · rw [same, Bool.or_self]
  · have apart : (String.ofList (lowerTrimmed title.toList) == expected) = false := by
      apply beq_eq_false_iff_ne.mpr
      rintro rfl
      obtain ⟨c, rest, starts, digit⟩ := number.starts
      have free : isAsciiDigit c = false := by simpa [whole, starts] using opened
      exact Bool.false_ne_true (free.symm.trans digit)
    rw [apart, Bool.false_or]

theorem accepts_regex {expression : Regex} (isBare : IsBare bare)
    (numbered : Numbered title.toList bare) :
    (TitlePattern.regex expression).accepts title = expression.isFoundIn (trimChars bare) := by
  rw [accepts, dropNumber_of_numbered numbered isBare]

/-- A pattern does not tell titles apart that differ in their numbers only. -/
theorem accepts_eq_of_numbered (isBare : IsBare bare) (numbered : Numbered title.toList bare)
    (renumbered : Numbered other.toList bare) (free : LeavesNumber written)
    (compiled : compile? written = some pattern) :
    pattern.accepts title = pattern.accepts other := by
  cases pattern with
  | literal expected =>
    have opened := opened_of_compile? free compiled
    rw [accepts_literal isBare numbered opened, accepts_literal isBare renumbered opened]
  | regex expression => rw [accepts_regex isBare numbered, accepts_regex isBare renumbered]

end DocContract.TitlePattern
