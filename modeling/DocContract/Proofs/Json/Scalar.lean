import DocContract.Json.Parser
import DocContract.Json.Printer
import DocContract.Proofs.Text.Digits

/-!
Strings, numbers and words of JSON: reading one gives back what was written, whatever characters a
string holds, as long as a number is an integer of 64 bits.
-/

namespace DocContract.Json

open DocContract.Text

variable {c : Char} {rest : List Char}

theorem codeUnit?_control {code : Nat} (control : code < 0x20) :
    codeUnit? '0' '0' (hexDigit (code / 16)) (hexDigit (code % 16)) = some code := by
  have all : ∀ code < 0x20,
      codeUnit? '0' '0' (hexDigit (code / 16)) (hexDigit (code % 16)) = some code := by decide
  exact all code control

theorem stringBody?_control (control : c.toNat < 0x20) :
    stringBody? (['\\', 'u', '0', '0', hexDigit (c.toNat / 16), hexDigit (c.toNat % 16)] ++ rest) =
      (stringBody? rest).map (Prod.map (c :: ·) id) := by
  have notHigh : isHighUnit c.toNat = false := by
    simp only [isHighUnit, Bool.and_eq_false_iff, decide_eq_false_iff_not]
    omega
  have notLow : isLowUnit c.toNat = false := by
    simp only [isLowUnit, Bool.and_eq_false_iff, decide_eq_false_iff_not]
    omega
  simp only [List.cons_append, List.nil_append]
  rw [stringBody?, codeUnit?_control control]
  simp only [Option.bind_eq_bind, Option.bind_some, notHigh, notLow, Char.ofNat_toNat]
  cases stringBody? rest <;> rfl

theorem stringBody?_plain (notQuote : c ≠ '"') (notBackslash : c ≠ '\\')
    (printable : ¬ c.toNat < 0x20) :
    stringBody? (c :: rest) = (stringBody? rest).map (Prod.map (c :: ·) id) := by
  rw [stringBody?.eq_def]
  split
  case h_5 other following _ _ _ shape =>
    cases shape
    rw [if_neg (by simp [printable, notBackslash])]
    cases stringBody? rest <;> rfl
  all_goals simp_all

theorem stringBody?_escaped {letter : Char} (known : escaped? letter = some c) :
    stringBody? ('\\' :: letter :: rest) =
      (stringBody? rest).map (Prod.map (c :: ·) id) := by
  have notUnit : letter ≠ 'u' := by
    rintro rfl
    cases known
  rw [stringBody?.eq_def]
  split
  case h_4 shape =>
    cases shape
    rw [known]
    cases stringBody? rest <;> rfl
  case h_5 _ _ noEscape shape =>
    cases shape
    exact absurd rfl (noEscape letter rest rfl)
  all_goals simp_all

theorem stringBody?_escapeChar (c : Char) (rest : List Char) :
    stringBody? (escapeChar c ++ rest) =
      (stringBody? rest).map (Prod.map (c :: ·) id) := by
  unfold escapeChar
  split
  case h_8 notQuote notBackslash _ _ _ _ _ =>
    split
    · next control => exact stringBody?_control control
    · next printable => exact stringBody?_plain notQuote notBackslash printable
  all_goals exact stringBody?_escaped rfl

theorem stringBody?_escape (text : List Char) (rest : List Char) :
    stringBody? (text.flatMap escapeChar ++ '"' :: rest) = some (text, rest) := by
  induction text with
  | nil => simp [stringBody?]
  | cons c more ih =>
    rw [List.flatMap_cons, List.append_assoc, stringBody?_escapeChar, ih]
    rfl

theorem string?_escape (text : String) (rest : List Char) :
    string? (text.toList.flatMap escapeChar ++ '"' :: rest) = some (some text, rest) := by
  simp [string?, stringBody?_escape]

/-- What stands between the quotation marks of a string is its text. -/
theorem stringChars_append (text : String) (rest : List Char) :
    stringChars text ++ rest = '"' :: (text.toList.flatMap escapeChar ++ '"' :: rest) := by
  simp [stringChars]

theorem isBlank_iff : isBlank c = true ↔ c = ' ' ∨ c = '\n' ∨ c = '\t' ∨ c = '\r' := by
  simp [isBlank, or_assoc]

inductive Delimited : List Char → Prop where
  | finished : Delimited []
  | comma (rest : List Char) : Delimited (',' :: rest)
  | bracket (rest : List Char) : Delimited (']' :: rest)
  | brace (rest : List Char) : Delimited ('}' :: rest)
  | blank {c : Char} (blank : isBlank c) (rest : List Char) : Delimited (c :: rest)

theorem Delimited.noDigit (delimited : Delimited rest) : rest.head?.any isAsciiDigit = false := by
  cases delimited with
  | blank blank => rcases isBlank_iff.mp blank with rfl | rfl | rfl | rfl <;> rfl
  | _ => rfl

theorem fraction?_of_delimited (delimited : Delimited rest) : fraction? rest = some ([], rest) := by
  cases delimited with
  | blank blank => rcases isBlank_iff.mp blank with rfl | rfl | rfl | rfl <;> rfl
  | _ => rfl

theorem exponent?_of_delimited (delimited : Delimited rest) : exponent? rest = some ([], rest) := by
  cases delimited with
  | blank blank => rcases isBlank_iff.mp blank with rfl | rfl | rfl | rfl <;> rfl
  | _ => rfl

/-- Digits that nothing continues are read as far as they go. -/
theorem digitRun_append {digits : List Char} (all : ∀ c ∈ digits, isAsciiDigit c)
    (stops : rest.head?.any isAsciiDigit = false) : digitRun (digits ++ rest) = (digits, rest) := by
  have stopsTaking : rest.takeWhile isAsciiDigit = [] := by
    cases rest with
    | nil => rfl
    | cons c more => exact List.takeWhile_cons_of_neg (by simpa using stops)
  have stopsDropping : rest.dropWhile isAsciiDigit = rest := by
    cases rest with
    | nil => rfl
    | cons c more => exact List.dropWhile_cons_of_neg (by simpa using stops)
  rw [digitRun, List.takeWhile_append_of_pos all, List.dropWhile_append_of_pos all, stopsTaking,
    stopsDropping, List.append_nil]

theorem wholePart?_digitsOfNat (value : Nat) (stops : rest.head?.any isAsciiDigit = false) :
    wholePart? (digitsOfNat value ++ rest) = some (digitsOfNat value, rest) := by
  have all (c : Char) (member : c ∈ digitsOfNat value) : isAsciiDigit c :=
    isAsciiDigit_of_mem_digitsOfNat member
  rcases Nat.eq_zero_or_pos value with rfl | positive
  · have zero : digitsOfNat 0 = ['0'] := by
      rw [digitsOfNat]
      rfl
    simp [zero, wholePart?, stops]
  · have run := digitRun_append all stops
    obtain ⟨first, more, digits, nonzero⟩ := digitsOfNat_of_pos positive
    rw [digits] at all run ⊢
    rw [wholePart?.eq_def]
    split
    · next shape => exact absurd (List.cons.inj shape).1 nonzero
    · rw [run]
      exact if_pos (all first List.mem_cons_self)

theorem unsigned?_digitsOfNat (negative : Bool) (value : Nat) (delimited : Delimited rest) :
    unsigned? negative (digitsOfNat value ++ rest) =
      some (wholeNumber negative (digitsOfNat value), rest) := by
  simp [unsigned?, wholePart?_digitsOfNat value delimited.noDigit,
    fraction?_of_delimited delimited, exponent?_of_delimited delimited]

def Fits64 (value : Int) : Prop :=
  -int64Limit ≤ value ∧ value < UInt64.size

theorem scalar?_natText {value : Nat} (small : value < UInt64.size) (delimited : Delimited rest) :
    scalar? ((natText value).toList ++ rest) = some (.integer value, rest) := by
  have number := unsigned?_digitsOfNat false value delimited
  have whole : wholeNumber false (digitsOfNat value) = .integer value := by
    simp [wholeNumber, natOfDigits_digitsOfNat, small]
  obtain ⟨first, more, digits, digit⟩ := digitsOfNat_starts value
  -- The first digit tells the number from a string, a word and a negative number.
  rw [whole, digits] at number
  rw [natText, String.toList_ofList, digits, scalar?.eq_def]
  split
  case h_6 => exact number
  all_goals
    next shape =>
      obtain ⟨rfl, -⟩ := List.cons.inj shape
      exact absurd digit (by decide)

theorem scalar?_intText {value : Int} (fits : Fits64 value) (delimited : Delimited rest) :
    scalar? ((intText value).toList ++ rest) = some (.integer value, rest) := by
  obtain ⟨least, most⟩ := fits
  cases value with
  | ofNat value => exact scalar?_natText (Int.ofNat_lt.mp most) delimited
  | negSucc value =>
    have number := unsigned?_digitsOfNat true (value + 1) delimited
    have inside : ¬ int64Limit < value + 1 := by omega
    have whole : wholeNumber true (digitsOfNat (value + 1)) = .integer (Int.negSucc value) := by
      rw [wholeNumber, natOfDigits_digitsOfNat]
      simp [inside, Int.negSucc_eq]
    rw [whole] at number
    rw [intText, String.toList_ofList]
    exact number

/-- The value is no array and no object, and if it is a number, then an integer of 64 bits. -/
inductive ExactScalar : Json → Prop where
  | null : ExactScalar .null
  | bool (value : Bool) : ExactScalar (.bool value)
  | integer {value : Int} (fits : Fits64 value) : ExactScalar (.integer value)
  | string (text : String) : ExactScalar (.string text)

/-- Reading the text of a number, a string or a word gives it back. -/
theorem scalar?_scalarChars {value : Json} (exact : ExactScalar value)
    (delimited : Delimited rest) : scalar? (scalarChars value ++ rest) = some (value, rest) := by
  cases exact with
  | null => rfl
  | bool value => cases value <;> rfl
  | integer fits => exact scalar?_intText fits delimited
  | string text =>
    rw [scalarChars, stringChars_append, scalar?, string?_escape]
    rfl

end DocContract.Json
