import DocContract.Proofs.Text.Trim
import DocContract.Text.CaseMap
import DocContract.Text.Digit

/-!
Lower case around numbers and blanks: these stay as they are and none are made, and what stands in
front of a blank does not matter for what stands behind it.
-/

namespace DocContract.Text

variable {c : Char} {chars front more before : List Char}

def blankCodes : List Nat :=
  [
    0x9, 0xA, 0xB, 0xC, 0xD, 0x20, 0x85, 0xA0, 0x1680, 0x2000, 0x2001, 0x2002, 0x2003, 0x2004,
    0x2005, 0x2006, 0x2007, 0x2008, 0x2009, 0x200A, 0x2028, 0x2029, 0x202F, 0x205F, 0x3000
  ]

theorem toNat_of_isBlank (blank : isBlank c = true) : c.toNat ∈ blankCodes := by
  simp only [isBlank, Bool.or_eq_true, Bool.and_eq_true, decide_eq_true_eq, beq_iff_eq, Char.le_def,
    UInt32.le_iff_toNat_le, ← Char.toNat_inj, Char.toNat, Char.reduceVal,
    UInt32.reduceToNat] at blank ⊢
  simp only [blankCodes, List.mem_cons, List.not_mem_nil, or_false]
  omega

theorem ofText_ofList (chars : List Char) :
    Ranges.ofText (String.ofList chars) = Ranges.read none none chars := by
  rw [Ranges.ofText, String.toList_ofList]

theorem cased_of_isBlank (blank : isBlank c = true) : cased.contains c.toNat = false := by
  have all : ∀ code ∈ blankCodes, cased.contains code = false := by
    rw [cased, ofText_ofList]
    decide +kernel
  exact all c.toNat (toNat_of_isBlank blank)

theorem caseIgnorable_of_isBlank (blank : isBlank c = true) :
    caseIgnorable.contains c.toNat = false := by
  have all : ∀ code ∈ blankCodes, caseIgnorable.contains code = false := by
    rw [caseIgnorable, ofText_ofList]
    decide +kernel
  exact all c.toNat (toNat_of_isBlank blank)

theorem lowerChar_of_isBlank (blank : isBlank c = true) : lowerChar c = [c] := by
  have all : ∀ code ∈ blankCodes, lowerChar (Char.ofNat code) = [Char.ofNat code] := by
    decide +kernel
  have own := all c.toNat (toNat_of_isBlank blank)
  rwa [Char.ofNat_toNat] at own

theorem toNat_of_isAsciiDigit (digit : isAsciiDigit c = true) : 48 ≤ c.toNat ∧ c.toNat < 58 := by
  simp only [isAsciiDigit, Bool.and_eq_true, decide_eq_true_eq, Char.le_def,
    UInt32.le_iff_toNat_le, Char.reduceVal, UInt32.reduceToNat] at digit
  simp only [Char.toNat]
  omega

theorem isDecimalDigit_of_isAsciiDigit (digit : isAsciiDigit c = true) :
    isDecimalDigit c = true := by
  refine List.any_eq_true.mpr ⟨0x30, by decide, ?_⟩
  simpa using toNat_of_isAsciiDigit digit

theorem isBlank_of_isAsciiDigit (digit : isAsciiDigit c = true) : isBlank c = false := by
  apply Bool.eq_false_iff.mpr
  intro blank
  have apart : ∀ code ∈ blankCodes, code < 48 ∨ 58 ≤ code := by decide
  have outside := apart c.toNat (toNat_of_isBlank blank)
  have inside := toNat_of_isAsciiDigit digit
  omega

theorem isDecimalDigit_of_isBlank (blank : isBlank c = true) : isDecimalDigit c = false := by
  apply Bool.eq_false_iff.mpr
  intro digit
  have apart : ∀ code ∈ blankCodes, ∀ least ∈ decimalZeros,
      ¬ (least ≤ code ∧ code < least + 10) := by
    decide +kernel
  obtain ⟨least, first, inside⟩ := List.any_eq_true.mp digit
  exact apart c.toNat (toNat_of_isBlank blank) least first (by simpa using inside)

theorem lowerChar_of_isAsciiDigit (digit : isAsciiDigit c = true) : lowerChar c = [c] := by
  have all : ∀ code < 58, 48 ≤ code → lowerChar (Char.ofNat code) = [Char.ofNat code] := by
    decide +kernel
  obtain ⟨least, most⟩ := toNat_of_isAsciiDigit digit
  have own := all c.toNat most least
  rwa [Char.ofNat_toNat] at own

/-- The character can open a title behind a number: it is neither a digit nor a blank. -/
def OpensTitle (c : Char) : Prop :=
  isDecimalDigit c = false ∧ isBlank c = false

instance (c : Char) : Decidable (OpensTitle c) :=
  inferInstanceAs (Decidable (_ ∧ _))

/-- No lower case form is one of ten characters from a zero or a blank on. -/
theorem lowerRuns_apart {run : CaseRun} (member : run ∈ lowerRuns) {least : Nat}
    (listed : least ∈ decimalZeros ++ blankCodes) :
    (run.last + run.shift).toNat < least ∨ least + 10 ≤ (run.first + run.shift).toNat := by
  -- In terms of `Bool`, the many comparisons take the kernel a third of the time.
  have all : ∀ run ∈ lowerRuns, ((decimalZeros ++ blankCodes).all fun least =>
      Nat.blt (run.last + run.shift).toNat least ||
        Nat.ble (least + 10) (run.first + run.shift).toNat) = true := by
    decide +kernel
  have own := List.all_eq_true.mp (all run member) least listed
  rwa [Bool.or_eq_true, Nat.blt_eq, Nat.ble_eq] at own

theorem opensTitle_of_target? {run : CaseRun} (member : run ∈ lowerRuns) {code target : Nat}
    (found : run.target? code = some target) : OpensTitle (Char.ofNat target) := by
  rw [CaseRun.target?, Option.ite_none_right_eq_some] at found
  obtain ⟨⟨first, last, _⟩, found⟩ := found
  have value := Option.some.inj found
  have point : (Char.ofNat target).toNat = target ∨ (Char.ofNat target).toNat = 0 := by
    by_cases valid : target.isValidChar
    · exact .inl (by rw [Char.ofNat, dif_pos valid]; rfl)
    · exact .inr (by rw [Char.ofNat, dif_neg valid]; rfl)
  have positive : ∀ least ∈ decimalZeros ++ blankCodes, 0 < least := by decide
  have outside (least : Nat) (listed : least ∈ decimalZeros ++ blankCodes) :
      (Char.ofNat target).toNat < least ∨ least + 10 ≤ (Char.ofNat target).toNat := by
    have apart := lowerRuns_apart member listed
    have above := positive least listed
    omega
  constructor
  · apply Bool.eq_false_iff.mpr
    intro digit
    obtain ⟨least, zero, inside⟩ := List.any_eq_true.mp digit
    simp only [Bool.and_eq_true, decide_eq_true_eq] at inside
    have apart := outside least (List.mem_append_left blankCodes zero)
    omega
  · apply Bool.eq_false_iff.mpr
    intro blank
    have apart := outside _ (List.mem_append_right decimalZeros (toNat_of_isBlank blank))
    omega

/-- Lower case makes neither digits nor blanks of other characters. -/
theorem eq_or_opensTitle_of_mem_lowerChar {d : Char} (member : d ∈ lowerChar c) :
    d = c ∨ OpensTitle d := by
  rw [lowerChar] at member
  split at member
  · right
    rcases List.mem_cons.mp member with rfl | dot
    · decide
    · rw [List.mem_singleton.mp dot]
      decide
  · split at member
    · next small =>
      have all : ∀ code < 0x80, (Char.ofNat code).toLower = Char.ofNat code ∨
          OpensTitle (Char.ofNat code).toLower := by
        decide +kernel
      have own := all c.toNat small
      rw [Char.ofNat_toNat] at own
      rwa [List.mem_singleton.mp member]
    · split at member
      · next code found =>
        obtain ⟨run, listed, target⟩ := List.exists_of_findSome?_eq_some found
        rw [List.mem_singleton.mp member]
        exact .inr (opensTitle_of_target? listed target)
      · exact .inl (List.mem_singleton.mp member)

theorem lowerChar_ne_nil (c : Char) : lowerChar c ≠ [] := by
  rw [lowerChar]
  split
  · simp
  · split
    · simp
    · split <;> simp

/-- A character of a text turns into something, and into neither digits nor blanks unless it stays
as it is. -/
theorem lowerFrom_cons (before : List Char) (c : Char) (rest : List Char) :
    ∃ lowered, lowerFrom before (c :: rest) = lowered ++ lowerFrom (c :: before) rest ∧
      lowered ≠ [] ∧ ∀ d ∈ lowered, d = c ∨ OpensTitle d := by
  rw [lowerFrom]
  by_cases sigma : c = 'Σ'
  · rw [if_pos sigma]
    refine ⟨_, rfl, List.cons_ne_nil _ _, ?_⟩
    intro d member
    right
    rw [List.mem_singleton.mp member]
    split <;> decide
  · rw [if_neg sigma]
    exact ⟨_, rfl, lowerChar_ne_nil c, fun d => eq_or_opensTitle_of_mem_lowerChar⟩

theorem mem_or_opensTitle_of_mem_lowerFrom {d : Char} (member : d ∈ lowerFrom before chars) :
    d ∈ chars ∨ OpensTitle d := by
  induction chars generalizing before with
  | nil => cases member
  | cons c rest ih =>
    obtain ⟨lowered, whole, _, kinds⟩ := lowerFrom_cons before c rest
    rw [whole, List.mem_append] at member
    rcases member with own | behind
    · exact (kinds d own).imp_left fun same => List.mem_cons.mpr (.inl same)
    · exact (ih behind).imp_left (List.mem_cons_of_mem c)

/-- Characters that have no other lower case form are left in front. -/
theorem lowerFrom_append (same : ∀ c ∈ front, lowerChar c = [c]) (before rest : List Char) :
    lowerFrom before (front ++ rest) = front ++ lowerFrom (front.reverse ++ before) rest := by
  induction front generalizing before with
  | nil => rfl
  | cons c front ih =>
    obtain ⟨own, others⟩ := List.forall_mem_cons.mp same
    have small : c ≠ 'Σ' := by
      rintro rfl
      exact absurd own (by decide)
    rw [List.cons_append, lowerFrom, if_neg small, own, ih others]
    simp

/-- Whether a cased letter comes first is decided in front of a blank. -/
theorem leadsToCased_append {blank : Char} (isBlank : isBlank blank = true)
    (front more : List Char) : leadsToCased (front ++ blank :: more) = leadsToCased front := by
  rw [leadsToCased, leadsToCased, List.dropWhile_append]
  cases kept : front.dropWhile fun c => caseIgnorable.contains c.toNat with
  | nil => simp [caseIgnorable_of_isBlank isBlank, cased_of_isBlank isBlank]
  | cons c rest => simp

/-- The lower case of a text does not depend on what stands in front of a blank before it. -/
theorem lowerFrom_behind_blank {blank : Char} (isBlank : isBlank blank = true)
    (front more chars : List Char) :
    lowerFrom (front ++ blank :: more) chars = lowerFrom front chars := by
  induction chars generalizing front with
  | nil => rfl
  | cons c rest ih =>
    rw [lowerFrom, lowerFrom, leadsToCased_append isBlank, ← List.cons_append, ih]

/-- The lower case of a text starts with a character that opens a title, or as the text does. -/
theorem exists_lowerFrom_cons (before : List Char) (c : Char) (rest : List Char) :
    ∃ first more, lowerFrom before (c :: rest) = first :: more ∧
      (first = c ∨ OpensTitle first) := by
  obtain ⟨lowered, whole, nonempty, kinds⟩ := lowerFrom_cons before c rest
  obtain ⟨first, more, rfl⟩ := List.exists_cons_of_ne_nil nonempty
  exact ⟨first, more ++ lowerFrom (c :: before) rest, whole, kinds first List.mem_cons_self⟩

/-- The lower case of a text ends with no blank unless the text does. -/
theorem getLast?_lowerFrom (visible : ∀ c ∈ chars.getLast?, isBlank c = false) :
    ∀ d ∈ (lowerFrom before chars).getLast?, isBlank d = false := by
  induction chars generalizing before with
  | nil => nofun
  | cons c rest ih =>
    intro d last
    obtain ⟨lowered, whole, nonempty, kinds⟩ := lowerFrom_cons before c rest
    rw [whole] at last
    cases rest with
    | nil =>
      rw [lowerFrom, List.append_nil] at last
      rcases kinds d (List.mem_of_getLast? last) with rfl | opens
      · exact visible d rfl
      · exact opens.2
    | cons next rest =>
      obtain ⟨first, more, found, _⟩ := exists_lowerFrom_cons (c :: before) next rest
      rw [List.getLast?_append_of_ne_nil _ (by simp [found])] at last
      exact ih (by rwa [List.getLast?_cons_cons] at visible) d last

end DocContract.Text
