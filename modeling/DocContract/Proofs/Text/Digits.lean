import DocContract.Text.Digit

namespace DocContract.Text

variable {value : Nat}

theorem isAsciiDigit_digitChar (small : value < 10) : isAsciiDigit (digitChar value) := by
  have all : ∀ value < 10, isAsciiDigit (digitChar value) := by decide
  exact all value small

theorem digitValue_digitChar (small : value < 10) : digitValue (digitChar value) = value := by
  have all : ∀ value < 10, digitValue (digitChar value) = value := by decide
  exact all value small

theorem digitChar_ne_zero (positive : 0 < value) (small : value < 10) : digitChar value ≠ '0' := by
  intro same
  have zero := digitValue_digitChar small
  rw [same] at zero
  exact Nat.ne_of_lt positive zero

theorem isAsciiDigit_of_mem_digitsOfNat {c : Char} (member : c ∈ digitsOfNat value) :
    isAsciiDigit c := by
  induction value using digitsOfNat.induct with
  | case1 value small =>
    rw [digitsOfNat, if_pos small, List.mem_singleton] at member
    exact member ▸ isAsciiDigit_digitChar small
  | case2 value large ih =>
    rw [digitsOfNat, if_neg large, List.mem_append, List.mem_singleton] at member
    rcases member with front | last
    · exact ih front
    · exact last ▸ isAsciiDigit_digitChar (Nat.mod_lt value (by decide))

theorem digitsOfNat_starts (value : Nat) :
    ∃ first more, digitsOfNat value = first :: more ∧ isAsciiDigit first := by
  have nonempty : digitsOfNat value ≠ [] := by
    rw [digitsOfNat]
    split <;> simp
  obtain ⟨first, more, digits⟩ := List.exists_cons_of_ne_nil nonempty
  exact ⟨first, more, digits, isAsciiDigit_of_mem_digitsOfNat (digits ▸ List.mem_cons_self)⟩

theorem digitsOfNat_of_pos (positive : 0 < value) :
    ∃ first more, digitsOfNat value = first :: more ∧ first ≠ '0' := by
  induction value using digitsOfNat.induct with
  | case1 value small =>
    rw [digitsOfNat, if_pos small]
    exact ⟨_, _, rfl, digitChar_ne_zero positive small⟩
  | case2 value large ih =>
    obtain ⟨first, more, front, nonzero⟩ := ih (by omega)
    rw [digitsOfNat, if_neg large, front]
    exact ⟨_, _, rfl, nonzero⟩

theorem natOfDigits_append (digits : List Char) (last : Char) :
    natOfDigits (digits ++ [last]) = natOfDigits digits * 10 + digitValue last := by
  simp [natOfDigits]

theorem natOfDigits_digitsOfNat (value : Nat) : natOfDigits (digitsOfNat value) = value := by
  induction value using digitsOfNat.induct with
  | case1 value small =>
    rw [digitsOfNat, if_pos small]
    simpa [natOfDigits] using digitValue_digitChar small
  | case2 value large ih =>
    rw [digitsOfNat, if_neg large, natOfDigits_append, ih,
      digitValue_digitChar (Nat.mod_lt value (by decide))]
    omega

end DocContract.Text
