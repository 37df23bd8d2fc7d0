/-
This file reads back numbers that are written in decimal digits. Main statement: a number is read as
itself exactly if it does not have too many digits.
-/

import Mathlib.Algebra.GroupWithZero.Nat
import Flourish.Proofs.Text.Letter
import Flourish.Text.Numeral

namespace Flourish.Text

variable {letter : Letter} {digits : Text}

theorem toNat_of_isDigit (digit : letter.isDigit) : 48 ≤ letter.toNat ∧ letter.toNat ≤ 57 :=
  Letter.isDigit_iff_toNat.mp digit

/-- A digit of ASCII is a decimal digit with its usual value. -/
theorem digitValue_of_isDigit (digit : letter.isDigit) :
    digitValue? letter = some (letter.toNat - 48) := by
  obtain ⟨least, greatest⟩ := toNat_of_isDigit digit
  have found : decimalZeros.find? (fun first =>
      decide (first ≤ letter.toNat) && decide (letter.toNat < first + 10)) = some 0x0030 := by
    apply List.find?_cons_of_pos
    simp only [Bool.and_eq_true, decide_eq_true_eq]
    omega
  exact congrArg (Option.map (letter.toNat - ·)) found

theorem isDecimal_of_isDigit (digit : letter.isDigit) : isDecimal letter := by
  rw [isDecimal, digitValue_of_isDigit digit]
  rfl

theorem isNumeralBlank_of_isDigit (digit : letter.isDigit) : isNumeralBlank letter = false := by
  obtain ⟨least, greatest⟩ := toNat_of_isDigit digit
  have visible : isBlank letter = false := by
    simp only [isBlank, Bool.or_eq_false_iff, Bool.and_eq_false_iff, decide_eq_false_iff_not,
      beq_eq_false_iff_ne]
    omega
  rw [isNumeralBlank, visible, Bool.false_and]

theorem ne_of_isDigit {other : Letter} (digit : letter.isDigit) (sign : other.isDigit = false) :
    letter ≠ other := by
  rintro rfl
  rw [digit] at sign
  cases sign

/-- A row of digits has no underscores between them. -/
theorem numeralDigits_of_isDigit (nonempty : digits ≠ [])
    (allDigits : ∀ letter ∈ digits, letter.isDigit) : numeralDigits? digits = some digits := by
  fun_induction numeralDigits? digits with
  | case1 => exact absurd rfl nonempty
  | case2 letter decimal => rfl
  | case3 letter other => exact absurd (isDecimal_of_isDigit (allDigits letter (by simp))) other
  | case4 letter rest _ _ =>
      exact absurd rfl (ne_of_isDigit (allDigits '_' (by simp)) (by decide))
  | case5 letter rest other =>
      exact absurd rfl (ne_of_isDigit (allDigits '_' (by simp)) (by decide))
  | case6 letter rest several single decimal inductionHypothesis =>
      obtain ⟨_, later⟩ := List.forall_mem_cons.mp allDigits
      have more : rest ≠ [] := by
        rintro rfl
        exact several rfl
      rw [inductionHypothesis more later]
      rfl
  | case7 letter rest _ _ other =>
      exact absurd (isDecimal_of_isDigit (allDigits letter List.mem_cons_self)) other

theorem dropWhile_of_isDigit (allDigits : ∀ letter ∈ digits, letter.isDigit) :
    digits.dropWhile isNumeralBlank = digits := by
  cases digits with
  | nil => rfl
  | cons letter rest =>
      exact List.dropWhile_cons_of_neg
        (by simp [isNumeralBlank_of_isDigit (allDigits letter List.mem_cons_self)])

theorem splitSign_of_isDigit (allDigits : ∀ letter ∈ digits, letter.isDigit) :
    splitSign digits = (false, digits) := by
  unfold splitSign
  split
  · exact absurd rfl (ne_of_isDigit (allDigits '-' List.mem_cons_self) (by decide))
  · exact absurd rfl (ne_of_isDigit (allDigits '+' List.mem_cons_self) (by decide))
  · rfl

theorem decimalValue_of_isDigit {chars : List Char} (allDigits : ∀ char ∈ chars, char.isDigit) :
    decimalValue (chars.map .of) = Nat.ofDigitChars 10 chars 0 := by
  rw [decimalValue, List.foldl_map, Nat.ofDigitChars_eq_foldl]
  suffices ∀ start, chars.foldl
      (fun value char => 10 * value + (digitValue? (.of char)).getD 0) start =
        chars.foldl (fun value char => 10 * value + (char.toNat - '0'.toNat)) start from
    this 0
  induction chars with
  | nil => exact fun start => rfl
  | cons char rest inductionHypothesis =>
      obtain ⟨first, later⟩ := List.forall_mem_cons.mp allDigits
      intro start
      rw [List.foldl_cons, List.foldl_cons, @digitValue_of_isDigit (.of char) first,
        inductionHypothesis later]
      rfl

/-- A row of digits is read as their number, if there are not too many. -/
theorem readInteger_of_isDigit (nonempty : digits ≠ [])
    (allDigits : ∀ letter ∈ digits, letter.isDigit) :
    readInteger? digits =
      if maximumDigits < digits.length then none else some (decimalValue digits : Int) := by
  have reversed : ∀ letter ∈ digits.reverse, letter.isDigit := by
    simpa using allDigits
  simp only [readInteger?, dropWhile_of_isDigit allDigits, dropWhile_of_isDigit reversed,
    List.reverse_reverse, splitSign_of_isDigit allDigits,
    numeralDigits_of_isDigit nonempty allDigits, Bool.false_eq_true, if_false]

theorem isDigit_of_mem_toDigits {value : Nat} {char : Char} (member : char ∈ Nat.toDigits 10 value) :
    char.isDigit :=
  Nat.isDigit_of_mem_toDigits (by decide) (by decide) member

theorem isDigit_of_mem_ofNat {value : Nat} (member : letter ∈ ofNat value) : letter.isDigit := by
  obtain ⟨char, among, rfl⟩ := List.mem_map.mp member
  exact isDigit_of_mem_toDigits among

/-- A number is read as itself exactly if it does not have too many digits. -/
theorem readInteger_ofNat (value : Nat) :
    readInteger? (ofNat value) =
      if value < 10 ^ maximumDigits then some (value : Int) else none := by
  have allDigits : ∀ letter ∈ ofNat value, letter.isDigit := fun _ => isDigit_of_mem_ofNat
  have size : (ofNat value).length ≤ maximumDigits ↔ value < 10 ^ maximumDigits := by
    rw [ofNat, List.length_map]
    exact Nat.length_toDigits_le_iff (by decide) (by decide)
  have nonempty : ofNat value ≠ [] :=
    fun empty => Nat.toDigits_ne_nil (List.map_eq_nil_iff.mp empty)
  have same : decimalValue (ofNat value) = value :=
    (decimalValue_of_isDigit fun _ => isDigit_of_mem_toDigits).trans
      Nat.ofDigitChars_ten_toDigits
  rw [readInteger_of_isDigit nonempty allDigits, same]
  by_cases short : value < 10 ^ maximumDigits
  · rw [if_neg (Nat.not_lt.mpr (size.mpr short)), if_pos short]
  · rw [if_pos (Nat.not_le.mp fun fits => short (size.mp fits)), if_neg short]

end Flourish.Text
