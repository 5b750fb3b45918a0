import LineMap.Text.Blank
import LineMap.Text.Digit
import Mathlib.Data.List.Forall2
import Mathlib.Data.Nat.Digits.Defs

/-!
# What digits count

The blocks of the scripts' digits do not overlap, so a digit has one value, and a run of digits
denotes one number in base ten, whatever scripts its digits are taken from.  No digit is a blank.
The decimal digits of a natural number denote that number, and only zero begins with a zero.
-/

set_option autoImplicit false

namespace LineMap.Text

/-- A character is the digit for a value in some script: it stands so far behind the script's
zero. -/
def IsDigitOf (c : Char) (value : Nat) : Prop :=
  value < 10 ∧ ∃ start ∈ digitZeros, c.toNat = start + value

theorem digitZeros_apart : ∀ start ∈ digitZeros, ∀ other ∈ digitZeros,
    start = other ∨ start + 10 ≤ other ∨ other + 10 ≤ start := by
  decide +kernel

section

variable {c : Char} {value : Nat}

theorem IsDigitOf.unique {other : Nat} (isDigitOf : IsDigitOf c value)
    (otherIsDigitOf : IsDigitOf c other) : value = other := by
  obtain ⟨small, start, listed, place⟩ := isDigitOf
  obtain ⟨otherSmall, otherStart, otherListed, otherPlace⟩ := otherIsDigitOf
  have apart := digitZeros_apart start listed otherStart otherListed
  omega

theorem digitValue?_eq_some_iff : digitValue? c = some value ↔ IsDigitOf c value := by
  have sound : ∀ found, digitValue? c = some found → IsDigitOf c found := by
    intro found success
    obtain ⟨start, listed, here⟩ := List.exists_of_findSome?_eq_some success
    obtain ⟨inBlock, same⟩ := Option.ite_none_right_eq_some.mp here
    obtain rfl := Option.some.inj same
    exact ⟨by omega, start, listed, by omega⟩
  refine ⟨sound value, fun isDigitOf => ?_⟩
  cases found : digitValue? c with
  | some other => rw [(sound other found).unique isDigitOf]
  | none =>
      obtain ⟨small, start, listed, place⟩ := isDigitOf
      have outside := List.findSome?_eq_none_iff.mp found start listed
      rw [if_pos (by omega)] at outside
      cases outside

theorem isDigit_iff : isDigit c = true ↔ ∃ value, IsDigitOf c value := by
  simp only [isDigit, Option.isSome_iff_exists, digitValue?_eq_some_iff]

theorem isBlank_eq_false_of_isDigit (digit : isDigit c = true) : isBlank c = false := by
  have apart : ∀ start ∈ digitZeros, ∀ value < 10, isBlank (Char.ofNat (start + value)) = false := by
    decide +kernel
  obtain ⟨value, small, start, listed, place⟩ := isDigit_iff.mp digit
  rw [← Char.ofNat_toNat c, place]
  exact apart start listed value small

theorem isDigit_eq_false_of_isBlank (blank : isBlank c = true) : isDigit c = false := by
  by_contra digit
  rw [isBlank_eq_false_of_isDigit (Bool.not_eq_false _ ▸ digit)] at blank
  cases blank

end

/-! ## Numbers -/

/-- The number that a run of digits denotes in base ten; the last digit counts the ones. -/
def Denotes (digits : List Char) (number : Nat) : Prop :=
  ∃ values, List.Forall₂ IsDigitOf digits values ∧ number = Nat.ofDigits 10 values.reverse

section

variable {digits : List Char}

theorem foldl_digits {values : List Nat} (isDigitOf : List.Forall₂ IsDigitOf digits values) :
    ∀ start, digits.foldl (fun value c => 10 * value + (digitValue? c).getD 0) start =
      Nat.ofDigits 10 (values.reverse ++ [start]) := by
  induction isDigitOf with
  | nil => exact fun start => Nat.ofDigits_singleton.symm
  | @cons c value rest values first _ inductionHypothesis =>
      intro start
      have taken : Nat.ofDigits 10 [value, start] = 10 * start + value := by
        rw [Nat.ofDigits_cons, Nat.ofDigits_singleton, Nat.add_comm]
      rw [List.foldl_cons, inductionHypothesis, digitValue?_eq_some_iff.mpr first,
        Option.getD_some, List.reverse_cons, List.append_assoc, List.singleton_append,
        Nat.ofDigits_append, Nat.ofDigits_append, Nat.ofDigits_singleton, taken]

theorem numberOf_eq_ofDigits {values : List Nat}
    (isDigitOf : List.Forall₂ IsDigitOf digits values) :
    numberOf digits = Nat.ofDigits 10 values.reverse := by
  rw [numberOf, foldl_digits isDigitOf, Nat.ofDigits_append_zero]

theorem exists_values (allDigits : ∀ c ∈ digits, isDigit c = true) :
    ∃ values, List.Forall₂ IsDigitOf digits values := by
  induction digits with
  | nil => exact ⟨[], .nil⟩
  | cons c rest inductionHypothesis =>
      obtain ⟨first, others⟩ := List.forall_mem_cons.mp allDigits
      obtain ⟨value, isDigitOf⟩ := isDigit_iff.mp first
      obtain ⟨values, later⟩ := inductionHypothesis others
      exact ⟨value :: values, .cons isDigitOf later⟩

/-- A run of digits denotes the number that is read from it and no other. -/
theorem denotes_iff (allDigits : ∀ c ∈ digits, isDigit c = true) (number : Nat) :
    Denotes digits number ↔ number = numberOf digits := by
  constructor
  · rintro ⟨values, isDigitOf, rfl⟩
    exact (numberOf_eq_ofDigits isDigitOf).symm
  · rintro rfl
    obtain ⟨values, isDigitOf⟩ := exists_values allDigits
    exact ⟨values, isDigitOf, numberOf_eq_ofDigits isDigitOf⟩

end

theorem digitValue?_getD_lt (c : Char) : (digitValue? c).getD 0 < 10 := by
  cases found : digitValue? c with
  | none => decide
  | some value => exact (digitValue?_eq_some_iff.mp found).1

/-- A run of characters denotes less than the power of ten that has one digit more. -/
theorem numberOf_lt (digits : List Char) : numberOf digits < 10 ^ digits.length := by
  have grows : ∀ start, digits.foldl (fun value c => 10 * value + (digitValue? c).getD 0) start <
      (start + 1) * 10 ^ digits.length := by
    induction digits with
    | nil => intro start; simp
    | cons c rest inductionHypothesis =>
        intro start
        have digit := digitValue?_getD_lt c
        have next : 10 * start + (digitValue? c).getD 0 + 1 ≤ (start + 1) * 10 := by omega
        refine Nat.lt_of_lt_of_le (inductionHypothesis _) ?_
        rw [List.length_cons, Nat.pow_succ', ← Nat.mul_assoc]
        exact Nat.mul_le_mul_right _ next
  have whole := grows 0
  rwa [Nat.zero_add, Nat.one_mul] at whole

/-! ## Decimal digits -/

theorem isDigitOf_of_isDigit {c : Char} (digit : c.isDigit = true) :
    IsDigitOf c (c.toNat - '0'.toNat) := by
  have range : 0x30 ≤ c.toNat ∧ c.toNat < 0x30 + 10 := by
    simp only [Char.isDigit, Bool.and_eq_true, decide_eq_true_eq] at digit
    exact ⟨digit.1, Nat.lt_succ_of_le digit.2⟩
  exact ⟨Nat.sub_lt_left_of_lt_add range.1 range.2, 0x30, List.mem_cons_self,
    (Nat.add_sub_cancel' range.1).symm⟩

theorem numberOf_eq_ofDigitChars {digits : List Char}
    (allDigits : ∀ c ∈ digits, c.isDigit = true) :
    numberOf digits = Nat.ofDigitChars 10 digits 0 := by
  rw [numberOf, Nat.ofDigitChars_eq_foldl]
  apply List.foldl_ext
  intro value c member
  rw [digitValue?_eq_some_iff.mpr (isDigitOf_of_isDigit (allDigits c member)), Option.getD_some]

theorem isDigit_of_mem_decimal {n : Nat} : ∀ c ∈ Nat.toDigits 10 n, c.isDigit = true :=
  fun _ member => Nat.isDigit_of_mem_toDigits (by decide) (by decide) member

theorem numberOf_decimal (n : Nat) : numberOf (Nat.toDigits 10 n) = n := by
  rw [numberOf_eq_ofDigitChars isDigit_of_mem_decimal, Nat.ofDigitChars_ten_toDigits]

theorem head?_decimal {n : Nat} (positive : 0 < n) :
    (Nat.toDigits 10 n).head? ≠ some '0' := by
  induction n using Nat.strongRecOn with
  | ind n inductionHypothesis =>
      by_cases small : n < 10
      · have single : ∀ n < 10, 0 < n → [n.digitChar].head? ≠ some '0' := by decide
        rw [Nat.toDigits_of_lt_base small]
        exact single n small positive
      · rw [Nat.toDigits_of_base_le (by decide) (Nat.le_of_not_lt small), List.head?_append]
        have shorter := inductionHypothesis (n / 10) (by omega) (by omega)
        cases first : (Nat.toDigits 10 (n / 10)).head? with
        | some c =>
            rw [first] at shorter
            exact shorter
        | none => exact absurd (List.head?_eq_none_iff.mp first) Nat.toDigits_ne_nil

theorem decimal_of_head? {n : Nat} (leads : (Nat.toDigits 10 n).head? = some '0') :
    Nat.toDigits 10 n = ['0'] := by
  have zero : n = 0 := Nat.eq_zero_of_not_pos fun positive => head?_decimal positive leads
  rw [zero]
  rfl

theorem isAsciiDigit_of_isDigit {c : Char} (digit : c.isDigit = true) :
    isAsciiDigit c = true := by
  simp only [Char.isDigit, Bool.and_eq_true, decide_eq_true_eq] at digit
  rw [isAsciiDigit, Bool.and_eq_true, decide_eq_true_eq, decide_eq_true_eq]
  exact digit

end LineMap.Text
