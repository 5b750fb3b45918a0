import LineMap.Number.Literal
import LineMap.Proofs.Text.Digits

/-!
# Integers that can be written

An integer can be written if it lies below a power of ten.  The readings of integers refuse what has
more digits, so whatever they give can be written.
-/

set_option autoImplicit false

namespace LineMap.Number

open LineMap.Text

theorem isWritable_iff (n : Int) : isWritable n = true ↔ n.natAbs < 10 ^ digitLimit := by
  rw [isWritable, decide_eq_true_iff, Nat.length_toDigits_le_iff (by decide) (by decide)]

theorem isWritable_of_lt {n : Int} {digits : Nat} (small : n.natAbs < 10 ^ digits)
    (short : digits ≤ digitLimit) : isWritable n = true :=
  (isWritable_iff n).mpr (Nat.lt_of_lt_of_le small (Nat.pow_le_pow_right (by decide) short))

theorem natAbs_signed (negative : Bool) (size : Nat) : (signed negative size).natAbs = size := by
  cases negative <;> simp [signed]

theorem isWritable_signed_numberOf (negative : Bool) {digits : List Char}
    (short : digits.length ≤ digitLimit) :
    isWritable (signed negative (numberOf digits)) = true := by
  refine isWritable_of_lt ?_ short
  rw [natAbs_signed]
  exact numberOf_lt digits

theorem isWritable_of_canonicalInteger {text : List Char} {n : Int}
    (read : canonicalInteger text = some n) : isWritable n = true := by
  unfold canonicalInteger at read
  dsimp only at read
  split at read
  next fits =>
    cases read
    rw [Bool.and_eq_true, decide_eq_true_eq] at fits
    exact isWritable_signed_numberOf _ fits.2
  next => cases read

theorem isWritable_of_parseInteger {text : List Char} {n : Int}
    (read : parseInteger text = .ok n) : isWritable n = true := by
  unfold parseInteger at read
  split at read
  · cases read
  · dsimp only at read
    split at read
    next found =>
      cases read
      obtain ⟨plain, -, canonical⟩ := Option.bind_eq_some_iff.mp found
      exact isWritable_of_canonicalInteger canonical
    next => cases read

end LineMap.Number
