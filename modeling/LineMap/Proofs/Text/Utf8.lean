import LineMap.Text.Utf8
import Mathlib.Tactic.SplitIfs

/-!
# Decoding what was encoded

The bytes of a character take the decoder from between characters to between characters, with that
character added.  So a text is what its UTF-8 form decodes to.  Every byte of a character that is
not ASCII lies above ASCII.
-/

set_option autoImplicit false

namespace LineMap.Text.Utf8

/-! ## The first byte of a character -/

theorem lead_one {byte : UInt8} (high : byte.toNat < 0x80) (position : Nat)
    (decoded : List Char) :
    lead position decoded byte = .ready (position + 1) (Char.ofNat byte.toNat :: decoded) := by
  rw [lead, if_pos (UInt8.lt_iff_toNat_lt.mpr high)]

theorem lead_two {byte : UInt8} (low : 0xC2 ≤ byte.toNat) (high : byte.toNat < 0xE0)
    (position : Nat) (decoded : List Char) :
    lead position decoded byte =
      .within decoded ⟨position, byte, 1, 1, 0x80, 0xBF, byte.toNat % 0x20⟩ := by
  simp only [lead, UInt8.lt_iff_toNat_lt, UInt8.reduceToNat]
  rw [if_neg (by omega), if_neg (by omega), if_pos (by omega)]

/-- The second of three bytes is bounded below after the least first byte, and above before the
surrogates. -/
theorem lead_three {byte : UInt8} (low : 0xE0 ≤ byte.toNat) (high : byte.toNat < 0xF0)
    (position : Nat) (decoded : List Char) :
    lead position decoded byte =
      .within decoded ⟨position, byte, 1, 2, if byte.toNat = 0xE0 then 0xA0 else 0x80,
        if byte.toNat = 0xED then 0x9F else 0xBF, byte.toNat % 0x10⟩ := by
  simp only [lead, UInt8.lt_iff_toNat_lt, ← UInt8.toNat_inj, UInt8.reduceToNat]
  rw [if_neg (by omega), if_neg (by omega), if_neg (by omega)]
  by_cases least : byte.toNat = 0xE0
  · simp [least]
  · by_cases special : byte.toNat = 0xED
    · simp [special]
    · rw [if_neg least, if_neg special, if_pos high, if_neg least, if_neg special]

/-- The second of four bytes is bounded below after the least first byte, and above after the
greatest. -/
theorem lead_four {byte : UInt8} (low : 0xF0 ≤ byte.toNat) (high : byte.toNat < 0xF5)
    (position : Nat) (decoded : List Char) :
    lead position decoded byte =
      .within decoded ⟨position, byte, 1, 3, if byte.toNat = 0xF0 then 0x90 else 0x80,
        if byte.toNat = 0xF4 then 0x8F else 0xBF, byte.toNat % 0x08⟩ := by
  simp only [lead, UInt8.lt_iff_toNat_lt, ← UInt8.toNat_inj, UInt8.reduceToNat]
  rw [if_neg (by omega), if_neg (by omega), if_neg (by omega), if_neg (by omega),
    if_neg (by omega), if_neg (by omega)]
  by_cases least : byte.toNat = 0xF0
  · simp [least]
  · by_cases greatest : byte.toNat = 0xF4
    · simp [greatest]
    · rw [if_neg least, if_pos (by omega), if_neg least, if_neg greatest]

/-! ## The bytes behind it -/

variable {position seen missing code : Nat} {first low high byte : UInt8}

theorem step_last (above : low.toNat ≤ byte.toNat) (below : byte.toNat ≤ high.toNat)
    (decoded : List Char) :
    step (.within decoded ⟨position, first, seen, 1, low, high, code⟩) byte =
      .ready (position + seen + 1) (Char.ofNat (64 * code + byte.toNat % 64) :: decoded) := by
  have inside : (low ≤ byte && byte ≤ high) = true := by
    simp [UInt8.le_iff_toNat_le, above, below]
  simp only [step, inside, if_true]

theorem step_more (above : low.toNat ≤ byte.toNat) (below : byte.toNat ≤ high.toNat)
    (decoded : List Char) :
    step (.within decoded ⟨position, first, seen, missing + 2, low, high, code⟩) byte =
      .within decoded ⟨position, first, seen + 1, missing + 1, 0x80, 0xBF,
        64 * code + byte.toNat % 64⟩ := by
  have inside : (low ≤ byte && byte ≤ high) = true := by
    simp [UInt8.le_iff_toNat_le, above, below]
  have more : ¬missing + 2 = 1 := by omega
  simp only [step, inside, if_true, if_neg more]
  rfl

/-! ## A whole character -/

section Character

variable {n : Nat} {b₁ b₂ b₃ b₄ : UInt8}

/-- A byte behind the first that is not bounded in a special way. -/
theorem tail_bounds {part : Nat} {byte : UInt8} (value : byte.toNat = part % 64 + 128) :
    (0x80 : UInt8).toNat ≤ byte.toNat ∧ byte.toNat ≤ (0xBF : UInt8).toNat := by
  simp only [UInt8.reduceToNat]
  omega

theorem foldl_step_two (size : 0x80 ≤ n ∧ n ≤ 0x7FF) (first : b₁.toNat = n / 64 % 32 + 192)
    (second : b₂.toNat = n % 64 + 128) (position : Nat) (decoded : List Char) :
    [b₁, b₂].foldl step (.ready position decoded) =
      .ready (position + 2) (Char.ofNat n :: decoded) := by
  have whole : 64 * (b₁.toNat % 0x20) + b₂.toNat % 64 = n := by omega
  obtain ⟨above, below⟩ := tail_bounds second
  rw [List.foldl_cons, step, lead_two (by omega) (by omega), List.foldl_cons, List.foldl_nil,
    step_last above below, whole]

theorem foldl_step_three (size : 0x800 ≤ n ∧ n ≤ 0xFFFF) (noSurrogate : n < 0xD800 ∨ 0xDFFF < n)
    (first : b₁.toNat = n / 4096 % 16 + 224) (second : b₂.toNat = n / 64 % 64 + 128)
    (third : b₃.toNat = n % 64 + 128) (position : Nat) (decoded : List Char) :
    [b₁, b₂, b₃].foldl step (.ready position decoded) =
      .ready (position + 3) (Char.ofNat n :: decoded) := by
  have whole : 64 * (64 * (b₁.toNat % 0x10) + b₂.toNat % 64) + b₃.toNat % 64 = n := by omega
  have above : (if b₁.toNat = 0xE0 then 0xA0 else 0x80 : UInt8).toNat ≤ b₂.toNat := by
    split_ifs <;> simp only [UInt8.reduceToNat] <;> omega
  have below : b₂.toNat ≤ (if b₁.toNat = 0xED then 0x9F else 0xBF : UInt8).toNat := by
    split_ifs <;> simp only [UInt8.reduceToNat] <;> omega
  obtain ⟨thirdAbove, thirdBelow⟩ := tail_bounds third
  rw [List.foldl_cons, step, lead_three (by omega) (by omega), List.foldl_cons,
    step_more above below, List.foldl_cons, List.foldl_nil, step_last thirdAbove thirdBelow, whole]

theorem foldl_step_four (size : 0x10000 ≤ n ∧ n < 0x110000)
    (first : b₁.toNat = n / 262144 % 8 + 240) (second : b₂.toNat = n / 4096 % 64 + 128)
    (third : b₃.toNat = n / 64 % 64 + 128) (fourth : b₄.toNat = n % 64 + 128) (position : Nat)
    (decoded : List Char) :
    [b₁, b₂, b₃, b₄].foldl step (.ready position decoded) =
      .ready (position + 4) (Char.ofNat n :: decoded) := by
  have whole : 64 * (64 * (64 * (b₁.toNat % 0x08) + b₂.toNat % 64) + b₃.toNat % 64) +
      b₄.toNat % 64 = n := by omega
  have above : (if b₁.toNat = 0xF0 then 0x90 else 0x80 : UInt8).toNat ≤ b₂.toNat := by
    split_ifs <;> simp only [UInt8.reduceToNat] <;> omega
  have below : b₂.toNat ≤ (if b₁.toNat = 0xF4 then 0x8F else 0xBF : UInt8).toNat := by
    split_ifs <;> simp only [UInt8.reduceToNat] <;> omega
  obtain ⟨thirdAbove, thirdBelow⟩ := tail_bounds third
  obtain ⟨fourthAbove, fourthBelow⟩ := tail_bounds fourth
  rw [List.foldl_cons, step, lead_four (by omega) (by omega), List.foldl_cons,
    step_more above below, List.foldl_cons, step_more thirdAbove thirdBelow, List.foldl_cons,
    List.foldl_nil, step_last fourthAbove fourthBelow, whole]

end Character

theorem foldl_step_utf8EncodeChar (c : Char) (position : Nat) (decoded : List Char) :
    (String.utf8EncodeChar c).foldl step (.ready position decoded) =
      .ready (position + (String.utf8EncodeChar c).length) (c :: decoded) := by
  have valid : c.val.toNat < 0xD800 ∨ (0xDFFF < c.val.toNat ∧ c.val.toNat < 0x110000) := c.valid
  have back : Char.ofNat c.val.toNat = c := Char.ofNat_toNat c
  have value : ∀ n, n < 256 → (UInt8.ofNat n).toNat = n := fun n small =>
    UInt8.toNat_ofNat_of_lt' small
  simp only [String.utf8EncodeChar]
  generalize c.val.toNat = n at valid back
  subst back
  split_ifs
  · have ascii := value n (by omega)
    rw [List.foldl_cons, step, lead_one (by omega), ascii]
    rfl
  · exact foldl_step_two (by omega) (value _ (by omega)) (value _ (by omega)) position decoded
  · exact foldl_step_three (by omega) (by omega) (value _ (by omega)) (value _ (by omega))
      (value _ (by omega)) position decoded
  · exact foldl_step_four (by omega) (value _ (by omega)) (value _ (by omega))
      (value _ (by omega)) (value _ (by omega)) position decoded

/-! ## A whole text -/

theorem encode_cons (c : Char) (rest : List Char) :
    encode (c :: rest) = String.utf8EncodeChar c ++ encode rest :=
  List.flatMap_cons

theorem encode_append (front rest : List Char) :
    encode (front ++ rest) = encode front ++ encode rest :=
  List.flatMap_append

theorem foldl_step_encode (text : List Char) (position : Nat) (decoded : List Char) :
    (encode text).foldl step (.ready position decoded) =
      .ready (position + (encode text).length) (text.reverse ++ decoded) := by
  induction text generalizing position decoded with
  | nil => rfl
  | cons c rest inductionHypothesis =>
      rw [encode_cons, List.foldl_append, foldl_step_utf8EncodeChar, inductionHypothesis,
        List.length_append, Nat.add_assoc, List.reverse_cons, List.append_assoc,
        List.singleton_append]

theorem decode_encode (text : List Char) : decode (encode text) = .ok text := by
  rw [decode, foldl_step_encode, finish, List.append_nil, List.reverse_reverse]

/-! ## ASCII and what lies above it -/

theorem utf8EncodeChar_of_lt {c : Char} (ascii : c.toNat < 0x80) :
    String.utf8EncodeChar c = [UInt8.ofNat c.toNat] := by
  have small : c.val.toNat ≤ 0x7F := Nat.le_of_lt_succ ascii
  simp only [String.utf8EncodeChar, if_pos small]
  rfl

theorem exists_utf8EncodeChar_cons (c : Char) :
    ∃ byte bytes, String.utf8EncodeChar c = byte :: bytes := by
  refine List.exists_cons_of_ne_nil (List.length_pos_iff.mp ?_)
  rw [String.length_utf8EncodeChar]
  exact c.utf8Size_pos

theorem le_of_mem_utf8EncodeChar {c : Char} (above : 0x80 ≤ c.toNat) :
    ∀ byte ∈ String.utf8EncodeChar c, 0x80 ≤ byte.toNat := by
  have large : ¬c.val.toNat ≤ 0x7F := Nat.not_le_of_lt above
  have value : ∀ n, n < 256 → (UInt8.ofNat n).toNat = n := fun n small =>
    UInt8.toNat_ofNat_of_lt' small
  simp only [String.utf8EncodeChar, if_neg large]
  intro byte member
  split_ifs at member
  all_goals
    simp only [List.mem_cons, List.not_mem_nil, or_false] at member
    rcases member with rfl | rfl | rfl | rfl <;> rw [value _ (by omega)] <;> omega

end LineMap.Text.Utf8
