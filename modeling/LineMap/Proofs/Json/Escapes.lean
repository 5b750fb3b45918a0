import LineMap.Json.Indented
import LineMap.Proofs.Json.Phrase

/-!
# Written strings

A text that is written as a JSON string, be it in ASCII or with only those characters escaped that
have to be, is a string of the grammar, and the string denotes that text.
-/

set_option autoImplicit false

namespace LineMap.Json

open LineMap.Text

/-! ## Hexadecimal units -/

theorem hexPadded_add_two (width n : Nat) :
    hexPadded (width + 2) n = hexPadded (width + 1) (n / 16) ++ [Nat.digitChar (n % 16)] := by
  rw [hexPadded, hexPadded]
  by_cases small : n < 16
  · have none : n / 16 = 0 := Nat.div_eq_of_lt small
    rw [none, Nat.mod_eq_of_lt small, Nat.toDigits_of_lt_base small,
      Nat.toDigits_of_lt_base (by decide : 0 < 16)]
    simp [List.replicate_succ']
  · rw [Nat.toDigits_of_base_le (by decide) (Nat.le_of_not_lt small)]
    simp

theorem hexPadded_one {n : Nat} (small : n < 16) : hexPadded 1 n = [Nat.digitChar n] := by
  rw [hexPadded, Nat.toDigits_of_lt_base small]
  rfl

theorem exists_unit {n : Nat} (small : n < 0x10000) :
    ∃ unit : HexUnit, unit.cells = hexPadded 4 n ∧ unit.number = n := by
  have bound : ∀ k, k % 16 < 16 := fun k => Nat.mod_lt k (by decide)
  have top : n / 16 / 16 / 16 < 16 := by omega
  refine ⟨⟨⟨⟨n / 16 / 16 / 16, top⟩, false⟩, ⟨⟨n / 16 / 16 % 16, bound _⟩, false⟩,
    ⟨⟨n / 16 % 16, bound _⟩, false⟩, ⟨⟨n % 16, bound _⟩, false⟩⟩, ?_, ?_⟩
  · rw [hexPadded_add_two, hexPadded_add_two, hexPadded_add_two, hexPadded_one top]
    rfl
  · simp only [HexUnit.number]
    omega

/-! ## Characters -/

/-- Whether some pieces are written as the given cells and denote a character, whatever stands
behind them. -/
def IsWritten (c : Char) (cells : List Char) : Prop :=
  ∃ pieces, contentCells pieces = cells ∧
    ∀ rest, pointsOf (pieces ++ rest) = .scalar c :: pointsOf rest

theorem isWritten_short {letter c : Char} (denotes : escapeOf? letter = some c) :
    IsWritten c ['\\', letter] :=
  ⟨[.short letter c denotes], rfl, fun _ => rfl⟩

theorem isWritten_unit {c : Char} (small : c.toNat < 0x10000) :
    IsWritten c (unitEscape c.toNat) := by
  obtain ⟨unit, cells, number⟩ := exists_unit small
  have valid : c.toNat < 0xD800 ∨ 0xDFFF < c.toNat := c.valid.imp_right And.left
  have noLeading : isLeading unit.number = false := by
    rw [number, isLeading, Bool.and_eq_false_iff, decide_eq_false_iff_not, decide_eq_false_iff_not]
    omega
  have noTrailing : isTrailing unit.number = false := by
    rw [number, isTrailing, Bool.and_eq_false_iff, decide_eq_false_iff_not,
      decide_eq_false_iff_not]
    omega
  have point : unit.point = .scalar c := by
    rw [HexUnit.point, noLeading, noTrailing, number, Char.ofNat_toNat]
    rfl
  refine ⟨[.unicode unit], ?_, fun rest => ?_⟩
  · rw [unitEscape, ← cells]
    simp [contentCells, Piece.cells]
  · rw [List.singleton_append, ← point]
    cases rest with
    | nil => rfl
    | cons piece others =>
        cases piece with
        | unicode second => rw [pointsOf, noLeading, Bool.false_and, if_neg (by decide)]
        | plain d alone => simp [pointsOf]
        | short letter d denotes => simp [pointsOf]

/-- A character beyond the first plane is the two halves of its pair. -/
theorem isWritten_pair {c : Char} (large : 0x10000 ≤ c.toNat) :
    IsWritten c (unitEscape (0xD800 + (c.toNat - 0x10000) / 0x400) ++
      unitEscape (0xDC00 + (c.toNat - 0x10000) % 0x400)) := by
  have valid : c.toNat < 0x110000 := by
    rcases c.valid with low | high
    · exact Nat.lt_trans low (by decide)
    · exact high.2
  obtain ⟨first, firstCells, leading⟩ :=
    exists_unit (by omega : 0xD800 + (c.toNat - 0x10000) / 0x400 < 0x10000)
  obtain ⟨second, secondCells, trailing⟩ :=
    exists_unit (by omega : 0xDC00 + (c.toNat - 0x10000) % 0x400 < 0x10000)
  have leads : isLeading first.number = true := by
    rw [leading, isLeading, Bool.and_eq_true, decide_eq_true_eq, decide_eq_true_eq]
    omega
  have trails : isTrailing second.number = true := by
    rw [trailing, isTrailing, Bool.and_eq_true, decide_eq_true_eq, decide_eq_true_eq]
    omega
  have whole : 0x10000 + (first.number - 0xD800) * 0x400 + (second.number - 0xDC00) =
      c.toNat := by
    rw [leading, trailing]
    omega
  refine ⟨[.unicode first, .unicode second], ?_, fun rest => ?_⟩
  · rw [unitEscape, unitEscape, ← firstCells, ← secondCells]
    simp [contentCells, Piece.cells]
  · rw [List.cons_append, List.singleton_append, pointsOf, leads, trails, pairChar, whole,
      Char.ofNat_toNat]
    rfl

theorem isWritten_marked {c : Char} {cells : List Char}
    (other : c ≠ '"' → c ≠ '\\' → IsWritten c cells) :
    IsWritten c
      (if c = '"' || c = '\\' then ['\\', c]
      else if c = '\n' then ['\\', 'n']
      else if c = '\r' then ['\\', 'r']
      else if c = '\t' then ['\\', 't']
      else if c = '\x0c' then ['\\', 'f']
      else if c = '\x08' then ['\\', 'b']
      else cells) := by
  split
  · rename_i marks
    rw [Bool.or_eq_true, decide_eq_true_eq, decide_eq_true_eq] at marks
    rcases marks with rfl | rfl
    · exact isWritten_short rfl
    · exact isWritten_short rfl
  rename_i noMark
  split
  · subst_vars
    exact isWritten_short rfl
  split
  · subst_vars
    exact isWritten_short rfl
  split
  · subst_vars
    exact isWritten_short rfl
  split
  · subst_vars
    exact isWritten_short rfl
  split
  · subst_vars
    exact isWritten_short rfl
  · rw [Bool.or_eq_true, decide_eq_true_eq, decide_eq_true_eq, not_or] at noMark
    exact other noMark.1 noMark.2

theorem isWritten_plain {c : Char} (alone : StandsAlone c) : IsWritten c [c] :=
  ⟨[.plain c alone], rfl, fun _ => rfl⟩

theorem isWritten_asciiChar (c : Char) : IsWritten c (asciiChar c) := by
  refine isWritten_marked fun noQuote noBackslash => ?_
  split
  · rename_i printable
    rw [Bool.and_eq_true, decide_eq_true_eq, decide_eq_true_eq] at printable
    exact isWritten_plain ⟨noQuote, noBackslash, printable.1⟩
  split
  · rename_i small
    exact isWritten_unit small
  · rename_i large
    exact isWritten_pair (Nat.le_of_not_lt large)

theorem isWritten_escapedChar (c : Char) : IsWritten c (escapedChar c) := by
  refine isWritten_marked fun noQuote noBackslash => ?_
  split
  · rename_i control
    exact isWritten_unit (Nat.lt_trans control (by decide))
  · rename_i noControl
    exact isWritten_plain ⟨noQuote, noBackslash, Nat.le_of_not_lt noControl⟩

/-! ## Texts -/

section Texts

variable {write : Char → List Char}

theorem exists_pieces (each : ∀ c, IsWritten c (write c)) (cells : List Char) :
    ∃ pieces, contentCells pieces = cells.flatMap write ∧ pointsOf pieces = cells.map .scalar := by
  induction cells with
  | nil => exact ⟨[], rfl, rfl⟩
  | cons c others inductionHypothesis =>
      obtain ⟨first, firstCells, denotes⟩ := each c
      obtain ⟨rest, restCells, points⟩ := inductionHypothesis
      refine ⟨first ++ rest, ?_, ?_⟩
      · rw [List.flatMap_cons, ← firstCells, ← restCells]
        exact List.flatMap_append
      · rw [denotes, points, List.map_cons]

theorem exists_quoted (each : ∀ c, IsWritten c (write c)) (cells : List Char) :
    ∃ pieces, quotedCells pieces = '"' :: (cells.flatMap write ++ ['"']) ∧
      pointsOf pieces = cells.map .scalar := by
  obtain ⟨pieces, content, points⟩ := exists_pieces each cells
  exact ⟨pieces, by rw [quotedCells, content], points⟩

end Texts

theorem exists_quoted_ascii (text : String) :
    ∃ pieces, quotedCells pieces = (asciiString (Str.ofString text)).toList ∧
      pointsOf pieces = Str.ofString text := by
  obtain ⟨pieces, cells, points⟩ := exists_quoted isWritten_asciiChar text.toList
  refine ⟨pieces, ?_, points⟩
  rw [cells, asciiString, String.toList_ofList, Str.ofString, List.flatMap_map]
  rfl

/-- Every text is denoted by the string that is written for it with the fewest escapes. -/
theorem exists_quoted_escaped {s : Str} (isText : s.IsText) :
    ∃ pieces, quotedCells pieces = (escapedString s).toList ∧ pointsOf pieces = s := by
  obtain ⟨text, rfl⟩ := isText.exists_eq_map
  obtain ⟨pieces, cells, points⟩ := exists_quoted isWritten_escapedChar text
  refine ⟨pieces, ?_, points⟩
  rw [cells, escapedString, String.toList_ofList, List.flatMap_map]
  rfl

end LineMap.Json
