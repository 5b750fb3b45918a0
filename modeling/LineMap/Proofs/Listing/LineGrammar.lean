import LineMap.Proofs.Listing.AnnotatedLines
import LineMap.Proofs.Text.Digits

/-!
# Classification by the grammar

Every line has one kind by the grammar, and it is classified as that kind, an annotation with the
number that its digits denote.  Only an annotation with too many digits is not classified.  The
parts of an annotation can be told from the line, so what was written is read back.
-/

set_option autoImplicit false

namespace LineMap.Listing.Annotated

open LineMap.Number
open LineMap.Text

variable {line : List Char}

/-- An annotation is made of a file name and the digits of a line number; `IsMarking` leaves the
file name open. -/
def Spells (line file digits : List Char) : Prop :=
  ':' ∉ file ∧ digits ≠ [] ∧ (∀ c ∈ digits, isDigit c = true) ∧
    line = "     annotation: ".toList ++ (file ++ ':' :: digits)

/-- The first colon behind the opening ends the file name, so both parts are settled. -/
theorem Spells.unique {file digits otherFile otherDigits : List Char}
    (spells : Spells line file digits) (otherSpells : Spells line otherFile otherDigits) :
    file = otherFile ∧ digits = otherDigits := by
  obtain rfl : otherDigits = digits :=
    IsMarking.unique ⟨file, spells⟩ ⟨otherFile, otherSpells⟩
  obtain ⟨-, -, -, whole⟩ := spells
  obtain ⟨-, -, -, otherWhole⟩ := otherSpells
  have same := List.append_cancel_left (whole.symm.trans otherWhole)
  exact ⟨List.append_cancel_right same, rfl⟩

/-! ## The classification -/

variable (noFeed : '\n' ∉ line)

include noFeed

theorem classify_eq_ok_iff {kind : LineKind} (noMarking : kind ≠ .marking)
    (annotated : Option Int) :
    classify line = .ok (kind, annotated) ↔ IsOfKind line kind ∧ annotated = none := by
  constructor
  · intro success
    obtain ⟨digits, marking, classified⟩ | ⟨actual, -, isActual, -, classified⟩ :=
      classify_cases noFeed
    · rw [classified] at success
      split at success
      · cases success
        exact absurd rfl noMarking
      · cases success
    · rw [classified] at success
      cases success
      exact ⟨isActual, rfl⟩
  · rintro ⟨isOfKind, rfl⟩
    exact classify_of_isOfKind noFeed isOfKind noMarking

theorem classify_eq_marking_iff (annotated : Option Int) :
    classify line = .ok (.marking, annotated) ↔
      ∃ digits number, IsMarking line digits ∧ digits.length ≤ digitLimit ∧
        Denotes digits number ∧ annotated = some (number : Int) := by
  constructor
  · intro success
    obtain ⟨digits, marking, classified⟩ | ⟨actual, noMarking, -, -, classified⟩ :=
      classify_cases noFeed
    · rw [classified] at success
      split at success
      next short =>
        cases success
        exact ⟨digits, numberOf digits, marking, short, (denotes_iff marking.allDigits _).mpr rfl,
          rfl⟩
      next => cases success
    · rw [classified] at success
      cases success
      exact absurd rfl noMarking
  · rintro ⟨digits, number, marking, short, denotes, rfl⟩
    rw [classify_of_isMarking noFeed marking, if_pos short,
      (denotes_iff marking.allDigits _).mp denotes]

omit noFeed

/-! ## Reading back what was written -/

def markingLine (file : String) (number : Nat) : List Char :=
  ("     annotation: " ++ file ++ ":" ++ toString number).toList

section

variable {file : String} {number : Nat}

theorem markingLine_eq (file : String) (number : Nat) :
    markingLine file number =
      "     annotation: ".toList ++ (file.toList ++ ':' :: Nat.toDigits 10 number) := by
  simp [markingLine, Nat.toString_eq_repr, Nat.toList_repr]

theorem isMarking_markingLine (noColon : ':' ∉ file.toList) :
    IsMarking (markingLine file number) (Nat.toDigits 10 number) :=
  ⟨file.toList, noColon, Nat.toDigits_ne_nil,
    fun c member => isDigit_iff.mpr ⟨_, isDigitOf_of_isDigit (isDigit_of_mem_decimal c member)⟩,
    markingLine_eq file number⟩

theorem feed_notMem_markingLine (noFeed : '\n' ∉ file.toList) :
    '\n' ∉ markingLine file number := by
  have noDigit : '\n' ∉ Nat.toDigits 10 number := fun member =>
    absurd (isDigit_of_mem_decimal '\n' member) (by decide)
  rw [markingLine_eq]
  simp [noFeed, noDigit]

theorem classify_markingLine (noColon : ':' ∉ file.toList) (noFeed : '\n' ∉ file.toList)
    (short : number < 10 ^ digitLimit) :
    classify (markingLine file number) = .ok (.marking, some (number : Int)) := by
  have length : (Nat.toDigits 10 number).length ≤ digitLimit :=
    (Nat.length_toDigits_le_iff (by decide) (by decide)).mpr short
  rw [classify_of_isMarking (feed_notMem_markingLine noFeed) (isMarking_markingLine noColon),
    if_pos length, numberOf_decimal]

end

/-! ## The grammar -/

/-- A line without a line feed is of one kind by the grammar.  It is classified as an annotation
exactly if it is one whose digits are not too many, with the number that they denote; as any other
kind exactly if it is of that kind, with no number; and not at all exactly if it is an annotation
with too many digits.  File name and digits of an annotation are settled by the line.  So an
annotation that is written of a file name and a number that has not too many digits is read back. -/
theorem classify_exactly_grammar :
    (∀ line : List Char, '\n' ∉ line →
      (∃! kind, IsOfKind line kind) ∧
      (∀ kind ≠ LineKind.marking, ∀ annotated,
        classify line = .ok (kind, annotated) ↔ IsOfKind line kind ∧ annotated = none) ∧
      (∀ annotated, classify line = .ok (.marking, annotated) ↔
        ∃ digits number, IsMarking line digits ∧ digits.length ≤ digitLimit ∧
          Denotes digits number ∧ annotated = some (number : Int)) ∧
      (∀ overlong, classify line = .error overlong ↔ IsOverlong line overlong) ∧
      ∀ file digits otherFile otherDigits, Spells line file digits →
        Spells line otherFile otherDigits → file = otherFile ∧ digits = otherDigits) ∧
    ∀ (file : String) (number : Nat), ':' ∉ file.toList → '\n' ∉ file.toList →
      number < 10 ^ digitLimit →
      classify (markingLine file number) = .ok (.marking, some (number : Int)) := by
  refine ⟨fun line noFeed => ⟨existsUnique_isOfKind line, ?_, classify_eq_marking_iff noFeed,
    classify_eq_error_iff noFeed, ?_⟩, ?_⟩
  · exact fun kind noMarking => classify_eq_ok_iff noFeed noMarking
  · exact fun file digits otherFile otherDigits => Spells.unique
  · exact fun file number => classify_markingLine

/-- An annotation that was written, one with digits of another script, and a frame header. -/
theorem classify_exactly_grammar_three :
    classify (markingLine "foo.raku" 10) = .ok (.marking, some 10) ∧
    classify "     annotation: f:\u0661\u0662".toList = .ok (.marking, some 12) ∧
    classify "  Frame_7 :".toList = .ok (.frame, none) := by
  obtain ⟨ofLine, written⟩ := classify_exactly_grammar
  refine ⟨written "foo.raku" 10 (by decide) (by decide) (by decide +kernel), ?_, ?_⟩
  · have marking : IsMarking "     annotation: f:\u0661\u0662".toList ['\u0661', '\u0662'] :=
      ⟨['f'], by decide, by decide, List.all_eq_true.mp (by decide), by decide⟩
    have denotes : Denotes ['\u0661', '\u0662'] 12 :=
      ⟨[1, 2], .cons ⟨by decide, 0x660, by decide, by decide⟩
        (.cons ⟨by decide, 0x660, by decide, by decide⟩ .nil), by decide⟩
    exact ((ofLine _ (by decide)).2.2.1 _).mpr ⟨_, 12, marking, by decide, denotes, rfl⟩
  · exact ((ofLine _ (by decide)).2.1 .frame (by decide) none).mpr
      ⟨⟨['7'], by decide, List.all_eq_true.mp (by decide), by decide⟩, rfl⟩

end LineMap.Listing.Annotated
