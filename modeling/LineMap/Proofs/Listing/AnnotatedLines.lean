import LineMap.Listing.Annotated
import LineMap.Proofs.Text.Lines
import Mathlib.Logic.ExistsUnique

/-!
# The grammar of annotated listings

Frame headers and annotations as what they are made of, and what a line without a line feed is
classified as.
-/

set_option autoImplicit false

namespace LineMap.Listing.Annotated

open LineMap.Number
open LineMap.Text

def IsFrame (line : List Char) : Prop :=
  ∃ digits, digits ≠ [] ∧ (∀ c ∈ digits, isDigit c = true) ∧
    line = "  Frame_".toList ++ (digits ++ " :".toList)

/-- An annotation ends in the digits of a line number, behind a file name without a colon. -/
def IsMarking (line digits : List Char) : Prop :=
  ∃ file, ':' ∉ file ∧ digits ≠ [] ∧ (∀ c ∈ digits, isDigit c = true) ∧
    line = "     annotation: ".toList ++ (file ++ ':' :: digits)

def Annotates (line : List Char) (number : Int) : Prop :=
  ∃ digits, IsMarking line digits ∧ number = numberOf digits

theorem after?_eq_some_iff (opening text rest : List Char) :
    after? opening text = some rest ↔ text = opening ++ rest := by
  rw [after?]
  constructor
  · intro found
    split at found
    · rename_i fits
      obtain ⟨tail, rfl⟩ := List.isPrefixOf_iff_prefix.mp fits
      simpa using found
    · cases found
  · rintro rfl
    simp

theorem isFrameHeader_iff (line : List Char) : isFrameHeader line = true ↔ IsFrame line := by
  rw [isFrameHeader]
  constructor
  · intro header
    split at header
    · rename_i rest found
      rw [after?_eq_some_iff] at found
      simp only [Bool.and_eq_true, Bool.not_eq_eq_eq_not, Bool.not_true,
        List.isEmpty_eq_false_iff, beq_iff_eq] at header
      refine ⟨rest.takeWhile isDigit, header.1,
        List.all_eq_true.mp List.all_takeWhile, ?_⟩
      rw [← header.2, List.takeWhile_append_dropWhile, found]
    · cases header
  · rintro ⟨digits, some, allDigits, rfl⟩
    have found := (after?_eq_some_iff "  Frame_".toList
      ("  Frame_".toList ++ (digits ++ " :".toList)) (digits ++ " :".toList)).mpr rfl
    obtain ⟨taken, dropped⟩ := run_append allDigits " :".toList (by decide)
    rw [found]
    simp only [taken, dropped]
    simpa using some

theorem markedDigits?_eq_some_iff (line digits : List Char) :
    markedDigits? line = some digits ↔ IsMarking line digits := by
  rw [markedDigits?]
  constructor
  · intro marked
    split at marked
    · rename_i rest found
      rw [after?_eq_some_iff] at found
      dsimp only at marked
      split at marked
      · rename_i proper
        cases Option.some.inj marked
        obtain ⟨some, allDigits⟩ := proper
        have file : ':' ∉ rest.takeWhile (· ≠ ':') := fun member => by
          simpa using List.all_eq_true.mp List.all_takeWhile ':' member
        refine ⟨rest.takeWhile (· ≠ ':'), file, some, List.all_eq_true.mp allDigits, ?_⟩
        obtain ⟨c, tail, whole⟩ : ∃ c tail, rest.dropWhile (· ≠ ':') = c :: tail :=
          List.exists_cons_of_ne_nil fun empty => some (by rw [empty]; rfl)
        have colon : c = ':' := by
          have stops := List.head?_dropWhile_not (· ≠ ':') rest
          rw [whole] at stops
          simpa using stops
        subst colon
        rw [found, whole, List.drop_succ_cons, List.drop_zero, ← whole,
          List.takeWhile_append_dropWhile]
      · cases marked
    · cases marked
  · rintro ⟨file, noColon, some, allDigits, rfl⟩
    have found := (after?_eq_some_iff "     annotation: ".toList
      ("     annotation: ".toList ++ (file ++ ':' :: digits)) (file ++ ':' :: digits)).mpr rfl
    have before : ∀ c ∈ file, decide (c ≠ ':') = true := fun c member =>
      decide_eq_true fun colon => noColon (colon ▸ member)
    have dropped : ((file ++ ':' :: digits).dropWhile (· ≠ ':')).drop 1 = digits := by
      rw [List.dropWhile_append_of_pos before]
      simp
    rw [found]
    simp only [dropped]
    rw [if_pos ⟨some, List.all_eq_true.mpr allDigits⟩]

theorem not_isMarking_of_isFrame {line digits : List Char} (frame : IsFrame line) :
    ¬IsMarking line digits := by
  rintro ⟨file, -, -, -, same⟩
  obtain ⟨number, -, -, rfl⟩ := frame
  have third := congrArg (fun cells : List Char => cells[2]?) same
  simp at third

/-- An annotation that has more digits than a number may have, and how many. -/
def IsOverlong (line : List Char) (overlong : Overlong) : Prop :=
  ∃ digits, IsMarking line digits ∧ digitLimit < digits.length ∧ overlong = ⟨digits.length⟩

theorem IsMarking.unique {line digits others : List Char} (marking : IsMarking line digits)
    (otherMarking : IsMarking line others) : others = digits := by
  rw [← markedDigits?_eq_some_iff] at marking otherMarking
  exact Option.some.inj (otherMarking.symm.trans marking)

def IsOfKind (line : List Char) : LineKind → Prop
  | .frame => IsFrame line
  | .marking => ∃ digits, IsMarking line digits
  | .blank => line = []
  | .plain => ¬IsFrame line ∧ (∀ digits, ¬IsMarking line digits) ∧ line ≠ []

theorem IsFrame.ne_nil {line : List Char} (frame : IsFrame line) : line ≠ [] := by
  obtain ⟨digits, -, -, rfl⟩ := frame
  simp

theorem IsMarking.ne_nil {line digits : List Char} (marking : IsMarking line digits) : line ≠ [] := by
  obtain ⟨file, -, -, -, rfl⟩ := marking
  simp

theorem IsMarking.allDigits {line digits : List Char} (marking : IsMarking line digits) :
    ∀ c ∈ digits, isDigit c = true := by
  obtain ⟨file, -, -, allDigits, -⟩ := marking
  exact allDigits

theorem existsUnique_isOfKind (line : List Char) : ∃! kind, IsOfKind line kind := by
  by_cases frame : IsFrame line
  · have noMarking : ∀ digits, ¬IsMarking line digits := fun _ => not_isMarking_of_isFrame frame
    refine ⟨.frame, frame, fun other isOther => ?_⟩
    cases other <;> simp_all [IsOfKind, frame.ne_nil]
  · by_cases marked : ∃ digits, IsMarking line digits
    · obtain ⟨digits, marking⟩ := marked
      refine ⟨.marking, ⟨digits, marking⟩, fun other isOther => ?_⟩
      cases other <;> simp_all [IsOfKind, marking.ne_nil]
    · have noMarking : ∀ digits, ¬IsMarking line digits := not_exists.mp marked
      by_cases empty : line = []
      · refine ⟨.blank, empty, fun other isOther => ?_⟩
        cases other <;> simp_all [IsOfKind]
      · refine ⟨.plain, ⟨frame, noMarking, empty⟩, fun other isOther => ?_⟩
        cases other <;> simp_all [IsOfKind]

/-! ## Classification -/

theorem classify_of_isFrame {line : List Char} (noFeed : '\n' ∉ line) (frame : IsFrame line) :
    classify line = .ok (.frame, none) := by
  rw [classify, dropFinalFeed_of_notMem noFeed]
  simp [(isFrameHeader_iff line).mpr frame]

theorem classify_of_isMarking {line digits : List Char} (noFeed : '\n' ∉ line)
    (marking : IsMarking line digits) :
    classify line =
      if digits.length ≤ digitLimit then .ok (.marking, some (numberOf digits : Nat))
      else .error ⟨digits.length⟩ := by
  have noFrame : ¬isFrameHeader line = true := fun header =>
    not_isMarking_of_isFrame ((isFrameHeader_iff line).mp header) marking
  rw [classify, dropFinalFeed_of_notMem noFeed]
  simp [noFrame, (markedDigits?_eq_some_iff line digits).mpr marking]

theorem classify_of_neither {line : List Char} (noFeed : '\n' ∉ line) (noFrame : ¬IsFrame line)
    (noMarking : ∀ digits, ¬IsMarking line digits) :
    classify line = .ok (if line = [] then .blank else .plain, none) := by
  have noHeader : ¬isFrameHeader line = true := fun header =>
    noFrame ((isFrameHeader_iff line).mp header)
  have noDigits : markedDigits? line = none := by
    rw [Option.eq_none_iff_forall_ne_some]
    exact fun digits found => noMarking digits ((markedDigits?_eq_some_iff line digits).mp found)
  rw [classify, dropFinalFeed_of_notMem noFeed]
  simp [noHeader, noDigits]

theorem classify_of_isOfKind {line : List Char} (noFeed : '\n' ∉ line) {kind : LineKind}
    (isOfKind : IsOfKind line kind) (noMarking : kind ≠ .marking) :
    classify line = .ok (kind, none) := by
  cases kind with
  | frame => exact classify_of_isFrame noFeed isOfKind
  | marking => exact absurd rfl noMarking
  | blank =>
      subst isOfKind
      rfl
  | plain =>
      obtain ⟨noFrame, noMarking, nonempty⟩ := isOfKind
      rw [classify_of_neither noFeed noFrame noMarking, if_neg nonempty]

theorem classify_cases {line : List Char} (noFeed : '\n' ∉ line) :
    (∃ digits, IsMarking line digits ∧ classify line =
      if digits.length ≤ digitLimit then .ok (.marking, some (numberOf digits : Nat))
      else .error ⟨digits.length⟩) ∨
    ∃ kind, kind ≠ .marking ∧ IsOfKind line kind ∧ (∀ digits, ¬IsMarking line digits) ∧
      classify line = .ok (kind, none) := by
  obtain ⟨kind, isOfKind, only⟩ := existsUnique_isOfKind line
  by_cases marked : kind = .marking
  · subst marked
    obtain ⟨digits, marking⟩ := isOfKind
    exact .inl ⟨digits, marking, classify_of_isMarking noFeed marking⟩
  · have noMarking : ∀ digits, ¬IsMarking line digits := fun digits marking =>
      marked (only .marking ⟨digits, marking⟩).symm
    exact .inr ⟨kind, marked, isOfKind, noMarking, classify_of_isOfKind noFeed isOfKind marked⟩

theorem classify_eq_error_iff {line : List Char} (noFeed : '\n' ∉ line) (overlong : Overlong) :
    classify line = .error overlong ↔ IsOverlong line overlong := by
  obtain ⟨digits, marking, classified⟩ | ⟨kind, -, -, noMarking, classified⟩ :=
    classify_cases noFeed
  · rw [classified]
    constructor
    · intro refused
      split at refused
      next => cases refused
      next long => exact ⟨digits, marking, Nat.lt_of_not_le long, (Except.error.inj refused).symm⟩
    · rintro ⟨others, otherMarking, long, rfl⟩
      rw [marking.unique otherMarking] at long ⊢
      exact if_neg (Nat.not_le_of_lt long)
  · rw [classified]
    refine iff_of_false nofun ?_
    rintro ⟨digits, marking, -⟩
    exact noMarking digits marking

end LineMap.Listing.Annotated
