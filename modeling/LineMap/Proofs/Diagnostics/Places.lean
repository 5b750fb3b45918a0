import LineMap.Proofs.Diagnostics.Leftovers
import LineMap.Proofs.Outcome.Gutter

/-!
# Places before records and in gutters

A place stands before a record and in the gutter of a display line.  Both name its file, or put a
word for it, and then give its numbers behind colons, but a record leaves out the numbers that are
zero.  So the two are the same text exactly if no number of the place is zero.
-/

set_option autoImplicit false

namespace LineMap

open LineMap.Diagnostics
open LineMap.Json

theorem Diagnostics.filled_cons {part : String} (substantial : part ≠ "") (rest : List String) :
    filled (part :: rest) = part :: filled rest := by
  simp [filled, substantial]

/-! ## Places as texts -/

namespace SourceLocation

def place (location : SourceLocation) : Place :=
  ⟨location.file?, location.line?.map .int, location.column?.map .int⟩

theorem shownFile_ne_empty (file? : Option String) : shownFile file? ≠ "" := by
  cases file? with
  | none => decide
  | some name =>
      rw [shownFile]
      split
      case isTrue empty => decide
      case isFalse named => simpa using named

theorem repr_ne_empty (number : Int) : number.repr ≠ "" := by
  rw [Int.repr_eq_if]
  split
  case isTrue natural => exact Nat.repr_ne_empty
  case isFalse negative =>
    intro empty
    exact Nat.repr_ne_empty (String.append_eq_empty_iff.mp empty).2

theorem numberText_int (number : Int) :
    Place.numberText (some (.int number)) = if number = 0 then "" else toString number := by
  by_cases zero : number = 0
  · simp [Place.numberText, Value.isSubstantial, zero]
  · simp [Place.numberText, Value.isSubstantial, Value.plain, Value.shown, Value.unique,
      Value.display, zero]

/-- A number of a place as a part of its text, which it is unless it is zero. -/
theorem filled_numberText (number? : Option Int) :
    filled [Place.numberText (number?.map .int)] =
      (number?.toList.filter (· ≠ 0)).map fun number => toString number := by
  cases number? with
  | none => rfl
  | some number =>
      rw [Option.map_some, numberText_int]
      by_cases zero : number = 0
      · simp [filled, zero]
      · simp [filled, zero, repr_ne_empty]

/-- The parts of a place with a line: the name of its file and what its numbers add to it. -/
theorem text_of_line {place : Place} (numbered : place.line?.isSome) :
    place.text = String.intercalate ":" (shownFile place.file? ::
      (filled [Place.numberText place.line?] ++ filled [Place.numberText place.column?])) := by
  have file : (if (place.line?.isSome || place.column?.isSome) && (place.file?.getD "").isEmpty
      then "<source>" else place.file?.getD "") = shownFile place.file? := by
    cases place.file? with
    | none => simp [numbered, shownFile]
    | some name => simp [numbered, shownFile]
  rw [filled, filled, ← List.filter_append, Place.text, file]
  exact congrArg _ (filled_cons (shownFile_ne_empty place.file?) _)

/-- The location without the numbers that are zero. -/
def withoutZeros (location : SourceLocation) : SourceLocation :=
  { location with
    line? := location.line?.filter (· ≠ 0)
    column? := location.column?.filter (· ≠ 0) }

theorem toList_filter (number? : Option Int) :
    (number?.filter (· ≠ 0)).toList = number?.toList.filter (· ≠ 0) := by
  cases number? with
  | none => rfl
  | some number =>
      by_cases zero : number = 0
      · simp [zero]
      · simp [Option.filter, zero]

theorem numbers_withoutZeros (location : SourceLocation) :
    location.withoutZeros.numbers = location.numbers.filter (· ≠ 0) := by
  rw [numbers, numbers, List.filter_append, ← toList_filter, ← toList_filter]
  rfl

/-- Before a record, a location with a line stands as it would in a gutter without its zeros. -/
theorem text_place {location : SourceLocation} (numbered : location.line?.isSome) :
    location.place.text = location.withoutZeros.gutter := by
  have placed : location.place.line?.isSome := by simpa [place] using numbered
  rw [text_of_line placed, place, filled_numberText, filled_numberText, ← List.map_append,
    ← List.filter_append, gutter_eq, numbers_withoutZeros]
  rfl

theorem gutter_ne_empty (location : SourceLocation) : location.gutter ≠ "" := by
  intro empty
  have letters := location.toList_gutter
  rw [empty] at letters
  obtain ⟨file, -⟩ := List.append_eq_nil_iff.mp letters.symm
  exact shownFile_ne_empty location.file? (String.toList_eq_nil_iff.mp file)

theorem gutter_withoutZeros_iff (location : SourceLocation) :
    location.withoutZeros.gutter = location.gutter ↔ ∀ number ∈ location.numbers, number ≠ 0 := by
  rw [← String.toList_inj, toList_gutter, toList_gutter, numbers_withoutZeros]
  constructor
  · intro same
    have bare : coloned (location.numbers.filter (· ≠ 0)) ++ List.replicate 0 ' ' =
        coloned location.numbers ++ List.replicate 0 ' ' := by
      rw [List.append_cancel_left same]
    simpa using List.filter_eq_self.mp (coloned_append_inj bare)
  · intro substantial
    rw [List.filter_eq_self.mpr]
    · rfl
    · simpa using substantial

end SourceLocation

/-! ## Records -/

namespace Diagnostics

theorem Level.nameOfNumber_ne_empty (number : Int) : nameOfNumber number ≠ "" := by
  unfold nameOfNumber
  split
  next level known => cases level <;> decide
  next unknown =>
    split
    · decide
    · intro empty
      exact absurd (String.append_eq_empty_iff.mp empty).1 (by decide)

/-- Where scopes stand in a record matters to what is said about them, but not to their texts. -/
theorem toOption_scopeTexts (position other : Nat) (scopes : List Value) :
    (scopeTexts position scopes).toOption = (scopeTexts other scopes).toOption := by
  induction scopes generalizing position other with
  | nil => rfl
  | cons scope rest inductionHypothesis =>
      cases scope with
      | str s =>
          simp only [scopeTexts, Result.toOption_map]
          rw [inductionHypothesis (position + 1) (other + 1)]
      | _ => rfl

theorem toOption_recordScopes (position other : Nat) (scopes : Value) :
    (recordScopes position scopes).toOption = (recordScopes other scopes).toOption := by
  cases scopes with
  | arr items => exact toOption_scopeTexts position other _
  | _ => rfl

namespace Record

def unplaced (record : Record) : Record :=
  { record with place := {} }

theorem front_unplaced (record : Record) :
    record.unplaced.front =
      Level.nameOfNumber record.level :: filled [bracketed record.identifier?] := by
  exact filled_cons (Level.nameOfNumber_ne_empty record.level) _

theorem front_of_placed {record : Record} (placed : record.place.text ≠ "") :
    record.front = record.place.text :: record.unplaced.front := by
  exact filled_cons placed _

theorem text_eq_append {record : Record} (placed : record.place.text ≠ "") :
    record.text = record.place.text ++ ": " ++ record.unplaced.text := by
  have scopes : record.shownScopes.toOption = record.unplaced.shownScopes.toOption :=
    toOption_recordScopes _ _ record.scopes
  have others : record.unplaced.front ++ filled (record.unplaced.shownScopes.toOption.getD []) ++
      filled [record.message] ≠ [] := by
    rw [front_unplaced]
    exact nofun
  rw [text, text, front_of_placed placed, scopes]
  rw [List.cons_append, List.cons_append, String.intercalate_cons_of_ne_nil others,
    String.append_assoc]
  rfl

end Record

/-- The place of a record whose report has a location for its only place. -/
theorem Draft.place_of_compose {draft : Draft} {record : Record} {location : SourceLocation}
    (extras : draft.split.2.2 = [.location location]) (noKeywords : draft.keywords = [])
    (composed : draft.compose = .ok record) : record.place = location.place := by
  have placed : draft.place = .ok location.place := by
    rw [Draft.place, extras, noKeywords]
    rfl
  rw [compose_eq, placed] at composed
  split at composed
  case isTrue missing => cases composed
  case isFalse identified =>
    cases composed
    rfl

/-- A record that is logged with a location with a line begins with the location, as it would stand
in a gutter without its zeros.  This is the gutter of a display line from that location exactly if
neither the line nor the column is zero. -/
theorem logged_place_eq_gutter_iff {location : SourceLocation} {line : Int}
    (numbered : location.line? = some line) {draft : Draft}
    (extras : draft.split.2.2 = [.location location]) (noKeywords : draft.keywords = [])
    {before : Journal} {record : Record}
    (logged : ((Sink.journal.report draft).run before).2.records = before.records ++ [record])
    (display : String) :
    record.text = record.place.text ++ ": " ++ record.unplaced.text ∧
      record.place.text = location.withoutZeros.gutter ∧
      (record.place.text = OutputLine.gutter ⟨display, some location⟩ ↔
        line ≠ 0 ∧ location.column? ≠ some 0) := by
  have place := Draft.place_of_compose extras noKeywords (Draft.compose_of_records logged)
  have known : location.line?.isSome := Option.isSome_of_eq_some numbered
  have text : record.place.text = location.withoutZeros.gutter := by
    rw [place, SourceLocation.text_place known]
  have shown : record.place.text ≠ "" := by
    rw [text]
    exact location.withoutZeros.gutter_ne_empty
  refine ⟨Record.text_eq_append shown, text, ?_⟩
  rw [text, OutputLine.gutter_of_source rfl, SourceLocation.gutter_withoutZeros_iff,
    SourceLocation.numbers, numbered]
  cases location.column? with
  | none => simp
  | some column => simp

/-- At line zero the column takes the place of the line before a record. -/
theorem logged_place_eq_gutter_iff_zeroLine :
    let location : SourceLocation := ⟨some "f", some 0, some 5⟩
    let record : Record := ⟨30, some "id", "message", location.place, .arr [], none⟩
    record.text = "f:5" ++ ": " ++ record.unplaced.text ∧
      record.place.text ≠ OutputLine.gutter ⟨"", some location⟩ := by
  intro location record
  have logged : ((Sink.journal.report (.coded .warning "id" "message" [.location location])).run
      .empty).2.records = [] ++ [record] := by
    have composed : Draft.compose (.coded .warning "id" "message" [.location location]) =
        .ok record := rfl
    have traced := Traced.emit composed (Level.ofNumber?_number .warning)
      (Level.isWritable_number .warning)
    exact congrArg (fun ran => ran.2.records) (traced .empty)
  obtain ⟨text, place, same⟩ := logged_place_eq_gutter_iff rfl rfl rfl logged ""
  refine ⟨?_, ?_⟩
  · rw [text, place]
    rfl
  · rw [Ne, same]
    decide

end Diagnostics

end LineMap
