import LineMap.Diagnostics.Journal
import LineMap.Proofs.Result

/-!
# From reports to records

A report gives a record exactly if it has an identifier where one is required, its details are
places, and its keywords are lines and columns.  The record repeats what the report says; scopes are
kept as they are and have no part in this.
-/

set_option autoImplicit false

namespace LineMap.Diagnostics

open LineMap.Json

/-- Whether a detail is a place or a path, which every report may be made with. -/
def Detail.isPlace : Detail → Bool
  | .value _ => false
  | _ => true

theorem Detail.isPlace_path (paths : List Files.Path) :
    ∀ detail ∈ paths.map Detail.path, detail.isPlace = true := by
  intro detail member
  obtain ⟨path, -, rfl⟩ := List.mem_map.mp member
  rfl

theorem Detail.isPlace_location (places : List SourceLocation) :
    ∀ detail ∈ places.map Detail.location, detail.isPlace = true := by
  intro detail member
  obtain ⟨place, -, rfl⟩ := List.mem_map.mp member
  rfl

/-- What the details and the keywords of a report add up to. -/
def Draft.place (draft : Draft) : Except Refusal Place := do
  let place ← draft.split.2.2.foldlM Place.withDetail {}
  draft.keywords.foldlM Place.withKeyword place

theorem Place.exists_withDetail_iff (place : Place) (detail : Detail) :
    (∃ next, place.withDetail detail = .ok next) ↔ detail.isPlace = true := by
  cases detail with
  | location given => exact iff_of_true ⟨_, rfl⟩ rfl
  | path path => exact iff_of_true ⟨_, rfl⟩ rfl
  | value value => exact iff_of_false nofun nofun

theorem Place.exists_withKeyword_iff (place : Place) (keyword : String × Value) :
    (∃ next, place.withKeyword keyword = .ok next) ↔
      keyword.1 = "line" ∨ keyword.1 = "column" := by
  obtain ⟨name, value⟩ := keyword
  unfold Place.withKeyword
  by_cases line : name = "line"
  · simp [line]
  · by_cases column : name = "column"
    · simp [column]
    · simp [line, column]

namespace Draft

theorem exists_place_iff (draft : Draft) :
    (∃ place, draft.place = .ok place) ↔
      (∀ detail ∈ draft.split.2.2, detail.isPlace = true) ∧
        ∀ keyword ∈ draft.keywords, keyword.1 = "line" ∨ keyword.1 = "column" := by
  have details := Result.exists_foldlM_eq_ok_iff Place.exists_withDetail_iff draft.split.2.2 {}
  have keywords := Result.exists_foldlM_eq_ok_iff Place.exists_withKeyword_iff draft.keywords
  simp only [place, Result.bind_eq_ok_iff]
  constructor
  · rintro ⟨final, middle, located, keyed⟩
    exact ⟨details.mp ⟨middle, located⟩, (keywords middle).mp ⟨final, keyed⟩⟩
  · rintro ⟨places, known⟩
    obtain ⟨middle, located⟩ := details.mpr places
    obtain ⟨final, keyed⟩ := (keywords middle).mpr known
    exact ⟨final, middle, located, keyed⟩

theorem compose_eq (draft : Draft) :
    draft.compose =
      if Level.info.number ≤ draft.level ∧ draft.split.1 = none then .error .identifierRequired
      else draft.place.map fun place =>
        { level := draft.level, identifier? := draft.split.1, message := draft.split.2.1, place,
          scopes := draft.scopes } := by
  unfold compose place
  generalize draft.split = parts
  obtain ⟨identifier?, message, details⟩ := parts
  by_cases missing : Level.info.number ≤ draft.level ∧ identifier? = none
  · simp only [if_pos missing]
  · simp only [if_neg missing]
    cases details.foldlM Place.withDetail {} with
    | error refusal => rfl
    | ok place => cases draft.keywords.foldlM Place.withKeyword place <;> rfl

end Draft

end LineMap.Diagnostics
