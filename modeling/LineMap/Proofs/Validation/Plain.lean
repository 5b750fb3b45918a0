import LineMap.Proofs.Json.Textual
import LineMap.Proofs.Result
import LineMap.Validation.Checked

/-!
# Plain values

Truth values, numbers, texts and lists of identifiers are read from plain values only: there is no
half of a surrogate pair in them, and no nesting but for a list of strings.
-/

set_option autoImplicit false

namespace LineMap

open LineMap.Json

/-- A value without nesting but for a list of texts, in which all strings are texts. -/
def Json.Value.IsPlain : Value → Prop
  | .str s => s.IsText
  | .arr items => ∀ item ∈ items, ∃ s, item = .str s ∧ s.IsText
  | .obj _ => False
  | _ => True

namespace Validation

theorem isText_of_chars? {s : Str} {cells : List Char} (found : s.chars? = some cells) :
    s.IsText := by
  rw [Str.chars?_eq_some_iff.mp found]
  exact Str.isText_map_scalar cells

theorem isPlain_of_boolean {raw : Value} {b : Bool} (read : boolean raw = .ok b) : raw.IsPlain := by
  cases raw with
  | str s =>
      simp only [boolean] at read
      split at read
      next => cases read
      next cells found => exact isText_of_chars? found
  | arr items => cases read
  | obj members => cases read
  | _ => trivial

theorem isPlain_of_natural {raw : Value} {n : Int} (read : natural raw = .ok n) : raw.IsPlain := by
  cases raw with
  | str s =>
      simp only [natural, integer] at read
      cases found : s.chars? with
      | none =>
          rw [found] at read
          cases read
      | some cells => exact isText_of_chars? found
  | arr items => cases read
  | obj members => cases read
  | _ => trivial

theorem eq_map_of_items {values : List Value} {names : List Str} :
    ∀ {index : Nat}, items string index values = .ok names → values = names.map Value.str := by
  induction values generalizing names with
  | nil =>
      intro index read
      cases read
      rfl
  | cons value others inductionHypothesis =>
      intro index read
      obtain ⟨⟨first, rest⟩, both, rfl⟩ := Result.map_eq_ok_iff.mp read
      obtain ⟨firstRead, restRead⟩ := Checked.both_eq_ok_iff.mp both
      rw [List.map_cons, ← inductionHypothesis restRead]
      cases value with
      | str s =>
          cases Checked.within_eq_ok_iff.mp firstRead
          rfl
      | _ => cases Checked.within_eq_ok_iff.mp firstRead

theorem identifier?_eq_some_iff (s : Str) (name : String) :
    identifier? s = some name ↔
      s.toString? = some name ∧ Text.isIdentifier name.toList = true := by
  unfold identifier?
  cases read : s.toString? with
  | none => simp
  | some found =>
      by_cases identified : Text.isIdentifier found.toList = true
      · simp only [identified, if_true, Option.some.injEq]
        constructor
        · rintro rfl
          exact ⟨rfl, identified⟩
        · exact And.left
      · simp only [identified, Bool.false_eq_true, if_false, Option.some.injEq]
        constructor
        · exact nofun
        · rintro ⟨rfl, identifier⟩
          exact absurd identifier identified

theorem isText_of_mapM_identifier? {names : List Str} {kinds : List String}
    (converted : names.mapM identifier? = some kinds) : ∀ name ∈ names, name.IsText := by
  induction names generalizing kinds with
  | nil => exact List.forall_mem_nil _
  | cons name others inductionHypothesis =>
      rw [List.mapM_cons] at converted
      obtain ⟨first, firstRead, converted⟩ := Option.bind_eq_some_iff.mp converted
      obtain ⟨rest, restRead, -⟩ := Option.bind_eq_some_iff.mp converted
      refine List.forall_mem_cons.mpr ⟨?_, inductionHypothesis restRead⟩
      rw [Str.toString?_eq_some_iff.mp ((identifier?_eq_some_iff name first).mp firstRead).1]
      exact Str.isText_map_scalar first.toList

theorem isPlain_of_identifiers {origin : Origin} {raw : Value} {kinds : List String}
    (read : identifiers origin raw = .ok kinds) : raw.IsPlain := by
  unfold identifiers at read
  split at read
  next => cases read
  next => cases read
  next names _ listed =>
    split at read
    next found converted =>
      cases raw with
      | arr values =>
          rw [Value.IsPlain, eq_map_of_items listed]
          intro item member
          obtain ⟨name, present, rfl⟩ := List.mem_map.mp member
          exact ⟨name, rfl, isText_of_mapM_identifier? converted name present⟩
      | _ => cases listed
    next => cases read

end Validation

end LineMap
