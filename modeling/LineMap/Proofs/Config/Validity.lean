import LineMap.Config.Document
import LineMap.Proofs.Validation.Plain

/-!
# Valid configurations

The values that a field admits are those that come out of reading one.  A configuration of such
values is valid; written as JSON, each of its values is read back as it was.
-/

set_option autoImplicit false

namespace LineMap

open LineMap.Json
open LineMap.Validation

/-- What a field admits: a text that is not empty, some identifiers, an index that is not negative,
and any truth value. -/
def Leaf.Admits : (leaf : Leaf) → leaf.Carrier → Prop
  | .finalMarker, marker => marker ≠ ""
  | .unitKinds, kinds => kinds ≠ [] ∧ ∀ kind ∈ kinds, Text.isIdentifier kind.toList = true
  | .startMarker, marker => marker ≠ ""
  | .endMarker, marker => marker ≠ ""
  | .includeStart, _ => True
  | .primary, index => 0 ≤ index
  | .failureText, text => text ≠ ""

namespace Validation

theorem nonemptyText_eq_ok_iff (value : Value) (text : String) :
    nonemptyText value = .ok text ↔
      ∃ s : Str, value = .str s ∧ s.toString? = some text ∧ text ≠ "" := by
  cases value with
  | str s =>
      cases read : s.toString? with
      | none => simp [nonemptyText, read, Checked.refuse]
      | some found =>
          by_cases empty : found = ""
          · simp [nonemptyText, read, empty, Checked.refuse]
          · simp [nonemptyText, read, empty]
            rintro rfl
            exact empty
  | _ => simp [nonemptyText, Checked.refuse]

theorem isPlain_of_nonemptyText {raw : Value} {text : String} (read : nonemptyText raw = .ok text) :
    raw.IsPlain := by
  obtain ⟨s, rfl, found, -⟩ := (nonemptyText_eq_ok_iff raw text).mp read
  rw [Str.toString?_eq_some_iff.mp found]
  exact Str.isText_map_scalar text.toList

theorem nonemptyText_text {text : String} (notEmpty : text ≠ "") :
    nonemptyText (.text text) = .ok text :=
  (nonemptyText_eq_ok_iff _ _).mpr ⟨_, rfl, Str.toString?_ofString text, notEmpty⟩

theorem nonneg_of_natural {value : Value} {index : Int} (read : natural value = .ok index) :
    0 ≤ index := by
  unfold natural at read
  split at read
  · split at read
    next n _ notNegative =>
      cases read
      exact notNegative
    · cases read
  · cases read

theorem mapM_identifier?_eq_some {names : List Str} {kinds : List String}
    (read : names.mapM identifier? = some kinds) :
    kinds.length = names.length ∧ ∀ kind ∈ kinds, Text.isIdentifier kind.toList = true := by
  induction names generalizing kinds with
  | nil =>
      cases Option.some.inj read
      exact ⟨rfl, nofun⟩
  | cons name others inductionHypothesis =>
      rw [List.mapM_cons] at read
      obtain ⟨first, firstRead, read⟩ := Option.bind_eq_some_iff.mp read
      obtain ⟨rest, restRead, read⟩ := Option.bind_eq_some_iff.mp read
      cases Option.some.inj read
      obtain ⟨sameLength, identified⟩ := inductionHypothesis restRead
      refine ⟨congrArg Nat.succ sameLength, ?_⟩
      intro kind member
      rcases List.mem_cons.mp member with rfl | later
      · exact ((identifier?_eq_some_iff name kind).mp firstRead).2
      · exact identified kind later

theorem admits_of_identifiers {origin : Origin} {value : Value} {kinds : List String}
    (read : identifiers origin value = .ok kinds) :
    kinds ≠ [] ∧ ∀ kind ∈ kinds, Text.isIdentifier kind.toList = true := by
  unfold identifiers at read
  split at read
  · cases read
  · cases read
  next names notEmpty _ =>
    cases converted : names.mapM identifier? with
    | none =>
        rw [converted] at read
        cases read
    | some found =>
        rw [converted] at read
        cases read
        obtain ⟨sameLength, identified⟩ := mapM_identifier?_eq_some converted
        refine ⟨?_, identified⟩
        rintro rfl
        exact notEmpty (List.length_eq_zero_iff.mp sameLength.symm)

theorem identifiers_of_list {origin : Origin} {value : Value} {names : List Str}
    {kinds : List String} (read : list origin string value = .ok names) (notEmpty : names ≠ [])
    (converted : names.mapM identifier? = some kinds) :
    identifiers origin value = .ok kinds := by
  unfold identifiers
  rw [read]
  cases names with
  | nil => exact absurd rfl notEmpty
  | cons first others => simp only [converted]

theorem items_string_map_text (kinds : List String) :
    ∀ index, items string index (kinds.map Value.text) = .ok (kinds.map Str.ofString) := by
  induction kinds with
  | nil => exact fun _ => rfl
  | cons kind others inductionHypothesis =>
      intro index
      simp only [List.map_cons, items, inductionHypothesis]
      rfl

theorem mapM_identifier?_map_ofString {kinds : List String}
    (identified : ∀ kind ∈ kinds, Text.isIdentifier kind.toList = true) :
    (kinds.map Str.ofString).mapM identifier? = some kinds := by
  induction kinds with
  | nil => rfl
  | cons kind others inductionHypothesis =>
      have first : identifier? (Str.ofString kind) = some kind :=
        (identifier?_eq_some_iff _ _).mpr
          ⟨Str.toString?_ofString kind, identified kind List.mem_cons_self⟩
      have later := inductionHypothesis fun other member =>
        identified other (List.mem_cons_of_mem kind member)
      rw [List.map_cons, List.mapM_cons, first, later]
      rfl

end Validation

namespace Config

theorem admits_of_readLeaf {origin : Origin} {leaf : Leaf} {raw : Value} {value : leaf.Carrier}
    (read : readLeaf origin leaf raw = .ok value) : leaf.Admits value := by
  have ofText : ∀ {text : String}, nonemptyText raw = .ok text → text ≠ "" := by
    intro text textRead
    obtain ⟨-, -, -, notEmpty⟩ := (nonemptyText_eq_ok_iff raw text).mp textRead
    exact notEmpty
  cases leaf with
  | finalMarker => exact ofText read
  | unitKinds => exact admits_of_identifiers read
  | startMarker => exact ofText read
  | endMarker => exact ofText read
  | includeStart => trivial
  | primary => exact nonneg_of_natural read
  | failureText => exact ofText read

theorem isPlain_of_readLeaf {origin : Origin} {leaf : Leaf} {raw : Value} {value : leaf.Carrier}
    (noText : leaf.holdsText = false) (read : readLeaf origin leaf raw = .ok value) :
    raw.IsPlain := by
  cases leaf with
  | unitKinds => exact isPlain_of_identifiers read
  | includeStart => exact isPlain_of_boolean read
  | primary => exact isPlain_of_natural read
  | _ => cases noText

/-- A text is plain as well, so a field takes plain values only, whichever field it is. -/
theorem isPlain_of_taken {origin : Origin} {leaf : Leaf} {raw : Value} {value : leaf.Carrier}
    (read : readLeaf origin leaf raw = .ok value) : raw.IsPlain := by
  cases leaf with
  | unitKinds | includeStart | primary => exact isPlain_of_readLeaf rfl read
  | _ => exact isPlain_of_nonemptyText read

theorem readLeaf_leafValue (origin : Origin) {leaf : Leaf} {value : leaf.Carrier}
    (admitted : leaf.Admits value) :
    readLeaf origin leaf (leafValue leaf value) = .ok value := by
  cases leaf with
  | finalMarker => exact nonemptyText_text admitted
  | unitKinds =>
      obtain ⟨notEmpty, identified⟩ := admitted
      have read : list origin string (.arr (value.map Value.text)) =
          .ok (value.map Str.ofString) :=
        items_string_map_text value 0
      exact identifiers_of_list read (fun empty => notEmpty (List.map_eq_nil_iff.mp empty))
        (mapM_identifier?_map_ofString identified)
  | startMarker => exact nonemptyText_text admitted
  | endMarker => exact nonemptyText_text admitted
  | includeStart => rfl
  | primary => exact if_pos admitted
  | failureText => exact nonemptyText_text admitted

/-- A configuration is valid if every field holds a value that it admits. -/
def Valid (config : Config) : Prop :=
  ∀ leaf : Leaf, leaf.Admits (config.get leaf)

theorem valid_default : default.Valid := by
  intro leaf
  cases leaf with
  | unitKinds => exact ⟨by decide, by decide +kernel⟩
  | includeStart => trivial
  | primary => exact Int.zero_le_ofNat 1
  | _ => exact fun empty => absurd empty (by decide)

theorem Valid.set {config : Config} (valid : config.Valid) {leaf : Leaf} {value : leaf.Carrier}
    (admitted : leaf.Admits value) : (config.set leaf value).Valid := by
  intro other
  by_cases same : other = leaf
  · subst same
    rw [get_set_self]
    exact admitted
  · rw [get_set_of_ne config same]
    exact valid other

end Config

end LineMap
