import LineMap.Proofs.Keyed
import LineMap.Proofs.Validation.Form
import LineMap.Proofs.Validation.Plain
import LineMap.SymbolTable.Document
import Mathlib.Data.List.Nodup

/-!
# What a symbol table document holds

Each part of the content stands in the document: the files in their order, and one entry for each
key, read from the member that counts.  All readings are governed by the form of a document.
-/

set_option autoImplicit false

namespace LineMap

open LineMap.Json
open LineMap.Validation

/-! ## Records -/

/-- An object in which the member that counts under some names has a property. -/
def Json.Value.Holds (value : Value) (names : List String) (Is : Value → Prop) : Prop :=
  ∃ members part, value = .obj members ∧ Members.named? names members = some part ∧ Is part

theorem Json.Value.Holds.imp {text : Str → Prop} {number : Int → Prop} {value : Value}
    {names : List String} {Is Was : Value → Prop} (holds : value.Holds names Was)
    (made : value.MadeOf text number)
    (step : ∀ part : Value, part.MadeOf text number → Was part → Is part) :
    value.Holds names Is := by
  obtain ⟨members, part, rfl, found, was⟩ := holds
  obtain ⟨member, present, -, rfl⟩ := Members.exists_of_named? found
  cases made with
  | obj _ parts => exact ⟨members, _, rfl, found, step _ (parts member present) was⟩

theorem Validation.recordOf_eq_ok_iff {α β : Type} {name otherName : String}
    {aliases otherAliases : List String} {read : Value → Checked α} {readOther : Value → Checked β}
    {value : Value} {a : α} {b : β} :
    recordOf name aliases read otherName otherAliases readOther value = .ok (a, b) ↔
      value.Holds (name :: aliases) (fun part => read part = .ok a) ∧
        value.Holds (otherName :: otherAliases) (fun part => readOther part = .ok b) := by
  cases value with
  | obj members =>
      rw [recordOf, Checked.both_eq_ok_iff, required_eq_ok_iff, required_eq_ok_iff]
      simp [Value.Holds]
  | _ =>
      refine iff_of_false nofun ?_
      rintro ⟨⟨members, part, isObject, -⟩, -⟩
      cases isObject

namespace SymbolTable

structure PositionIs (value : Value) (position : Position) : Prop where
  line : value.Holds ["line"] fun part => integer part = .ok position.line
  column : value.Holds ["column", "col"] fun part => integer part = .ok position.column

structure RangeIs (value : Value) (first last : Position) : Prop where
  first : value.Holds ["start"] fun part => PositionIs part first
  last : value.Holds ["end"] fun part => PositionIs part last

structure EntryIs (value : Value) (entry : SymbolEntry) : Prop where
  pathIndex : value.Holds ["pathIndex", "path_index", "path"] fun part =>
    integer part = .ok entry.pathIndex
  range : value.Holds ["range"] fun part => RangeIs part entry.first entry.last

theorem positionOf_eq (value : Value) :
    positionOf value = (recordOf "line" [] integer "column" ["col"] integer value).map
      fun numbers => ⟨numbers.1, numbers.2⟩ := by
  cases value <;> rfl

theorem rangeOf_eq (value : Value) :
    rangeOf value = recordOf "start" [] positionOf "end" [] positionOf value := by
  cases value <;> rfl

theorem entryOf_eq (value : Value) :
    entryOf value = (recordOf "pathIndex" ["path_index", "path"] integer "range" [] rangeOf
      value).map fun parts => ⟨parts.1, parts.2.1, parts.2.2⟩ := by
  cases value <;> rfl

theorem contentOf_eq (value : Value) :
    contentOf value = (recordOf "paths" [] pathsOf "entries" ["map"] entriesOf value).map
      fun parts => ⟨parts.1, parts.2⟩ := by
  cases value <;> rfl

theorem positionOf_eq_ok_iff (value : Value) (position : Position) :
    positionOf value = .ok position ↔ PositionIs value position := by
  rw [positionOf_eq, Result.map_eq_ok_iff]
  constructor
  · rintro ⟨⟨line, column⟩, found, rfl⟩
    obtain ⟨lineHeld, columnHeld⟩ := recordOf_eq_ok_iff.mp found
    exact ⟨lineHeld, columnHeld⟩
  · rintro ⟨lineHeld, columnHeld⟩
    exact ⟨(position.line, position.column), recordOf_eq_ok_iff.mpr ⟨lineHeld, columnHeld⟩, rfl⟩

theorem rangeOf_eq_ok_iff (value : Value) (first last : Position) :
    rangeOf value = .ok (first, last) ↔ RangeIs value first last := by
  rw [rangeOf_eq, recordOf_eq_ok_iff]
  simp only [positionOf_eq_ok_iff]
  exact ⟨fun held => ⟨held.1, held.2⟩, fun held => ⟨held.first, held.last⟩⟩

theorem entryOf_eq_ok_iff (value : Value) (entry : SymbolEntry) :
    entryOf value = .ok entry ↔ EntryIs value entry := by
  rw [entryOf_eq, Result.map_eq_ok_iff]
  simp only [Prod.exists, recordOf_eq_ok_iff, rangeOf_eq_ok_iff]
  constructor
  · rintro ⟨pathIndex, first, last, ⟨indexHeld, rangeHeld⟩, rfl⟩
    exact ⟨indexHeld, rangeHeld⟩
  · rintro ⟨indexHeld, rangeHeld⟩
    exact ⟨entry.pathIndex, entry.first, entry.last, ⟨indexHeld, rangeHeld⟩, rfl⟩

/-! ## Entries by key -/

/-- The entries of an object: one for each key, and each is what the last member with its key
holds. -/
structure EntriesAre (members : Members) (entries : List (String × SymbolEntry)) : Prop where
  once : (entries.map Prod.fst).Nodup
  keys : ∀ name, name ∈ (entries.map Prod.fst).map Str.ofString ↔ name ∈ members.map Prod.fst
  decoded : ∀ pair ∈ entries, ∃ part,
    members.last? (Str.ofString pair.1) = some part ∧ EntryIs part pair.2

def IsRead (member : Str × Value) (pair : String × SymbolEntry) : Prop :=
  member.1.plain = pair.1 ∧ entryOf member.2 = .ok pair.2

theorem entryPairs_eq_ok_iff (members : Members) (pairs : List (String × SymbolEntry)) :
    entryPairs members = .ok pairs ↔ List.Forall₂ IsRead members pairs := by
  induction members generalizing pairs with
  | nil => simp [entryPairs, eq_comm]
  | cons member rest inductionHypothesis =>
      rw [entryPairs, Result.map_eq_ok_iff, List.forall₂_cons_left_iff]
      simp only [Prod.exists, Checked.both_eq_ok_iff, Checked.within_eq_ok_iff,
        inductionHypothesis]
      constructor
      · rintro ⟨entry, others, ⟨read, aligned⟩, rfl⟩
        exact ⟨_, entry, others, ⟨rfl, read⟩, aligned, rfl⟩
      · rintro ⟨_, entry, others, ⟨rfl, read⟩, aligned, rfl⟩
        exact ⟨entry, others, ⟨read, aligned⟩, rfl⟩

theorem succeeds_entryPairs (members : Members) :
    (entryPairs members).Succeeds ↔ ∀ member ∈ members, (entryOf member.2).Succeeds := by
  induction members with
  | nil => exact iff_of_true ⟨[], rfl⟩ (List.forall_mem_nil _)
  | cons member rest inductionHypothesis =>
      rw [entryPairs, Checked.succeeds_map, Checked.succeeds_both, Checked.succeeds_within,
        inductionHypothesis, List.forall_mem_cons]

section

variable {members : Members} {pairs : List (String × SymbolEntry)}

theorem map_ofString_of_isRead (read : List.Forall₂ IsRead members pairs)
    (names : ∀ member ∈ members, member.1.IsText) :
    (pairs.map Prod.fst).map Str.ofString = members.map Prod.fst := by
  induction read with
  | nil => rfl
  | cons first _ inductionHypothesis =>
      obtain ⟨firstName, restNames⟩ := List.forall_mem_cons.mp names
      rw [List.map_cons, List.map_cons, List.map_cons, inductionHypothesis restNames, ← first.1,
        firstName.ofString_plain]

/-- The last pair with a key is read from the last member with that key. -/
theorem rel_last?_lookup (read : List.Forall₂ IsRead members pairs)
    (names : ∀ member ∈ members, member.1.IsText) (key : String) :
    Option.Rel (fun part entry => entryOf part = .ok entry)
      (members.last? (Str.ofString key)) (pairs.reverse.lookup key) := by
  induction read with
  | nil => exact .none
  | @cons member pair rest others first _ inductionHypothesis =>
      obtain ⟨firstName, restNames⟩ := List.forall_mem_cons.mp names
      have later := inductionHypothesis restNames
      rw [Members.last?, List.reverse_cons, List.lookup_append]
      -- the rest decides if it has the key at all, and otherwise the first member does
      cases lastFound : Members.last? (Str.ofString key) rest <;>
        cases found : others.reverse.lookup key <;> rw [lastFound, found] at later
      case some.some => exact later
      case none.some | some.none => cases later
      case none.none =>
        rw [Option.none_or, Keyed.lookup_cons]
        by_cases same : key = pair.1
        · have sameName : member.1 = Str.ofString key := by
            rw [same, ← first.1, firstName.ofString_plain]
          rw [if_pos same]
          simp only [if_pos sameName]
          exact .some first.2
        · have otherName : member.1 ≠ Str.ofString key := fun sameName => same <| by
            rw [← first.1, sameName, Str.plain_ofString]
          rw [if_neg same]
          simp only [if_neg otherName]
          exact .none

theorem entriesAre_of_entriesOf {entries : List (String × SymbolEntry)}
    (read : entriesOf (.obj members) = .ok entries)
    (names : ∀ member ∈ members, member.1.IsText) : EntriesAre members entries := by
  obtain ⟨pairs, readPairs, rfl⟩ := Result.map_eq_ok_iff.mp read
  have aligned := (entryPairs_eq_ok_iff members pairs).mp readPairs
  have once := Keyed.nodup_keys_latest pairs
  refine ⟨once, fun name => ?_, fun pair member => ?_⟩
  · rw [← map_ofString_of_isRead aligned names, List.mem_map, List.mem_map]
    simp only [Keyed.mem_keys_latest]
  · have found := (Keyed.lookup_eq_some_iff once pair).mpr member
    rw [Keyed.lookup_latest] at found
    have related := rel_last?_lookup aligned names pair.1
    rw [found] at related
    cases lastFound : members.last? (Str.ofString pair.1) with
    | none =>
        rw [lastFound] at related
        cases related
    | some part =>
        rw [lastFound] at related
        cases related with
        | some decoded => exact ⟨part, rfl, (entryOf_eq_ok_iff part pair.2).mp decoded⟩

end

/-! ## The whole document -/

structure ContentIs (value : Value) (content : Content) : Prop where
  paths : value.Holds ["paths"] fun part => part = .arr (content.paths.map Value.text)
  entries : value.Holds ["entries", "map"] fun part =>
    ∃ members, part = .obj members ∧ EntriesAre members content.entries

theorem eq_map_text_of_items {values : List Value} {names : List Str} {index : Nat}
    (read : items string index values = .ok names) (textual : ∀ value ∈ values, value.Textual) :
    values = (names.map Str.plain).map Value.text := by
  have listed := eq_map_of_items read
  subst listed
  rw [List.map_map]
  refine List.map_congr_left fun name present => ?_
  cases textual (.str name) (List.mem_map_of_mem present) with
  | str isText => rw [Function.comp_apply, Value.text, isText.ofString_plain]

theorem eq_of_pathsOf {value : Value} {paths : List String} (textual : value.Textual)
    (read : pathsOf value = .ok paths) : value = .arr (paths.map Value.text) := by
  obtain ⟨names, readNames, rfl⟩ := Result.map_eq_ok_iff.mp read
  cases textual with
  | arr parts => rw [eq_map_text_of_items readNames parts]
  | _ => cases readNames

theorem contentIs_of_contentOf {value : Value} {content : Content} (textual : value.Textual)
    (read : contentOf value = .ok content) : ContentIs value content := by
  rw [contentOf_eq] at read
  obtain ⟨⟨paths, entries⟩, found, rfl⟩ := Result.map_eq_ok_iff.mp read
  obtain ⟨pathsHeld, entriesHeld⟩ := recordOf_eq_ok_iff.mp found
  refine ⟨pathsHeld.imp textual fun part partTextual => eq_of_pathsOf partTextual,
    entriesHeld.imp textual fun part partTextual readEntries => ?_⟩
  cases partTextual with
  | obj names _ => exact ⟨_, rfl, entriesAre_of_entriesOf readEntries names⟩
  | _ => cases readEntries

/-! ## Forms -/

def positionForm : Form := .record ["line"] .integer ["column", "col"] .integer

def rangeForm : Form := .record ["start"] positionForm ["end"] positionForm

def entryForm : Form := .record ["pathIndex", "path_index", "path"] .integer ["range"] rangeForm

def documentForm : Form := .record ["paths"] (.list .text) ["entries", "map"] (.mapping entryForm)

theorem governs_positionOf : positionForm.Governs positionOf Eq := by
  rw [funext positionOf_eq]
  exact (Form.Governs.integer.record .integer).map _ fun _ _ same => by rw [same.1, same.2]

theorem governs_rangeOf :
    rangeForm.Governs rangeOf fun range other => range.1 = other.1 ∧ range.2 = other.2 := by
  rw [funext rangeOf_eq]
  exact governs_positionOf.record governs_positionOf

theorem governs_entryOf : entryForm.Governs entryOf Eq := by
  rw [funext entryOf_eq]
  exact (Form.Governs.integer.record governs_rangeOf).map _ fun _ _ same => by
    rw [same.1, same.2.1, same.2.2]

theorem governs_pathsOf : (Form.list .text).Governs pathsOf Eq :=
  (Form.Governs.text.list .document).map _ fun names others same => by
    rw [List.forall₂_eq_eq_eq] at same
    rw [same]

theorem succeeds_entriesOf (members : Members) :
    (entriesOf (.obj members)).Succeeds ↔ ∀ member ∈ members, (entryOf member.2).Succeeds :=
  (Checked.succeeds_map _).trans (succeeds_entryPairs members)

/-- Each member of an object is read like those of another object that have its name, and there are
such members. -/
structure ReadsLike (members others : Members) : Prop where
  names : ∀ name, name ∈ members.map Prod.fst → name ∈ others.map Prod.fst
  entries : ∀ member ∈ members, ∀ other ∈ others, member.1 = other.1 →
    (entryOf member.2).Agrees Eq (entryOf other.2)

namespace ReadsLike

variable {members others : Members}

theorem succeeds (like : ReadsLike members others) (success : (entriesOf (.obj others)).Succeeds) :
    (entriesOf (.obj members)).Succeeds := by
  rw [succeeds_entriesOf] at success ⊢
  intro member present
  obtain ⟨other, otherPresent, sameName⟩ :=
    List.mem_map.mp (like.names _ (List.mem_map_of_mem present))
  have agrees := like.entries member present other otherPresent sameName.symm
  exact agrees.succeeds_iff.mpr (success other otherPresent)

theorem subset (like : ReadsLike members others)
    {entries otherEntries : List (String × SymbolEntry)} (are : EntriesAre members entries)
    (otherAre : EntriesAre others otherEntries) : entries ⊆ otherEntries := by
  intro pair member
  obtain ⟨part, last, decoded⟩ := are.decoded pair member
  have present := Members.mem_of_last? last
  have otherName := like.names _ (List.mem_map_of_mem present)
  rw [← otherAre.keys, List.mem_map] at otherName
  obtain ⟨key, listed, sameName⟩ := otherName
  obtain ⟨otherPair, otherMember, rfl⟩ := List.mem_map.mp listed
  obtain ⟨otherPart, otherLast, otherDecoded⟩ := otherAre.decoded otherPair otherMember
  have agrees := like.entries _ present _ (Members.mem_of_last? otherLast) sameName.symm
  rw [← entryOf_eq_ok_iff] at decoded otherDecoded
  have samePair : pair = otherPair :=
    Prod.ext (Str.ofString_injective sameName).symm (agrees.of_eq_ok decoded otherDecoded)
  exact samePair ▸ otherMember

end ReadsLike

theorem agrees_entriesOf {members others : Members}
    (clear : (Form.mapping entryForm).IsClear (.obj members))
    (otherClear : (Form.mapping entryForm).IsClear (.obj others))
    (variant : (Form.mapping entryForm).Variant (.obj members) (.obj others)) :
    (entriesOf (.obj members)).Agrees List.Perm (entriesOf (.obj others)) := by
  obtain ⟨sameNames, parts⟩ := variant
  have alike : ∀ member ∈ members, ∀ other ∈ others, member.1 = other.1 →
      (entryOf member.2).Agrees Eq (entryOf other.2) :=
    fun member present other otherPresent sameName =>
      governs_entryOf.agrees (clear.part present) (otherClear.part otherPresent)
        (parts member present other otherPresent sameName)
  have like : ReadsLike members others := ⟨fun name => (sameNames name).mp, alike⟩
  have alikeBack : ReadsLike others members :=
    ⟨fun name => (sameNames name).mpr, fun other otherPresent member present sameName =>
      (alike member present other otherPresent sameName.symm).symm⟩
  refine Checked.agrees_of_succeeds_iff ⟨alikeBack.succeeds, like.succeeds⟩
    fun entries otherEntries read otherRead => ?_
  have are := entriesAre_of_entriesOf read clear.names
  have otherAre := entriesAre_of_entriesOf otherRead otherClear.names
  -- keys stand once on both sides, so the same pairs make the lists permutations of each other
  rw [List.perm_ext_iff_of_nodup (List.Nodup.of_map _ are.once)
    (List.Nodup.of_map _ otherAre.once)]
  exact fun pair => ⟨fun member => like.subset are otherAre member,
    fun member => alikeBack.subset otherAre are member⟩

theorem governs_entriesOf : (Form.mapping entryForm).Governs entriesOf List.Perm where
  succeeds_iff := by
    intro value clear
    cases value with
    | obj members =>
        have parts : ∀ member ∈ members,
            ((entryOf member.2).Succeeds ↔ entryForm.Fits member.2) :=
          fun member present => governs_entryOf.succeeds_iff (clear.part present)
        exact (succeeds_entriesOf members).trans (forall₂_congr parts)
    | _ => exact iff_of_false nofun nofun
  agrees := by
    intro value other clear otherClear variant
    cases value <;> cases other
    case obj.obj members others =>
      exact agrees_entriesOf clear otherClear variant
    all_goals trivial

theorem governs_contentOf : documentForm.Governs contentOf fun content other =>
    content.paths = other.paths ∧ content.entries.Perm other.entries := by
  rw [funext contentOf_eq]
  exact (governs_pathsOf.record governs_entriesOf).map _ fun _ _ same => same

end SymbolTable

end LineMap
