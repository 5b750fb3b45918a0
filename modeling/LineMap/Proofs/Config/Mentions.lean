import LineMap.Proofs.Config.Validity
import LineMap.Proofs.Keyed

/-!
# What a configuration document mentions

A document mentions a field if its last section with the right name has a member of that name.  It
is valid exactly if all its names are known and each value that it mentions can be read, and then
it makes one setting for every field that it mentions.
-/

set_option autoImplicit false

namespace LineMap

open LineMap.Json
open LineMap.Validation

theorem Group.mem_all (group : Group) : group ∈ all := by
  cases group <;> decide

namespace Json.Value

def member? (value : Value) (name : String) : Option Value :=
  match value with
  | .obj members => Members.last? (Str.ofString name) members
  | _ => none

theorem member?_obj (members : Members) (name : String) :
    (Value.obj members).member? name = Members.last? (Str.ofString name) members := rfl

def HasOnly (names : List String) (value : Value) : Prop :=
  ∃ members, value = .obj members ∧ ∀ member ∈ members, member.1 ∈ names.map Str.ofString

end Json.Value

namespace Validation

theorem onlyKnown_eq_ok_iff (known : List String) (members : Members) :
    onlyKnown known members = .ok () ↔
      ∀ member ∈ members, member.1 ∈ known.map Str.ofString := by
  have keys := fun name => Keyed.mem_keys_latest name members
  simp only [List.mem_map] at keys
  simp only [onlyKnown]
  split
  next none =>
    refine iff_of_true rfl fun member present => ?_
    obtain ⟨last, lastPresent, sameName⟩ := (keys member.1).mpr ⟨member, present, rfl⟩
    have excluded := List.filter_eq_nil_iff.mp (List.isEmpty_iff.mp none) last lastPresent
    rw [← sameName]
    simpa using excluded
  next some =>
    refine iff_of_false nofun fun allKnown => some (List.isEmpty_iff.mpr ?_)
    refine List.filter_eq_nil_iff.mpr fun last lastPresent => ?_
    obtain ⟨member, present, sameName⟩ := (keys last.1).mp ⟨last, lastPresent, rfl⟩
    have isKnown := allKnown member present
    rw [sameName] at isKnown
    simpa using isKnown

theorem optional_eq_ok_iff {α : Type} (members : Members) (name : String)
    (read : Value → Checked α) (found? : Option α) :
    Validation.optional members name read = .ok found? ↔
      (∀ raw, (Value.obj members).member? name = some raw → ∃ value, read raw = .ok value) ∧
        found? = ((Value.obj members).member? name).bind fun raw => (read raw).toOption := by
  rw [Validation.optional, Value.member?_obj]
  cases Members.last? (Str.ofString name) members with
  | none => simp [eq_comm]
  | some raw =>
      cases readRaw : read raw with
      | ok value => simp [readRaw, Checked.within, Except.map, Except.toOption, eq_comm]
      | error issues => simp [readRaw, Checked.within, Except.map]

namespace Checked

variable {κ α : Type}

theorem concat_cons_eq_ok_iff (first : Checked (List α)) (others : List (Checked (List α)))
    (all : List α) :
    concat (first :: others) = .ok all ↔
      ∃ front back, first = .ok front ∧ concat others = .ok back ∧ all = front ++ back := by
  rw [concat, Result.map_eq_ok_iff]
  constructor
  · rintro ⟨⟨front, back⟩, found, rfl⟩
    obtain ⟨firstOk, othersOk⟩ := both_eq_ok_iff.mp found
    exact ⟨front, back, firstOk, othersOk, rfl⟩
  · rintro ⟨front, back, firstOk, othersOk, rfl⟩
    exact ⟨(front, back), both_eq_ok_iff.mpr ⟨firstOk, othersOk⟩, rfl⟩

theorem concat_eq_ok_iff {part : κ → Checked (List α)} {Fits : κ → Prop} {made : κ → List α}
    (partOk : ∀ key list, part key = .ok list ↔ Fits key ∧ list = made key)
    (names : Checked Unit) (keys : List κ) (all : List α) :
    concat (keys.map part ++ [names.map fun _ => []]) = .ok all ↔
      names = .ok () ∧ (∀ key ∈ keys, Fits key) ∧ all = keys.flatMap made := by
  induction keys generalizing all with
  | nil =>
      rw [List.map_nil, List.nil_append, concat_cons_eq_ok_iff]
      constructor
      · rintro ⟨front, back, namesOk, rest, rfl⟩
        obtain ⟨⟨⟩, known, rfl⟩ := Result.map_eq_ok_iff.mp namesOk
        cases rest
        exact ⟨known, nofun, rfl⟩
      · rintro ⟨rfl, -, rfl⟩
        exact ⟨[], [], rfl, rfl, rfl⟩
  | cons key others inductionHypothesis =>
      rw [List.map_cons, List.cons_append, concat_cons_eq_ok_iff]
      constructor
      · rintro ⟨front, back, firstOk, othersOk, rfl⟩
        obtain ⟨fits, rfl⟩ := (partOk key front).mp firstOk
        obtain ⟨namesOk, othersFit, rfl⟩ := (inductionHypothesis back).mp othersOk
        exact ⟨namesOk, List.forall_mem_cons.mpr ⟨fits, othersFit⟩, List.flatMap_cons.symm⟩
      · rintro ⟨namesOk, fit, rfl⟩
        obtain ⟨fits, othersFit⟩ := List.forall_mem_cons.mp fit
        exact ⟨made key, others.flatMap made, (partOk key _).mpr ⟨fits, rfl⟩,
          (inductionHypothesis _).mpr ⟨namesOk, othersFit, rfl⟩, List.flatMap_cons⟩

end Checked

end Validation

namespace Config

def mention? (document : Value) (leaf : Leaf) : Option Value :=
  (document.member? leaf.group.name).bind fun inside => inside.member? leaf.name

/-- A document in which all names are known: of the sections, and of the fields in each. -/
def Shaped (document : Value) : Prop :=
  document.HasOnly (Group.all.map Group.name) ∧
    ∀ group inside, document.member? (Group.name group) = some inside →
      inside.HasOnly (group.leaves.map Leaf.name)

def Readable (origin : Origin) (document : Value) : Prop :=
  ∀ leaf raw, mention? document leaf = some raw → ∃ value, readLeaf origin leaf raw = .ok value

/-- The setting for a field that a value makes, if it is there and can be read. -/
def settingOf (origin : Origin) (leaf : Leaf) (raw? : Option Value) : List Setting :=
  (raw?.bind fun raw => (readLeaf origin leaf raw).toOption).toList.map (Setting.mk leaf)

def mentioned (origin : Origin) (document : Value) : List Setting :=
  Leaf.all.flatMap fun leaf => settingOf origin leaf (mention? document leaf)

theorem leafSetting_eq_ok_iff (origin : Origin) (members : Members) (leaf : Leaf)
    (settings : List Setting) :
    leafSetting origin members leaf = .ok settings ↔
      (∀ raw, (Value.obj members).member? leaf.name = some raw →
        ∃ value, readLeaf origin leaf raw = .ok value) ∧
      settings = settingOf origin leaf ((Value.obj members).member? leaf.name) := by
  rw [leafSetting, Result.map_eq_ok_iff]
  simp only [optional_eq_ok_iff, settingOf]
  constructor
  · rintro ⟨-, ⟨readable, rfl⟩, rfl⟩
    exact ⟨readable, rfl⟩
  · rintro ⟨readable, rfl⟩
    exact ⟨_, ⟨readable, rfl⟩, rfl⟩

theorem groupSettings_eq_ok_iff (origin : Origin) (group : Group) (inside : Value)
    (settings : List Setting) :
    groupSettings origin group inside = .ok settings ↔
      (inside.HasOnly (group.leaves.map Leaf.name) ∧
        ∀ leaf ∈ group.leaves, ∀ raw, inside.member? leaf.name = some raw →
          ∃ value, readLeaf origin leaf raw = .ok value) ∧
      settings = group.leaves.flatMap fun leaf =>
        settingOf origin leaf (inside.member? leaf.name) := by
  cases inside with
  | obj members =>
      rw [groupSettings,
        Checked.concat_eq_ok_iff (leafSetting_eq_ok_iff origin members) _ group.leaves settings,
        onlyKnown_eq_ok_iff, ← and_assoc]
      simp [Value.HasOnly]
  | _ => simp [groupSettings, Checked.refuse, Value.HasOnly]

theorem sectionSettings_eq_ok_iff (origin : Origin) (members : Members) (group : Group)
    (settings : List Setting) :
    (Validation.optional members group.name (groupSettings origin group)).map
        (fun settings? => settings?.getD []) = .ok settings ↔
      (∀ inside, (Value.obj members).member? group.name = some inside →
        inside.HasOnly (group.leaves.map Leaf.name) ∧
          ∀ leaf ∈ group.leaves, ∀ raw, inside.member? leaf.name = some raw →
            ∃ value, readLeaf origin leaf raw = .ok value) ∧
      settings = group.leaves.flatMap fun leaf =>
        settingOf origin leaf (mention? (.obj members) leaf) := by
  have mentions : group.leaves.flatMap (fun leaf =>
        settingOf origin leaf (mention? (.obj members) leaf)) =
      group.leaves.flatMap fun leaf => settingOf origin leaf
        (((Value.obj members).member? group.name).bind fun inside => inside.member? leaf.name) := by
    rw [List.flatMap_def, List.flatMap_def, List.map_congr_left]
    intro leaf inGroup
    rw [mention?, (Leaf.mem_leaves_iff leaf group).mp inGroup]
  rw [Result.map_eq_ok_iff, mentions]
  simp only [optional_eq_ok_iff]
  cases (Value.obj members).member? group.name with
  | none =>
      have nothing : (group.leaves.flatMap fun _ => ([] : List Setting)) = [] :=
        List.flatMap_eq_nil_iff.mpr fun _ _ => rfl
      simp [settingOf, nothing, eq_comm]
  | some inside =>
      simp only [Option.some.injEq, forall_eq', Option.bind_some]
      constructor
      · rintro ⟨found?, ⟨⟨made, madeOk⟩, rfl⟩, rfl⟩
        obtain ⟨fits, rfl⟩ := (groupSettings_eq_ok_iff origin group inside made).mp madeOk
        rw [madeOk]
        exact ⟨fits, rfl⟩
      · rintro ⟨fits, rfl⟩
        have madeOk := (groupSettings_eq_ok_iff origin group inside _).mpr ⟨fits, rfl⟩
        refine ⟨_, ⟨⟨_, madeOk⟩, rfl⟩, ?_⟩
        rw [madeOk]
        rfl

/-- A valid document makes the settings of the fields that it mentions; validity is a matter of its
names and of its values. -/
theorem documentSettings_eq_ok_iff (origin : Origin) (document : Value)
    (settings : List Setting) :
    documentSettings origin document = .ok settings ↔
      Shaped document ∧ Readable origin document ∧ settings = mentioned origin document := by
  cases document with
  | obj members =>
      rw [documentSettings,
        Checked.concat_eq_ok_iff (sectionSettings_eq_ok_iff origin members) _ Group.all settings,
        onlyKnown_eq_ok_iff, mentioned, Leaf.all, List.flatMap_assoc]
      constructor
      · rintro ⟨known, sections, rfl⟩
        refine ⟨⟨⟨members, rfl, known⟩, fun group inside found => ?_⟩, fun leaf raw found => ?_,
          rfl⟩
        · exact (sections group (Group.mem_all group) inside found).1
        · obtain ⟨inside, insideFound, found⟩ := Option.bind_eq_some_iff.mp found
          have fits := sections leaf.group (Group.mem_all leaf.group) inside insideFound
          exact fits.2 leaf ((Leaf.mem_leaves_iff leaf leaf.group).mpr rfl) raw found
      · rintro ⟨⟨⟨found, same, known⟩, sections⟩, readable, rfl⟩
        cases same
        refine ⟨known, fun group _ inside insideFound => ⟨sections group inside insideFound, ?_⟩,
          rfl⟩
        intro leaf inGroup raw found
        obtain rfl := (Leaf.mem_leaves_iff leaf group).mp inGroup
        exact readable leaf raw (Option.bind_eq_some_iff.mpr ⟨inside, insideFound, found⟩)
  | _ => simp [documentSettings, Checked.refuse, Shaped, Value.HasOnly]

end Config

end LineMap
