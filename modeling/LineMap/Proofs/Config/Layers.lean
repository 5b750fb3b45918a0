import LineMap.Proofs.Config.Overlay
import LineMap.Proofs.Json.Merging
import Mathlib.Data.List.Nodup

/-!
# Layers of the configuration

A valid document is two objects deep: at one name stands a section, at two names stands a value that
the field takes, and nowhere else stands anything.  So no two of them differ in shape.  Where one is
merged over another, it makes its settings after those of the other: a configuration gets the same
from layers that are merged first as from layers that are laid over it one by one.
-/

set_option autoImplicit false

namespace LineMap

open LineMap.Json
open LineMap.Validation

namespace Json.Value

theorem member?_eq_at? (value : Value) (name : String) :
    value.member? name = value.at? [Str.ofString name] := by
  cases value with
  | obj members => rw [member?_obj, at?_cons_obj, bind_at?_nil]
  | _ => rfl

/-- A plain value holds no object, so no name in it is repeated. -/
theorem IsPlain.unique {value : Value} (plain : value.IsPlain) : value.unique = value := by
  cases value with
  | obj members => exact absurd plain id
  | arr items =>
      rw [Value.unique]
      congr 1
      induction items with
      | nil => rfl
      | cons item others inductionHypothesis =>
          obtain ⟨⟨s, rfl, -⟩, later⟩ := List.forall_mem_cons.mp plain
          rw [uniqueItems, inductionHypothesis later]
          rfl
  | _ => rfl

theorem IsPlain.noObject {value : Value} (plain : value.IsPlain) : value.isObject = false := by
  cases value with
  | obj members => exact absurd plain id
  | _ => rfl

end Json.Value

namespace Config

def fieldPath (leaf : Leaf) : List Str :=
  [Str.ofString leaf.group.name, Str.ofString leaf.name]

theorem mention?_eq_at? (document : Value) (leaf : Leaf) :
    mention? document leaf = document.at? (fieldPath leaf) := by
  have split : fieldPath leaf = [Str.ofString leaf.group.name] ++ [Str.ofString leaf.name] := rfl
  rw [mention?, Value.member?_eq_at?, split, Value.at?_append]
  exact congrArg _ (funext fun inside => Value.member?_eq_at? inside leaf.name)

/-! ## What may stand where -/

/-- Each name leads to a section, and each two names lead to a value that their field takes. -/
structure IsValidDocument (document : Value) : Prop where
  top : document.isObject = true
  sections : ∀ name inside, document.at? [name] = some inside →
    inside.isObject = true ∧ ∃ group : Group, Str.ofString group.name = name
  fields : ∀ name field raw, document.at? [name, field] = some raw →
    ∃ (leaf : Leaf) (value : leaf.Carrier), Str.ofString leaf.group.name = name ∧
      Str.ofString leaf.name = field ∧ readLeaf .document leaf raw = .ok value

theorem IsValidDocument.of_sections {members : Members}
    (each : ∀ name inside, members.last? name = some inside →
      ∃ (group : Group) (fields : Members), Str.ofString group.name = name ∧
        .obj fields = inside ∧ ∀ field raw, fields.last? field = some raw →
          ∃ (leaf : Leaf) (value : leaf.Carrier), leaf.group = group ∧
            Str.ofString leaf.name = field ∧ readLeaf .document leaf raw = .ok value) :
    IsValidDocument (.obj members) := by
  refine ⟨rfl, fun name inside found => ?_, fun name field raw found => ?_⟩
  · rw [Value.at?_cons_obj, Value.bind_at?_nil] at found
    obtain ⟨group, fields, named, rfl, -⟩ := each name inside found
    exact ⟨rfl, group, named⟩
  · rw [Value.at?_cons_obj] at found
    obtain ⟨inside, insideFound, found⟩ := Option.bind_eq_some_iff.mp found
    obtain ⟨group, fields, named, rfl, taken⟩ := each name inside insideFound
    rw [Value.at?_cons_obj, Value.bind_at?_nil] at found
    obtain ⟨leaf, value, rfl, sameName, read⟩ := taken field raw found
    exact ⟨leaf, value, named, sameName, read⟩

theorem isValidDocument_of_shaped {document : Value} (shaped : Shaped document)
    (readable : Readable .document document) : IsValidDocument document := by
  obtain ⟨⟨members, rfl, known⟩, inner⟩ := shaped
  refine .of_sections fun name inside found => ?_
  obtain ⟨text, listed, rfl⟩ := List.mem_map.mp (known _ (Members.mem_of_last? found))
  obtain ⟨group, -, rfl⟩ := List.mem_map.mp listed
  obtain ⟨fields, rfl, fieldsKnown⟩ := inner group inside found
  refine ⟨group, fields, rfl, rfl, fun field raw rawFound => ?_⟩
  obtain ⟨text, listed, rfl⟩ := List.mem_map.mp (fieldsKnown _ (Members.mem_of_last? rawFound))
  obtain ⟨leaf, inGroup, rfl⟩ := List.mem_map.mp listed
  obtain rfl := (Leaf.mem_leaves_iff leaf group).mp inGroup
  obtain ⟨value, read⟩ := readable leaf raw <| by
    rw [mention?, Value.member?_obj, found]
    exact rawFound
  exact ⟨leaf, value, rfl, rfl, read⟩

theorem IsValidDocument.shaped {document : Value} (valid : IsValidDocument document) :
    Shaped document := by
  obtain ⟨members, rfl⟩ := Value.isObject_iff.mp valid.top
  refine ⟨⟨members, rfl, fun ⟨name, part⟩ present => ?_⟩, fun group inside found => ?_⟩
  · obtain ⟨last, found⟩ := Members.exists_last? present
    obtain ⟨-, group, rfl⟩ := valid.sections name last (by simpa using found)
    exact List.mem_map_of_mem (List.mem_map_of_mem (Group.mem_all group))
  · rw [Value.member?_eq_at?] at found
    obtain ⟨others, rfl⟩ := Value.isObject_iff.mp (valid.sections _ inside found).1
    refine ⟨others, rfl, fun ⟨field, raw⟩ present => ?_⟩
    obtain ⟨last, lastFound⟩ := Members.exists_last? present
    obtain ⟨leaf, -, sameGroup, rfl, -⟩ := valid.fields (Str.ofString group.name) field last <| by
      rw [← List.singleton_append, Value.at?_append, found]
      simpa using lastFound
    have inGroup := (Leaf.mem_leaves_iff leaf group).mpr
      (Group.ofString_name_injective _ _ sameGroup)
    exact List.mem_map_of_mem (List.mem_map_of_mem inGroup)

theorem IsValidDocument.readable {document : Value} (valid : IsValidDocument document) :
    Readable .document document := by
  intro leaf raw found
  rw [mention?_eq_at?] at found
  obtain ⟨other, value, -, sameName, read⟩ := valid.fields _ _ raw found
  obtain rfl := Leaf.ofString_name_injective other leaf sameName
  exact ⟨value, read⟩

theorem documentSettings_eq_ok_iff_isValidDocument (document : Value) (settings : List Setting) :
    documentSettings .document document = .ok settings ↔
      IsValidDocument document ∧ settings = mentioned .document document := by
  rw [documentSettings_eq_ok_iff, ← and_assoc]
  refine and_congr_left fun _ => ⟨fun both => isValidDocument_of_shaped both.1 both.2, ?_⟩
  exact fun valid => ⟨valid.shaped, valid.readable⟩

namespace IsValidDocument

variable {document other : Value}

/-- At a path in a valid document stands an object if the path is shorter than two names; at two
names stands a plain value. -/
theorem at?_cases (valid : IsValidDocument document) {path : List Str} {part : Value}
    (found : document.at? path = some part) :
    part.isObject = true ∧ path.length < 2 ∨ part.IsPlain ∧ path.length = 2 := by
  match path with
  | [] =>
      cases (Value.at?_nil document).symm.trans found
      exact .inl ⟨valid.top, Nat.zero_lt_two⟩
  | [name] => exact .inl ⟨(valid.sections name part found).1, Nat.one_lt_two⟩
  | [name, field] =>
      obtain ⟨leaf, value, -, -, read⟩ := valid.fields name field part found
      exact .inr ⟨isPlain_of_taken read, rfl⟩
  | name :: field :: deeper :: rest =>
      have split : name :: field :: deeper :: rest = [name, field] ++ deeper :: rest := rfl
      rw [split, Value.at?_append] at found
      obtain ⟨raw, rawFound, found⟩ := Option.bind_eq_some_iff.mp found
      obtain ⟨leaf, value, -, -, read⟩ := valid.fields name field raw rawFound
      cases (Value.at?_cons_of_noObject (isPlain_of_taken read).noObject _ _).symm.trans found

theorem sameShape (valid : IsValidDocument document) (otherValid : IsValidDocument other) :
    document.SameShape other := by
  intro path part otherPart found otherFound
  obtain ⟨shape, short⟩ | ⟨plain, two⟩ := valid.at?_cases found
  · obtain ⟨otherShape, -⟩ | ⟨-, otherTwo⟩ := otherValid.at?_cases otherFound
    · rw [shape, otherShape]
    · omega
  · obtain ⟨-, otherShort⟩ | ⟨otherPlain, -⟩ := otherValid.at?_cases otherFound
    · omega
    · rw [plain.noObject, otherPlain.noObject]

theorem of_atoms (each : ∀ path part, path.length ≤ 2 → document.at? path = some part →
      ∃ origin former, IsValidDocument origin ∧ origin.at? path = some former ∧
        former.atom? = part.atom?) : IsValidDocument document := by
  refine ⟨?_, fun name inside found => ?_, fun name field raw found => ?_⟩
  · obtain ⟨origin, former, valid, found, atoms⟩ :=
      each [] document (Nat.zero_le 2) (Value.at?_nil document)
    cases (Value.at?_nil origin).symm.trans found
    rw [← Value.isObject_eq_of_atom? atoms, valid.top]
  · obtain ⟨origin, former, valid, found, atoms⟩ := each [name] inside (Nat.le_succ 1) found
    rw [← Value.isObject_eq_of_atom? atoms]
    exact valid.sections name former found
  · obtain ⟨origin, former, valid, found, atoms⟩ := each [name, field] raw (Nat.le_refl 2) found
    obtain ⟨leaf, value, sameGroup, sameName, read⟩ := valid.fields name field former found
    rw [← Value.eq_of_atom? atoms (isPlain_of_taken read).noObject]
    exact ⟨leaf, value, sameGroup, sameName, read⟩

theorem map_atom?_fieldPath (valid : IsValidDocument document) (leaf : Leaf) :
    (document.at? (fieldPath leaf)).map Value.atom? = (mention? document leaf).map some := by
  rw [mention?_eq_at?]
  refine Option.map_congr fun raw found => ?_
  obtain ⟨other, value, -, -, read⟩ := valid.fields _ _ raw found
  exact Value.atom?_of_noObject (isPlain_of_taken read).noObject

/-! ## The same content -/

theorem of_sameContent (valid : IsValidDocument document) (same : document.SameContent other) :
    IsValidDocument other := by
  refine of_atoms fun path part _ found => ?_
  obtain ⟨former, formerFound, atoms⟩ := same.symm.exists_at? found
  exact ⟨document, former, valid, formerFound, atoms⟩

theorem mention?_eq (valid : IsValidDocument document) (same : document.SameContent other)
    (leaf : Leaf) : mention? other leaf = mention? document leaf := by
  apply Option.map_injective fun _ _ => Option.some.inj
  rw [← valid.map_atom?_fieldPath, ← (valid.of_sameContent same).map_atom?_fieldPath,
    same (fieldPath leaf)]

/-- A valid document loses nothing when of repeated names the last is kept. -/
theorem sameContent_unique (valid : IsValidDocument document) :
    document.SameContent document.unique := by
  intro path
  rw [Value.at?_unique, Option.map_map]
  refine Option.map_congr fun part found => ?_
  obtain ⟨shape, -⟩ | ⟨plain, -⟩ := valid.at?_cases found
  · obtain ⟨members, rfl⟩ := Value.isObject_iff.mp shape
    rw [Function.comp_apply, Value.unique]
    rfl
  · rw [Function.comp_apply, plain.unique]

theorem isOpenAt (valid : IsValidDocument document) {path : List Str} (short : path.length ≤ 2)
    (absent : document.at? path = none) : document.IsOpenAt path := by
  intro front above leads found
  obtain ⟨shape, -⟩ | ⟨-, two⟩ := valid.at?_cases found
  · exact shape
  · obtain rfl := leads.eq_of_length_le (two ▸ short)
    cases absent.symm.trans found

end IsValidDocument

theorem mentioned_congr (origin : Origin) {document other : Value}
    (same : ∀ leaf, mention? document leaf = mention? other leaf) :
    mentioned origin document = mentioned origin other := by
  simp only [mentioned, same]

/-- What settings are written as is valid, if the fields admit their values. -/
theorem isValidDocument_documentMembers {settings : List Setting}
    (admitted : ∀ setting ∈ settings, setting.leaf.Admits setting.value) :
    IsValidDocument (.obj (documentMembers settings)) := by
  refine .of_sections fun name inside found => ?_
  obtain ⟨group, -, same⟩ := List.mem_map.mp (Members.mem_of_last? found)
  obtain ⟨rfl, rfl⟩ := Prod.mk.inj same
  refine ⟨group, _, rfl, rfl, fun field raw rawFound => ?_⟩
  obtain ⟨⟨leaf, value⟩, listed, same⟩ := List.mem_map.mp (Members.mem_of_last? rawFound)
  obtain ⟨rfl, rfl⟩ := Prod.mk.inj same
  obtain ⟨made, inGroup⟩ := List.mem_filter.mp listed
  exact ⟨leaf, value, of_decide_eq_true inGroup, rfl,
    readLeaf_leafValue .document (admitted _ made)⟩

theorem nodup_leaf_mentioned (origin : Origin) (document : Value) :
    ((mentioned origin document).map Setting.leaf).Nodup := by
  have all : Leaf.all.Nodup := by decide
  -- at most one setting for each of the fields, in their order
  refine List.Nodup.sublist ?_ all
  rw [mentioned]
  induction Leaf.all with
  | nil => exact .slnil
  | cons leaf others inductionHypothesis =>
      rw [List.flatMap_cons, List.map_append, settingOf]
      cases (mention? document leaf).bind fun raw => (readLeaf origin leaf raw).toOption with
      | none => exact inductionHypothesis.cons leaf
      | some value => exact inductionHypothesis.cons_cons leaf

theorem noObject_leafValue (leaf : Leaf) (value : leaf.Carrier) :
    (leafValue leaf value).isObject = false := by
  cases leaf <;> rfl

theorem namesOnce_documentMembers {settings : List Setting}
    (once : (settings.map Setting.leaf).Nodup) :
    (Value.obj (documentMembers settings)).NamesOnce := by
  have groups : (Group.all.map fun group => Str.ofString group.name).Nodup :=
    List.Nodup.map Group.ofString_name_injective (by decide)
  refine .obj ?_ fun member present => ?_
  · rwa [documentMembers, List.map_map]
  · obtain ⟨group, -, rfl⟩ := List.mem_map.mp present
    refine .obj ?_ fun field fieldPresent => ?_
    · have inGroup : (settings.filter fun setting => setting.leaf.group = group).Sublist settings :=
        List.filter_sublist
      have names := (once.sublist (inGroup.map Setting.leaf)).map Leaf.ofString_name_injective
      rw [List.map_map] at names
      rwa [groupMembers, List.map_map]
    · obtain ⟨setting, -, rfl⟩ := List.mem_map.mp fieldPresent
      exact .plain (noObject_leafValue setting.leaf setting.value)

/-! ## Layers -/

structure IsLayer (members : Members) : Prop where
  valid : IsValidDocument (.obj members)
  once : (Value.obj members).NamesOnce

def layered (config : Config) (members : Members) : Config :=
  config.apply (mentioned .document (.obj members))

theorem apply_of_sameContent {document : Value} {settings : List Setting} {members : Members}
    (made : documentSettings .document document = .ok settings)
    (same : document.SameContent (.obj members)) (config : Config) :
    config.apply settings = config.layered members := by
  obtain ⟨valid, rfl⟩ := (documentSettings_eq_ok_iff_isValidDocument _ _).mp made
  rw [layered, mentioned_congr .document (valid.mention?_eq same)]

/-- A document that can be read is a layer, when of repeated names the last is kept. -/
theorem exists_layer {document : Value} {settings : List Setting}
    (made : documentSettings .document document = .ok settings) :
    ∃ members, document.unique = .obj members ∧ IsLayer members ∧
      document.SameContent (.obj members) := by
  obtain ⟨valid, -⟩ := (documentSettings_eq_ok_iff_isValidDocument _ _).mp made
  have same := valid.sameContent_unique
  obtain ⟨members, unique⟩ := Value.isObject_iff.mp (valid.of_sameContent same).top
  have once := unique ▸ Value.namesOnce_unique document
  exact ⟨members, unique, ⟨unique ▸ valid.of_sameContent same, once⟩, unique ▸ same⟩

theorem isLayer_documentMembers {document : Value} {settings : List Setting}
    (made : documentSettings .document document = .ok settings) :
    IsLayer (documentMembers settings) := by
  obtain ⟨-, rfl⟩ := (documentSettings_eq_ok_iff_isValidDocument _ _).mp made
  exact ⟨isValidDocument_documentMembers fun _ => admits_of_mem_mentioned,
    namesOnce_documentMembers (nodup_leaf_mentioned .document document)⟩

namespace IsLayer

variable {base overrides : Members}

theorem sameShape (layer : IsLayer overrides) (baseLayer : IsLayer base) :
    (Value.obj base).SameShape (.obj overrides) :=
  baseLayer.valid.sameShape layer.valid

theorem merge_assoc (layer : IsLayer overrides) {members : Members} (between : IsLayer members)
    (baseLayer : IsLayer base) :
    Members.merge (Members.merge base members) overrides =
      Members.merge base (Members.merge members overrides) :=
  Members.merge_assoc baseLayer.once between.once layer.once
    (Value.joins_of_sameShape (layer.sameShape between) _)

theorem empty : IsLayer [] :=
  ⟨.of_sections nofun, .empty⟩

/-- What merged layers hold at one or two names: what overrides, or else what the base has. -/
theorem at?_merge (layer : IsLayer overrides) (baseLayer : IsLayer base) {path : List Str}
    (short : path.length ≤ 2) :
    ((Value.obj (Members.merge base overrides)).at? path).map Value.atom? =
      (((Value.obj overrides).at? path).map Value.atom?).or
        (((Value.obj base).at? path).map Value.atom?) := by
  have based : ∀ value ∈ some (Value.obj base), value.NamesOnce := by simpa using baseLayer.once
  rw [← Value.over_obj_obj]
  cases found : (Value.obj overrides).at? path with
  | none =>
      have isOpen := layer.valid.isOpenAt short found
      rw [Value.at?_over_of_none layer.once based found isOpen]
      rfl
  | some part =>
      rw [Value.at?_over_of_some layer.once based found, Option.map_some, Value.atom?_over]
      rfl

theorem merge (layer : IsLayer overrides) (baseLayer : IsLayer base) :
    IsLayer (Members.merge base overrides) where
  once := Members.namesOnce_merge baseLayer.once layer.once
  valid := by
    refine .of_atoms fun path part short found => ?_
    have atoms := layer.at?_merge baseLayer short
    rw [found, Option.map_some] at atoms
    rcases Option.or_eq_some_iff.mp atoms.symm with overridden | ⟨-, kept⟩
    · obtain ⟨former, formerFound, same⟩ := Option.map_eq_some_iff.mp overridden
      exact ⟨.obj overrides, former, layer.valid, formerFound, same⟩
    · obtain ⟨former, formerFound, same⟩ := Option.map_eq_some_iff.mp kept
      exact ⟨.obj base, former, baseLayer.valid, formerFound, same⟩

theorem mention?_merge (layer : IsLayer overrides) (baseLayer : IsLayer base) (leaf : Leaf) :
    mention? (.obj (Members.merge base overrides)) leaf =
      (mention? (.obj overrides) leaf).or (mention? (.obj base) leaf) := by
  apply Option.map_injective fun _ _ => Option.some.inj
  have short : (fieldPath leaf).length ≤ 2 := Nat.le_refl 2
  rw [← (layer.merge baseLayer).valid.map_atom?_fieldPath, layer.at?_merge baseLayer short,
    layer.valid.map_atom?_fieldPath, baseLayer.valid.map_atom?_fieldPath, Option.map_or]

theorem layered_merge (layer : IsLayer overrides) (baseLayer : IsLayer base) (config : Config) :
    config.layered (Members.merge base overrides) = (config.layered base).layered overrides := by
  refine ext_get fun leaf => ?_
  rw [layered, get_apply_mentioned, layered, get_apply_mentioned, layered, get_apply_mentioned,
    layer.mention?_merge baseLayer]
  cases found : mention? (.obj overrides) leaf with
  | none => rfl
  | some raw =>
      obtain ⟨value, read⟩ := layer.valid.readable leaf raw found
      simp [read, Except.toOption]

theorem foldl_merge {layers : List Members} (each : ∀ members ∈ layers, IsLayer members)
    (baseLayer : IsLayer base) : IsLayer (layers.foldl Members.merge base) := by
  induction layers generalizing base with
  | nil => exact baseLayer
  | cons first others inductionHypothesis =>
      obtain ⟨firstLayer, othersLayers⟩ := List.forall_mem_cons.mp each
      exact inductionHypothesis othersLayers (firstLayer.merge baseLayer)

/-- Layers that are laid over a configuration one by one come to what their merge comes to. -/
theorem foldl_layered {layers : List Members} (each : ∀ members ∈ layers, IsLayer members)
    (baseLayer : IsLayer base) (config : Config) :
    layers.foldl layered (config.layered base) =
      config.layered (layers.foldl Members.merge base) := by
  induction layers generalizing base with
  | nil => rfl
  | cons first others inductionHypothesis =>
      obtain ⟨firstLayer, othersLayers⟩ := List.forall_mem_cons.mp each
      rw [List.foldl_cons, List.foldl_cons, ← firstLayer.layered_merge baseLayer]
      exact inductionHypothesis othersLayers (firstLayer.merge baseLayer)

end IsLayer

end Config

end LineMap
