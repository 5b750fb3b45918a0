import LineMap.Proofs.Config.Mentions

/-!
# Documents laid over configurations

Laying a document over a valid configuration comes to making the document's settings: the merged
members are those of the configuration with the settings made, and reading them again neither fails
nor changes anything.
-/

set_option autoImplicit false

namespace LineMap

open LineMap.Json
open LineMap.Validation

/-! ## Members that are listed by key -/

namespace Json.Members

variable {ι : Type} [DecidableEq ι] {name : ι → Str}

theorem last?_map (injective : ∀ key other, name key = name other → key = other)
    (value : ι → Value) (key : ι) (keys : List ι) :
    last? (name key) (keys.map fun other => (name other, value other)) =
      if key ∈ keys then some (value key) else none := by
  induction keys with
  | nil => rfl
  | cons first others inductionHypothesis =>
      rw [List.map_cons, last?, inductionHypothesis]
      by_cases later : key ∈ others
      · simp [later]
      · by_cases same : key = first
        · subst same
          simp [later]
        · have differs : name first ≠ name key := fun sameName =>
            same (injective first key sameName).symm
          simp [later, same, differs]

theorem put_map (injective : ∀ key other, name key = name other → key = other)
    (value : ι → Value) (key : ι) (given : Value) {keys : List ι} (once : keys.Nodup)
    (listed : key ∈ keys) :
    Keyed.put (name key) given (keys.map fun other => (name other, value other)) =
      keys.map fun other => (name other, if other = key then given else value other) := by
  induction keys with
  | nil => cases listed
  | cons first others inductionHypothesis =>
      obtain ⟨firstOnce, othersOnce⟩ := List.nodup_cons.mp once
      rw [List.map_cons, List.map_cons, Keyed.put]
      by_cases same : first = key
      · subst same
        rw [if_pos rfl, if_pos rfl]
        congr 1
        refine List.map_congr_left fun other member => ?_
        rw [if_neg]
        rintro rfl
        exact firstOnce member
      · have later := (List.mem_cons.mp listed).resolve_left (Ne.symm same)
        rw [if_neg fun sameName => same (injective first key sameName), if_neg same,
          inductionHypothesis othersOnce later]

theorem merge_map (injective : ∀ key other, name key = name other → key = other)
    (override : ι → Value) {keys overridden : List ι} (once : keys.Nodup)
    (overriddenOnce : overridden.Nodup) (listed : ∀ key ∈ overridden, key ∈ keys)
    (value : ι → Value) :
    merge (keys.map fun key => (name key, value key))
        (overridden.map fun key => (name key, override key)) =
      keys.map fun key => (name key,
        if key ∈ overridden then (override key).over (some (value key)) else value key) := by
  induction overridden generalizing value with
  | nil => simp
  | cons first others inductionHypothesis =>
      obtain ⟨firstOnce, othersOnce⟩ := List.nodup_cons.mp overriddenOnce
      obtain ⟨firstListed, othersListed⟩ := List.forall_mem_cons.mp listed
      rw [List.map_cons, merge, last?_map injective, if_pos firstListed,
        put_map injective _ _ _ once firstListed, inductionHypothesis othersOnce othersListed]
      refine List.map_congr_left fun key _ => ?_
      by_cases same : key = first
      · subst same
        simp [firstOnce]
      · simp [same]

end Json.Members

theorem Group.ofString_name_injective (group other : Group)
    (same : Str.ofString group.name = Str.ofString other.name) : group = other := by
  have sameName := Str.ofString_injective same
  revert sameName
  cases group <;> cases other <;> decide

theorem Leaf.ofString_name_injective (leaf other : Leaf)
    (same : Str.ofString leaf.name = Str.ofString other.name) : leaf = other := by
  have sameName := Str.ofString_injective same
  revert sameName
  cases leaf <;> cases other <;> decide

theorem Group.nodup_leaves (group : Group) : group.leaves.Nodup := by
  cases group <;> decide

namespace Config

/-! ## Settings made in order -/

def apply (config : Config) (settings : List Setting) : Config :=
  settings.foldl (fun config setting => config.set setting.leaf setting.value) config

theorem Valid.apply {settings : List Setting}
    (admitted : ∀ setting ∈ settings, setting.leaf.Admits setting.value) :
    ∀ {config : Config}, config.Valid → (config.apply settings).Valid := by
  induction settings with
  | nil => exact id
  | cons first others inductionHypothesis =>
      intro config valid
      obtain ⟨firstAdmitted, othersAdmitted⟩ := List.forall_mem_cons.mp admitted
      exact inductionHypothesis othersAdmitted (valid.set firstAdmitted)

theorem admits_of_mem_mentioned {origin : Origin} {document : Value} {setting : Setting}
    (member : setting ∈ mentioned origin document) : setting.leaf.Admits setting.value := by
  obtain ⟨leaf, -, member⟩ := List.mem_flatMap.mp member
  obtain ⟨value, made, rfl⟩ := List.mem_map.mp member
  obtain ⟨raw, -, read⟩ := Option.bind_eq_some_iff.mp (Option.mem_toList.mp made)
  exact admits_of_readLeaf (Result.toOption_eq_some_iff.mp read)

/-! ## Merging -/

theorem groupMembers_settings (config : Config) (group : Group) :
    groupMembers config.settings group =
      group.leaves.map fun leaf => (Str.ofString leaf.name, leafValue leaf (config.get leaf)) := by
  cases group <;> rfl

theorem over_leafValue (base? : Option Value) (leaf : Leaf) (value : leaf.Carrier) :
    (leafValue leaf value).over base? = leafValue leaf value := by
  cases leaf <;> simp [leafValue, Value.over, Value.text]

theorem merge_groupMembers (group : Group) (settings : List Setting) (config : Config) :
    Members.merge (groupMembers config.settings group) (groupMembers settings group) =
      groupMembers (config.apply settings).settings group := by
  induction settings generalizing config with
  | nil => exact Members.merge_nil _
  | cons setting others inductionHypothesis =>
      obtain ⟨leaf, value⟩ := setting
      have rest := inductionHypothesis (config.set leaf value)
      rw [show config.apply (⟨leaf, value⟩ :: others) = (config.set leaf value).apply others from
        rfl, ← rest]
      by_cases inGroup : leaf.group = group
      · have split : groupMembers (⟨leaf, value⟩ :: others) group =
            (Str.ofString leaf.name, leafValue leaf value) :: groupMembers others group := by
          simp [groupMembers, inGroup]
        rw [split, Members.merge, over_leafValue, groupMembers_settings, groupMembers_settings,
          Members.put_map Leaf.ofString_name_injective _ _ _ group.nodup_leaves
            ((Leaf.mem_leaves_iff leaf group).mpr inGroup)]
        congr 1
        refine List.map_congr_left fun other _ => ?_
        by_cases same : other = leaf
        · subst same
          rw [if_pos rfl, get_set_self]
        · rw [if_neg same, get_set_of_ne config same]
      · have dropped : groupMembers (⟨leaf, value⟩ :: others) group =
            groupMembers others group := by
          simp [groupMembers, inGroup]
        rw [dropped, groupMembers_settings, groupMembers_settings]
        congr 1
        refine List.map_congr_left fun other listed => ?_
        rw [get_set_of_ne config]
        rintro rfl
        exact inGroup ((Leaf.mem_leaves_iff other group).mp listed)

theorem merge_documentMembers (config : Config) (settings : List Setting) :
    Members.merge (documentMembers config.settings) (documentMembers settings) =
      documentMembers (config.apply settings).settings := by
  rw [documentMembers, documentMembers,
    Members.merge_map Group.ofString_name_injective _ (by decide) (by decide) fun _ => id]
  refine List.map_congr_left fun group listed => ?_
  rw [if_pos listed, Value.over, merge_groupMembers]

/-! ## Reading the merged document -/

theorem member?_toValue (config : Config) (group : Group) :
    config.toValue.member? group.name = some (.obj (groupMembers config.settings group)) :=
  (Members.last?_map Group.ofString_name_injective _ _ _).trans (if_pos (Group.mem_all group))

theorem mention?_toValue (config : Config) (leaf : Leaf) :
    mention? config.toValue leaf = some (leafValue leaf (config.get leaf)) := by
  rw [mention?, member?_toValue, Option.bind_some, groupMembers_settings]
  exact (Members.last?_map Leaf.ofString_name_injective
    (fun leaf => leafValue leaf (config.get leaf)) _ _).trans
      (if_pos ((Leaf.mem_leaves_iff leaf leaf.group).mpr rfl))

/-- A valid configuration is read back from its JSON form, with a setting for every field. -/
theorem documentSettings_toValue (origin : Origin) {config : Config} (valid : config.Valid) :
    documentSettings origin config.toValue = .ok config.settings := by
  refine (documentSettings_eq_ok_iff origin config.toValue config.settings).mpr
    ⟨⟨⟨_, rfl, ?_⟩, ?_⟩, ?_, ?_⟩
  · intro member present
    obtain ⟨group, listed, rfl⟩ := List.mem_map.mp present
    exact List.mem_map_of_mem (List.mem_map_of_mem listed)
  · intro group inside found
    cases (member?_toValue config group).symm.trans found
    refine ⟨_, rfl, fun member present => ?_⟩
    rw [groupMembers_settings] at present
    obtain ⟨leaf, listed, rfl⟩ := List.mem_map.mp present
    exact List.mem_map_of_mem (List.mem_map_of_mem listed)
  · intro leaf raw found
    cases (mention?_toValue config leaf).symm.trans found
    exact ⟨_, readLeaf_leafValue origin (valid leaf)⟩
  · rw [mentioned, settings, List.map_eq_flatMap]
    congr 1
    funext leaf
    rw [settingOf, mention?_toValue, Option.bind_some, readLeaf_leafValue origin (valid leaf)]
    rfl

/-- What a valid document is merged into stays valid, and it is read as the configuration with the
document's settings made. -/
theorem documentSettings_merge {config : Config} (valid : config.Valid) {document : Value}
    {settings : List Setting} (made : documentSettings .document document = .ok settings) :
    documentSettings .assignment
        (.obj (Members.merge (documentMembers config.settings) (documentMembers settings))) =
      .ok (config.apply settings).settings := by
  obtain ⟨-, -, rfl⟩ := (documentSettings_eq_ok_iff .document document settings).mp made
  rw [merge_documentMembers]
  exact documentSettings_toValue .assignment (valid.apply fun setting => admits_of_mem_mentioned)

/-- Laid over a valid configuration, a document makes the settings that it makes on its own, and
fails as it does on its own. -/
theorem overlay_eq {config : Config} (valid : config.Valid) (document : Payload) :
    config.overlay document =
      (document.json >>= documentSettings .document).map config.apply := by
  cases parsed : document.json with
  | error issues => simp [overlay, parsed, bind, Except.bind, Except.map]
  | ok value =>
      cases read : documentSettings .document value with
      | error issues => simp [overlay, parsed, read, bind, Except.bind, Except.map]
      | ok settings =>
          simp [overlay, parsed, read, documentSettings_merge valid read, bind, Except.bind,
            Except.map, pure, Except.pure]

/-! ## The fields afterwards -/

theorem get_apply_flatMap (given? : (leaf : Leaf) → Option leaf.Carrier) (leaf : Leaf)
    (leaves : List Leaf) (once : leaves.Nodup) (config : Config) :
    (config.apply (leaves.flatMap fun other => (given? other).toList.map (Setting.mk other))).get
        leaf =
      if leaf ∈ leaves then (given? leaf).getD (config.get leaf) else config.get leaf := by
  induction leaves generalizing config with
  | nil => rfl
  | cons first others inductionHypothesis =>
      obtain ⟨firstOnce, othersOnce⟩ := List.nodup_cons.mp once
      have later := inductionHypothesis othersOnce
      rw [List.flatMap_cons]
      cases given : given? first with
      | none =>
          refine (later config).trans ?_
          by_cases same : leaf = first
          · subst same
            simp [firstOnce, given]
          · simp [same]
      | some value =>
          refine (later (config.set first value)).trans ?_
          by_cases same : leaf = first
          · subst same
            simp [firstOnce, given]
          · simp [same, get_set_of_ne config same]

/-- A document gives the fields that it mentions the values that are read there, and leaves the
others as they are. -/
theorem get_apply_mentioned (origin : Origin) (document : Value) (config : Config) (leaf : Leaf) :
    (config.apply (mentioned origin document)).get leaf =
      ((mention? document leaf).bind fun raw => (readLeaf origin leaf raw).toOption).getD
        (config.get leaf) := by
  have all := get_apply_flatMap
    (fun leaf => (mention? document leaf).bind fun raw => (readLeaf origin leaf raw).toOption) leaf
    Leaf.all (by decide) config
  rwa [if_pos (Leaf.mem_all leaf)] at all

end Config

end LineMap
