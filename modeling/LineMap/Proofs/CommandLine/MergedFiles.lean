import LineMap.Proofs.CommandLine.Sources
import LineMap.Proofs.Config.Layers
import LineMap.Proofs.Config.Loading

/-!
# Several files and their merge

Configuration files that are loaded one after the other are layers that are laid over each other.
All of them have one shape, so they may be merged first, in any grouping: one file that holds the
merge leaves what the files leave.
-/

set_option autoImplicit false

namespace LineMap

open LineMap.Diagnostics
open LineMap.Files
open LineMap.Json
open LineMap.Text
open LineMap.Validation

namespace CommandLine

/-! ## The layers in files -/

/-- The members of a document that is accepted, where of repeated names the last is kept. -/
def layer? (document : Value) : Option Members :=
  match Config.documentSettings .document document, document.unique with
  | .ok _, .obj members => some members
  | _, _ => none

/-- The layer in a file.  There is none in a file that is refused. -/
def layerIn? (files : FileSystem) (name : String) : Option Members := do
  let document ← (← (Source.document? files (.ofString name)).toOption)
  layer? document

def mergedLayers (files : FileSystem) (names : List String) : Members :=
  (names.filterMap (layerIn? files)).foldl Members.merge []

theorem layer?_of_error {document : Value} {issues : List Issue}
    (refused : Config.documentSettings .document document = .error issues) :
    layer? document = none := by
  rw [layer?, refused]

theorem layer?_of_unique {document : Value} {settings : List Setting} {members : Members}
    (made : Config.documentSettings .document document = .ok settings)
    (unique : document.unique = .obj members) : layer? document = some members := by
  rw [layer?, made, unique]

theorem layer?_of_ok {document : Value} {settings : List Setting}
    (made : Config.documentSettings .document document = .ok settings) :
    ∃ members, layer? document = some members ∧ Config.IsLayer members ∧
      document.SameContent (.obj members) := by
  obtain ⟨members, unique, layer, same⟩ := Config.exists_layer made
  exact ⟨members, layer?_of_unique made unique, layer, same⟩

theorem isLayer_of_layer? {document : Value} {members : Members}
    (found : layer? document = some members) : Config.IsLayer members := by
  cases made : Config.documentSettings .document document with
  | error issues => cases (layer?_of_error made).symm.trans found
  | ok settings =>
      obtain ⟨others, othersFound, layer, -⟩ := layer?_of_ok made
      cases othersFound.symm.trans found
      exact layer

variable {files : FileSystem}

theorem layerIn?_eq {name : String} {document? : Option Value}
    (read : Source.document? files (.ofString name) = .ok document?) :
    layerIn? files name = document?.bind layer? := by
  simp [layerIn?, read, Except.toOption]

theorem isLayer_of_layerIn? {name : String} {members : Members}
    (found : layerIn? files name = some members) : Config.IsLayer members := by
  obtain ⟨document?, -, found⟩ := Option.bind_eq_some_iff.mp found
  obtain ⟨document, -, found⟩ := Option.bind_eq_some_iff.mp found
  exact isLayer_of_layer? found

theorem isLayer_mergedLayers (files : FileSystem) (names : List String) :
    Config.IsLayer (mergedLayers files names) := by
  refine Config.IsLayer.foldl_merge (fun members listed => ?_) .empty
  obtain ⟨name, -, found⟩ := List.mem_filterMap.mp listed
  exact isLayer_of_layerIn? found

/-! ## Loading -/

theorem document?_of_holdsText {path : Path} {text : String} {document : Value}
    (holds : Config.HoldsText files path text) (json : (Payload.text text).json = .ok document) :
    Source.document? files path = .ok (some document) := by
  obtain ⟨noNull, bytes, stored, decoded⟩ := holds
  simp [Source.document?, noNull, stored, decoded, json, Except.map, Except.mapError,
    Except.toOption]

/-- A file that is no fault lays its layer over the configuration, if there is one. -/
theorem settle_file {name : String} {document? : Option Value}
    (read : Source.document? files (.ofString name) = .ok document?) (later : List Offer)
    (config : Config) :
    settle config ((Source.file (.ofString name)).offer files :: later) =
      settle (((layerIn? files name).map config.layered).getD config) later := by
  rw [layerIn?_eq read, Source.offer, read]
  cases document? with
  | none => rfl
  | some document =>
      rw [Except.map, Option.bind_some, Option.bind_some]
      cases made : Config.documentSettings .document document with
      | error issues =>
          rw [layer?_of_error made]
          rfl
      | ok settings =>
          obtain ⟨members, found, -, same⟩ := layer?_of_ok made
          rw [found, Option.map_some, Option.getD_some, ← Config.apply_of_sameContent made same]
          rfl

/-- Files that are no fault lay their layers over the configuration in order. -/
theorem settle_files {names : List String}
    (readable : ∀ name ∈ names,
      ∃ document?, Source.document? files (.ofString name) = .ok document?)
    (config : Config) :
    settle config (names.map fun name => (Source.file (.ofString name)).offer files) =
      .ok ((names.filterMap (layerIn? files)).foldl Config.layered config) := by
  induction names generalizing config with
  | nil => rfl
  | cons name later inductionHypothesis =>
      obtain ⟨⟨document?, read⟩, laterReadable⟩ := List.forall_mem_cons.mp readable
      rw [List.map_cons, settle_file read, inductionHypothesis laterReadable, List.filterMap_cons]
      cases layerIn? files name <;> rfl

variable {config : Config}

theorem answer_loadFiles (valid : config.Valid) {names : List String}
    (readable : ∀ name ∈ names,
      ∃ document?, Source.document? files (.ofString name) = .ok document?) :
    answer (loadFiles files .journal config (names.map .value)) =
      .ok (config.layered (mergedLayers files names)) := by
  have layers : ∀ members ∈ names.filterMap (layerIn? files), Config.IsLayer members := by
    intro members listed
    obtain ⟨name, -, found⟩ := List.mem_filterMap.mp listed
    exact isLayer_of_layerIn? found
  rw [loadFiles_eq_applyAll, (reports_applyAll files .path _ _ valid).answer_eq, offersOf,
    List.map_map]
  refine (settle_files readable config).trans (congrArg _ ?_)
  exact Config.IsLayer.foldl_layered layers .empty config

theorem answer_loadFile_of_sameContent (valid : config.Valid) {path : Path} {document : Value}
    {members : Members} (read : Source.document? files path = .ok (some document))
    (layer : Config.IsLayer members) (same : document.SameContent (.obj members)) :
    answer (Config.loadFile? files path config .journal) = .ok (some (config.layered members)) := by
  have made := (Config.documentSettings_eq_ok_iff_isValidDocument document _).mpr
    ⟨layer.valid.of_sameContent same.symm, rfl⟩
  rw [(Source.reports_loadFile files valid path).answer_eq, Source.offer, read, Except.map,
    Option.bind_some, made, ← Config.apply_of_sameContent made same]
  rfl

/-! ## The laws -/

/-- Merging nothing, merging into nothing and merging with itself change nothing.  What merging
comes to is settled name by name and path by path, and the order of names does not matter for it.
Members of one shape are merged in any grouping.  A configuration and what documents set have one
shape, as have the documents.  So one file that holds the merge of several, with the names in any
order, leaves what loading them one by one leaves.  Files that are refused do not count; a path that
can name no file, or bytes that are no text, would end the run. -/
theorem merge_laws :
    (∀ members, (Value.obj members).NamesOnce →
      Members.merge members [] = members ∧ Members.merge [] members = members ∧
        Members.merge members members = members) ∧
    (∀ base overrides, (Value.obj base).NamesOnce → (Value.obj overrides).NamesOnce →
      IsMerge base overrides (Members.merge base overrides)) ∧
    (∀ first middle last, (Value.obj first).NamesOnce → (Value.obj middle).NamesOnce →
      (Value.obj last).NamesOnce → (Value.obj first).SameShape (.obj middle) →
      (Value.obj first).SameShape (.obj last) → (Value.obj middle).SameShape (.obj last) →
      Members.merge (Members.merge first middle) last =
        Members.merge first (Members.merge middle last)) ∧
    (∀ base otherBase overrides otherOverrides, (Value.obj base).NamesOnce →
      (Value.obj otherBase).NamesOnce → (Value.obj overrides).NamesOnce →
      (Value.obj otherOverrides).NamesOnce → (Value.obj base).SameContent (.obj otherBase) →
      (Value.obj overrides).SameContent (.obj otherOverrides) →
      (Value.obj (Members.merge base overrides)).SameContent
        (.obj (Members.merge otherBase otherOverrides))) ∧
    (∀ (config : Config) document other settings otherSettings, config.Valid →
      Config.documentSettings .document document = .ok settings →
      Config.documentSettings .document other = .ok otherSettings →
      document.SameShape other ∧
        config.toValue.SameShape (.obj (Config.documentMembers settings)) ∧
        config.toValue.SameShape (.obj (Config.documentMembers otherSettings)) ∧
        (Value.obj (Config.documentMembers settings)).SameShape
          (.obj (Config.documentMembers otherSettings)) ∧
        Members.merge
            (Members.merge (Config.documentMembers config.settings)
              (Config.documentMembers settings))
            (Config.documentMembers otherSettings) =
          Members.merge (Config.documentMembers config.settings)
            (Members.merge (Config.documentMembers settings)
              (Config.documentMembers otherSettings))) ∧
    (∀ (files : FileSystem) (names : List String) whole document (config : Config),
      config.Valid →
      (∀ name ∈ names, ∃ document?, Source.document? files (.ofString name) = .ok document?) →
      Source.document? files (.ofString whole) = .ok (some document) →
      document.SameContent (.obj (mergedLayers files names)) →
      ∃ loaded, answer (loadFiles files .journal config (names.map .value)) = .ok loaded ∧
        answer (Config.loadFile? files (.ofString whole) config .journal) = .ok (some loaded)) := by
  refine ⟨?_, ?_, ?_, ?_, ?_, ?_⟩
  · intro members once
    exact ⟨Members.merge_nil members, Members.merge_nil_left once.names, Members.merge_self once⟩
  · intro base overrides baseOnce once
    exact isMerge_merge baseOnce once
  · intro first middle last firstOnce middleOnce lastOnce _ _ sameShape
    exact Members.merge_assoc firstOnce middleOnce lastOnce (Value.joins_of_sameShape sameShape _)
  · intro base otherBase overrides others baseOnce otherBaseOnce once otherOnce sameBase same
    have merged := same.over sameBase once otherOnce baseOnce otherBaseOnce
    rwa [Value.over_obj_obj, Value.over_obj_obj] at merged
  · intro config document other settings otherSettings valid made otherMade
    obtain ⟨documentValid, -⟩ := (Config.documentSettings_eq_ok_iff_isValidDocument _ _).mp made
    obtain ⟨otherValid, -⟩ := (Config.documentSettings_eq_ok_iff_isValidDocument _ _).mp otherMade
    have base := Config.isLayer_documentMembers (Config.documentSettings_toValue .document valid)
    have layer := Config.isLayer_documentMembers made
    have otherLayer := Config.isLayer_documentMembers otherMade
    exact ⟨documentValid.sameShape otherValid, layer.sameShape base, otherLayer.sameShape base,
      otherLayer.sameShape layer, otherLayer.merge_assoc layer base⟩
  · intro files names whole document config valid readable read same
    refine ⟨_, answer_loadFiles valid readable, ?_⟩
    exact answer_loadFile_of_sameContent valid read (isLayer_mergedLayers files names) same

/-- A document that sets the path index once more and a marker. -/
def laterText : String :=
  "\x7b\"symbols\": \x7b\"primary_path_index\": 3\x7d, " ++
    "\"asm\": \x7b\"end_marker\": \"Over\"\x7d\x7d"

/-- The document of the partial text with the later one merged in, its sections in reverse order. -/
def mergedText : String :=
  "\x7b\"symbols\": \x7b\"primary_path_index\": 3\x7d, " ++
    "\"asm\": \x7b\"end_marker\": \"Over\"\x7d, \"ir\": \x7b\"unit_kinds\": [\"script\"]\x7d\x7d"

def scriptKind : Value := .record [("unit_kinds", .arr [.text "script"])]
def overMarker : Value := .record [("end_marker", .text "Over")]
def pathIndex (index : Value) : Value := .record [("primary_path_index", index)]

def partialMembers : Members :=
  [(.ofString "ir", scriptKind), (.ofString "asm", .record []),
    (.ofString "symbols", pathIndex (.text "2"))]

def laterMembers : Members :=
  [(.ofString "symbols", pathIndex (.int 3)), (.ofString "asm", overMarker)]

def mergedMembers : Members :=
  [(.ofString "ir", scriptKind), (.ofString "asm", overMarker),
    (.ofString "symbols", pathIndex (.int 3))]

def spoiledMembers : Members :=
  [(.ofString "asm", overMarker), (.ofString "symbols", pathIndex (.int (-1)))]

theorem json_laterText : (Payload.text laterText).json = .ok (.obj laterMembers) :=
  Result.toOption_eq_some_iff.mp (by decide +kernel)

theorem json_mergedText : (Payload.text mergedText).json = .ok (.obj mergedMembers.reverse) :=
  Result.toOption_eq_some_iff.mp (by decide +kernel)

theorem json_spoiledText :
    (Payload.text Config.spoiledText).json = .ok (.obj spoiledMembers) :=
  Result.toOption_eq_some_iff.mp (by decide +kernel)

/-- The later document is merged into the partial one; the refused file between them does not count,
and in the file with the merge the sections stand in another order. -/
theorem merge_laws_samples :
    let files : FileSystem := Tree.fileSystem
      [⟨["partial.json"], some (Utf8.encode Config.partialText.toList)⟩,
        ⟨["spoiled.json"], some (Utf8.encode Config.spoiledText.toList)⟩,
        ⟨["later.json"], some (Utf8.encode laterText.toList)⟩,
        ⟨["merged.json"], some (Utf8.encode mergedText.toList)⟩]
    Members.merge partialMembers partialMembers = partialMembers ∧
    IsMerge partialMembers laterMembers mergedMembers ∧
    Members.merge (Members.merge laterMembers partialMembers) laterMembers =
      Members.merge laterMembers (Members.merge partialMembers laterMembers) ∧
    (Value.obj (Members.merge partialMembers laterMembers)).SameContent
      (.obj (Members.merge partialMembers.reverse laterMembers)) ∧
    (Value.obj partialMembers).SameShape (.obj laterMembers) ∧
    ∃ loaded,
      answer (loadFiles files .journal .default
        (["partial.json", "spoiled.json", "later.json"].map .value)) = .ok loaded ∧
      answer (Config.loadFile? files (.ofString "merged.json") .default .journal) =
        .ok (some loaded) := by
  intro files
  obtain ⟨identities, merged, grouping, content, shapes, loads⟩ := merge_laws
  have dictionary : ∀ members : Members, (Value.obj members).unique = .obj members →
      (Value.obj members).NamesOnce := fun members same => same ▸ Value.namesOnce_unique _
  have partialOnce := dictionary partialMembers (by rfl)
  have reversedOnce := dictionary partialMembers.reverse (by rfl)
  have laterOnce := dictionary laterMembers (by rfl)
  have mergedOnce := dictionary mergedMembers (by rfl)
  obtain ⟨partialSettings, ⟨partialJson, partialMade⟩⟩ := Config.exists_isDocument_partialText
  obtain ⟨laterSettings, laterMade⟩ := Result.isSome_toOption_iff.mp
    (show (Config.documentSettings .document (.obj laterMembers)).toOption.isSome = true by
      decide +kernel)
  have valid := Config.valid_default
  have forth := (shapes .default _ _ _ _ valid partialMade laterMade).1
  have back := (shapes .default _ _ _ _ valid laterMade partialMade).1
  have same := (shapes .default _ _ _ _ valid laterMade laterMade).1
  have refl : (Value.obj laterMembers).SameContent (.obj laterMembers) := fun _ => rfl
  have reordered := Value.sameContent_of_perm partialOnce.names (List.reverse_perm _).symm
  refine ⟨(identities _ partialOnce).2.2, merged _ _ partialOnce laterOnce,
    grouping _ _ _ laterOnce partialOnce laterOnce back same forth,
    content _ _ _ _ partialOnce reversedOnce laterOnce laterOnce reordered refl, forth, ?_⟩
  have read : ∀ name text document,
      readBytes files (.ofString name) = .ok (Utf8.encode text.toList) →
      (Path.ofString name).hasNull = false → decodeText (Utf8.encode text.toList) = .ok text →
      (Payload.text text).json = .ok document →
      Source.document? files (.ofString name) = .ok (some document) :=
    fun name text document stored noNull decoded json =>
      document?_of_holdsText ⟨noNull, _, stored, decoded⟩ json
  have partialRead := read "partial.json" _ _ (by decide +kernel) (by decide) (by decide +kernel)
    partialJson
  have spoiledRead := read "spoiled.json" _ _ (by decide +kernel) (by decide) (by decide +kernel)
    json_spoiledText
  have laterRead := read "later.json" _ _ (by decide +kernel) (by decide) (by decide +kernel)
    json_laterText
  have mergedRead := read "merged.json" _ _ (by decide +kernel) (by decide) (by decide +kernel)
    json_mergedText
  have partialLayer : layer? Config.partialDocument = some partialMembers :=
    layer?_of_unique partialMade (by rfl)
  have spoiledLayer : layer? (.obj spoiledMembers) = none := by rfl
  have laterLayer : layer? (.obj laterMembers) = some laterMembers :=
    layer?_of_unique laterMade (by rfl)
  refine loads files _ "merged.json" (.obj mergedMembers.reverse) .default valid ?_ mergedRead ?_
  · simp only [List.forall_mem_cons]
    exact ⟨⟨_, partialRead⟩, ⟨_, spoiledRead⟩, ⟨_, laterRead⟩, List.forall_mem_nil _⟩
  · have layers : mergedLayers files ["partial.json", "spoiled.json", "later.json"] =
        mergedMembers := by
      rw [mergedLayers, List.filterMap_cons_some ((layerIn?_eq partialRead).trans partialLayer),
        List.filterMap_cons_none ((layerIn?_eq spoiledRead).trans spoiledLayer),
        List.filterMap_cons_some ((layerIn?_eq laterRead).trans laterLayer)]
      rfl
    rw [layers]
    exact (Value.sameContent_of_perm mergedOnce.names (List.reverse_perm _).symm).symm

end CommandLine

end LineMap
