import LineMap.Json.Equality
import LineMap.Proofs.Config.FileReports
import LineMap.Proofs.Config.Reachable

/-!
# Loading a configuration file

A file takes effect as a whole or not at all.  If what it holds is valid on its own, merging it in
cannot fail, and just the fields that it mentions change.  Otherwise, and also if it cannot be read,
one error is logged and the configuration stays as it is.
-/

set_option autoImplicit false

namespace LineMap.Config

open LineMap.Diagnostics
open LineMap.Files
open LineMap.Json
open LineMap.Text
open LineMap.Validation

/-! ## What a document does -/

/-- A text is a valid document on its own, which makes some settings. -/
structure IsDocument (text : String) (document : Value) (settings : List Setting) : Prop where
  json : (Payload.text text).json = .ok document
  made : documentSettings .document document = .ok settings

/-- A configuration becomes another one by a document: the fields that the document mentions hold
what is read there, and all others are as they were. -/
structure Becomes (config : Config) (document : Value) (loaded : Config) : Prop where
  mentioned : ∀ leaf raw, mention? document leaf = some raw →
    readLeaf .document leaf raw = .ok (loaded.get leaf)
  others : ∀ leaf, mention? document leaf = none → loaded.get leaf = config.get leaf

theorem Becomes.of_emptySection {config loaded : Config} {document : Value}
    (becomes : config.Becomes document loaded) {group : Group}
    (empty : document.member? group.name = some (.obj [])) {leaf : Leaf}
    (inside : leaf.group = group) : loaded.get leaf = config.get leaf := by
  apply becomes.others
  rw [mention?, inside, empty]
  rfl

section

variable {config : Config} {text : String} {document : Value} {settings : List Setting}

theorem becomes_apply (made : documentSettings .document document = .ok settings)
    (config : Config) : config.Becomes document (config.apply settings) := by
  obtain ⟨-, readable, rfl⟩ := (documentSettings_eq_ok_iff .document document settings).mp made
  constructor
  · intro leaf raw found
    obtain ⟨value, read⟩ := readable leaf raw found
    rw [get_apply_mentioned, found, Option.bind_some, read]
    rfl
  · intro leaf absent
    rw [get_apply_mentioned, absent]
    rfl

theorem overlay_of_isDocument (valid : config.Valid)
    (isDocument : IsDocument text document settings) :
    config.overlay (.text text) = .ok (config.apply settings) := by
  rw [overlay_eq valid, isDocument.json]
  exact Result.map_eq_ok_iff.mpr ⟨settings, isDocument.made, rfl⟩

theorem overlay_of_noDocument (valid : config.Valid)
    (noDocument : ∀ document settings, ¬IsDocument text document settings) :
    ∃ issues, config.overlay (.text text) = .error issues := by
  cases overlaid : config.overlay (.text text) with
  | error issues => exact ⟨issues, rfl⟩
  | ok loaded =>
      rw [overlay_eq valid] at overlaid
      obtain ⟨settings, read, -⟩ := Result.map_eq_ok_iff.mp overlaid
      obtain ⟨document, json, made⟩ := Result.bind_eq_ok_iff.mp read
      exact absurd ⟨json, made⟩ (noDocument document settings)

end

theorem afterCall_of_logs {config : Config} {call : Call} {sink : Sink} {headings : List Heading}
    (logs : Logs (call.work config sink) (.ok none) headings) (before : Journal) :
    (afterCall (config, before) (call, sink)).1 = config := by
  obtain ⟨notes, traced, -⟩ := logs
  rw [afterCall, traced before]

/-! ## The whole file or nothing -/

/-- A file that is valid on its own always remains valid when it is merged in, and it changes just
the fields that it mentions; a section without members changes nothing.  A file that is not valid,
however much of it is, or that cannot be read, is one error, and the configuration stays.  Whatever
path can name a file, one of these is there, or bytes that are no text. -/
theorem loadFile_whole_or_nothing {config : Config} (valid : config.Valid) (files : FileSystem)
    (path : Path) (sink : Sink) :
    (∀ text document settings, HoldsText files path text → IsDocument text document settings →
      ∃ complete,
        documentSettings .assignment
            (.obj (Members.merge (documentMembers config.settings) (documentMembers settings))) =
          .ok complete ∧
        Logs (loadFile? files path config sink) (.ok (some (ofSettings complete)))
          (sink.kept [loading]) ∧
        config.Becomes document (ofSettings complete) ∧
        ∀ group, document.member? (Group.name group) = some (.obj []) →
          ∀ leaf, leaf.group = group → (ofSettings complete).get leaf = config.get leaf) ∧
    (∀ text, HoldsText files path text →
      (∀ document settings, ¬IsDocument text document settings) →
      Logs (loadFile? files path config sink) (.ok none) (sink.kept [loading, invalid]) ∧
        ∀ before, (afterCall (config, before) (.loadFile files path, sink)).1 = config) ∧
    (IsUnreadable files path →
      Logs (loadFile? files path config sink) (.ok none) (sink.kept [loading, unreadable]) ∧
        ∀ before, (afterCall (config, before) (.loadFile files path, sink)).1 = config) ∧
    (path.hasNull = false → (∀ text, ¬HoldsText files path text) → ¬IsUnreadable files path →
      ∃ bytes sequence, readBytes files path = .ok bytes ∧
        decodeText bytes = .error sequence) := by
  refine ⟨?_, ?_, ?_, exists_malformed⟩
  · intro text document settings holds isDocument
    have logs := logs_loadFile_of_holdsText sink holds config
    have becomes := becomes_apply isDocument.made config
    rw [overlay_of_isDocument valid isDocument] at logs
    refine ⟨_, documentSettings_merge valid isDocument.made, ?_⟩
    rw [ofSettings_settings]
    exact ⟨logs, becomes, fun group empty leaf inside => becomes.of_emptySection empty inside⟩
  · intro text holds noDocument
    have logs := logs_loadFile_of_holdsText sink holds config
    obtain ⟨issues, refused⟩ := overlay_of_noDocument valid noDocument
    rw [refused] at logs
    exact ⟨logs, afterCall_of_logs logs⟩
  · intro isUnreadable
    have logs := logs_loadFile_of_isUnreadable sink isUnreadable config
    exact ⟨logs, afterCall_of_logs logs⟩

def partialText : String :=
  "\x7b\"ir\": \x7b\"unit_kinds\": [\"script\"]\x7d, \"asm\": \x7b\x7d, " ++
    "\"symbols\": \x7b\"primary_path_index\": \"2\"\x7d\x7d"

def partialDocument : Value :=
  .record [("ir", .record [("unit_kinds", .arr [.text "script"])]), ("asm", .record []),
    ("symbols", .record [("primary_path_index", .text "2")])]

/-- A document with a field that is valid and one that is not. -/
def spoiledText : String :=
  "\x7b\"asm\": \x7b\"end_marker\": \"Over\"\x7d, " ++
    "\"symbols\": \x7b\"primary_path_index\": -1\x7d\x7d"

theorem json_partialText : (Payload.text partialText).json = .ok partialDocument :=
  Result.toOption_eq_some_iff.mp (by decide +kernel)

theorem exists_isDocument_partialText :
    ∃ settings, IsDocument partialText partialDocument settings := by
  obtain ⟨settings, made⟩ := Result.isSome_toOption_iff.mp
    (show (documentSettings .document partialDocument).toOption.isSome = true by decide +kernel)
  exact ⟨settings, json_partialText, made⟩

theorem not_isDocument_spoiledText (document : Value) (settings : List Setting) :
    ¬IsDocument spoiledText document settings := by
  intro isDocument
  have refused : ((Payload.text spoiledText).json >>= documentSettings .document).toOption.isNone =
      true := by
    decide +kernel
  have read := Result.bind_eq_ok_iff.mpr ⟨document, isDocument.json, isDocument.made⟩
  rw [read] at refused
  cases refused

/-- The first file sets two fields and leaves the marker that was assigned; the second is refused
for one of its fields, and the third does not exist. -/
theorem loadFile_whole_or_nothing_three :
    let config : Config := { Config.default with endMarker := "Done" }
    let files : FileSystem := Tree.fileSystem
      [⟨["partial.json"], some (Utf8.encode partialText.toList)⟩,
        ⟨["spoiled.json"], some (Utf8.encode spoiledText.toList)⟩]
    (∃ loaded, Logs (loadFile? files (.ofString "partial.json") config .journal)
        (.ok (some loaded)) [loading] ∧
      loaded.unitKinds = ["script"] ∧ loaded.primary = 2 ∧ loaded.endMarker = "Done") ∧
    Logs (loadFile? files (.ofString "spoiled.json") config .journal) (.ok none)
      [loading, invalid] ∧
    Logs (loadFile? files (.ofString "absent.json") config .journal) (.ok none)
      [loading, unreadable] := by
  intro config files
  have done : Leaf.endMarker.Admits "Done" := fun empty => absurd empty (by decide)
  have valid : config.Valid := valid_default.set done
  have atomic := fun name => loadFile_whole_or_nothing valid files (.ofString name) .journal
  have holds : ∀ name text, readBytes files (.ofString name) = .ok (Utf8.encode text.toList) →
      (Path.ofString name).hasNull = false → decodeText (Utf8.encode text.toList) = .ok text →
      HoldsText files (.ofString name) text :=
    fun name text stored noNull decoded => ⟨noNull, _, stored, decoded⟩
  obtain ⟨settings, isDocument⟩ := exists_isDocument_partialText
  obtain ⟨complete, -, logs, becomes, -⟩ := (atomic "partial.json").1 partialText partialDocument
    settings (holds _ _ (by decide +kernel) (by decide) (by decide +kernel)) isDocument
  refine ⟨⟨_, logs, ?_, ?_, becomes.others .endMarker rfl⟩, ?_, ?_⟩
  · exact Except.ok.inj (becomes.mentioned .unitKinds (.arr [.text "script"]) rfl).symm
  · have two : readLeaf .document .primary (.text "2") = .ok (2 : Int) :=
      Result.toOption_eq_some_iff.mp (by decide +kernel)
    exact Except.ok.inj ((becomes.mentioned .primary (.text "2") rfl).symm.trans two)
  · exact ((atomic "spoiled.json").2.1 spoiledText
      (holds _ _ (by decide +kernel) (by decide) (by decide +kernel))
      not_isDocument_spoiledText).1
  · exact ((atomic "absent.json").2.2.1 ⟨by decide, .absent, by decide +kernel⟩).1

end LineMap.Config
