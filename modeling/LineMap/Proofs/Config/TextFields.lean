import LineMap.Proofs.Config.Assignment
import LineMap.Proofs.Config.Wordings
import LineMap.Proofs.Json.Escapes

/-!
# Assigning texts

A field that holds a text takes a JSON string for the text that it denotes, and any other wording
for itself, as it stands.  Only a wording from which no text results is refused: one with half of a
surrogate pair, a string that denotes nothing or such a half, a blank, and what begins like an
array, an object or a string without being JSON.
-/

set_option autoImplicit false

namespace LineMap

open LineMap.Diagnostics
open LineMap.Json
open LineMap.Text
open LineMap.Validation

inductive TextField where
  | finalMarker
  | startMarker
  | endMarker
  | failureText

namespace TextField

def leaf : TextField → Leaf
  | .finalMarker => .finalMarker
  | .startMarker => .startMarker
  | .endMarker => .endMarker
  | .failureText => .failureText

def setting (field : TextField) (text : String) : Setting :=
  match field with
  | .finalMarker => ⟨.finalMarker, text⟩
  | .startMarker => ⟨.startMarker, text⟩
  | .endMarker => ⟨.endMarker, text⟩
  | .failureText => ⟨.failureText, text⟩

end TextField

namespace Config

def withText (config : Config) (field : TextField) (text : String) : Config :=
  match field with
  | .finalMarker => { config with finalMarker := text }
  | .startMarker => { config with startMarker := text }
  | .endMarker => { config with endMarker := text }
  | .failureText => { config with failureText := text }

theorem set_setting (config : Config) (field : TextField) (text : String) :
    config.set (field.setting text).leaf (field.setting text).value =
      config.withText field text := by
  cases field <;> rfl

/-! ## The text of a wording -/

/-- Which text a field receives by a wording. -/
inductive TextOf (wording : String) : String → Prop where
  /-- A string that denotes a text gives that text. -/
  | string {pieces : List Piece} {text : String} (json : IsJson wording (.string pieces))
      (denotes : pointsOf pieces = Str.ofString text) (notEmpty : text ≠ "") : TextOf wording text
  /-- JSON that is no string stands for itself. -/
  | other {phrase : Phrase} (json : IsJson wording phrase)
      (noString : ∀ pieces, phrase ≠ .string pieces) : TextOf wording wording
  /-- So does what is not JSON, unless it begins like an array, an object or a string. -/
  | bare {first : Char} (notJson : ∀ phrase, ¬IsJson wording phrase)
      (begins : (wording.toList.find? fun c => !isBlank c) = some first)
      (noMark : first ∉ ['[', '\x7b', '"']) : TextOf wording wording

/-- Which text a field receives by a wording that may hold halves of surrogate pairs: one with a
half gives none. -/
def Gives (wording : Str) (text : String) : Prop :=
  ∃ typed, wording = .ofString typed ∧ TextOf typed text

theorem ne_empty_of_isJson {wording : String} {phrase : Phrase} (json : IsJson wording phrase) :
    wording ≠ "" := by
  rintro rfl
  obtain ⟨sentence, cells, -, -⟩ := json
  obtain ⟨byte, bytes, begins, -⟩ := sentence.phrase.exists_encode_cons
  have none : sentence.phrase.cells = [] :=
    (List.append_eq_nil_iff.mp (List.append_eq_nil_iff.mp cells).2).1
  rw [none] at begins
  cases begins

theorem value_ne_str {phrase : Phrase} (noString : ∀ pieces, phrase ≠ .string pieces) (s : Str) :
    phrase.value ≠ .str s := by
  intro value
  obtain ⟨pieces, isString, -⟩ := Phrase.exists_string_of_value value
  exact noString pieces isString

variable {wording : String}

section Decision

variable {field : TextField}

theorem valueFor_string (wording s : Str) : valueFor field.leaf wording (.str s) = .str s := by
  cases field <;> rfl

theorem valueFor_other (wording : Str) {value : Value} (noString : ∀ s, value ≠ .str s) :
    valueFor field.leaf wording value = .str wording := by
  cases value with
  | str s => exact absurd rfl (noString s)
  | _ => cases field <;> rfl

theorem text_of_nonemptyText {taken text : String} (read : nonemptyText (.text taken) = .ok text) :
    text = taken := by
  obtain ⟨s, same, found, -⟩ := (nonemptyText_eq_ok_iff _ _).mp read
  cases same
  rw [Str.toString?_ofString] at found
  exact (Option.some.inj found).symm

theorem textOf_json_iff {phrase : Phrase} (within : WithinDepth (.ofString wording))
    (json : IsJson wording phrase) (field : TextField) (text : String) :
    TextOf wording text ↔
      nonemptyText (valueFor field.leaf (.ofString wording) phrase.value) = .ok text := by
  have denoted : ∀ {other : Phrase}, IsJson wording other → other.value = phrase.value := by
    intro other otherJson
    have same := (wordingValue_of_isJson within otherJson).symm.trans
      (wordingValue_of_isJson within json)
    simpa using same
  constructor
  · rintro (⟨stringJson, denotes, notEmpty⟩ | ⟨otherJson, noString⟩ | ⟨notJson, -, -⟩)
    · rw [← denoted stringJson, Phrase.value, valueFor_string, denotes]
      exact nonemptyText_text notEmpty
    · rw [← denoted otherJson, valueFor_other _ (value_ne_str noString)]
      exact nonemptyText_text (ne_empty_of_isJson json)
    · exact absurd json (notJson phrase)
  · intro read
    by_cases string : ∃ pieces, phrase = .string pieces
    · obtain ⟨pieces, rfl⟩ := string
      rw [Phrase.value, valueFor_string] at read
      obtain ⟨s, same, found, notEmpty⟩ := (nonemptyText_eq_ok_iff _ _).mp read
      cases same
      exact .string json (Str.toString?_eq_some_iff.mp found) notEmpty
    · have noString : ∀ pieces, phrase ≠ .string pieces := fun pieces same =>
        string ⟨pieces, same⟩
      rw [valueFor_other _ (value_ne_str noString)] at read
      rw [text_of_nonemptyText read]
      exact .other json noString

theorem ne_empty_of_find? {first : Char} {inClass : Char → Bool}
    (begins : wording.toList.find? inClass = some first) : wording ≠ "" := by
  rintro rfl
  cases begins

theorem textOf_notJson_iff (within : WithinDepth (.ofString wording))
    (notJson : ∀ phrase, ¬IsJson wording phrase) (field : TextField) (text : String) :
    TextOf wording text ↔ ∃ given, wordingValue (.ofString wording) = .ok (some given) ∧
      nonemptyText (valueFor field.leaf (.ofString wording) given) = .ok text := by
  rw [wordingValue_of_notJson within notJson]
  constructor
  · rintro (⟨json, -, -⟩ | ⟨json, -⟩ | ⟨-, begins, noMark⟩)
    · exact absurd json (notJson _)
    · exact absurd json (notJson _)
    · refine ⟨.text wording, ?_, ?_⟩
      · rw [begins, Option.bind_some, if_neg (by simpa using noMark)]
      · rw [Value.text, valueFor_string]
        exact nonemptyText_text (ne_empty_of_find? begins)
  · rintro ⟨given, denoted, read⟩
    obtain ⟨first, begins, chosen⟩ := Option.bind_eq_some_iff.mp (Except.ok.inj denoted)
    split at chosen
    · cases chosen
    · rename_i noMark
      cases chosen
      rw [Value.text, valueFor_string] at read
      rw [text_of_nonemptyText read]
      exact .bare notJson begins (by simpa using noMark)

theorem textOf_iff (within : WithinDepth (.ofString wording)) (field : TextField)
    (text : String) :
    TextOf wording text ↔ ∃ given, wordingValue (.ofString wording) = .ok (some given) ∧
      nonemptyText (valueFor field.leaf (.ofString wording) given) = .ok text := by
  by_cases json : ∃ phrase, IsJson wording phrase
  · obtain ⟨phrase, json⟩ := json
    rw [textOf_json_iff within json field, wordingValue_of_isJson within json]
    simp
  · exact textOf_notJson_iff within (fun phrase found => json ⟨phrase, found⟩) field text

theorem Str.exists_eq_ofString_or_surrogate (s : Str) :
    (∃ text, s = .ofString text) ∨ ∃ code, .surrogate code ∈ s := by
  obtain ⟨cells, rfl | ⟨code, rest, rfl⟩⟩ := Utf8.exists_split_points s
  · exact .inl ⟨String.ofList cells, by rw [Str.ofString, String.toList_ofList]⟩
  · exact .inr ⟨code, List.mem_append_right _ List.mem_cons_self⟩

theorem nonemptyText_ne_ok {s : Str} {code : Nat} (half : .surrogate code ∈ s) (text : String) :
    nonemptyText (.str s) ≠ .ok text := by
  intro read
  obtain ⟨found, same, isText, -⟩ := (nonemptyText_eq_ok_iff _ _).mp read
  cases same
  rw [Str.toString?_eq_some_iff.mp isText] at half
  obtain ⟨c, -, same⟩ := List.mem_map.mp half
  cases same

/-- A field takes a text exactly if the wording gives that text. -/
theorem gives_iff {wording : Str} (within : WithinDepth wording) (field : TextField)
    (text : String) :
    Gives wording text ↔ ∃ given, wordingValue wording = .ok (some given) ∧
      nonemptyText (valueFor field.leaf wording given) = .ok text := by
  constructor
  · rintro ⟨typed, rfl, textOf⟩
    exact (textOf_iff within field text).mp textOf
  · rintro ⟨given, denoted, read⟩
    obtain ⟨typed, rfl⟩ | ⟨code, half⟩ := Str.exists_eq_ofString_or_surrogate wording
    · exact ⟨typed, rfl, (textOf_iff within field text).mpr ⟨given, denoted, read⟩⟩
    · -- No text comes of such a wording: what it denotes has a half as well.
      exfalso
      by_cases string : ∃ s, given = .str s
      · obtain ⟨s, rfl⟩ := string
        obtain ⟨code, inside⟩ := exists_surrogate_of_wordingValue half denoted
        rw [valueFor_string] at read
        exact nonemptyText_ne_ok inside text read
      · rw [valueFor_other _ fun s same => string ⟨s, same⟩] at read
        exact nonemptyText_ne_ok half text read

theorem setting_leaf (field : TextField) (text : String) :
    (field.setting text).leaf = field.leaf := by
  cases field <;> rfl

theorem readLeaf_text (origin : Origin) (field : TextField) {raw : Value} {text : String}
    (read : nonemptyText raw = .ok text) :
    readLeaf origin (field.setting text).leaf raw = .ok (field.setting text).value := by
  cases field <;> exact read

theorem exists_text_of_readLeaf {origin : Origin} {raw : Value} {leaf : Leaf}
    {value : leaf.Carrier} (isField : leaf = field.leaf)
    (read : readLeaf origin leaf raw = .ok value) : ∃ text, nonemptyText raw = .ok text := by
  cases field <;> subst isField <;> exact ⟨value, read⟩

/-- An assignment to a field that holds a text sets the field to the text of the wording, or is
refused if there is none. -/
theorem decision_text {path : String} {wording : Str} (named : trim path = field.leaf.path)
    (within : WithinDepth wording) :
    (∀ text, Gives wording text → decision path wording = .ok (.ok (field.setting text))) ∧
      ((∀ text, ¬Gives wording text) → ∃ error, decision path wording = .ok (.error error)) := by
  constructor
  · intro text gives
    obtain ⟨given, denoted, read⟩ := (gives_iff within field text).mp gives
    rw [← setting_leaf field text] at named read
    exact decision_eq_setting_iff.mpr ⟨given, _, _, denoted, named, readLeaf_text _ field read, rfl⟩
  · intro none
    cases settled : decision path wording with
    | error fault =>
        exact absurd (Result.map_eq_error_iff.mp settled) (wordingValue_ne_error within fault)
    | ok result =>
        cases result with
        | error error => exact ⟨error, rfl⟩
        | ok setting =>
            obtain ⟨given, leaf, value, denoted, leads, read, -⟩ :=
              decision_eq_setting_iff.mp settled
            have isField : leaf = field.leaf := Leaf.path_injective (leads.symm.trans named)
            obtain ⟨text, taken⟩ := exists_text_of_readLeaf isField read
            rw [isField] at taken
            exact absurd ((gives_iff within field text).mpr ⟨given, denoted, taken⟩) (none text)

end Decision

/-! ## Assignments -/

theorem gives_asciiString {text : String} (notEmpty : text ≠ "") :
    WithinDepth (.ofString (asciiString (Str.ofString text))) ∧
      Gives (.ofString (asciiString (Str.ofString text))) text := by
  obtain ⟨pieces, cells, points⟩ := exists_quoted_ascii text
  have json : IsJson (asciiString (Str.ofString text)) (.string pieces) :=
    ⟨⟨.empty, .string pieces, .empty⟩, (List.append_nil _).trans cells, rfl, .inl rfl⟩
  exact ⟨withinDepth_of_isJson json (Nat.zero_le _), _, rfl, .string json points notEmpty⟩

/-- What an assignment to a field that holds a text does with a wording: where the wording gives a
text, the field is set to that text, and otherwise nothing changes.  Every text but the empty one
can be assigned, by the string that is written for it. -/
theorem assign_text (config : Config) (journal : Journal) (field : TextField) (path : String)
    (named : trim path = field.leaf.path) (sink : Sink) (place? : Option SourceLocation) :
    (∀ wording : Str, WithinDepth wording →
      (∀ text, Gives wording text →
        answer (config.assign? path wording sink place?) =
            .ok (some (config.withText field text)) ∧
          (afterCall (config, journal) (.assign path wording place?, sink)).1 =
            config.withText field text) ∧
      ((∀ text, ¬Gives wording text) →
        answer (config.assign? path wording sink place?) = .ok none ∧
          (afterCall (config, journal) (.assign path wording place?, sink)).1 = config)) ∧
      ∀ text, text ≠ "" →
        answer (config.assign? path (.ofString (asciiString (Str.ofString text))) sink place?) =
          .ok (some (config.withText field text)) := by
  have set : ∀ wording text, WithinDepth wording → Gives wording text →
      answer (config.assign? path wording sink place?) =
        .ok (some (config.withText field text)) := by
    intro wording text within gives
    rw [answer_assign, (decision_text named within).1 text gives, ← config.set_setting field text]
    rfl
  refine ⟨fun wording within => ⟨fun text gives => ⟨set wording text within gives, ?_⟩,
    fun none => ?_⟩, fun text notEmpty => ?_⟩
  · rw [afterCall_assign, (decision_text named within).1 text gives]
    exact config.set_setting field text
  · obtain ⟨error, refused⟩ := (decision_text named within).2 none
    rw [answer_assign, afterCall_assign, refused]
    exact ⟨rfl, rfl⟩
  · obtain ⟨within, gives⟩ := gives_asciiString notEmpty
    exact set _ text within gives

theorem isJson_space_true : IsJson " true" (.word (.bool true)) :=
  ⟨⟨.space, .word (.bool true), .empty⟩, rfl, rfl, trivial⟩

/-- The blank stays. -/
theorem assign_text_space_true :
    trim " output.failure_text" = TextField.failureText.leaf.path ∧
      WithinDepth (.ofString " true") ∧
      answer (Config.default.assign? " output.failure_text" (.ofString " true") .journal none) =
        .ok (some (Config.default.withText .failureText " true")) := by
  have named : trim " output.failure_text" = TextField.failureText.leaf.path := by decide
  have within : WithinDepth (.ofString " true") :=
    withinDepth_of_isJson isJson_space_true (Nat.zero_le _)
  have assigned :=
    (assign_text .default .empty .failureText _ named .journal none).1 (.ofString " true") within
  exact ⟨named, within, (assigned.1 " true" ⟨_, rfl, .other isJson_space_true nofun⟩).1⟩

/-- JSON that is no string with a text need not stand for itself: the empty string is refused.  Nor
need a bare word: one with half of a surrogate pair is refused. -/
theorem emptyString_not_kept :
    (¬∀ (wording : String) (phrase : Phrase), IsJson wording phrase →
      WithinDepth (.ofString wording) →
      (¬∃ pieces text, phrase = .string pieces ∧ pointsOf pieces = Str.ofString text ∧
        text ≠ "") →
      answer (Config.default.assign? "output.failure_text" (.ofString wording) .journal none) =
        .ok (some (Config.default.withText .failureText wording))) ∧
      answer (Config.default.assign? "output.failure_text" [.scalar 'a', .surrogate 0xDCFF] .journal
        none) = .ok none := by
  refine ⟨fun kept => ?_, by rw [answer_assign]; rfl⟩
  have json : IsJson "\"\"" (.string []) :=
    ⟨⟨.empty, .string [], .empty⟩, rfl, rfl, .inl rfl⟩
  have noText : ¬∃ pieces text, Phrase.string [] = .string pieces ∧
      pointsOf pieces = Str.ofString text ∧ text ≠ "" := by
    rintro ⟨pieces, text, same, denotes, notEmpty⟩
    cases same
    exact notEmpty (Str.ofString_injective denotes.symm)
  have refused : answer (Config.default.assign? "output.failure_text" (.ofString "\"\"") .journal
      none) = .ok none := by
    rw [answer_assign]
    rfl
  cases refused.symm.trans (kept _ _ json (withinDepth_of_isJson json (Nat.zero_le _)) noText)

end Config

end LineMap
