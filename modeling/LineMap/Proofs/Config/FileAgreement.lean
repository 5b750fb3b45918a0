import LineMap.Proofs.Config.Assignment
import LineMap.Proofs.Config.FileReports
import LineMap.Proofs.Config.Overlay
import LineMap.Proofs.Config.Wordings
import LineMap.Proofs.Json.Variations
import LineMap.Proofs.Validation.Plain
import Mathlib.Algebra.Group.Nat.Defs

/-!
# Files and assignments agree

A field is given a value by a file that mentions nothing else, or by an assignment with the same
text as its wording.  What the file sets, the assignment sets too.  Where a field holds no text,
the converse is true as well, except for numbers with so many digits before the point that files do
not admit them.
-/

set_option autoImplicit false

namespace LineMap

open LineMap.Diagnostics
open LineMap.Files
open LineMap.Json
open LineMap.Text
open LineMap.Validation

/-! ## Names as strings of the grammar -/

namespace Json

def plainPieces (cells : List Char) (alone : ∀ c ∈ cells, StandsAlone c) : List Piece :=
  cells.pmap Piece.plain alone

theorem contentCells_plainPieces (cells : List Char) (alone : ∀ c ∈ cells, StandsAlone c) :
    contentCells (plainPieces cells alone) = cells := by
  induction cells with
  | nil => rfl
  | cons c others inductionHypothesis =>
      exact congrArg (c :: ·) (inductionHypothesis (List.forall_mem_cons.mp alone).2)

theorem pointsOf_plainPieces (cells : List Char) (alone : ∀ c ∈ cells, StandsAlone c) :
    pointsOf (plainPieces cells alone) = cells.map .scalar := by
  induction cells with
  | nil => rfl
  | cons c others inductionHypothesis =>
      exact congrArg (.scalar c :: ·) (inductionHypothesis (List.forall_mem_cons.mp alone).2)

def plainLabel (name : String) (alone : ∀ c ∈ name.toList, StandsAlone c) (before : Gap) : Label :=
  ⟨plainPieces name.toList alone, .empty, before⟩

def Sentence.text (sentence : Sentence) : String :=
  String.ofList sentence.cells

end Json

theorem Group.name_standsAlone (group : Group) : ∀ c ∈ group.name.toList, StandsAlone c := by
  cases group <;> simp [Group.name, StandsAlone]

theorem Leaf.name_standsAlone (leaf : Leaf) : ∀ c ∈ leaf.name.toList, StandsAlone c := by
  cases leaf <;> simp [Leaf.name, StandsAlone]

namespace Config

/-! ## The document of one field -/

def singleDocument (leaf : Leaf) (text : String) : String :=
  "\x7b\"" ++ leaf.group.name ++ "\": \x7b\"" ++ leaf.name ++ "\": " ++ text ++ "\x7d\x7d"

def singleSentence (leaf : Leaf) (sentence : Sentence) : Sentence :=
  let field := plainLabel leaf.name leaf.name_standsAlone (.behindSpace sentence.before)
  let group := plainLabel leaf.group.name leaf.group.name_standsAlone .space
  let inside := .object .empty (.last field sentence.phrase sentence.after)
  ⟨.empty, .object .empty (.last group inside .empty), .empty⟩

theorem cells_singleSentence (leaf : Leaf) (sentence : Sentence) :
    (singleSentence leaf sentence).cells = (singleDocument leaf sentence.text).toList := by
  have opens : "\x7b\"".toList = ['\x7b', '"'] := rfl
  have between : "\": \x7b\"".toList = ['"', ':', ' ', '\x7b', '"'] := rfl
  have colon : "\": ".toList = ['"', ':', ' '] := rfl
  have closes : "\x7d\x7d".toList = ['\x7d', '\x7d'] := rfl
  simp only [singleDocument, String.toList_append, opens, between, colon, closes, Sentence.text,
    String.toList_ofList]
  simp [singleSentence, plainLabel, Sentence.cells, Phrase.cells, MemberList.cells, Label.cells,
    quotedCells, contentCells_plainPieces, Gap.empty, Gap.space, Gap.behindSpace]

def singleValue (leaf : Leaf) (value : Value) : Value :=
  .obj [(Str.ofString leaf.group.name, .obj [(Str.ofString leaf.name, value)])]

theorem value_singleSentence (leaf : Leaf) (sentence : Sentence) :
    (singleSentence leaf sentence).phrase.value = singleValue leaf sentence.phrase.value := by
  simp [singleSentence, singleValue, plainLabel, Phrase.value, MemberList.values,
    pointsOf_plainPieces, Str.ofString]

theorem depth_singleSentence (leaf : Leaf) (sentence : Sentence) :
    (singleSentence leaf sentence).phrase.depth = sentence.phrase.depth + 2 := rfl

theorem admitted_singleSentence (dialect : Dialect) (leaf : Leaf) (sentence : Sentence) :
    (singleSentence leaf sentence).phrase.Admitted dialect ↔ sentence.phrase.Admitted dialect := by
  have named : ∀ (cells : List Char) (alone : ∀ c ∈ cells, StandsAlone c),
      StringAdmitted dialect (plainPieces cells alone) := fun cells alone =>
    .inr (pointsOf_plainPieces cells alone ▸ Str.isText_map_scalar cells)
  simp [singleSentence, plainLabel, Phrase.Admitted, MemberList.Admitted, named]

/-! ## What the document sets -/

theorem member?_singleValue (leaf : Leaf) (value : Value) (group : Group) :
    (singleValue leaf value).member? group.name =
      if group = leaf.group then some (.obj [(Str.ofString leaf.name, value)]) else none := by
  have found := Members.last?_map Group.ofString_name_injective
    (fun _ => Value.obj [(Str.ofString leaf.name, value)]) group [leaf.group]
  simpa [singleValue, Value.member?_obj] using found

theorem mention?_singleValue (leaf other : Leaf) (value : Value) :
    mention? (singleValue leaf value) other = if other = leaf then some value else none := by
  have found := Members.last?_map Leaf.ofString_name_injective (fun _ => value) other [leaf]
  rw [mention?, member?_singleValue]
  by_cases same : other = leaf
  · subst same
    simpa [Value.member?_obj] using found
  · by_cases together : other.group = leaf.group
    · simpa [together, Value.member?_obj, same] using found
    · simp [together, same]

theorem shaped_singleValue (leaf : Leaf) (value : Value) : Shaped (singleValue leaf value) := by
  refine ⟨⟨_, rfl, ?_⟩, ?_⟩
  · intro member present
    cases List.mem_singleton.mp present
    exact List.mem_map_of_mem (List.mem_map_of_mem (Group.mem_all leaf.group))
  · intro group inside found
    rw [member?_singleValue] at found
    split at found
    next same =>
      cases found
      refine ⟨_, rfl, fun member present => ?_⟩
      cases List.mem_singleton.mp present
      have listed := (Leaf.mem_leaves_iff leaf group).mpr same.symm
      exact List.mem_map_of_mem (List.mem_map_of_mem listed)
    next => cases found

theorem apply_singleValue_iff (config loaded : Config) (leaf : Leaf) (raw : Value) :
    (∃ settings, documentSettings .document (singleValue leaf raw) = .ok settings ∧
        config.apply settings = loaded) ↔
      ∃ value, readLeaf .document leaf raw = .ok value ∧ config.set leaf value = loaded := by
  have applied : ∀ value, readLeaf .document leaf raw = .ok value →
      config.apply (mentioned .document (singleValue leaf raw)) = config.set leaf value := by
    intro value read
    refine ext_get fun other => ?_
    rw [get_apply_mentioned, mention?_singleValue]
    by_cases same : other = leaf
    · subst same
      simp [read, Except.toOption]
    · simp [same, get_set_of_ne]
  simp only [documentSettings_eq_ok_iff]
  constructor
  · rintro ⟨settings, ⟨-, readable, rfl⟩, rfl⟩
    obtain ⟨value, read⟩ := readable leaf raw (by simp [mention?_singleValue])
    exact ⟨value, read, (applied value read).symm⟩
  · rintro ⟨value, read, rfl⟩
    refine ⟨_, ⟨shaped_singleValue leaf raw, fun other given found => ?_, rfl⟩, applied value read⟩
    rw [mention?_singleValue] at found
    split at found
    next same =>
      subst same
      cases found
      exact ⟨value, read⟩
    next => cases found

/-! ## What a file and an assignment set -/

section Sources

variable {files : FileSystem} {path : Path} {leaf : Leaf} {config : Config}

/-- Where a file is read as a text, the text is laid over the configuration. -/
theorem answer_loadFile {bytes : List UInt8} {text : String} (noNull : path.hasNull = false)
    (stored : readBytes files path = .ok bytes) (decoded : decodeText bytes = .ok text)
    (config : Config) (sink : Sink) :
    answer (loadFile? files path config sink) = .ok (config.overlay (.text text)).toOption := by
  obtain ⟨notes, traced, -⟩ :=
    logs_loadFile_of_holdsText sink ⟨noNull, bytes, stored, decoded⟩ config
  exact traced.answer_eq

theorem json_text_eq_ok_iff (text : String) (value : Value) :
    (Payload.text text).json = .ok value ↔
      readText fileDialect (Utf8.encode text.toList) = .ok value := by
  simp only [Payload.json, Payload.toBytes]
  cases readText fileDialect (Utf8.encode text.toList) with
  | ok found => simp
  | error failure => simp

theorem overlay_text_iff (valid : config.Valid) (text : String) (loaded : Config) :
    (config.overlay (.text text)).toOption = some loaded ↔
      ∃ value, readText fileDialect (Utf8.encode text.toList) = .ok value ∧
        ∃ settings, documentSettings .document value = .ok settings ∧
          config.apply settings = loaded := by
  rw [overlay_eq valid, Result.toOption_eq_some_iff, Result.map_eq_ok_iff]
  simp only [Result.bind_eq_ok_iff, json_text_eq_ok_iff]
  constructor
  · rintro ⟨settings, ⟨value, read, made⟩, applied⟩
    exact ⟨value, read, settings, made, applied⟩
  · rintro ⟨value, read, settings, made, applied⟩
    exact ⟨settings, ⟨value, read, made⟩, applied⟩

theorem loadFile_single_iff (valid : config.Valid) (noNull : path.hasNull = false)
    {sentence : Sentence}
    (stored : readBytes files path = .ok (Utf8.encode (singleDocument leaf sentence.text).toList))
    (sink : Sink) (loaded : Config) :
    answer (loadFile? files path config sink) = .ok (some loaded) ↔
      sentence.phrase.Admitted fileDialect ∧ sentence.phrase.depth + 2 ≤ fileDialect.depthLimit ∧
        ∃ value, readLeaf .document leaf sentence.phrase.value = .ok value ∧
          config.set leaf value = loaded := by
  have decoded : decodeText (Utf8.encode (singleDocument leaf sentence.text).toList) =
      .ok (String.ofList (universalBreaks (singleSentence leaf sentence).cells)) := by
    rw [decodeText, Utf8.decode_encode, cells_singleSentence]
    rfl
  rw [answer_loadFile noNull stored decoded, Except.ok.injEq, overlay_text_iff valid,
    String.toList_ofList]
  simp only [readText_universalBreaks, readText_sentence_eq_ok_iff, admitted_singleSentence,
    depth_singleSentence, value_singleSentence]
  constructor
  · rintro ⟨_, ⟨admitted, shallow, rfl⟩, made⟩
    exact ⟨admitted, shallow, (apply_singleValue_iff config loaded leaf _).mp made⟩
  · rintro ⟨admitted, shallow, set⟩
    exact ⟨_, ⟨admitted, shallow, rfl⟩, (apply_singleValue_iff config loaded leaf _).mpr set⟩

theorem assign_path_iff (config : Config) (leaf : Leaf) (wording : Str) (sink : Sink)
    (place? : Option SourceLocation) (assigned : Config) :
    answer (config.assign? leaf.path wording sink place?) = .ok (some assigned) ↔
      ∃ given, wordingValue wording = .ok (some given) ∧
        ∃ value, readLeaf .assignment leaf (valueFor leaf wording given) = .ok value ∧
          config.set leaf value = assigned := by
  rw [answer_assign, Result.map_eq_ok_iff]
  constructor
  · rintro ⟨result, settled, made⟩
    obtain ⟨setting, reached, rfl⟩ := Option.map_eq_some_iff.mp made
    rw [Result.toOption_eq_some_iff.mp reached] at settled
    obtain ⟨given, other, value, denoted, leads, read, rfl⟩ := decision_eq_setting_iff.mp settled
    cases Leaf.path_injective (leads.symm.trans leaf.trim_path)
    exact ⟨given, denoted, value, read, rfl⟩
  · rintro ⟨given, denoted, value, read, rfl⟩
    exact ⟨_, decision_eq_setting_iff.mpr ⟨given, leaf, value, denoted, leaf.trim_path, read, rfl⟩,
      rfl⟩

end Sources

/-! ## What fields without a text take -/

/-- Where a value comes from has no say in what is read of it. -/
theorem readLeaf_of_origin {origin : Origin} {leaf : Leaf} {raw : Value} {value : leaf.Carrier}
    (read : readLeaf origin leaf raw = .ok value) (other : Origin) :
    readLeaf other leaf raw = .ok value := by
  cases leaf with
  | unitKinds =>
      cases raw with
      | arr values => exact read
      | _ => cases read
  | _ => exact read

/-- What a field takes as it stands, it takes by its wording too. -/
theorem valueFor_of_readLeaf {origin : Origin} {leaf : Leaf} {raw : Value} {value : leaf.Carrier}
    (read : readLeaf origin leaf raw = .ok value) (wording : Str) :
    valueFor leaf wording raw = raw := by
  have ofText : ∀ {text : String} {leaf : Leaf}, nonemptyText raw = .ok text →
      leaf.holdsText = true → valueFor leaf wording raw = raw := by
    intro text leaf textRead holds
    obtain ⟨s, rfl, -⟩ := (nonemptyText_eq_ok_iff raw text).mp textRead
    simp [valueFor, holds]
  cases leaf with
  | finalMarker => exact ofText read rfl
  | unitKinds => rfl
  | startMarker => exact ofText read rfl
  | endMarker => exact ofText read rfl
  | includeStart => rfl
  | primary => rfl
  | failureText => exact ofText read rfl

theorem valueFor_of_noText {leaf : Leaf} (noText : leaf.holdsText = false) (wording : Str)
    (value : Value) : valueFor leaf wording value = value := by
  simp [valueFor, noText]

/-! ## Phrases with plain values -/

theorem admitted_of_texts (dialect : Dialect) : ∀ items : ItemList,
    (∀ item ∈ items.values, ∃ s, item = .str s ∧ s.IsText) →
      items.Admitted dialect ∧ items.depth = 0
  | .last item _, texts => by
      obtain ⟨s, value, isText⟩ := texts item.value List.mem_cons_self
      obtain ⟨pieces, rfl, rfl⟩ := Phrase.exists_string_of_value value
      exact ⟨.inr isText, rfl⟩
  | .more item _ _ others, texts => by
      obtain ⟨⟨s, value, isText⟩, later⟩ := List.forall_mem_cons.mp texts
      obtain ⟨pieces, rfl, rfl⟩ := Phrase.exists_string_of_value value
      obtain ⟨admitted, shallow⟩ := admitted_of_texts dialect others later
      exact ⟨⟨.inr isText, admitted⟩, (Nat.max_eq_right (Nat.zero_le _)).trans shallow⟩

/-- A phrase with a plain value is admitted by every dialect that admits its number, if it is one,
and nests one deep at most. -/
theorem admitted_of_isPlain {dialect : Dialect} {phrase : Phrase} (plain : phrase.value.IsPlain)
    (numbers : ∀ numeral, phrase = .number numeral → numeral.Admitted dialect) :
    phrase.Admitted dialect ∧ phrase.depth ≤ 1 := by
  cases phrase with
  | word word => exact ⟨trivial, Nat.zero_le 1⟩
  | number numeral => exact ⟨numbers numeral rfl, Nat.zero_le 1⟩
  | string pieces => exact ⟨.inr plain, Nat.zero_le 1⟩
  | emptyArray inside => exact ⟨trivial, Nat.zero_le 1⟩
  | array before items =>
      obtain ⟨admitted, shallow⟩ := admitted_of_texts dialect items plain
      exact ⟨admitted, Nat.succ_le_succ (Nat.le_of_eq shallow)⟩
  | emptyObject inside => exact ⟨trivial, Nat.zero_le 1⟩
  | object before members => exact absurd plain id

/-- Files bound the digits before the point, and nothing else about a number. -/
theorem admitted_fileDialect {numeral : Numeral}
    (short : numeral.whole.cells.length ≤ Number.digitLimit) : numeral.Admitted fileDialect :=
  ⟨.inr (decide_eq_true short), fun _ => rfl⟩

/-! ## Both sources -/

/-- What a file sets with a text for one field, an assignment with that text sets too.  Where the
field holds no text, the converse is true of JSON that is no number with more digits before the
point than files admit. -/
theorem loadFile_agrees_assign {config : Config} (valid : config.Valid) {files : FileSystem}
    {path : Path} (noNull : path.hasNull = false) (leaf : Leaf) (sentence : Sentence)
    (stored : readBytes files path = .ok (Utf8.encode (singleDocument leaf sentence.text).toList))
    (sink otherSink : Sink) (place? : Option SourceLocation) (result : Config) :
    (answer (loadFile? files path config sink) = .ok (some result) →
      answer (config.assign? leaf.path (.ofString sentence.text) otherSink place?) =
        .ok (some result)) ∧
    (leaf.holdsText = false → sentence.phrase.Admitted typedDialect →
      (∀ numeral, sentence.phrase = .number numeral →
        numeral.whole.cells.length ≤ Number.digitLimit) →
      answer (config.assign? leaf.path (.ofString sentence.text) otherSink place?) =
        .ok (some result) →
      answer (loadFile? files path config sink) = .ok (some result)) := by
  have json : sentence.phrase.Admitted typedDialect → IsJson sentence.text sentence.phrase :=
    fun admitted => ⟨sentence, String.toList_ofList.symm, rfl, admitted⟩
  rw [loadFile_single_iff valid noNull stored, assign_path_iff]
  constructor
  · rintro ⟨admitted, shallow, value, read, rfl⟩
    have typed := Phrase.Admitted.mono typedDialect_covers_fileDialect admitted
    have within : sentence.phrase.depth ≤ typedDialect.depthLimit :=
      Nat.le_trans (Nat.le_of_add_right_le shallow) (by decide)
    refine ⟨sentence.phrase.value,
      wordingValue_of_isJson (withinDepth_of_isJson (json typed) within) (json typed), value, ?_,
      rfl⟩
    rw [valueFor_of_readLeaf read]
    exact readLeaf_of_origin read .assignment
  · rintro noText typed short ⟨given, denoted, value, read, rfl⟩
    rw [eq_value_of_isJson (json typed) denoted, valueFor_of_noText noText] at read
    obtain ⟨admitted, shallow⟩ := admitted_of_isPlain (isPlain_of_readLeaf noText read)
      fun numeral isNumber => admitted_fileDialect (short numeral isNumber)
    exact ⟨admitted, Nat.le_trans (Nat.add_le_add_right shallow 2) (by decide), value,
      readLeaf_of_origin read .document, rfl⟩

/-- The file and the assignment both switch the field on. -/
theorem loadFile_agrees_assign_true :
    let sentence : Sentence := ⟨.empty, .word (.bool true), .empty⟩
    let path : Path := .ofString "c.json"
    let files : FileSystem := fun _ =>
      .file (Utf8.encode (singleDocument .includeStart sentence.text).toList)
    default.Valid ∧ path.hasNull = false ∧
      answer (loadFile? files path default .journal) =
        .ok (some { default with includeStart := true }) ∧
      answer (default.assign? "asm.include_start_marker" (.ofString sentence.text) .journal none) =
        .ok (some { default with includeStart := true }) := by
  intro sentence path files
  have noNull : path.hasNull = false := by decide
  have stored : readBytes files path =
      .ok (Utf8.encode (singleDocument .includeStart sentence.text).toList) := rfl
  have loaded : answer (loadFile? files path default .journal) =
      .ok (some { default with includeStart := true }) :=
    (loadFile_single_iff valid_default noNull stored .journal _).mpr
      ⟨trivial, by decide, true, rfl, rfl⟩
  have agrees := loadFile_agrees_assign valid_default noNull .includeStart sentence stored .journal
    .journal none { default with includeStart := true }
  have assigned := agrees.1 loaded
  exact ⟨valid_default, noNull, agrees.2 rfl trivial nofun assigned, assigned⟩

/-! ## Numbers that only assignments admit -/

def twoZeros (count : Nat) : DigitRun where
  cells := '2' :: List.replicate count '0'
  nonempty := List.cons_ne_nil _ _
  digits := by
    intro c member
    rcases List.mem_cons.mp member with rfl | zero
    · rfl
    · rw [List.eq_of_mem_replicate zero]
      rfl

theorem length_twoZeros (count : Nat) : (twoZeros count).cells.length = count + 1 := by
  rw [twoZeros, List.length_cons, List.length_replicate]

theorem numberOf_twoZeros (count : Nat) :
    numberOf (twoZeros count).cells = 2 * 10 ^ count := by
  have zeros : ∀ value, (List.replicate count '0').foldl
      (fun value c => 10 * value + (digitValue? c).getD 0) value = value * 10 ^ count := by
    have zero : (digitValue? '0').getD 0 = 0 := by decide
    induction count with
    | zero => exact fun value => (Nat.mul_one value).symm
    | succ count inductionHypothesis =>
        intro value
        rw [List.replicate_succ, List.foldl_cons, inductionHypothesis, zero, Nat.add_zero,
          Nat.pow_succ, Nat.mul_comm 10, Nat.mul_assoc, Nat.mul_comm 10]
  have two : 10 * 0 + (digitValue? '2').getD 0 = 2 := by decide
  rw [numberOf, twoZeros, List.foldl_cons, two, zeros]

def longPower : Power :=
  ⟨false, some true, ⟨['4', '3', '0', '0'], List.cons_ne_nil _ _, List.all_eq_true.mp rfl⟩⟩

def longTwo : Numeral where
  negative := false
  whole := twoZeros 4300
  noLeadingZero := nofun
  fraction? := none
  power? := some longPower

theorem noInteger_longTwo : ¬longTwo.IsInteger :=
  fun isInteger => nomatch isInteger.2

theorem natural_longTwo : natural longTwo.value = .ok 2 := by
  have exponent : longPower.exponent = -4300 := by decide
  have value : longTwo.value = .float (.ofDecimal false (2 * 10 ^ 4300) (-4300)) := by
    rw [Numeral.value, if_neg noInteger_longTwo]
    simp only [longTwo, Numeral.fraction, Option.elim, exponent, Number.decimalNumber,
      List.append_nil, numberOf_twoZeros, List.length_nil, Int.natCast_zero, Int.sub_zero]
  have rounded : Number.Binary64.ofDecimal false (2 * 10 ^ 4300) (-4300) =
      .finite false (2 ^ 52) (-51) := by decide +kernel
  rw [value, rounded]
  rfl

theorem not_admitted_longTwo : ¬longTwo.Admitted fileDialect := by
  intro admitted
  rcases admitted.whole with zero | short
  · cases zero
  · rw [longTwo, length_twoZeros] at short
    exact absurd short (by decide)

theorem admitted_longTwo : longTwo.Admitted typedDialect :=
  ⟨.inr rfl, fun isInteger => absurd isInteger noInteger_longTwo⟩

/-- Files do not admit all numbers that assignments do. -/
theorem not_every_assignment_loads :
    ¬∀ (files : FileSystem) (path : Path) (leaf : Leaf) (sentence : Sentence),
      path.hasNull = false →
      readBytes files path = .ok (Utf8.encode (singleDocument leaf sentence.text).toList) →
      leaf.holdsText = false → sentence.phrase.Admitted typedDialect → ∀ result,
        answer (default.assign? leaf.path (.ofString sentence.text) .journal none) =
          .ok (some result) →
        answer (loadFile? files path default .journal) = .ok (some result) := by
  intro loads
  let sentence : Sentence := ⟨.empty, .number longTwo, .empty⟩
  let path : Path := .ofString "c.json"
  let files : FileSystem := fun _ =>
    .file (Utf8.encode (singleDocument .primary sentence.text).toList)
  have noNull : path.hasNull = false := by decide
  have stored : readBytes files path =
      .ok (Utf8.encode (singleDocument .primary sentence.text).toList) := rfl
  have json : IsJson sentence.text sentence.phrase :=
    ⟨sentence, String.toList_ofList.symm, rfl, admitted_longTwo⟩
  have assigned :
      answer (default.assign? Leaf.primary.path (.ofString sentence.text) .journal none) =
        .ok (some (default.set .primary 2)) :=
    (assign_path_iff _ _ _ _ _ _).mpr ⟨_,
      wordingValue_of_isJson (withinDepth_of_isJson json (Nat.zero_le _)) json, 2, natural_longTwo,
      rfl⟩
  have loaded := loads files path .primary sentence noNull stored rfl admitted_longTwo _ assigned
  exact not_admitted_longTwo ((loadFile_single_iff valid_default noNull stored _ _).mp loaded).1

end Config

end LineMap
