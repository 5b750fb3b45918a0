import LineMap.Json.Equality
import LineMap.Proofs.SymbolTable.Content
import LineMap.Proofs.SymbolTable.Loading

/-!
# Loading is all or nothing

Either the table holds all of the document and nothing is warned of, or it is empty and there is one
warning; and a document that can be read in one way only is taken exactly if it has the form
required.  In which of its accepted names a member has, in which order members stand, and what else
stands there, makes no difference.
-/

set_option autoImplicit false

namespace LineMap.SymbolTable

open LineMap.Diagnostics
open LineMap.Files
open LineMap.Json
open LineMap.Validation

/-! ## All or nothing -/

theorem isEmpty_eq_false_of_json {document : Payload} {value : Value}
    (read : document.json = .ok value) : document.isEmpty = false := by
  rw [← Bool.not_eq_true]
  intro empty
  cases document with
  | text content =>
      obtain rfl := String.isEmpty_iff.mp empty
      cases read
  | bytes content =>
      obtain rfl := List.isEmpty_iff.mp empty
      cases read

theorem filter_isEmpty_of_json {document : Payload} {value : Value}
    (read : document.json = .ok value) :
    ((some document).filter fun document => !document.isEmpty) = some document := by
  rw [Option.filter_some, isEmpty_eq_false_of_json read]
  rfl

/-- A document was taken as a whole, and nothing is warned of. -/
structure Taken (document : Payload) (primary : Int) (table : SymbolTable)
    (headings : List Heading) : Prop where
  content : ∃ value, document.json = .ok value ∧ ContentIs value ⟨table.paths, table.entries⟩
  primary : table.primary = primary
  quiet : headings = [⟨.detail, none⟩]

/-- Nothing was taken, and there is one warning; the rest is for debugging. -/
structure Refused (primary : Int) (table : SymbolTable) (headings : List Heading) : Prop where
  empty : table = .empty primary
  warned : headings = [malformed, ⟨.debug, none⟩]

theorem Refused.not_taken {document : Payload} {primary : Int} {table : SymbolTable}
    {headings : List Heading} (refused : Refused primary table headings) :
    ¬Taken document primary table headings := by
  intro taken
  cases refused.warned.symm.trans taken.quiet

theorem readContent_eq_ok_iff (document : Payload) (content : Content) :
    readContent document = .ok content ↔
      ∃ value, document.json = .ok value ∧ contentOf value = .ok content :=
  Result.bind_eq_ok_iff

theorem taken_of_readContent {document : Payload} {content : Content}
    (read : readContent document = .ok content) (primary : Int) :
    Taken document primary (ofContent content primary) [⟨.detail, none⟩] := by
  obtain ⟨value, json, decoded⟩ := (readContent_eq_ok_iff document content).mp read
  exact ⟨⟨value, json, contentIs_of_contentOf (Payload.textual_of_json json) decoded⟩, rfl, rfl⟩

theorem isClear_of_json {document : Payload} {value : Value} (read : document.json = .ok value)
    (unambiguous : documentForm.Unambiguous value) : documentForm.IsClear value :=
  ⟨Payload.textual_of_json read, unambiguous⟩

theorem succeeds_readContent {document : Payload}
    (unambiguous : ∀ value, document.json = .ok value → documentForm.Unambiguous value) :
    (readContent document).Succeeds ↔
      ∃ value, document.json = .ok value ∧ documentForm.Fits value := by
  have fits : ∀ value, document.json = .ok value →
      ((contentOf value).Succeeds ↔ documentForm.Fits value) := fun value read =>
    governs_contentOf.succeeds_iff (isClear_of_json read (unambiguous value read))
  simp only [Checked.Succeeds, readContent_eq_ok_iff]
  constructor
  · rintro ⟨content, value, read, decoded⟩
    exact ⟨value, read, (fits value read).mp ⟨content, decoded⟩⟩
  · rintro ⟨value, read, fitting⟩
    obtain ⟨content, decoded⟩ := (fits value read).mpr fitting
    exact ⟨content, value, read, decoded⟩

/-- Whatever is given, loading comes to a table.  A document that is there is taken as a whole or
not at all, and if it is unambiguous, it is taken exactly if it has the form required. -/
theorem load_all_or_nothing (document? : Option Payload) (sink : Sink) (primary : Int)
    (source? : Option Path) :
    ∃ table headings,
      Logs (load document? sink primary source?) (.ok table) (sink.kept headings) ∧
        match document?.filter fun document => !document.isEmpty with
        | none => table = .empty primary ∧ headings = [⟨.detail, none⟩]
        | some document =>
            (Taken document primary table headings ∨ Refused primary table headings) ∧
              ((∀ value, document.json = .ok value → documentForm.Unambiguous value) →
                (Taken document primary table headings ↔
                  ∃ value, document.json = .ok value ∧ documentForm.Fits value)) := by
  cases present : document?.filter fun document => !document.isEmpty with
  | none => exact ⟨_, _, logs_load_absent sink primary source? present, rfl, rfl⟩
  | some document =>
      cases read : readContent document with
      | error issues =>
          have refused : Refused primary (.empty primary) [malformed, ⟨.debug, none⟩] := ⟨rfl, rfl⟩
          refine ⟨_, _, logs_load_invalid sink primary source? present read, .inr refused,
            fun unambiguous => iff_of_false refused.not_taken ?_⟩
          rw [← succeeds_readContent unambiguous, read]
          exact nofun
      | ok content =>
          have taken := taken_of_readContent read primary
          refine ⟨_, _, logs_load_valid sink primary source? present read, .inl taken,
            fun unambiguous => iff_of_true taken ?_⟩
          rw [← succeeds_readContent unambiguous, read]
          exact ⟨content, rfl⟩

def emittedText : String :=
  "\x7b\"paths\":[\"a\"],\"map\":\x7b\"0\":\x7b\"path\":0,\"range\":" ++
    "\x7b\"start\":\x7b\"line\":1,\"col\":2\x7d," ++
    "\"end\":\x7b\"line\":3,\"col\":4\x7d\x7d\x7d\x7d\x7d"

def emittedPosition (line column : Int) : Value :=
  .record [("line", .int line), ("col", .int column)]

def emittedValue : Value :=
  .record [("paths", .arr [.text "a"]), ("map", .record [("0", .record [("path", .int 0),
    ("range", .record [("start", emittedPosition 1 2), ("end", emittedPosition 3 4)])])])]

theorem json_emittedText : (Payload.text emittedText).json = .ok emittedValue :=
  Result.toOption_eq_some_iff.mp (by decide +kernel)

/-- A document of the required form is taken. -/
theorem load_all_or_nothing_emitted :
    ∃ table headings,
      Logs (load (some (.text emittedText)) .journal 0 none) (.ok table) headings ∧
        Taken (.text emittedText) 0 table headings := by
  obtain ⟨table, headings, logs, outcome⟩ :=
    load_all_or_nothing (some (.text emittedText)) .journal 0 none
  rw [filter_isEmpty_of_json json_emittedText] at outcome
  have unambiguous : ∀ value, (Payload.text emittedText).json = .ok value →
      documentForm.Unambiguous value := by
    intro value read
    obtain rfl := Except.ok.inj (json_emittedText.symm.trans read)
    decide +kernel
  exact ⟨table, headings, logs,
    (outcome.2 unambiguous).mpr ⟨emittedValue, json_emittedText, by decide +kernel⟩⟩

/-! ## Documents that differ in form only -/

/-- Tables that cannot be told apart by their files, their entries or what they resolve. -/
structure Alike (table other : SymbolTable) : Prop where
  paths : table.paths = other.paths
  entries : table.entries.Perm other.entries
  entry : ∀ key, table.entry? key = other.entry? key
  resolve : ∀ key, table.resolve? key = other.resolve? key

theorem alike_ofContent {content other : Content} (primary : Int)
    (once : (content.entries.map Prod.fst).Nodup) (paths : content.paths = other.paths)
    (entries : content.entries.Perm other.entries) :
    (ofContent content primary).Alike (ofContent other primary) := by
  have entry : ∀ key,
      entry? (ofContent content primary) key = entry? (ofContent other primary) key :=
    Keyed.lookup_eq_of_perm once entries
  have path : ∀ index,
      path? (ofContent content primary) index = path? (ofContent other primary) index :=
    fun index => by rw [path?, path?, ofContent, ofContent, paths]
  refine ⟨paths, entries, entry, fun key => ?_⟩
  rw [resolve?, resolve?, entry]
  simp only [path]
  rfl

/-- Two unambiguous documents that differ only in accepted names, in the order of members and in
members that are not read give tables that cannot be told apart, or both give none. -/
theorem load_variants {document variant : Payload} {value other : Value}
    (read : document.json = .ok value) (readOther : variant.json = .ok other)
    (unambiguous : documentForm.Unambiguous value)
    (otherUnambiguous : documentForm.Unambiguous other) (differ : documentForm.Variant value other)
    (sink : Sink) (primary : Int) (source? : Option Path) :
    ∃ table otherTable headings,
      Logs (load (some document) sink primary source?) (.ok table) (sink.kept headings) ∧
        Logs (load (some variant) sink primary source?) (.ok otherTable) (sink.kept headings) ∧
        (documentForm.Fits value ∧ Taken document primary table headings ∧
            Taken variant primary otherTable headings ∧ table.Alike otherTable ∨
          ¬documentForm.Fits value ∧ Refused primary table headings ∧
            Refused primary otherTable headings) := by
  have clear := isClear_of_json read unambiguous
  have fits := governs_contentOf.succeeds_iff clear
  have agrees := governs_contentOf.agrees clear (isClear_of_json readOther otherUnambiguous) differ
  have present := filter_isEmpty_of_json read
  have otherPresent := filter_isEmpty_of_json readOther
  have whole : readContent document = contentOf value := by
    rw [readContent, read]
    rfl
  have otherWhole : readContent variant = contentOf other := by
    rw [readContent, readOther]
    rfl
  rw [← whole] at fits
  rw [← whole, ← otherWhole] at agrees
  cases decoded : readContent document <;> cases otherDecoded : readContent variant <;>
    rw [decoded, otherDecoded] at agrees <;> rw [decoded] at fits
  case error.error issues otherIssues =>
    exact ⟨_, _, _, logs_load_invalid sink primary source? present decoded,
      logs_load_invalid sink primary source? otherPresent otherDecoded,
      .inr ⟨fits.not.mp nofun, ⟨rfl, rfl⟩, ⟨rfl, rfl⟩⟩⟩
  case error.ok | ok.error => cases agrees
  case ok.ok content otherContent =>
    have once : (content.entries.map Prod.fst).Nodup := by
      obtain ⟨_, _, _, _, _, _, are⟩ :=
        (contentIs_of_contentOf clear.textual (whole.symm.trans decoded)).entries
      exact are.once
    exact ⟨_, _, _, logs_load_valid sink primary source? present decoded,
      logs_load_valid sink primary source? otherPresent otherDecoded,
      .inl ⟨fits.mp ⟨content, rfl⟩, taken_of_readContent decoded primary,
        taken_of_readContent otherDecoded primary,
        alike_ofContent primary once agrees.1 agrees.2⟩⟩

/-- The same document under the documented names, in another order and with one more member. -/
def documentedText : String :=
  "\x7b\"entries\":\x7b\"0\":\x7b\"pathIndex\":0,\"kind\":null,\"range\":" ++
    "\x7b\"end\":\x7b\"column\":4,\"line\":3\x7d," ++
    "\"start\":\x7b\"column\":2,\"line\":1\x7d\x7d\x7d\x7d,\"paths\":[\"a\"]\x7d"

def documentedPosition (line column : Int) : Value :=
  .record [("column", .int column), ("line", .int line)]

def documentedValue : Value :=
  .record [("entries", .record [("0", .record [("pathIndex", .int 0), ("kind", .null),
    ("range", .record [("end", documentedPosition 3 4), ("start", documentedPosition 1 2)])])]),
    ("paths", .arr [.text "a"])]

theorem json_documentedText : (Payload.text documentedText).json = .ok documentedValue :=
  Result.toOption_eq_some_iff.mp (by decide +kernel)

theorem variant_position (line column : Int) :
    positionForm.Variant (emittedPosition line column) (documentedPosition line column) :=
  ⟨Members.renamed_of_mem "line" "line" (by decide) (by decide) (.head _) (.tail _ (.head _)) rfl,
    Members.renamed_of_mem "col" "column" (by decide) (by decide) (.tail _ (.head _)) (.head _)
      rfl⟩

theorem variant_documentedValue : documentForm.Variant emittedValue documentedValue := by
  refine ⟨Members.renamed_of_mem "paths" "paths" (by decide) (by decide) (.head _)
      (.tail _ (.head _)) (.cons rfl .nil),
    Members.renamed_of_mem "map" "entries" (by decide) (by decide) (.tail _ (.head _)) (.head _)
      ⟨fun _ => Iff.rfl, ?_⟩⟩
  intro member present other otherPresent _
  cases List.mem_singleton.mp present
  cases List.mem_singleton.mp otherPresent
  exact ⟨Members.renamed_of_mem "path" "pathIndex" (by decide) (by decide) (.head _) (.head _) rfl,
    Members.renamed_of_mem "range" "range" (by decide) (by decide) (.tail _ (.head _))
      (.tail _ (.tail _ (.head _)))
      ⟨Members.renamed_of_mem "start" "start" (by decide) (by decide) (.head _)
          (.tail _ (.head _)) (variant_position 1 2),
        Members.renamed_of_mem "end" "end" (by decide) (by decide) (.tail _ (.head _)) (.head _)
          (variant_position 3 4)⟩⟩

/-- Both names of each member lead to the same table. -/
theorem load_variants_documented :
    ∃ table otherTable headings,
      Logs (load (some (.text emittedText)) .journal 0 none) (.ok table) headings ∧
        Logs (load (some (.text documentedText)) .journal 0 none) (.ok otherTable) headings ∧
        Taken (.text emittedText) 0 table headings ∧
        Taken (.text documentedText) 0 otherTable headings ∧ table.Alike otherTable := by
  obtain ⟨table, otherTable, headings, logs, otherLogs, outcome⟩ :=
    load_variants json_emittedText json_documentedText (by decide +kernel) (by decide +kernel)
      variant_documentedValue .journal 0 none
  have fits : documentForm.Fits emittedValue := by decide +kernel
  obtain ⟨-, taken, otherTaken, alike⟩ := outcome.resolve_right fun refused => refused.1 fits
  exact ⟨table, otherTable, headings, logs, otherLogs, taken, otherTaken, alike⟩

end LineMap.SymbolTable
