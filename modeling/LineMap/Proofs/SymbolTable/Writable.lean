import LineMap.Outcome.Text
import LineMap.Proofs.SymbolTable.Content
import LineMap.Proofs.SymbolTable.Loading

/-!
# Tables whose places can be written

The integers in a document have no more digits than can be written, and no reading of a number gives
more than the document holds.  So every place that a loaded table gives can be written.
-/

set_option autoImplicit false

namespace LineMap

open LineMap.Diagnostics
open LineMap.Files
open LineMap.Json
open LineMap.Number
open LineMap.Validation

/-- A value in which all strings are texts and all integers can be written. -/
abbrev Json.Value.IsShort (value : Value) : Prop :=
  value.MadeOf Str.IsText fun n => Number.isWritable n = true

theorem Validation.isWritable_of_integer {value : Value} (short : value.IsShort) {n : Int}
    (read : integer value = .ok n) : isWritable n = true := by
  cases short with
  | int fits =>
      cases read
      exact fits
  | bool b =>
      cases read
      cases b <;> rfl
  | float x =>
      simp only [integer] at read
      split at read
      · split at read
        · split at read
          next word =>
            cases read
            obtain ⟨-, bounds⟩ := Option.filter_eq_some_iff.mp word
            have bound : wordBound = 9223372036854775808 := rfl
            rw [Bool.and_eq_true, decide_eq_true_eq, decide_eq_true_eq, bound] at bounds
            have small : n.natAbs < 10 ^ 19 := by omega
            exact isWritable_of_lt small (by decide)
          next => cases read
        · cases read
      · cases read
  | str isText =>
      simp only [integer] at read
      split at read
      · cases read
      · split at read
        next parsed =>
          cases read
          exact isWritable_of_parseInteger parsed
        all_goals cases read
  | null | arr | obj => cases read

namespace SymbolTable

def PositionWritable (position : Position) : Prop :=
  isWritable position.line = true ∧ isWritable position.column = true

/-- A table in which the first position of every entry can be written. -/
def IsWritable (table : SymbolTable) : Prop :=
  ∀ pair ∈ table.entries, PositionWritable pair.2.first

theorem isWritable_empty (primary : Int) : (empty primary).IsWritable :=
  List.forall_mem_nil _

theorem isWritable_of_resolve? {table : SymbolTable} (writable : table.IsWritable) {index : String}
    {place : SourceLocation} (resolved : table.resolve? index = some place) :
    place.numbers.all isWritable = true := by
  unfold resolve? at resolved
  split at resolved
  · cases resolved
  next entry found =>
    split at resolved
    · obtain ⟨path, -, rfl⟩ := Option.map_eq_some_iff.mp resolved
      obtain ⟨front, rest, whole, -⟩ := List.lookup_eq_some_iff.mp found
      obtain ⟨line, column⟩ := writable (index, entry) (by simp [whole])
      simp [SourceLocation.numbers, line, column]
    · cases resolved

theorem Holds.part {value : Value} {names : List String} {Is : Value → Prop}
    (holds : value.Holds names Is) (short : value.IsShort) :
    ∃ part : Value, part.IsShort ∧ Is part := by
  obtain ⟨members, part, -, -, shortPart, is⟩ :=
    holds.imp short fun part shortPart is => And.intro shortPart is
  exact ⟨part, shortPart, is⟩

theorem PositionIs.writable {value : Value} {position : Position}
    (positionIs : PositionIs value position) (short : value.IsShort) :
    PositionWritable position := by
  obtain ⟨line, shortLine, readLine⟩ := Holds.part positionIs.line short
  obtain ⟨column, shortColumn, readColumn⟩ := Holds.part positionIs.column short
  exact ⟨isWritable_of_integer shortLine readLine, isWritable_of_integer shortColumn readColumn⟩

theorem EntryIs.writable {value : Value} {entry : SymbolEntry} (entryIs : EntryIs value entry)
    (short : value.IsShort) : PositionWritable entry.first := by
  obtain ⟨range, shortRange, rangeIs⟩ := Holds.part entryIs.range short
  obtain ⟨first, shortFirst, positionIs⟩ := Holds.part rangeIs.first shortRange
  exact positionIs.writable shortFirst

theorem isWritable_ofContent {document : Payload} {content : Content}
    (read : readContent document = .ok content) (primary : Int) :
    (ofContent content primary).IsWritable := by
  obtain ⟨value, json, decoded⟩ := Result.bind_eq_ok_iff.mp read
  have short : value.IsShort := Payload.madeOf_of_json json
  have contentIs := contentIs_of_contentOf (Payload.textual_of_json json) decoded
  obtain ⟨part, shortPart, members, rfl, entriesAre⟩ := Holds.part contentIs.entries short
  intro pair member
  obtain ⟨entry, last, entryIs⟩ := entriesAre.decoded pair member
  cases shortPart with
  | obj _ parts => exact entryIs.writable (parts _ (Members.mem_of_last? last))

section

variable {sink : Sink} {primary : Int} {table : SymbolTable} {before after : Journal}

theorem isWritable_of_load {document? : Option Payload} {source? : Option Path}
    (loaded : (load document? sink primary source?).run before = (.ok table, after)) :
    table.IsWritable := by
  cases present : document?.filter fun document => !document.isEmpty with
  | none =>
      cases (logs_load_absent sink primary source? present).eq_of_run loaded
      exact isWritable_empty primary
  | some document =>
      cases read : readContent document with
      | error issues =>
          cases (logs_load_invalid sink primary source? present read).eq_of_run loaded
          exact isWritable_empty primary
      | ok content =>
          cases (logs_load_valid sink primary source? present read).eq_of_run loaded
          exact isWritable_ofContent read primary

/-- Whatever stands at a path, the table that is loaded from it can be written. -/
theorem isWritable_of_loadFile {files : FileSystem} {path : Path}
    (loaded : (loadFile files path sink primary).run before = (.ok table, after)) :
    table.IsWritable := by
  obtain ⟨bytes, middle, -, loaded⟩ := run_bind_eq_ok loaded
  cases bytes with
  | ok bytes => exact isWritable_of_load loaded
  | error error =>
      obtain ⟨_, _, -, given⟩ := run_bind_eq_ok loaded
      obtain ⟨rfl, -⟩ := run_pure_eq_ok given
      exact isWritable_empty primary

end

end SymbolTable

end LineMap
