import LineMap.Listing.Disassembly

/-!
# The primary source of a disassembly

A symbol table may know several files, but of a disassembly only the instructions that come from the
primary source are given a location.  What the table says of the other files cannot be seen.
-/

set_option autoImplicit false

namespace LineMap

/-! ## The table -/

namespace SymbolTable

theorem path?_eq_some_iff {table : SymbolTable} {index : Int} {path : String} :
    table.path? index = some path ↔ 0 ≤ index ∧ table.paths[index.toNat]? = some path := by
  rw [path?]
  split <;> simp [*]

/-- The table has an entry under the index, in the primary source and with this beginning. -/
def StartsAt (table : SymbolTable) (index : String) (start : Position) : Prop :=
  ∃ entry, table.entry? index = some entry ∧ entry.pathIndex = table.primary ∧ entry.first = start

theorem resolve?_eq_some_iff {table : SymbolTable} {index : String} {place : SourceLocation} :
    table.resolve? index = some place ↔
      ∃ start path, table.StartsAt index start ∧ table.path? table.primary = some path ∧
        place = ⟨some path, some start.line, some start.column⟩ := by
  constructor
  · intro resolved
    rw [resolve?] at resolved
    cases found : table.entry? index with
    | none => simp [found] at resolved
    | some entry =>
        simp only [found] at resolved
        split at resolved
        case isTrue primary =>
          rw [primary] at resolved
          obtain ⟨path, listed, same⟩ := Option.map_eq_some_iff.mp resolved
          exact ⟨entry.first, path, ⟨entry, found, primary, rfl⟩, listed, same.symm⟩
        case isFalse => cases resolved
  · rintro ⟨start, path, ⟨entry, found, primary, rfl⟩, listed, rfl⟩
    simp [resolve?, found, primary, listed]

/-- Two tables name the same primary source, or both none, and the instructions from there begin at
the same positions.  The index of the primary source is free, and so are all other files, the
entries for them, and where any range ends. -/
structure AgreesOnPrimary (left right : SymbolTable) : Prop where
  path : left.path? left.primary = right.path? right.primary
  startsAt : ∀ index start, left.StartsAt index start ↔ right.StartsAt index start

theorem AgreesOnPrimary.resolve?_eq {left right : SymbolTable} (agree : AgreesOnPrimary left right)
    (index : String) : left.resolve? index = right.resolve? index := by
  refine Option.ext fun place => ?_
  rw [resolve?_eq_some_iff, resolve?_eq_some_iff]
  simp only [agree.path, agree.startsAt]

end SymbolTable

/-! ## The listing -/

namespace Listing.Disassembly

open LineMap.Text

theorem mapLines_texts (text : String) (table : SymbolTable) :
    (mapLines text table).map OutputLine.text =
      (splitLines text).filter fun line => !isBlankLine line.toList := by
  simp [mapLines, splitLines, mapLine, List.filter_map, Function.comp_def]

theorem mapLines_source? {text : String} {table : SymbolTable} {line : OutputLine}
    (member : line ∈ mapLines text table) :
    line.source? = (index? line.text).bind table.resolve? := by
  obtain ⟨cells, -, rfl⟩ := List.mem_map.mp member
  have written : index? (mapLine table cells).text = (indexCells? cells).map String.ofList := by
    simp [mapLine, index?]
  rw [written, Option.bind_map]
  rfl

theorem mapLines_source?_eq_some_iff {text : String} {table : SymbolTable} {line : OutputLine}
    (member : line ∈ mapLines text table) {place : SourceLocation} :
    line.source? = some place ↔
      ∃ index start path, index? line.text = some index ∧ table.StartsAt index start ∧
        table.path? table.primary = some path ∧
        place = ⟨some path, some start.line, some start.column⟩ := by
  rw [mapLines_source? member, Option.bind_eq_some_iff]
  simp only [SymbolTable.resolve?_eq_some_iff, exists_and_left]

theorem mapLines_eq_of_agreesOnPrimary {left right : SymbolTable}
    (agree : left.AgreesOnPrimary right) (text : String) :
    mapLines text left = mapLines text right := by
  have same : mapLine left = mapLine right := by
    funext cells
    simp only [mapLine, agree.resolve?_eq]
  rw [mapLines, mapLines, same]

/-- A disassembly keeps the lines that are not blank.  A line has a location exactly if the entry
for its instruction lies in the primary source and that source is listed, so all locations name one
file; and tables that agree on the primary source give the same lines. -/
theorem mapLines_primary (text : String) (table : SymbolTable) :
    (mapLines text table).map OutputLine.text =
        (splitLines text).filter (fun line => !isBlankLine line.toList) ∧
      (∀ line ∈ mapLines text table, ∀ place, line.source? = some place ↔
        ∃ index entry path, index? line.text = some index ∧ table.entry? index = some entry ∧
          entry.pathIndex = table.primary ∧ 0 ≤ table.primary ∧
          table.paths[table.primary.toNat]? = some path ∧
          place = ⟨some path, some entry.first.line, some entry.first.column⟩) ∧
      (∀ line ∈ mapLines text table, ∀ place, line.source? = some place →
        place.file?.isSome ∧ place.file? = table.path? table.primary) ∧
      ∀ other, table.AgreesOnPrimary other → mapLines text table = mapLines text other := by
  refine ⟨mapLines_texts text table, ?_, ?_, ?_⟩
  · intro line member place
    rw [mapLines_source?_eq_some_iff member]
    constructor
    · rintro ⟨index, start, path, written, ⟨entry, found, primary, rfl⟩, listed, same⟩
      obtain ⟨natural, here⟩ := SymbolTable.path?_eq_some_iff.mp listed
      exact ⟨index, entry, path, written, found, primary, natural, here, same⟩
    · rintro ⟨index, entry, path, written, found, primary, natural, here, same⟩
      have listed := SymbolTable.path?_eq_some_iff.mpr ⟨natural, here⟩
      exact ⟨index, entry.first, path, written, ⟨entry, found, primary, rfl⟩, listed, same⟩
  · intro line member place mapped
    obtain ⟨index, start, path, -, -, listed, rfl⟩ :=
      (mapLines_source?_eq_some_iff member).mp mapped
    exact ⟨rfl, listed.symm⟩
  · intro other agree
    exact mapLines_eq_of_agreesOnPrimary agree text

def withLibrary : SymbolTable :=
  ⟨["main.sw", "lib.sw"], [("0", ⟨0, ⟨1, 2⟩, ⟨1, 9⟩⟩), ("1", ⟨1, ⟨7, 1⟩, ⟨7, 4⟩⟩)], 0⟩

def withoutLibrary : SymbolTable :=
  ⟨["main.sw"], [("0", ⟨0, ⟨1, 2⟩, ⟨3, 4⟩⟩)], 0⟩

theorem mapLines_primary_withLibrary :
    withLibrary.AgreesOnPrimary withoutLibrary ∧
      ⟨"0 0 MOVE", some ⟨some "main.sw", some 1, some 2⟩⟩ ∈
        mapLines "0 0 MOVE\n\n1 2 RET" withLibrary ∧
      withLibrary.path? withLibrary.primary = some "main.sw" ∧
      mapLines "0 0 MOVE\n\n1 2 RET" withLibrary =
        mapLines "0 0 MOVE\n\n1 2 RET" withoutLibrary := by
  have agree : withLibrary.AgreesOnPrimary withoutLibrary := by
    refine ⟨rfl, ?_⟩
    intro index start
    simp only [SymbolTable.StartsAt, SymbolTable.entry?, withLibrary, withoutLibrary,
      List.lookup_cons, List.lookup_nil]
    cases index == "0" <;> cases index == "1" <;> simp
  have member : ⟨"0 0 MOVE", some ⟨some "main.sw", some 1, some 2⟩⟩ ∈
      mapLines "0 0 MOVE\n\n1 2 RET" withLibrary := by decide
  obtain ⟨-, -, oneFile, sameLines⟩ := mapLines_primary "0 0 MOVE\n\n1 2 RET" withLibrary
  exact ⟨agree, member, (oneFile _ member _ rfl).2.symm, sameLines withoutLibrary agree⟩

end Listing.Disassembly

end LineMap
