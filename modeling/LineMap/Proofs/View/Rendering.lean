import LineMap.Proofs.Listing.PrimarySource
import LineMap.Proofs.Outcome.Gutter
import LineMap.Proofs.View.Writable

/-!
# Outcomes as rows of text

The places that one view gives lie all in one file: a disassembly shows the primary source only, an
annotated listing names no file, and the other views give no places.  So the gutter of an outcome
tells the places of its lines apart, although it does not show all that a place may hold.
-/

set_option autoImplicit false

namespace LineMap

open LineMap.Diagnostics
open LineMap.Listing

/-! ## What the views give -/

theorem isPlacedIn_unsourced (texts : List String) (file? : Option String) :
    ∀ line ∈ unsourced texts, line.IsPlacedIn file? := by
  intro line member place source
  obtain ⟨text, -, rfl⟩ := List.mem_map.mp member
  cases source

namespace Listing

theorem Annotated.isPlacedIn_of_mem_follow (items : List Classified) (known : Option Int) :
    ∀ line ∈ follow known items, line.IsPlacedIn none := by
  induction items generalizing known with
  | nil => exact List.forall_mem_nil _
  | cons item others inductionHypothesis =>
      refine List.forall_mem_cons.mpr ⟨fun place source => ?_, inductionHypothesis _⟩
      obtain ⟨number, -, rfl⟩ := (locate_eq_some_iff _ place).mp source
      exact ⟨rfl, rfl⟩

theorem Disassembly.isPlacedIn_of_mem_mapLines (text : String) (table : SymbolTable) :
    ∀ line ∈ mapLines text table, line.IsPlacedIn (table.path? table.primary) := by
  intro line member place source
  obtain ⟨index, start, path, -, -, listed, rfl⟩ :=
    (mapLines_source?_eq_some_iff member).mp source
  exact ⟨listed.symm, rfl⟩

end Listing

theorem Extracted.exists_isPlacedIn {config : Config} {symbols? : Option SymbolTable}
    {text : String} {lines? : Option (List OutputLine)}
    (extracted : Extracted config symbols? text lines?) :
    ∃ file?, ∀ line ∈ lines?.getD [], line.IsPlacedIn file? := by
  cases extracted with
  | annotated parsed =>
      obtain ⟨items, -, rfl⟩ := Result.map_eq_ok_iff.mp parsed
      exact ⟨none, Annotated.isPlacedIn_of_mem_follow items none⟩
  | bytecode => exact ⟨_, Disassembly.isPlacedIn_of_mem_mapLines text _⟩
  | ir => exact ⟨none, isPlacedIn_unsourced _ none⟩
  | asm =>
      cases found : AsmSection.extract? config.startMarker config.endMarker config.includeStart
          text with
      | none => exact ⟨none, List.forall_mem_nil _⟩
      | some lines =>
          obtain ⟨bounds, -, rfl⟩ := Option.map_eq_some_iff.mp found
          exact ⟨none, isPlacedIn_unsourced _ none⟩

/-! ## What a run shows -/

namespace Registry

/-- The text of an outcome has a row for each of its lines, in order.  If no line has a place, the
rows are the lines as they are.  Otherwise every row begins with a cell of one width: it is blank
exactly if the line has no place, the cells of two lines with places are the same exactly if the
places are, and behind the cell and a bar stands the line as it is.  Only a number with too many
digits keeps an outcome from having a text, and there is none where the table was loaded. -/
theorem runView_rendered (name : String) (tool : ToolRun) (context : Context)
    (before after : Journal) (outcome : Outcome)
    (returned : (builtin.runView name tool context).run before = (.ok outcome, after))
    (standIn : '\n' ∉ context.config.failureText.toList)
    (names : ∀ line ∈ outcome.lines, line.NamesOneLine) :
    ((∀ line ∈ outcome.lines, line.isWritable = true) →
        ∃ rows, outcome.text = .ok (String.join (rows.map (· ++ "\n"))) ∧
          (∀ row ∈ rows, '\n' ∉ row.toList) ∧ Rendered outcome.lines rows) ∧
      ((∃ line ∈ outcome.lines, line.isWritable = false) →
        outcome.text = .error .unwritable) ∧
      ((∀ table ∈ context.symbols?, table.IsWritable) →
        ∀ line ∈ outcome.lines, line.isWritable = true) := by
  refine ⟨fun writable => ?_, fun long => ?_, isWritable_of_runView returned⟩
  · have all := List.all_eq_true.mpr writable
    have nonempty := lines_ne_nil_of_runView returned
    obtain shown | ⟨lines?, extracted, shown, -⟩ := lines_of_runView returned
    · have placed : ∀ line ∈ outcome.lines, line.IsPlacedIn none := by
        rw [shown]
        exact isPlacedIn_unsourced [_] none
      have texts : ∀ line ∈ outcome.lines, line.IsOneLine := by
        rw [shown]
        exact List.forall_mem_singleton.mpr standIn
      exact Outcome.exists_rendered nonempty all placed texts names
    · obtain ⟨file?, placed⟩ := extracted.exists_isPlacedIn
      rw [← shown] at placed
      have texts : ∀ line ∈ outcome.lines, line.IsOneLine := by
        rw [shown]
        exact extracted.isOneLine
      exact Outcome.exists_rendered nonempty all placed texts names
  · rw [Outcome.text, if_neg]
    simpa using long

def sameDigits : SymbolTable :=
  ⟨["main.sw"], [("0", ⟨0, ⟨1, 12⟩, ⟨1, 19⟩⟩), ("10", ⟨0, ⟨11, 2⟩, ⟨11, 4⟩⟩)], 0⟩

theorem runView_rendered_sameDigits :
    ∃ outcome after,
      (builtin.runView "bytecode"
          { exitCode? := some 0, stdout := "0 0 MOVE\n10 20 ADD\n11 22 RET" }
          ⟨.default, some sameDigits, .journal⟩).run Journal.empty = (.ok outcome, after) ∧
      '\n' ∉ Config.default.failureText.toList ∧
      outcome.lines =
        [⟨"0 0 MOVE", some ⟨some "main.sw", some 1, some 12⟩⟩,
          ⟨"10 20 ADD", some ⟨some "main.sw", some 11, some 2⟩⟩, ⟨"11 22 RET", none⟩] ∧
      (∀ line ∈ outcome.lines, line.NamesOneLine) ∧
      (∀ line ∈ outcome.lines, line.isWritable = true) ∧
      ∃ rows, outcome.text = .ok (String.join (rows.map (· ++ "\n"))) ∧
        (∀ row ∈ rows, '\n' ∉ row.toList) ∧ Rendered outcome.lines rows := by
  obtain ⟨after, returned⟩ : ∃ after,
      (builtin.runView "bytecode"
          { exitCode? := some 0, stdout := "0 0 MOVE\n10 20 ADD\n11 22 RET" }
          ⟨.default, some sameDigits, .journal⟩).run Journal.empty =
        (.ok ⟨[⟨"0 0 MOVE", some ⟨some "main.sw", some 1, some 12⟩⟩,
          ⟨"10 20 ADD", some ⟨some "main.sw", some 11, some 2⟩⟩, ⟨"11 22 RET", none⟩], true⟩,
          after) := ⟨_, rfl⟩
  have standIn : '\n' ∉ Config.default.failureText.toList := by decide
  have names : ∀ line ∈ [(⟨"0 0 MOVE", some ⟨some "main.sw", some 1, some 12⟩⟩ : OutputLine),
      ⟨"10 20 ADD", some ⟨some "main.sw", some 11, some 2⟩⟩, ⟨"11 22 RET", none⟩],
      line.NamesOneLine := by
    simp [OutputLine.NamesOneLine]
  have tables : ∀ table ∈ some sameDigits, table.IsWritable := by
    rintro table ⟨⟩
    simp only [SymbolTable.IsWritable, SymbolTable.PositionWritable, sameDigits]
    decide
  obtain ⟨rendered, -, writable⟩ := runView_rendered _ _ _ _ _ _ returned standIn names
  exact ⟨_, after, returned, standIn, rfl, names, writable tables, rendered (writable tables)⟩

end Registry

end LineMap
