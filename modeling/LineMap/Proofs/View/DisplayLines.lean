import LineMap.Proofs.Config.Reachable
import LineMap.Proofs.Listing.CarryForward
import LineMap.Proofs.Listing.Rejoined
import LineMap.Proofs.View.Degradation

/-!
# Display lines of one line

All views cut the output at its line feeds, so no line that a view gives holds one.  The failure
text is under no such condition: it is checked to hold something, and may well be of several lines.
So an outcome has a line with a line feed exactly if such a failure text stands for the output.
-/

set_option autoImplicit false

namespace LineMap

open LineMap.Diagnostics
open LineMap.Listing
open LineMap.Text

def OutputLine.IsOneLine (line : OutputLine) : Prop :=
  '\n' ∉ line.text.toList

theorem isOneLine_of_texts {lines : List OutputLine} {cells : List (List Char)}
    (texts : lines.map OutputLine.text = cells.map String.ofList)
    (fits : ∀ cell ∈ cells, '\n' ∉ cell) : ∀ line ∈ lines, line.IsOneLine := by
  intro line member
  have written : line.text ∈ cells.map String.ofList := by
    rw [← texts]
    exact List.mem_map.mpr ⟨line, member, rfl⟩
  obtain ⟨cell, listed, same⟩ := List.mem_map.mp written
  rw [OutputLine.IsOneLine, ← same, String.toList_ofList]
  exact fits cell listed

/-! ## What the extractions give -/

namespace Listing

theorem Annotated.isOneLine_of_parse {text : String} {lines : List OutputLine}
    (success : Annotated.parse text = .ok lines) : ∀ line ∈ lines, line.IsOneLine := by
  obtain ⟨items, classified, rfl⟩ := Result.map_eq_ok_iff.mp success
  exact isOneLine_of_texts (Annotated.follow_texts _ none items classified)
    (feed_notMem_lineCells text.toList)

theorem Disassembly.isOneLine_of_mem_mapLines (text : String) (table : SymbolTable) :
    ∀ line ∈ Disassembly.mapLines text table, line.IsOneLine :=
  isOneLine_of_texts (Disassembly.texts_mapLines text table) fun cell kept =>
    feed_notMem_lineCells text.toList cell (List.mem_filter.mp kept).1

/-- The final unit may hold line feeds; its lines do not. -/
theorem IrDump.isOneLine_of_mem_finalLines (marker : String) (kinds : List String)
    (text : String) : ∀ line ∈ IrDump.finalLines marker kinds text, line.IsOneLine :=
  isOneLine_of_texts (texts_unsourced _) (feed_notMem_lineCells _)

theorem AsmSection.mem_of_mem_between {α : Type} {first stop : Nat} {lines : List α} {line : α}
    (inside : line ∈ AsmSection.between first stop lines) : line ∈ lines :=
  List.mem_of_mem_take (List.mem_of_mem_drop inside)

theorem AsmSection.isOneLine_of_extract? {startMarker endMarker : String} {includeStart : Bool}
    {text : String} {lines : List OutputLine}
    (extracted : AsmSection.extract? startMarker endMarker includeStart text = some lines) :
    ∀ line ∈ lines, line.IsOneLine := by
  obtain ⟨bounds, -, rfl⟩ := Option.map_eq_some_iff.mp extracted
  refine isOneLine_of_texts (texts_unsourced _) fun cell kept => ?_
  exact feed_notMem_lineCells text.toList cell
    (AsmSection.mem_of_mem_between (List.mem_filter.mp kept).1)

end Listing

/-- What the views give that come with the tool, where they return. -/
inductive Extracted (config : Config) (symbols? : Option SymbolTable) (text : String) :
    Option (List OutputLine) → Prop where
  | annotated {lines : List OutputLine} (parsed : Annotated.parse text = .ok lines) :
      Extracted config symbols? text (some lines)
  | bytecode : Extracted config symbols? text
      (some (Disassembly.mapLines text (symbols?.getD (.empty config.primary))))
  | ir : Extracted config symbols? text
      (some (IrDump.finalLines config.finalMarker config.unitKinds text))
  | asm : Extracted config symbols? text
      (AsmSection.extract? config.startMarker config.endMarker config.includeStart text)

theorem View.extracted_of_run {view : View}
    (listed : view ∈ [View.annotated, View.bytecode, View.ir, View.asm]) {context : Context}
    {text : String} {start done : Journal} {lines? : Option (List OutputLine)}
    (extracted : (view.extract context text).run start = (.ok lines?, done)) :
    Extracted context.config context.symbols? text lines? := by
  simp only [List.mem_cons, List.not_mem_nil, or_false] at listed
  rcases listed with rfl | rfl | rfl | rfl
  · have same := ((Traced.attempt _).eq_of_run extracted).1.symm
    obtain ⟨lines, parsed, rfl⟩ := Result.map_eq_ok_iff.mp (Result.mapError_eq_ok_iff.mp same)
    exact .annotated parsed
  · simp only [View.bytecode] at extracted
    cases symbols : context.symbols? with
    | some table =>
        simp only [symbols] at extracted
        obtain ⟨rfl, -⟩ := run_pure_eq_ok extracted
        exact .bytecode
    | none =>
        simp only [symbols] at extracted
        obtain ⟨_, _, -, given⟩ := run_bind_eq_ok extracted
        obtain ⟨rfl, -⟩ := run_pure_eq_ok given
        exact .bytecode
  · simp only [View.ir] at extracted
    split at extracted
    · obtain ⟨_, _, -, given⟩ := run_bind_eq_ok extracted
      obtain ⟨rfl, -⟩ := run_pure_eq_ok given
      exact .ir
    · obtain ⟨rfl, -⟩ := run_pure_eq_ok extracted
      exact .ir
  · simp only [View.asm] at extracted
    split at extracted
    · obtain ⟨_, _, -, given⟩ := run_bind_eq_ok extracted
      obtain ⟨rfl, -⟩ := run_pure_eq_ok given
      exact .asm
    · obtain ⟨rfl, -⟩ := run_pure_eq_ok extracted
      exact .asm

theorem Extracted.isOneLine {config : Config} {symbols? : Option SymbolTable} {text : String}
    {lines? : Option (List OutputLine)} (extracted : Extracted config symbols? text lines?) :
    ∀ line ∈ lines?.getD [], line.IsOneLine := by
  cases extracted with
  | annotated parsed => exact Annotated.isOneLine_of_parse parsed
  | bytecode => exact Disassembly.isOneLine_of_mem_mapLines text _
  | ir => exact IrDump.isOneLine_of_mem_finalLines _ _ text
  | asm =>
      cases found : AsmSection.extract? config.startMarker config.endMarker config.includeStart
          text with
      | none => exact List.forall_mem_nil _
      | some lines => exact AsmSection.isOneLine_of_extract? found

/-! ## What an outcome shows -/

theorem Registry.extracted_of_watched {name : String} {tool : ToolRun} {context : Context}
    {before after : Journal} {outcome : Outcome} {uses : List Use}
    (watched : ((builtin.runWatched name tool context).run []).run before =
      (.ok (outcome, uses), after)) :
    ownLines uses = [] ∨
      ∃ lines?, Extracted context.config context.symbols? tool.stdout lines? ∧
        ownLines uses = lines?.getD [] := by
  obtain ⟨-, -, -, rfl⟩ | ⟨view, lines?, start, done, found, -, extracted, -, rfl⟩ :=
    runWatched_returned watched
  · exact .inl rfl
  · have given := View.extracted_of_run (mem_of_lookup_builtin found) extracted
    exact .inr ⟨lines?, given, ownLines_singleton tool.stdout lines?⟩

/-- The lines of an outcome are those that the view gave, or else the failure text. -/
theorem Registry.lines_of_runView {name : String} {tool : ToolRun} {context : Context}
    {before after : Journal} {outcome : Outcome}
    (returned : (builtin.runView name tool context).run before = (.ok outcome, after)) :
    outcome.lines = failureLines context.config.failureText ∨
      ∃ lines?, Extracted context.config context.symbols? tool.stdout lines? ∧
        outcome.lines = lines?.getD [] ∧ outcome.lines ≠ [] := by
  obtain ⟨uses, watched, shown, -⟩ := runView_returned returned
  by_cases nothing : ownLines uses = []
  · rw [if_pos nothing] at shown
    exact .inl shown
  · rw [if_neg nothing] at shown
    obtain none | ⟨lines?, extracted, own⟩ := extracted_of_watched watched
    · exact absurd none nothing
    · exact .inr ⟨lines?, extracted, shown.trans own, shown ▸ nothing⟩

theorem Registry.lines_ne_nil_of_runView {name : String} {tool : ToolRun} {context : Context}
    {before after : Journal} {outcome : Outcome}
    (returned : (builtin.runView name tool context).run before = (.ok outcome, after)) :
    outcome.lines ≠ [] := by
  obtain shown | ⟨lines?, -, -, nonempty⟩ := lines_of_runView returned
  · rw [shown]
    exact List.cons_ne_nil _ _
  · exact nonempty

theorem Registry.isOneLine_of_mem_ownLines {name : String} {tool : ToolRun} {context : Context}
    {before after : Journal} {outcome : Outcome} {uses : List Use}
    (watched : ((builtin.runWatched name tool context).run []).run before =
      (.ok (outcome, uses), after)) : ∀ line ∈ ownLines uses, line.IsOneLine := by
  obtain nothing | ⟨lines?, extracted, own⟩ := extracted_of_watched watched
  · rw [nothing]
    exact List.forall_mem_nil _
  · rw [own]
    exact extracted.isOneLine

/-- No line that a view gives holds a line feed.  A line of the outcome holds one exactly if the
failure text does and stands for the output. -/
theorem Registry.runView_isOneLine_iff (name : String) (tool : ToolRun) (context : Context)
    (before after : Journal) (outcome : Outcome)
    (returned : (builtin.runView name tool context).run before = (.ok outcome, after)) :
    ∃ uses, ((builtin.runWatched name tool context).run []).run before =
        (.ok (outcome, uses), after) ∧
      (∀ line ∈ ownLines uses, line.IsOneLine) ∧
      (builtin.lookup? name = none ∨ tool.failed = true → ownLines uses = []) ∧
      outcome.lines = (if ownLines uses = [] then [⟨context.config.failureText, none⟩]
        else ownLines uses) ∧
      ((∃ line ∈ outcome.lines, ¬line.IsOneLine) ↔
        ownLines uses = [] ∧ '\n' ∈ context.config.failureText.toList) := by
  obtain ⟨uses, watched, shown, unused, -⟩ := runView_returned returned
  have own := isOneLine_of_mem_ownLines watched
  refine ⟨uses, watched, own, unused, shown, ?_⟩
  rw [shown]
  by_cases nothing : ownLines uses = []
  · simp [nothing, failureLines, OutputLine.IsOneLine]
  · rw [if_neg nothing]
    refine iff_of_false ?_ fun both => nothing both.1
    rintro ⟨line, member, broken⟩
    exact broken (own line member)

/-- An assignment takes a failure text that ends in a line feed, and then the failure of a tool is
shown as such a line. -/
theorem Registry.runView_isOneLine_iff_failed :
    let config := (Config.afterCalls
      [(.assign "output.failure_text" (.ofString "failed\n") none, .journal)] .empty).1
    let context : Context := ⟨config, none, .journal⟩
    ∃ outcome after,
      (builtin.runView "annotated" { exitCode? := some 1 } context).run .empty =
        (.ok outcome, after) ∧
      ∃ line ∈ outcome.lines, ¬line.IsOneLine := by
  intro config context
  have text : config.failureText = "failed\n" := by decide +kernel
  have returned (given : Config) : ∃ after,
      (builtin.runView "annotated" { exitCode? := some 1 } ⟨given, none, .journal⟩).run .empty =
        (.ok ⟨failureLines given.failureText, false⟩, after) := ⟨_, rfl⟩
  obtain ⟨after, shown⟩ := returned config
  obtain ⟨uses, -, -, unused, -, broken⟩ := runView_isOneLine_iff _ _ context _ _ _ shown
  refine ⟨_, after, shown, broken.mpr ⟨unused (.inr rfl), ?_⟩⟩
  rw [text]
  decide

end LineMap
