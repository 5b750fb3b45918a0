import LineMap.Proofs.Number.Writable
import LineMap.Proofs.SymbolTable.Writable
import LineMap.Proofs.View.DisplayLines

/-!
# Lines whose places can be written

An annotated listing gives no number with too many digits, because its view ends in a fault before.
A disassembly gives the numbers of the symbol table, which can be written if the table was loaded.
The other views give no numbers.
-/

set_option autoImplicit false

namespace LineMap

open LineMap.Diagnostics
open LineMap.Listing
open LineMap.Number

theorem OutputLine.isWritable_iff {line : OutputLine} :
    line.isWritable = true ↔
      ∀ place, line.source? = some place → place.numbers.all Number.isWritable = true := by
  cases source : line.source? <;> simp [OutputLine.isWritable, source]

theorem isWritable_of_mem_unsourced (texts : List String) :
    ∀ line ∈ unsourced texts, line.isWritable = true := by
  intro line member
  obtain ⟨text, -, rfl⟩ := List.mem_map.mp member
  rfl

namespace Listing

theorem Annotated.isWritable_of_classify {line : List Char} {kind : LineKind} {number : Int}
    (classified : classify line = .ok (kind, some number)) : isWritable number = true := by
  unfold classify at classified
  dsimp only at classified
  split at classified
  · cases classified
  · split at classified
    · split at classified
      next short =>
        cases classified
        exact isWritable_signed_numberOf false short
      next => cases classified
    · cases classified

theorem Annotated.isWritable_of_classifyAll {lines : List (List Char)} {items : List Classified}
    (success : classifyAll lines = .ok items) :
    ∀ item ∈ items, ∀ number, item.annotated = some number → isWritable number = true := by
  induction lines generalizing items with
  | nil =>
      cases success
      exact List.forall_mem_nil _
  | cons line rest inductionHypothesis =>
      obtain ⟨kind, annotated, others, first, later, rfl⟩ := classifyAll_cons_eq_ok success
      refine List.forall_mem_cons.mpr ⟨fun number same => ?_, inductionHypothesis later⟩
      obtain rfl : annotated = some number := same
      exact isWritable_of_classify first

theorem Annotated.isWritable_of_carry {known annotated : Option Int} {kind : LineKind}
    (before : ∀ number, known = some number → isWritable number = true)
    (own : ∀ number, annotated = some number → isWritable number = true) :
    ∀ number, carry known kind annotated = some number → isWritable number = true := by
  cases kind with
  | frame => exact nofun
  | marking => exact own
  | blank => exact nofun
  | plain => exact before

theorem Annotated.isWritable_of_mem_follow {items : List Classified} {known : Option Int}
    (before : ∀ number, known = some number → isWritable number = true)
    (own : ∀ item ∈ items, ∀ number, item.annotated = some number → isWritable number = true) :
    ∀ line ∈ follow known items, line.isWritable = true := by
  induction items generalizing known with
  | nil => exact List.forall_mem_nil _
  | cons item others inductionHypothesis =>
      obtain ⟨first, later⟩ := List.forall_mem_cons.mp own
      have carried : ∀ number, carry known item.kind item.annotated = some number →
          isWritable number = true := isWritable_of_carry before first
      refine List.forall_mem_cons.mpr ⟨?_, inductionHypothesis carried later⟩
      refine OutputLine.isWritable_iff.mpr fun place source => ?_
      obtain ⟨number, found, rfl⟩ := (locate_eq_some_iff _ place).mp source
      simp [SourceLocation.numbers, carried number found]

theorem Disassembly.isWritable_of_mem_mapLines (text : String) {table : SymbolTable}
    (writable : table.IsWritable) : ∀ line ∈ mapLines text table, line.isWritable = true := by
  intro line member
  obtain ⟨cells, -, rfl⟩ := List.mem_map.mp member
  refine OutputLine.isWritable_iff.mpr fun place source => ?_
  obtain ⟨index, -, resolved⟩ := Option.bind_eq_some_iff.mp source
  exact SymbolTable.isWritable_of_resolve? writable resolved

end Listing

theorem Extracted.isWritable {config : Config} {symbols? : Option SymbolTable} {text : String}
    {lines? : Option (List OutputLine)} (extracted : Extracted config symbols? text lines?)
    (tables : ∀ table ∈ symbols?, table.IsWritable) :
    ∀ line ∈ lines?.getD [], line.isWritable = true := by
  cases extracted with
  | annotated parsed =>
      obtain ⟨items, classified, rfl⟩ := Result.map_eq_ok_iff.mp parsed
      exact Annotated.isWritable_of_mem_follow nofun (Annotated.isWritable_of_classifyAll classified)
  | bytecode =>
      refine Disassembly.isWritable_of_mem_mapLines text ?_
      cases symbols? with
      | none => exact SymbolTable.isWritable_empty _
      | some table => exact tables table rfl
  | ir => exact isWritable_of_mem_unsourced _
  | asm =>
      cases found : AsmSection.extract? config.startMarker config.endMarker config.includeStart
          text with
      | none => exact List.forall_mem_nil _
      | some lines =>
          obtain ⟨bounds, -, rfl⟩ := Option.map_eq_some_iff.mp found
          exact isWritable_of_mem_unsourced _

/-- With a table that can be written, or none, all lines of an outcome can be. -/
theorem Registry.isWritable_of_runView {name : String} {tool : ToolRun} {context : Context}
    {before after : Journal} {outcome : Outcome}
    (returned : (builtin.runView name tool context).run before = (.ok outcome, after))
    (tables : ∀ table ∈ context.symbols?, table.IsWritable) :
    ∀ line ∈ outcome.lines, line.isWritable = true := by
  obtain shown | ⟨lines?, extracted, shown, -⟩ := lines_of_runView returned
  · rw [shown]
    exact isWritable_of_mem_unsourced [_]
  · rw [shown]
    exact extracted.isWritable tables

end LineMap
