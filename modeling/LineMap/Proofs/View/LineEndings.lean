import LineMap.Proofs.Config.Validity
import LineMap.Proofs.Listing.DumpBreaks
import LineMap.Proofs.View.Traces

/-!
# Views and line endings

Whether the lines of a tool's output end in a line feed or in a carriage return and a line feed, the
views that come with the tool show the same and report the same.  Three of them cut the output into
lines at once; the one for dumps searches it first.
-/

set_option autoImplicit false

namespace LineMap

open LineMap.Diagnostics
open LineMap.Listing
open LineMap.Text

def unified (text : String) : String :=
  String.ofList (unifyBreaks text.toList)

@[simp] theorem toList_unified (text : String) :
    (unified text).toList = unifyBreaks text.toList :=
  String.toList_ofList

/-! ## The listings -/

section

variable {text : String} (single : ¬['\r', '\r', '\n'] <:+: text.toList)

include single

theorem Listing.Annotated.parse_unified : Annotated.parse (unified text) = Annotated.parse text := by
  simp only [Annotated.parse, toList_unified, lineCells_unifyBreaks single]

theorem Listing.Disassembly.mapLines_unified (table : SymbolTable) :
    Disassembly.mapLines (unified text) table = Disassembly.mapLines text table := by
  simp only [Disassembly.mapLines, toList_unified, lineCells_unifyBreaks single]

theorem Listing.AsmSection.extract?_unified (startMarker endMarker : String)
    (includeStart : Bool) :
    AsmSection.extract? startMarker endMarker includeStart (unified text) =
      AsmSection.extract? startMarker endMarker includeStart text := by
  simp only [AsmSection.extract?, toList_unified, lineCells_unifyBreaks single]

theorem Listing.IrDump.finalLines_unified {marker : String} {kinds : List String}
    (nonempty : marker ≠ "") (breakFree : BreakFree marker.toList) (someKind : kinds ≠ [])
    (identifiers : ∀ kind ∈ kinds, isIdentifier kind.toList = true) :
    IrDump.finalLines marker kinds (unified text) = IrDump.finalLines marker kinds text := by
  have found := IrDump.finalCells_unifyBreaks nonempty breakFree someKind identifiers text.toList
  rw [IrDump.finalLines, IrDump.finalLines, toList_unified, found]
  cases block : IrDump.finalCells marker kinds text.toList with
  | none => rw [Option.map_none, Option.getD_none, Option.getD_none, lineCells_unifyBreaks single]
  | some cells =>
      have inside := IrDump.finalCells_isInfix block
      have cellsSingle : ¬['\r', '\r', '\n'] <:+: cells :=
        fun occurs => single (occurs.trans inside)
      rw [Option.map_some, Option.getD_some, Option.getD_some, lineCells_unifyBreaks cellsSingle]

end

theorem Listing.IrDump.hasMarker_unified {marker : String} (nonempty : marker ≠ "")
    (breakFree : BreakFree marker.toList) (text : String) :
    IrDump.hasMarker marker (unified text) = IrDump.hasMarker marker text := by
  have markerCells : marker.toList ≠ [] := mt String.toList_eq_nil_iff.mp nonempty
  rw [IrDump.hasMarker, IrDump.hasMarker, toList_unified,
    breakFree.occursIn_unifyBreaks markerCells]

/-! ## The views -/

theorem View.extract_unified {view : View}
    (listed : view ∈ [View.annotated, View.bytecode, View.ir, View.asm]) (context : Context)
    (valid : context.config.Valid) (breakFree : BreakFree context.config.finalMarker.toList)
    {text : String} (single : ¬['\r', '\r', '\n'] <:+: text.toList) :
    view.extract context (unified text) = view.extract context text := by
  simp only [List.mem_cons, List.not_mem_nil, or_false] at listed
  rcases listed with rfl | rfl | rfl | rfl
  · simp only [View.annotated, Annotated.parse_unified single]
  · simp only [View.bytecode, Disassembly.mapLines_unified single]
  · obtain ⟨someKind, identifiers⟩ : Leaf.Admits .unitKinds context.config.unitKinds :=
      valid .unitKinds
    have nonempty : context.config.finalMarker ≠ "" := valid .finalMarker
    simp only [View.ir, IrDump.hasMarker_unified nonempty breakFree,
      IrDump.finalLines_unified single nonempty breakFree someKind identifiers]
  · simp only [View.asm, AsmSection.extract?_unified single]

/-- The kind of line endings in a tool's output changes neither the outcome or fault of a view nor
the records that it leaves. -/
theorem runView_unified (name : String) (tool : ToolRun) (context : Context) (before : Journal)
    (valid : context.config.Valid) (breakFree : BreakFree context.config.finalMarker.toList)
    (single : ¬['\r', '\r', '\n'] <:+: tool.stdout.toList) :
    (Registry.builtin.runView name { tool with stdout := unified tool.stdout } context).run
        before =
      (Registry.builtin.runView name tool context).run before := by
  rw [Registry.runView, Registry.runView]
  cases found : Registry.builtin.lookup? name with
  | none => rfl
  | some view =>
      have listed := Registry.mem_of_lookup_builtin found
      have same := View.extract_unified listed
        { context with sink := Sink.scoped [.text view.name] context.sink } valid breakFree single
      have time : ToolRun.timeReport { tool with stdout := unified tool.stdout } =
          tool.timeReport := rfl
      have failed : ToolRun.failed { tool with stdout := unified tool.stdout } = tool.failed := rfl
      have reports : ToolRun.failureReports? { tool with stdout := unified tool.stdout } =
          tool.failureReports? := rfl
      simp only [assemble, same, time, failed, reports]

/-- A dump in which the keyword, its brace and the closing brace stand on lines of their own. -/
theorem runView_unified_dump :
    Config.default.Valid ∧ BreakFree Config.default.finalMarker.toList ∧
      (¬['\r', '\r', '\n'] <:+: "// IR: Final\r\nscript\r\n\x7b\r\n\x7d\r\n".toList) ∧
      (Registry.builtin.runView "ir"
          { exitCode? := some 0,
            stdout := unified "// IR: Final\r\nscript\r\n\x7b\r\n\x7d\r\n" }
          ⟨.default, none, .journal⟩).run Journal.empty =
        (Registry.builtin.runView "ir"
          { exitCode? := some 0, stdout := "// IR: Final\r\nscript\r\n\x7b\r\n\x7d\r\n" }
          ⟨.default, none, .journal⟩).run Journal.empty := by
  have breakFree : BreakFree Config.default.finalMarker.toList := ⟨by decide, by decide⟩
  have single : ¬['\r', '\r', '\n'] <:+: "// IR: Final\r\nscript\r\n\x7b\r\n\x7d\r\n".toList := by
    decide +kernel
  have same := runView_unified "ir"
    { exitCode? := some 0, stdout := "// IR: Final\r\nscript\r\n\x7b\r\n\x7d\r\n" }
    ⟨.default, none, .journal⟩ Journal.empty Config.valid_default breakFree single
  exact ⟨Config.valid_default, breakFree, single, same⟩

end LineMap
