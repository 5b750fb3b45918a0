import LineMap.Proofs.Listing.CarryForward
import LineMap.Proofs.Listing.FinalPart
import LineMap.Proofs.Listing.PrimarySource
import LineMap.Proofs.Listing.SectionLines
import LineMap.Proofs.Text.Breaks

/-!
# Listings that are read again

The display lines of a listing, joined by line feeds, are a listing of the same kind.  Reading it
gives the same display lines: what is kept once is kept again.
-/

set_option autoImplicit false

namespace LineMap

open LineMap.Text

def joined (lines : List OutputLine) : String :=
  "\n".intercalate (lines.map OutputLine.text)

theorem toList_joined {lines : List OutputLine} {cells : List (List Char)}
    (texts : lines.map OutputLine.text = cells.map String.ofList) :
    (joined lines).toList = ['\n'].intercalate cells := by
  simp [joined, texts, String.toList_intercalate, Function.comp_def]

theorem texts_unsourced (texts : List String) :
    (unsourced texts).map OutputLine.text = texts := by
  simp [unsourced, Function.comp_def]

namespace Listing

theorem joined_eq_of_all {text : String} (noReturn : '\r' ∉ text.toList)
    {lines : List OutputLine}
    (texts : lines.map OutputLine.text = (lineCells text.toList).map String.ofList) :
    joined lines = text := by
  rw [← String.toList_inj, toList_joined texts, intercalate_lineCells_of_notMem noReturn]

theorem Annotated.parse_joined {text : String} (noReturn : '\r' ∉ text.toList)
    {lines : List OutputLine} (success : Annotated.parse text = .ok lines) :
    Annotated.parse (joined lines) = .ok lines := by
  obtain ⟨items, classified, rfl⟩ := Result.map_eq_ok_iff.mp success
  rw [joined_eq_of_all noReturn (Annotated.follow_texts _ none items classified), success]

theorem Disassembly.texts_mapLines (text : String) (table : SymbolTable) :
    (Disassembly.mapLines text table).map OutputLine.text =
      ((lineCells text.toList).filter fun line => !isBlankLine line).map String.ofList := by
  simp [Disassembly.mapLines, Disassembly.mapLine, Function.comp_def]

theorem Disassembly.mapLines_joined {text : String} (noReturn : '\r' ∉ text.toList)
    (table : SymbolTable) :
    Disassembly.mapLines (joined (Disassembly.mapLines text table)) table =
      Disassembly.mapLines text table := by
  rw [Disassembly.mapLines, toList_joined (texts_mapLines text table), filter_lineCells_intercalate,
    Disassembly.mapLines]
  · intro line member
    simpa using (List.mem_filter.mp member).2
  · intro line member
    exact breakFree_of_mem_lineCells noReturn line (List.mem_filter.mp member).1

theorem IrDump.finalLines_joined {text : String} (noReturn : '\r' ∉ text.toList) (marker : String)
    (kinds : List String) :
    IrDump.finalLines marker kinds (joined (IrDump.finalLines marker kinds text)) =
      IrDump.finalLines marker kinds text := by
  cases found : IrDump.finalCells marker kinds text.toList with
  | none =>
      have whole : joined (IrDump.finalLines marker kinds text) = text := by
        apply joined_eq_of_all noReturn
        rw [IrDump.finalLines, texts_unsourced, found, Option.getD_none]
      rw [whole]
  | some block =>
      have blockNoReturn : '\r' ∉ block := fun member =>
        noReturn ((IrDump.finalCells_isInfix found).subset member)
      have unit : (joined (IrDump.finalLines marker kinds text)).toList = block := by
        rw [IrDump.finalLines, toList_joined (texts_unsourced _), found, Option.getD_some,
          intercalate_lineCells_of_notMem blockNoReturn]
      rw [IrDump.finalLines, unit, IrDump.getD_finalCells_finalCells found, IrDump.finalLines,
        found, Option.getD_some]

theorem AsmSection.extract?_joined {text startMarker endMarker : String}
    {bounds : AsmSection.Bounds} {line : List Char} (noReturn : '\r' ∉ text.toList)
    (found : AsmSection.bounds? (lineCells text.toList) startMarker endMarker = some bounds)
    (start : (lineCells text.toList)[bounds.start]? = some line)
    (shown : isBlankLine line = false) (lineOpen : AsmSection.holds endMarker line = false) :
    ∃ lines, AsmSection.extract? startMarker endMarker true text = some lines ∧
      AsmSection.extract? startMarker endMarker true (joined lines) = some lines := by
  obtain ⟨before, first, inside, after, whole, rfl, starts, -, insideOpen⟩ :=
    AsmSection.bounds?_eq_some found
  obtain rfl : first = line := by simpa [whole] using start
  let kept := inside.filter fun other => !isBlankLine other
  have keptCons : (first :: inside).filter (fun other => !isBlankLine other) = first :: kept :=
    List.filter_cons_of_pos (by rw [shown, Bool.not_false])
  have extracted : AsmSection.extract? startMarker endMarker true text =
      some (unsourced ((first :: kept).map String.ofList)) := by
    simp only [AsmSection.extract?, found, Option.map_some, if_true]
    rw [whole, AsmSection.between_append, keptCons]
  have breakFree : ∀ other ∈ first :: kept, BreakFree other := by
    have part : first :: inside <:+: lineCells text.toList := ⟨before, after, by simp [whole]⟩
    intro other member
    rw [← keptCons, List.mem_filter] at member
    exact breakFree_of_mem_lineCells noReturn other (part.subset member.1)
  refine ⟨_, extracted, ?_⟩
  apply AsmSection.extract?_eq_all _ starts lineOpen
  · intro other member
    exact insideOpen other (List.mem_filter.mp member).1
  · intro other member
    rw [← keptCons, List.mem_filter] at member
    simpa using member.2
  · rw [toList_joined (texts_unsourced _),
      lineCells_intercalate (List.cons_ne_nil first kept) breakFree]

/-- What a view keeps of a text, joined by line feeds, it keeps entirely, with the same locations.
For a section of assembly this needs its start line to be kept, and not to be taken for an end. -/
theorem extraction_idempotent (text : String) (noReturn : '\r' ∉ text.toList) :
    (∀ lines, Annotated.parse text = .ok lines → Annotated.parse (joined lines) = .ok lines) ∧
      (∀ table, Disassembly.mapLines (joined (Disassembly.mapLines text table)) table =
        Disassembly.mapLines text table) ∧
      (∀ marker kinds, IrDump.finalLines marker kinds
          (joined (IrDump.finalLines marker kinds text)) =
        IrDump.finalLines marker kinds text) ∧
      ∀ startMarker endMarker bounds line,
        AsmSection.bounds? (lineCells text.toList) startMarker endMarker = some bounds →
        (lineCells text.toList)[bounds.start]? = some line →
        isBlankLine line = false → AsmSection.holds endMarker line = false →
        ∃ lines, AsmSection.extract? startMarker endMarker true text = some lines ∧
          AsmSection.extract? startMarker endMarker true (joined lines) = some lines := by
  refine ⟨?_, ?_, ?_, ?_⟩
  · intro lines success
    exact Annotated.parse_joined noReturn success
  · intro table
    exact Disassembly.mapLines_joined noReturn table
  · intro marker kinds
    exact IrDump.finalLines_joined noReturn marker kinds
  · intro startMarker endMarker bounds line found start shown lineOpen
    exact AsmSection.extract?_joined noReturn found start shown lineOpen

/-- A transcript with a blank line in its section and an end marker behind it. -/
theorem extraction_idempotent_transcript :
    '\r' ∉ "a\n.program:\n\nmove\nFinished\nb".toList ∧
      Annotated.parse "a\n.program:\n\nmove\nFinished\nb" =
        .ok (unsourced ["a", ".program:", "", "move", "Finished", "b"]) ∧
      Annotated.parse (joined (unsourced ["a", ".program:", "", "move", "Finished", "b"])) =
        .ok (unsourced ["a", ".program:", "", "move", "Finished", "b"]) ∧
      ∃ lines,
        AsmSection.extract? ".program:" "Finished" true "a\n.program:\n\nmove\nFinished\nb" =
          some lines ∧
        AsmSection.extract? ".program:" "Finished" true (joined lines) = some lines := by
  have noReturn : '\r' ∉ "a\n.program:\n\nmove\nFinished\nb".toList := by decide
  have parsed : Annotated.parse "a\n.program:\n\nmove\nFinished\nb" =
      .ok (unsourced ["a", ".program:", "", "move", "Finished", "b"]) :=
    Result.toOption_eq_some_iff.mp (by decide)
  obtain ⟨listing, -, -, transcript⟩ := extraction_idempotent _ noReturn
  have found := transcript ".program:" "Finished" ⟨1, 4⟩ ".program:".toList (by decide) (by decide)
    (by decide) (by decide)
  exact ⟨noReturn, parsed, listing _ parsed, found⟩

end Listing

end LineMap
