import LineMap.Outcome.Text
import LineMap.Proofs.Text.Digits
import LineMap.Proofs.Text.Lines

/-!
# The gutter

A gutter names a file and then the numbers that are known, each behind a colon.  A numeral holds
neither a colon nor a space.  So among the places in one file that have a line, the gutter tells
which place it is, also with spaces behind it.
-/

set_option autoImplicit false

namespace LineMap

open LineMap.Text

/-! ## Numerals -/

def isNumeral (c : Char) : Bool :=
  c.isDigit || c = '-'

theorem isNumeral_of_mem_repr (number : Nat) : ∀ c ∈ number.repr.toList, isNumeral c = true := by
  intro c member
  rw [Nat.toList_repr] at member
  rw [isNumeral, isDigit_of_mem_decimal c member, Bool.true_or]

theorem isNumeral_of_mem_toString (number : Int) :
    ∀ c ∈ (toString number).toList, isNumeral c = true := by
  intro c member
  rw [Int.toString_eq_repr, Int.repr_eq_if] at member
  split at member
  · exact isNumeral_of_mem_repr _ c member
  · rw [String.toList_append] at member
    rcases List.mem_append.mp member with sign | digit
    · obtain rfl := List.mem_singleton.mp sign
      rfl
    · exact isNumeral_of_mem_repr _ c digit

theorem eq_of_repr_eq {number other : Nat} (same : number.repr = other.repr) :
    number = other := by
  have digits := congrArg String.toList same
  rw [Nat.toList_repr, Nat.toList_repr] at digits
  rw [← numberOf_decimal number, digits, numberOf_decimal]

theorem repr_ne_sign (number other : Nat) : number.repr ≠ "-" ++ other.repr := by
  intro same
  have sign : '-' ∈ number.repr.toList := by
    rw [same, String.toList_append]
    exact List.mem_cons_self
  rw [Nat.toList_repr] at sign
  exact absurd (isDigit_of_mem_decimal '-' sign) (by decide)

theorem eq_of_toString_eq {number other : Int} (same : toString number = toString other) :
    number = other := by
  rw [Int.toString_eq_repr, Int.toString_eq_repr, Int.repr_eq_if, Int.repr_eq_if] at same
  split at same <;> split at same
  · have sizes := eq_of_repr_eq same
    omega
  · exact absurd same (repr_ne_sign _ _)
  · exact absurd same.symm (repr_ne_sign _ _)
  · have sizes := eq_of_repr_eq ((String.append_right_inj "-").mp same)
    omega

theorem numeral_append_inj {number other : Int} {rest others : List Char}
    (restEnds : rest.head?.all fun c => !isNumeral c)
    (othersEnds : others.head?.all fun c => !isNumeral c)
    (same : (toString number).toList ++ rest = (toString other).toList ++ others) :
    number = other ∧ rest = others := by
  obtain ⟨taken, dropped⟩ := run_append (isNumeral_of_mem_toString number) rest restEnds
  obtain ⟨otherTaken, otherDropped⟩ :=
    run_append (isNumeral_of_mem_toString other) others othersEnds
  rw [same] at taken dropped
  have numerals := String.toList_inj.mp (taken.symm.trans otherTaken)
  exact ⟨eq_of_toString_eq numerals, dropped.symm.trans otherDropped⟩

/-! ## Numbers behind colons -/

def coloned (numbers : List Int) : List Char :=
  numbers.flatMap fun number => ':' :: (toString number).toList

theorem coloned_cons (number : Int) (numbers : List Int) :
    coloned (number :: numbers) = ':' :: ((toString number).toList ++ coloned numbers) :=
  List.flatMap_cons

theorem coloned_ends (numbers : List Int) (spaces : Nat) :
    (coloned numbers ++ List.replicate spaces ' ').head?.all fun c => !isNumeral c := by
  cases numbers with
  | nil => cases spaces <;> rfl
  | cons number others => rfl

theorem eq_nil_of_coloned_append {numbers : List Int} {rest : List Char} {spaces : Nat}
    (same : coloned numbers ++ rest = List.replicate spaces ' ') : numbers = [] := by
  cases numbers with
  | nil => rfl
  | cons number others =>
      have colon : ':' ∈ List.replicate spaces ' ' := by
        rw [← same, coloned_cons]
        exact List.mem_cons_self
      exact absurd (List.eq_of_mem_replicate colon) (by decide)

theorem coloned_append_inj {numbers others : List Int} {spaces otherSpaces : Nat}
    (same : coloned numbers ++ List.replicate spaces ' ' =
      coloned others ++ List.replicate otherSpaces ' ') : numbers = others := by
  induction numbers generalizing others with
  | nil => exact (eq_nil_of_coloned_append same.symm).symm
  | cons number rest inductionHypothesis =>
      cases others with
      | nil => exact eq_nil_of_coloned_append same
      | cons other otherRest =>
          rw [coloned_cons, coloned_cons, List.cons_append, List.cons_append, List.append_assoc,
            List.append_assoc, List.cons.injEq] at same
          -- Behind the first numerals stands a colon or a space, so they end at the same place.
          obtain ⟨rfl, later⟩ :=
            numeral_append_inj (coloned_ends _ _) (coloned_ends _ _) same.2
          rw [inductionHypothesis later]

theorem intercalate_colon (first : List Char) (numbers : List Int) :
    [':'].intercalate (first :: numbers.map fun number => (toString number).toList) =
      first ++ coloned numbers := by
  rw [intercalate_cons, List.flatMap_map]
  rfl

/-! ## Places -/

namespace SourceLocation

def shownFile : Option String → String
  | some name => if name.isEmpty then "<source>" else name
  | none => "<source>"

theorem gutter_eq (place : SourceLocation) :
    place.gutter = String.intercalate ":"
      (shownFile place.file? :: place.numbers.map fun number => toString number) := rfl

theorem toList_gutter (place : SourceLocation) :
    place.gutter.toList = (shownFile place.file?).toList ++ coloned place.numbers := by
  rw [gutter_eq, String.toList_intercalate, List.map_cons, List.map_map]
  exact intercalate_colon _ _

theorem colon_mem_gutter {place : SourceLocation} (numbered : place.line?.isSome) :
    ':' ∈ place.gutter.toList := by
  obtain ⟨line, known⟩ := Option.isSome_iff_exists.mp numbered
  rw [toList_gutter, numbers, known, Option.toList_some, List.singleton_append, coloned_cons]
  exact List.mem_append_right _ List.mem_cons_self

theorem feed_notMem_gutter {place : SourceLocation}
    (unbroken : ∀ file ∈ place.file?, '\n' ∉ file.toList) : '\n' ∉ place.gutter.toList := by
  rw [gutter_eq, String.toList_intercalate]
  refine notMem_intercalate (by decide) (List.forall_mem_map.mpr (List.forall_mem_cons.mpr ⟨?_, ?_⟩))
  · cases known : place.file? with
    | none => decide
    | some name =>
        rw [shownFile]
        split
        · decide
        · exact unbroken name known
  · intro piece member feed
    obtain ⟨number, -, rfl⟩ := List.mem_map.mp member
    exact absurd (isNumeral_of_mem_toString number '\n' feed) (by decide)

end SourceLocation

/-! ## Padding -/

theorem toList_padded (width : Nat) (text : String) :
    (padded width text).toList = text.toList ++ List.replicate (width - text.length) ' ' := by
  rw [padded, String.toList_append, String.toList_ofList]

theorem length_padded {width : Nat} {text : String} (fits : text.length ≤ width) :
    (padded width text).length = width := by
  rw [padded, String.length_append, String.length_ofList, List.length_replicate]
  omega

/-- Places in one file that have a line are told apart by their gutters at any width. -/
theorem SourceLocation.eq_of_padded_gutter {place other : SourceLocation} {width : Nat}
    (file : place.file? = other.file?) (numbered : place.line?.isSome)
    (otherNumbered : other.line?.isSome)
    (same : padded width place.gutter = padded width other.gutter) : place = other := by
  have cells := congrArg String.toList same
  rw [toList_padded, toList_padded, toList_gutter, toList_gutter, file, List.append_assoc,
    List.append_assoc, List.append_cancel_left_eq] at cells
  have numbers : place.numbers = other.numbers := coloned_append_inj cells
  obtain ⟨file?, line?, column?⟩ := place
  obtain ⟨otherFile?, otherLine?, otherColumn?⟩ := other
  obtain ⟨line, rfl⟩ := Option.isSome_iff_exists.mp numbered
  obtain ⟨otherLine, rfl⟩ := Option.isSome_iff_exists.mp otherNumbered
  obtain ⟨rfl, columns⟩ := List.cons.inj numbers
  have column : column? = otherColumn? := by
    simpa using congrArg List.head? columns
  rw [mk.injEq]
  exact ⟨file, rfl, column⟩

/-! ## Lines -/

namespace OutputLine

/-- A line whose place, if it has one, is in the file and has a line. -/
def IsPlacedIn (file? : Option String) (line : OutputLine) : Prop :=
  ∀ place, line.source? = some place → place.file? = file? ∧ place.line?.isSome

/-- A line whose place, if it has one, is in a file with a name of one line. -/
def NamesOneLine (line : OutputLine) : Prop :=
  ∀ place ∈ line.source?, ∀ file ∈ place.file?, '\n' ∉ file.toList

theorem gutter_of_source {line : OutputLine} {place : SourceLocation}
    (source : line.source? = some place) : line.gutter = place.gutter := by
  rw [gutter, source]

theorem gutter_of_no_source {line : OutputLine} (none : line.source? = none) :
    line.gutter = "" := by
  rw [gutter, none]

theorem source?_eq_none_iff {line : OutputLine} {file? : Option String}
    (placed : line.IsPlacedIn file?) : line.source? = none ↔ ':' ∉ line.gutter.toList := by
  cases source : line.source? with
  | none => simp [gutter_of_no_source source]
  | some place =>
      rw [gutter_of_source source]
      exact iff_of_false nofun
        (not_not_intro (SourceLocation.colon_mem_gutter (placed place source).2))

theorem feed_notMem_gutter {line : OutputLine} (names : line.NamesOneLine) :
    '\n' ∉ line.gutter.toList := by
  cases source : line.source? with
  | none => simp [gutter_of_no_source source]
  | some place =>
      rw [gutter_of_source source]
      exact SourceLocation.feed_notMem_gutter (names place source)

end OutputLine

/-! ## Rows -/

/-- Cells before lines that show the places of the lines and no more. -/
structure Aligned (lines : List OutputLine) (width : Nat) (cell : OutputLine → String) :
    Prop where
  even : ∀ line ∈ lines, (cell line).length = width
  recovers : ∀ line ∈ lines,
    String.ofList ((cell line ++ " | " ++ line.text).toList.drop (width + 3)) = line.text
  blank : ∀ line ∈ lines, (∀ c ∈ (cell line).toList, c = ' ') ↔ line.source? = none
  faithful : ∀ line ∈ lines, ∀ other ∈ lines, line.source? ≠ none → other.source? ≠ none →
    (cell line = cell other ↔ line.source? = other.source?)

/-- Lines as rows: as they are if none has a place, and else behind cells that are aligned. -/
inductive Rendered (lines : List OutputLine) : List String → Prop where
  | bare (unplaced : ∀ line ∈ lines, line.source? = none) :
      Rendered lines (lines.map OutputLine.text)
  | behind (width : Nat) (cell : OutputLine → String)
      (placed : ∃ line ∈ lines, line.source? ≠ none) (aligned : Aligned lines width cell) :
      Rendered lines (lines.map fun line => cell line ++ " | " ++ line.text)

theorem drop_cell {width : Nat} {cell : String} (long : cell.length = width) (text : String) :
    String.ofList ((cell ++ " | " ++ text).toList.drop (width + 3)) = text := by
  have front : (cell ++ " | ").toList.length = width + 3 := by
    rw [String.length_toList, String.length_append, long]
    rfl
  rw [String.toList_append, List.drop_left' front, String.ofList_toList]

theorem blank_padded_iff {line : OutputLine} {file? : Option String}
    (placed : line.IsPlacedIn file?) (width : Nat) :
    (∀ c ∈ (padded width line.gutter).toList, c = ' ') ↔ line.source? = none := by
  rw [toList_padded, line.source?_eq_none_iff placed]
  constructor
  · intro blank colon
    exact absurd (blank ':' (List.mem_append_left _ colon)) (by decide)
  · intro noColon c member
    have none := (line.source?_eq_none_iff placed).mpr noColon
    rw [OutputLine.gutter_of_no_source none] at member
    exact List.eq_of_mem_replicate member

theorem aligned_padded {lines : List OutputLine} {file? : Option String} {width : Nat}
    (placed : ∀ line ∈ lines, line.IsPlacedIn file?)
    (fits : ∀ line ∈ lines, line.gutter.length ≤ width) :
    Aligned lines width fun line => padded width line.gutter where
  even line member := length_padded (fits line member)
  recovers line member := drop_cell (length_padded (fits line member)) line.text
  blank line member := blank_padded_iff (placed line member) width
  faithful line member other otherMember some otherSome := by
    obtain ⟨place, source⟩ := Option.ne_none_iff_exists'.mp some
    obtain ⟨otherPlace, otherSource⟩ := Option.ne_none_iff_exists'.mp otherSome
    obtain ⟨file, numbered⟩ := placed line member place source
    obtain ⟨otherFile, otherNumbered⟩ := placed other otherMember otherPlace otherSource
    rw [OutputLine.gutter_of_source source, OutputLine.gutter_of_source otherSource, source,
      otherSource, Option.some_inj]
    constructor
    · exact SourceLocation.eq_of_padded_gutter (file.trans otherFile.symm) numbered otherNumbered
    · exact fun same => same ▸ rfl

namespace Outcome

theorem exists_gutterWidth? {outcome : Outcome} (nonempty : outcome.lines ≠ []) :
    ∃ width, outcome.gutterWidth? = some width ∧
      (∃ line ∈ outcome.lines, line.gutter.length = width) ∧
      ∀ line ∈ outcome.lines, line.gutter.length ≤ width := by
  cases found : outcome.gutterWidth? with
  | none =>
      rw [gutterWidth?, List.max?_eq_none_iff, List.map_eq_nil_iff] at found
      exact absurd found nonempty
  | some width =>
      rw [gutterWidth?, List.max?_eq_some_iff] at found
      obtain ⟨attained, bounds⟩ := found
      exact ⟨width, rfl, List.mem_map.mp attained, List.forall_mem_map.mp bounds⟩

theorem text_of_row {outcome : Outcome} (writable : outcome.lines.all OutputLine.isWritable = true)
    {width : Nat} (found : outcome.gutterWidth? = some width)
    {shown : OutputLine → String} (rows : ∀ line, row width line = shown line ++ "\n") :
    outcome.text = .ok (String.join ((outcome.lines.map shown).map (· ++ "\n"))) := by
  have same : row width = fun line => shown line ++ "\n" := funext rows
  rw [text, if_pos writable, found]
  dsimp only
  rw [List.map_map, same]
  rfl

/-- The text of an outcome with lines that are all placed in one file and of one line each: it has a
row for each line. -/
theorem exists_rendered {outcome : Outcome} (nonempty : outcome.lines ≠ [])
    (writable : outcome.lines.all OutputLine.isWritable = true)
    {file? : Option String} (placed : ∀ line ∈ outcome.lines, line.IsPlacedIn file?)
    (texts : ∀ line ∈ outcome.lines, '\n' ∉ line.text.toList)
    (names : ∀ line ∈ outcome.lines, line.NamesOneLine) :
    ∃ rows, outcome.text = .ok (String.join (rows.map (· ++ "\n"))) ∧
      (∀ row ∈ rows, '\n' ∉ row.toList) ∧ Rendered outcome.lines rows := by
  obtain ⟨width, found, ⟨widest, listed, attained⟩, fits⟩ := exists_gutterWidth? nonempty
  by_cases narrow : width = 0
  -- A place has a colon in its gutter, so where all gutters are empty no line has a place.
  · have unplaced : ∀ line ∈ outcome.lines, line.source? = none := by
      intro line member
      have fit := fits line member
      rw [narrow, Nat.le_zero, String.length_eq_zero_iff] at fit
      rw [line.source?_eq_none_iff (placed line member), fit]
      decide
    have rows : ∀ line, row width line = line.text ++ "\n" := fun line => by
      rw [row, if_pos narrow]
    exact ⟨_, text_of_row writable found rows, List.forall_mem_map.mpr texts, .bare unplaced⟩
  · have some : widest.source? ≠ none := by
      intro none
      rw [OutputLine.gutter_of_no_source none] at attained
      exact narrow attained.symm
    have rows : ∀ line, row width line = padded width line.gutter ++ " | " ++ line.text ++ "\n" :=
      fun line => by rw [row, if_neg narrow]
    have unbroken : ∀ line ∈ outcome.lines,
        '\n' ∉ (padded width line.gutter ++ " | " ++ line.text).toList := by
      intro line member
      have gutterFree := OutputLine.feed_notMem_gutter (names line member)
      simp [toList_padded, gutterFree, texts line member]
    exact ⟨_, text_of_row writable found rows, List.forall_mem_map.mpr unbroken,
      .behind width _ ⟨widest, listed, some⟩ (aligned_padded placed fits)⟩

end Outcome

end LineMap
