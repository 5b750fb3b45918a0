import LineMap.Listing.Disassembly
import LineMap.Proofs.Text.Digits
import LineMap.Proofs.Text.Lines
import LineMap.Proofs.Text.Pattern

/-!
# The index at the beginning of an instruction

A line has an index if it can be divided into blanks, the index, blanks, another number, blanks and
a rest.  The parts can be chosen in several ways, but digits and blanks have no character in common,
so the index is the same in all of them.  A matcher that backtracks over the lengths of the parts
therefore finds what one scan finds, which takes each part as long as possible.
-/

set_option autoImplicit false

namespace LineMap.Text

/-- A run of a class that is not empty. -/
structure IsRun (inClass : Char → Bool) (run : List Char) : Prop where
  nonempty : run ≠ []
  inside : ∀ c ∈ run, inClass c = true

/-- A run of one class begins with no character of a class that is apart from it. -/
theorem IsRun.bounds {inClass other : Char → Bool} {run : List Char} (isRun : IsRun inClass run)
    (apart : ∀ c, inClass c = true → other c = false) (rest : List Char) :
    (run ++ rest).head?.all fun c => !other c := by
  obtain ⟨c, others, rfl⟩ := List.exists_cons_of_ne_nil isRun.nonempty
  simp [apart c (isRun.inside c List.mem_cons_self)]

theorem IsRun.noBlank {run : List Char} (isRun : IsRun isDigit run) (rest : List Char) :
    (run ++ rest).head?.all fun c => !isBlank c :=
  isRun.bounds (fun _ => isBlank_eq_false_of_isDigit) rest

theorem IsRun.noDigit {run : List Char} (isRun : IsRun isBlank run) (rest : List Char) :
    (run ++ rest).head?.all fun c => !isDigit c :=
  isRun.bounds (fun _ => isDigit_eq_false_of_isBlank) rest

/-- The runs of a class that begin a text and are not empty, the longest first. -/
def someRuns (inClass : Char → Bool) (text : List Char) : List Way :=
  (runs inClass text).reverse.filter fun way => way.1 ≠ []

theorem mem_someRuns_iff (inClass : Char → Bool) (text : List Char) (way : Way) :
    way ∈ someRuns inClass text ↔ IsRun inClass way.1 ∧ way.1 ++ way.2 = text := by
  rw [someRuns, List.mem_filter, List.mem_reverse, mem_runs_iff, decide_eq_true_eq]
  exact ⟨fun found => ⟨⟨found.2, found.1.1⟩, found.1.2⟩,
    fun found => ⟨⟨found.1.inside, found.2⟩, found.1.nonempty⟩⟩

end LineMap.Text

namespace LineMap.Listing.Disassembly

open LineMap.Text

/-- A division of a line into the index of an instruction, the number behind it, the blanks around
them, and the rest. -/
structure Division (line index : List Char) where
  before : List Char
  gap : List Char
  number : List Char
  behind : List Char
  rest : List Char
  blankBefore : ∀ c ∈ before, isBlank c = true
  isIndex : IsRun isDigit index
  isGap : IsRun isBlank gap
  isNumber : IsRun isDigit number
  isBehind : IsRun isBlank behind
  whole : before ++ (index ++ (gap ++ (number ++ (behind ++ rest)))) = line

def Division.withRest {line index : List Char} (division : Division line index)
    (rest : List Char) : List Char :=
  division.before ++ (index ++ (division.gap ++ (division.number ++ (division.behind ++ rest))))

/-! ## One scan -/

section

variable {inClass : Char → Bool} {text rest run : List Char}

theorem afterRun?_append (isRun : IsRun inClass run) (rest : List Char)
    (ends : rest.head?.all fun c => !inClass c) : afterRun? inClass (run ++ rest) = some rest := by
  obtain ⟨taken, dropped⟩ := run_append isRun.inside rest ends
  rw [afterRun?, taken, dropped, if_neg (by simpa using isRun.nonempty)]

theorem exists_afterRun? (isRun : IsRun inClass run) (rest : List Char) :
    ∃ left, afterRun? inClass (run ++ rest) = some left := by
  obtain ⟨c, others, rfl⟩ := List.exists_cons_of_ne_nil isRun.nonempty
  have inside := isRun.inside c List.mem_cons_self
  rw [afterRun?, List.cons_append, List.takeWhile_cons_of_pos inside, if_neg (by simp)]
  exact ⟨_, rfl⟩

theorem of_afterRun? (found : afterRun? inClass text = some rest) :
    IsRun inClass (text.takeWhile inClass) ∧ text.takeWhile inClass ++ rest = text := by
  rw [afterRun?, Option.ite_none_left_eq_some] at found
  obtain ⟨nonempty, same⟩ := found
  obtain rfl := Option.some.inj same
  exact ⟨⟨by simpa using nonempty, List.all_eq_true.mp List.all_takeWhile⟩,
    List.takeWhile_append_dropWhile⟩

end

variable {line index : List Char}

theorem Division.dropWhile_isBlank (division : Division line index) :
    line.dropWhile isBlank =
      index ++ (division.gap ++ (division.number ++ (division.behind ++ division.rest))) := by
  have begins := division.isIndex.noBlank
    (division.gap ++ (division.number ++ (division.behind ++ division.rest)))
  exact (congrArg _ division.whole.symm).trans (run_append division.blankBefore _ begins).2

/-- The index is the longest run of digits behind the blanks that begin the line. -/
theorem Division.index_eq (division : Division line index) :
    index = (line.dropWhile isBlank).takeWhile isDigit := by
  have ends := division.isGap.noDigit (division.number ++ (division.behind ++ division.rest))
  rw [division.dropWhile_isBlank, (run_append division.isIndex.inside _ ends).1]

theorem indexCells?_of_division (division : Division line index) :
    indexCells? line = some index := by
  obtain ⟨left, last⟩ := exists_afterRun? division.isBehind division.rest
  rw [indexCells?, ← division.index_eq, division.dropWhile_isBlank,
    afterRun?_append division.isIndex _ (division.isGap.noDigit _), Option.bind_some,
    afterRun?_append division.isGap _ (division.isNumber.noBlank _), Option.bind_some,
    afterRun?_append division.isNumber _ (division.isBehind.noDigit _), Option.bind_some,
    last, Option.map_some]

theorem nonempty_division (found : indexCells? line = some index) :
    Nonempty (Division line index) := by
  simp only [indexCells?, Option.bind_eq_some_iff, Option.map_eq_some_iff] at found
  obtain ⟨afterIndex, indexFound, afterGap, gapFound, afterNumber, numberFound, rest, behindFound,
    rfl⟩ := found
  obtain ⟨isIndex, indexCovers⟩ := of_afterRun? indexFound
  obtain ⟨isGap, gapCovers⟩ := of_afterRun? gapFound
  obtain ⟨isNumber, numberCovers⟩ := of_afterRun? numberFound
  obtain ⟨isBehind, behindCovers⟩ := of_afterRun? behindFound
  exact ⟨{
    before := line.takeWhile isBlank
    gap := afterIndex.takeWhile isBlank
    number := afterGap.takeWhile isDigit
    behind := afterNumber.takeWhile isBlank
    rest := rest
    blankBefore := List.all_eq_true.mp List.all_takeWhile
    isIndex := isIndex
    isGap := isGap
    isNumber := isNumber
    isBehind := isBehind
    whole := by
      rw [behindCovers, numberCovers, gapCovers, indexCovers, List.takeWhile_append_dropWhile] }⟩

theorem indexCells?_eq_some_iff : indexCells? line = some index ↔ Nonempty (Division line index) :=
  ⟨nonempty_division, fun ⟨division⟩ => indexCells?_of_division division⟩

/-! ## Backtracking -/

/-- The indices of a line in the order in which backtracking comes to them, if each part is tried
with its longest run first and a part is shortened when nothing fits behind it. -/
def captures (line : List Char) : List (List Char) :=
  (runs isBlank line).reverse.flatMap fun before =>
  (someRuns isDigit before.2).flatMap fun index =>
  (someRuns isBlank index.2).flatMap fun gap =>
  (someRuns isDigit gap.2).flatMap fun number =>
  (someRuns isBlank number.2).map fun _ => index.1

theorem mem_captures_iff : index ∈ captures line ↔ Nonempty (Division line index) := by
  simp only [captures, List.mem_flatMap, List.mem_map, List.mem_reverse, mem_runs_iff,
    mem_someRuns_iff]
  constructor
  · rintro ⟨⟨before, _⟩, ⟨blankBefore, rfl⟩, ⟨_, _⟩, ⟨isIndex, rfl⟩, ⟨gap, _⟩, ⟨isGap, rfl⟩,
      ⟨number, _⟩, ⟨isNumber, rfl⟩, ⟨behind, rest⟩, ⟨isBehind, rfl⟩, rfl⟩
    exact ⟨⟨before, gap, number, behind, rest, blankBefore, isIndex, isGap, isNumber, isBehind,
      rfl⟩⟩
  · rintro ⟨before, gap, number, behind, rest, blankBefore, isIndex, isGap, isNumber, isBehind, rfl⟩
    exact ⟨(before, _), ⟨blankBefore, rfl⟩, (index, _), ⟨isIndex, rfl⟩, (gap, _), ⟨isGap, rfl⟩,
      (number, _), ⟨isNumber, rfl⟩, (behind, rest), ⟨isBehind, rfl⟩, rfl⟩

theorem indexCells?_eq_head?_captures (line : List Char) :
    indexCells? line = (captures line).head? := by
  cases first : (captures line).head? with
  | some index => exact indexCells?_eq_some_iff.mpr (mem_captures_iff.mp (List.mem_of_head? first))
  | none =>
      rw [List.head?_eq_none_iff] at first
      rw [Option.eq_none_iff_forall_ne_some]
      intro index found
      have member := mem_captures_iff.mpr (indexCells?_eq_some_iff.mp found)
      rw [first] at member
      cases member

/-! ## The index of a line -/

/-- A line has an index exactly if it can be divided into one, another number, the blanks around
them and a rest.  The index is found character by character as it stands there, in every division it
is the longest run of digits behind the first blanks, and another rest leaves it as it is.
Backtracking over all divisions finds the same index first, and no other one later. -/
theorem index?_unambiguous (line : String) :
    (∀ index : String, index? line = some index ↔
      Nonempty (Division line.toList index.toList)) ∧
    (index? line = none ↔ ∀ index, IsEmpty (Division line.toList index)) ∧
    (∀ index (division : Division line.toList index),
      index = (line.toList.dropWhile isBlank).takeWhile isDigit ∧
        ∀ rest, index? (String.ofList (division.withRest rest)) = some (String.ofList index)) ∧
    index? line = (captures line.toList).head?.map String.ofList ∧
    ∀ index ∈ captures line.toList, index? line = some (String.ofList index) := by
  have found : ∀ {cells index}, Nonempty (Division cells index) →
      index? (String.ofList cells) = some (String.ofList index) := by
    intro cells index divides
    rw [index?, String.toList_ofList, indexCells?_eq_some_iff.mpr divides, Option.map_some]
  have here : ∀ {index}, Nonempty (Division line.toList index) →
      index? line = some (String.ofList index) := by
    intro index divides
    rw [← found divides, String.ofList_toList]
  refine ⟨fun index => ⟨?_, ?_⟩, ?_, fun index division => ⟨division.index_eq, fun rest => ?_⟩, ?_,
    fun index member => here (mem_captures_iff.mp member)⟩
  · intro success
    obtain ⟨cells, read, rfl⟩ := Option.map_eq_some_iff.mp success
    rw [String.toList_ofList]
    exact nonempty_division read
  · intro divides
    rw [here divides, String.ofList_toList]
  · rw [index?, Option.map_eq_none_iff, Option.eq_none_iff_forall_ne_some]
    simp only [ne_eq, indexCells?_eq_some_iff, not_nonempty_iff]
  · exact found ⟨{ division with rest := rest, whole := rfl }⟩
  · rw [index?, indexCells?_eq_head?_captures]

/-- An index of Arabic digits with a leading zero. -/
theorem index?_unambiguous_arabic : index? "\t\u0660\u0667 12 nop" = some "\u0660\u0667" :=
  ((index?_unambiguous "\t\u0660\u0667 12 nop").1 "\u0660\u0667").mpr ⟨{
    before := ['\t']
    gap := [' ']
    number := ['1', '2']
    behind := [' ']
    rest := ['n', 'o', 'p']
    blankBefore := List.all_eq_true.mp (by decide)
    isIndex := ⟨by decide, List.all_eq_true.mp (by decide)⟩
    isGap := ⟨by decide, List.all_eq_true.mp (by decide)⟩
    isNumber := ⟨by decide, List.all_eq_true.mp (by decide)⟩
    isBehind := ⟨by decide, List.all_eq_true.mp (by decide)⟩
    whole := by decide }⟩

end LineMap.Listing.Disassembly
