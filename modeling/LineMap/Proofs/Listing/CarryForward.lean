import LineMap.Proofs.Listing.AnnotatedLines
import LineMap.Proofs.Result

/-!
# The annotation in force

A listing is followed with one source line in hand.  What a line is given by that is the nearest
annotation at or before it, unless a frame header, another annotation or an empty line stands
between.
-/

set_option autoImplicit false

namespace LineMap.Listing.Annotated

open LineMap.Text

/-- A line behind which an earlier annotation is no longer in force. -/
def EndsCarry (line : List Char) : Prop :=
  IsFrame line ∨ (∃ number, Annotates line number) ∨ line = []

/-- No line through an index ends what was carried before. -/
def Undisturbed (lines : List (List Char)) (index : Nat) : Prop :=
  ∀ k line, k ≤ index → lines[k]? = some line → ¬EndsCarry line

/-- The annotation with a number is in force at an index: it stands there or before, and nothing
behind it through the index ends it. -/
def InForce (lines : List (List Char)) (index : Nat) (number : Int) : Prop :=
  ∃ j line, j ≤ index ∧ lines[j]? = some line ∧ Annotates line number ∧
    ∀ k other, j < k → k ≤ index → lines[k]? = some other → ¬EndsCarry other

/-! ## One line -/

/-- What is carried past a line: its own annotation, or what was carried if the line is plain. -/
theorem carry_eq_some_iff {line : List Char} {kind : LineKind} {annotated : Option Int}
    (noFeed : '\n' ∉ line) (classified : classify line = .ok (kind, annotated))
    (known : Option Int) (number : Int) :
    carry known kind annotated = some number ↔
      Annotates line number ∨ (known = some number ∧ ¬EndsCarry line) := by
  obtain ⟨digits, marking, found⟩ | ⟨actual, notMarked, isActual, noMarking, found⟩ :=
    classify_cases noFeed
  · rw [found] at classified
    split at classified
    · cases Except.ok.inj classified
      have ends : EndsCarry line := Or.inr (Or.inl ⟨_, digits, marking, rfl⟩)
      have own : Annotates line number ↔ number = Text.numberOf digits := by
        constructor
        · rintro ⟨others, otherMarking, rfl⟩
          rw [marking.unique otherMarking]
        · exact fun same => ⟨digits, marking, same⟩
      simp [carry, own, ends, eq_comm]
    · cases classified
  · rw [found] at classified
    cases Except.ok.inj classified
    have noAnnotation : ∀ other, ¬Annotates line other := by
      rintro other ⟨digits, marking, -⟩
      exact noMarking digits marking
    cases kind with
    | frame =>
        have ends : EndsCarry line := Or.inl isActual
        simp [carry, noAnnotation, ends]
    | marking => exact absurd rfl notMarked
    | blank =>
        have ends : EndsCarry line := Or.inr (Or.inr isActual)
        simp [carry, noAnnotation, ends]
    | plain =>
        obtain ⟨noFrame, -, nonempty⟩ := isActual
        simp [carry, noAnnotation, EndsCarry, nonempty, noFrame]

theorem locate_eq_some_iff (known : Option Int) (place : SourceLocation) :
    locate known = some place ↔
      ∃ number, known = some number ∧ place = ⟨none, some number, none⟩ := by
  rw [locate, Option.map_eq_some_iff]
  exact exists_congr fun number => and_congr_right fun _ => eq_comm

/-! ## All lines up to an index -/

theorem undisturbed_cons_zero (line : List Char) (lines : List (List Char)) :
    Undisturbed (line :: lines) 0 ↔ ¬EndsCarry line := by
  constructor
  · exact fun none => none 0 line (Nat.le_refl 0) rfl
  · intro plain k other bound here
    obtain rfl : k = 0 := Nat.le_zero.mp bound
    cases Option.some.inj here
    exact plain

theorem undisturbed_cons_succ (line : List Char) (lines : List (List Char)) (index : Nat) :
    Undisturbed (line :: lines) (index + 1) ↔ ¬EndsCarry line ∧ Undisturbed lines index := by
  constructor
  · intro none
    exact ⟨none 0 line (Nat.zero_le _) rfl,
      fun k other bound here => none (k + 1) other (by omega) here⟩
  · rintro ⟨plain, later⟩ k other bound here
    cases k with
    | zero =>
        cases Option.some.inj here
        exact plain
    | succ k => exact later k other (by omega) here

theorem inForce_cons_zero (line : List Char) (lines : List (List Char)) (number : Int) :
    InForce (line :: lines) 0 number ↔ Annotates line number := by
  constructor
  · rintro ⟨j, own, bound, here, annotates, -⟩
    obtain rfl : j = 0 := Nat.le_zero.mp bound
    cases Option.some.inj here
    exact annotates
  · exact fun annotates => ⟨0, line, Nat.le_refl 0, rfl, annotates, fun k other low high =>
      absurd low (by omega)⟩

theorem inForce_cons_succ (line : List Char) (lines : List (List Char)) (index : Nat)
    (number : Int) :
    InForce (line :: lines) (index + 1) number ↔
      InForce lines index number ∨ (Annotates line number ∧ Undisturbed lines index) := by
  constructor
  · rintro ⟨j, own, bound, here, annotates, quiet⟩
    cases j with
    | zero =>
        cases Option.some.inj here
        exact Or.inr ⟨annotates, fun k other high found =>
          quiet (k + 1) other (by omega) (by omega) found⟩
    | succ j =>
        exact Or.inl ⟨j, own, by omega, here, annotates, fun k other low high found =>
          quiet (k + 1) other (by omega) (by omega) found⟩
  · rintro (⟨j, own, bound, here, annotates, quiet⟩ | ⟨annotates, quiet⟩)
    · refine ⟨j + 1, own, by omega, here, annotates, ?_⟩
      intro k other low high found
      cases k with
      | zero => omega
      | succ k => exact quiet k other (by omega) (by omega) found
    · refine ⟨0, line, Nat.zero_le _, rfl, annotates, ?_⟩
      intro k other low high found
      cases k with
      | zero => omega
      | succ k => exact quiet k other (by omega) found

/-! ## The whole listing -/

theorem classifyAll_cons_eq_ok {line : List Char} {rest : List (List Char)}
    {items : List Classified} (success : classifyAll (line :: rest) = .ok items) :
    ∃ kind annotated others, classify line = .ok (kind, annotated) ∧
      classifyAll rest = .ok others ∧ items = ⟨line, kind, annotated⟩ :: others := by
  rw [classifyAll, Result.bind_eq_ok_iff] at success
  obtain ⟨⟨kind, annotated⟩, first, success⟩ := success
  obtain ⟨others, later, whole⟩ := Result.bind_eq_ok_iff.mp success
  exact ⟨kind, annotated, others, first, later, (Except.ok.inj whole).symm⟩

theorem follow_texts (cells : List (List Char)) :
    ∀ (known : Option Int) (items : List Classified), classifyAll cells = .ok items →
      (follow known items).map OutputLine.text = cells.map String.ofList := by
  induction cells with
  | nil =>
      intro known items success
      cases Except.ok.inj success
      rfl
  | cons line rest inductionHypothesis =>
      intro known items success
      obtain ⟨kind, annotated, others, -, later, rfl⟩ := classifyAll_cons_eq_ok success
      rw [follow, List.map_cons, List.map_cons, inductionHypothesis _ others later]

/-- What is carried at an index is the annotation in force there, or what was carried into the
listing if nothing through the index ends it. -/
theorem follow_source (cells : List (List Char)) :
    ∀ (known : Option Int) (items : List Classified) (index : Nat) (line : OutputLine),
      (∀ cell ∈ cells, '\n' ∉ cell) → classifyAll cells = .ok items →
      (follow known items)[index]? = some line →
        ∃ carried, line.source? = locate carried ∧ ∀ number, carried = some number ↔
          InForce cells index number ∨ (known = some number ∧ Undisturbed cells index) := by
  induction cells with
  | nil =>
      intro known items index line _ success here
      cases Except.ok.inj success
      simp [follow] at here
  | cons cell rest inductionHypothesis =>
      intro known items index line noFeed success here
      obtain ⟨kind, annotated, others, classified, later, rfl⟩ := classifyAll_cons_eq_ok success
      have step := carry_eq_some_iff (noFeed cell List.mem_cons_self) classified known
      rw [follow] at here
      cases index with
      | zero =>
          rw [List.getElem?_cons_zero] at here
          cases Option.some.inj here
          refine ⟨carry known kind annotated, rfl, ?_⟩
          intro number
          rw [step, inForce_cons_zero, undisturbed_cons_zero]
      | succ index =>
          rw [List.getElem?_cons_succ] at here
          obtain ⟨carried, source, meaning⟩ := inductionHypothesis _ others index line
            (fun other member => noFeed other (List.mem_cons_of_mem cell member)) later here
          refine ⟨carried, source, ?_⟩
          intro number
          rw [meaning, step, inForce_cons_succ, undisturbed_cons_succ, or_and_right, and_assoc,
            or_assoc]

/-- The lines of a listing keep their texts, and each has the location that the annotation in force
gives, and none if there is none in force. -/
theorem parse_source_iff_inForce (text : String) (lines : List OutputLine)
    (success : parse text = .ok lines) :
    lines.map OutputLine.text = splitLines text ∧
      ∀ index line, lines[index]? = some line →
        (∀ place, line.source? = some place ↔
          ∃ number, InForce (lineCells text.toList) index number ∧
            place = ⟨none, some number, none⟩) ∧
        (line.source? = none ↔ ∀ number, ¬InForce (lineCells text.toList) index number) := by
  obtain ⟨items, classified, rfl⟩ := Result.map_eq_ok_iff.mp success
  refine ⟨follow_texts _ none items classified, ?_⟩
  intro index line here
  obtain ⟨carried, source, meaning⟩ := follow_source _ none items index line
    (feed_notMem_lineCells text.toList) classified here
  have inForce : ∀ number, carried = some number ↔
      InForce (lineCells text.toList) index number := by
    intro number
    simp [meaning]
  constructor
  · intro place
    rw [source, locate_eq_some_iff]
    exact exists_congr fun number => and_congr_left fun _ => inForce number
  · rw [source, locate, Option.map_eq_none_iff, Option.eq_none_iff_forall_ne_some]
    exact forall_congr' fun number => not_congr (inForce number)

/-- An annotation is in force up to the empty line. -/
theorem parse_source_iff_inForce_sample :
    parse "  Frame_0 :\n     annotation: foo:10\ncode-a\n\ncode-b" =
        .ok [⟨"  Frame_0 :", none⟩, ⟨"     annotation: foo:10", some ⟨none, some 10, none⟩⟩,
          ⟨"code-a", some ⟨none, some 10, none⟩⟩, ⟨"", none⟩, ⟨"code-b", none⟩] ∧
      InForce (lineCells "  Frame_0 :\n     annotation: foo:10\ncode-a\n\ncode-b".toList) 2 10 ∧
      ∀ number, ¬InForce
        (lineCells "  Frame_0 :\n     annotation: foo:10\ncode-a\n\ncode-b".toList) 4 number := by
  have success : parse "  Frame_0 :\n     annotation: foo:10\ncode-a\n\ncode-b" =
      .ok [⟨"  Frame_0 :", none⟩, ⟨"     annotation: foo:10", some ⟨none, some 10, none⟩⟩,
        ⟨"code-a", some ⟨none, some 10, none⟩⟩, ⟨"", none⟩, ⟨"code-b", none⟩] :=
    Result.toOption_eq_some_iff.mp (by decide)
  have sources := (parse_source_iff_inForce _ _ success).2
  refine ⟨success, ?_, (sources 4 ⟨"code-b", none⟩ rfl).2.mp rfl⟩
  obtain ⟨number, inForce, same⟩ :=
    ((sources 2 ⟨"code-a", some ⟨none, some 10, none⟩⟩ rfl).1 ⟨none, some 10, none⟩).mp rfl
  simp only [SourceLocation.mk.injEq, Option.some.injEq, true_and, and_true] at same
  rw [same]
  exact inForce

end LineMap.Listing.Annotated
