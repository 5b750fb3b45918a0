import LineMap.Text.Lines

/-!
# The lines of a text

How the lines of a text follow from those of the text without its first character, and how the text
follows from its lines.
-/

set_option autoImplicit false

namespace LineMap.Text

@[simp] theorem lineCells_nil : lineCells [] = [[]] := rfl

theorem lineCells_feed (rest : List Char) :
    lineCells ('\n' :: rest) = [] :: lineCells rest := by
  have kept : unifyBreaks ('\n' :: rest) = '\n' :: unifyBreaks rest := by
    rw [unifyBreaks_cons, if_neg (by simp)]
  rw [lineCells, kept, splitAtChar_cons_self, lineCells]

theorem lineCells_return {rest : List Char} (feed : rest.head? = some '\n') :
    lineCells ('\r' :: rest) = lineCells rest := by
  rw [lineCells, unifyBreaks_cons, if_pos ⟨rfl, feed⟩, lineCells]

theorem lineCells_cons {c : Char} {rest : List Char} (noFeed : c ≠ '\n')
    (noReturn : ¬(c = '\r' ∧ rest.head? = some '\n')) {line : List Char}
    {lines : List (List Char)} (cut : lineCells rest = line :: lines) :
    lineCells (c :: rest) = (c :: line) :: lines := by
  rw [lineCells, unifyBreaks_cons, if_neg noReturn]
  exact splitAtChar_cons_of_ne noFeed cut

theorem lineCells_ne_nil (text : List Char) : lineCells text ≠ [] :=
  splitAtChar_ne_nil '\n' (unifyBreaks text)

/-- A text without line breaks at the beginning of another begins its first line. -/
theorem lineCells_append (front : List Char) (noFeed : '\n' ∉ front) (noReturn : '\r' ∉ front)
    {rest line : List Char} {lines : List (List Char)} (cut : lineCells rest = line :: lines) :
    lineCells (front ++ rest) = (front ++ line) :: lines := by
  induction front with
  | nil => exact cut
  | cons c others inductionHypothesis =>
      rw [List.mem_cons, not_or] at noFeed noReturn
      exact lineCells_cons (Ne.symm noFeed.1) (fun both => noReturn.1 both.1.symm)
        (inductionHypothesis noFeed.2 noReturn.2)

theorem notMem_splitAtChar (separator : Char) (text : List Char) :
    ∀ piece ∈ splitAtChar separator text, separator ∉ piece := by
  induction text with
  | nil => simp
  | cons c rest inductionHypothesis =>
      by_cases same : c = separator
      · subst same
        rw [splitAtChar_cons_self]
        intro piece member
        rcases List.mem_cons.mp member with rfl | member
        · simp
        · exact inductionHypothesis piece member
      · obtain ⟨first, others, cut⟩ := List.exists_cons_of_ne_nil
          (splitAtChar_ne_nil separator rest)
        rw [splitAtChar_cons_of_ne same cut]
        rw [cut] at inductionHypothesis
        intro piece member
        rcases List.mem_cons.mp member with rfl | member
        · rw [List.mem_cons, not_or]
          exact ⟨Ne.symm same, inductionHypothesis first List.mem_cons_self⟩
        · exact inductionHypothesis piece (List.mem_cons_of_mem first member)

theorem feed_notMem_lineCells (text : List Char) : ∀ line ∈ lineCells text, '\n' ∉ line :=
  notMem_splitAtChar '\n' (unifyBreaks text)

/-- In a line without a line feed there is none to drop at the end. -/
theorem dropFinalFeed_of_notMem {line : List Char} (noFeed : '\n' ∉ line) :
    dropFinalFeed line = line := by
  rw [dropFinalFeed, if_neg]
  intro last
  exact noFeed (List.mem_of_getLast? last)

/-! ## Joining the lines -/

theorem splitAtChar_eq_splitOn (separator : Char) (text : List Char) :
    splitAtChar separator text = text.splitOn separator := by
  induction text with
  | nil => rfl
  | cons c rest inductionHypothesis =>
      obtain ⟨first, others, cut⟩ := List.exists_cons_of_ne_nil (splitAtChar_ne_nil separator rest)
      have later : rest.splitOn separator = first :: others := by rw [← inductionHypothesis, cut]
      rw [List.splitOn] at later ⊢
      rw [List.splitOnP_cons_eq_if_modifyHead, later]
      by_cases same : c = separator
      · subst same
        simp [splitAtChar_cons_self, cut]
      · simp [splitAtChar_cons_of_ne same cut, same]

theorem intercalate_lineCells (text : List Char) :
    ['\n'].intercalate (lineCells text) = unifyBreaks text := by
  rw [lineCells, splitAtChar_eq_splitOn, List.intercalate_splitOn]

theorem intercalate_cons {α : Type} (separator first : List α) (others : List (List α)) :
    separator.intercalate (first :: others) =
      first ++ others.flatMap fun piece => separator ++ piece := by
  induction others generalizing first with
  | nil => rw [List.intercalate_singleton, List.flatMap_nil, List.append_nil]
  | cons second rest inductionHypothesis =>
      rw [List.intercalate_cons_cons, inductionHypothesis, List.flatMap_cons, List.append_assoc,
        List.append_assoc]

theorem isInfix_intercalate {α : Type} {piece separator : List α} {pieces : List (List α)}
    (member : piece ∈ pieces) : piece <:+: separator.intercalate pieces := by
  cases pieces with
  | nil => cases member
  | cons first others =>
      rw [intercalate_cons]
      rcases List.mem_cons.mp member with rfl | later
      · exact (List.prefix_append _ _).isInfix
      · obtain ⟨front, back, rfl⟩ := List.append_of_mem later
        refine ⟨first ++ (front.flatMap fun piece => separator ++ piece) ++ separator,
          back.flatMap fun piece => separator ++ piece, ?_⟩
        simp

theorem notMem_intercalate {α : Type} {c : α} {separator : List α} {pieces : List (List α)}
    (outside : c ∉ separator) (absent : ∀ piece ∈ pieces, c ∉ piece) :
    c ∉ separator.intercalate pieces := by
  cases pieces with
  | nil => simp
  | cons first others =>
      obtain ⟨atFirst, later⟩ := List.forall_mem_cons.mp absent
      rw [intercalate_cons, List.mem_append, List.mem_flatMap]
      rintro (inFirst | ⟨piece, listed, inside⟩)
      · exact atFirst inFirst
      · rcases List.mem_append.mp inside with inSeparator | inPiece
        · exact outside inSeparator
        · exact later piece listed inPiece

/-- A run of a class is all that stands before a character outside of it. -/
theorem run_append {inClass : Char → Bool} {run : List Char}
    (inside : ∀ c ∈ run, inClass c = true) (rest : List Char)
    (ends : rest.head?.all fun c => !inClass c) :
    (run ++ rest).takeWhile inClass = run ∧ (run ++ rest).dropWhile inClass = rest := by
  rw [List.takeWhile_append_of_pos inside, List.dropWhile_append_of_pos inside]
  cases rest with
  | nil => simp
  | cons c others =>
      have outside : ¬inClass c = true := by simpa using ends
      simp [List.takeWhile_cons_of_neg outside, List.dropWhile_cons_of_neg outside]

theorem isInfix_of_mem_lineCells {line text : List Char} (member : line ∈ lineCells text) :
    line <:+: unifyBreaks text := by
  rw [← intercalate_lineCells]
  exact isInfix_intercalate member

end LineMap.Text
