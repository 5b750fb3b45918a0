import LineMap.Proofs.Text.Lines
import LineMap.Proofs.Text.Search
import LineMap.Text.Blank

/-!
# Texts with line feeds only

Dropping the carriage returns of line endings distributes over texts unless an ending is cut in two.
So it commutes with looking for a text that holds no part of an ending, with cutting behind a line,
and with skipping blanks.  A text without carriage returns is the same as its lines.
-/

set_option autoImplicit false

namespace LineMap.Text

/-! ## One character -/

theorem unifyBreaks_return {rest : List Char} (feed : rest.head? = some '\n') :
    unifyBreaks ('\r' :: rest) = unifyBreaks rest := by
  rw [unifyBreaks_cons, if_pos ⟨rfl, feed⟩]

theorem unifyBreaks_keep {c : Char} {rest : List Char}
    (kept : ¬(c = '\r' ∧ rest.head? = some '\n')) :
    unifyBreaks (c :: rest) = c :: unifyBreaks rest := by
  rw [unifyBreaks_cons, if_neg kept]

theorem unifyBreaks_cons_of_ne {c : Char} (noReturn : c ≠ '\r') (rest : List Char) :
    unifyBreaks (c :: rest) = c :: unifyBreaks rest :=
  unifyBreaks_keep fun both => noReturn both.1

theorem unifyBreaks_append (front rest : List Char)
    (whole : ¬(front.getLast? = some '\r' ∧ rest.head? = some '\n')) :
    unifyBreaks (front ++ rest) = unifyBreaks front ++ unifyBreaks rest := by
  induction front with
  | nil => rfl
  | cons c others inductionHypothesis =>
      cases others with
      | nil =>
          have kept : ¬(c = '\r' ∧ rest.head? = some '\n') := by simpa using whole
          have alone : unifyBreaks [c] = [c] := unifyBreaks_keep (by simp)
          rw [List.singleton_append, unifyBreaks_keep kept, alone, List.singleton_append]
      | cons d tail =>
          have later := inductionHypothesis (by rwa [List.getLast?_cons_cons] at whole)
          rw [List.cons_append, unifyBreaks_cons, unifyBreaks_cons, later]
          by_cases dropped : c = '\r' ∧ d = '\n'
          · simp [dropped]
          · simp [dropped]

theorem lineCells_of_unifyBreaks_eq {text front rest : List Char}
    (unified : unifyBreaks text = unifyBreaks front ++ '\n' :: unifyBreaks rest) :
    lineCells text = lineCells front ++ lineCells rest := by
  rw [lineCells, unified, splitAtChar_eq_splitOn, List.splitOn_append_cons_self,
    ← splitAtChar_eq_splitOn, ← splitAtChar_eq_splitOn, lineCells, lineCells]

/-- The lines of two texts with a line feed between them are the lines of each, unless that line
feed completes an ending. -/
theorem lineCells_append_feed (front rest : List Char) (noReturn : front.getLast? ≠ some '\r') :
    lineCells (front ++ '\n' :: rest) = lineCells front ++ lineCells rest := by
  apply lineCells_of_unifyBreaks_eq
  rw [unifyBreaks_append front _ fun both => noReturn both.1, unifyBreaks_cons_of_ne (by decide)]

/-- With a carriage return and a line feed between the texts, the first may end in a carriage return
of its own. -/
theorem lineCells_append_returnFeed (front rest : List Char) :
    lineCells (front ++ '\r' :: '\n' :: rest) = lineCells front ++ lineCells rest := by
  apply lineCells_of_unifyBreaks_eq
  rw [unifyBreaks_append front _ fun both => absurd both.2 (by simp), unifyBreaks_return rfl,
    unifyBreaks_cons_of_ne (by decide)]

/-! ## Where nothing is dropped -/

theorem unifyBreaks_eq_self {text : List Char} (unified : ¬['\r', '\n'] <:+: text) :
    unifyBreaks text = text := by
  induction text with
  | nil => rfl
  | cons c rest inductionHypothesis =>
      rw [List.infix_cons_iff, not_or] at unified
      have kept : ¬(c = '\r' ∧ rest.head? = some '\n') := by
        rintro ⟨rfl, feed⟩
        obtain ⟨tail, rfl⟩ := List.head?_eq_some_iff.mp feed
        exact unified.1 (by simp)
      rw [unifyBreaks_keep kept, inductionHypothesis unified.2]

theorem unifyBreaks_of_notMem {text : List Char} (noReturn : '\r' ∉ text) :
    unifyBreaks text = text := by
  apply unifyBreaks_eq_self
  intro occurs
  exact noReturn (occurs.subset List.mem_cons_self)

theorem feed_of_head?_unifyBreaks {text : List Char}
    (feed : (unifyBreaks text).head? = some '\n') :
    text.head? = some '\n' ∨ ['\r', '\n'] <+: text := by
  cases text with
  | nil => cases feed
  | cons c rest =>
      by_cases dropped : c = '\r' ∧ rest.head? = some '\n'
      · obtain ⟨rfl, feedNext⟩ := dropped
        obtain ⟨tail, rfl⟩ := List.head?_eq_some_iff.mp feedNext
        exact Or.inr (by simp)
      · rw [unifyBreaks_keep dropped] at feed
        exact Or.inl feed

/-- Where no carriage return stands before a line ending, none is left before a line feed. -/
theorem not_infix_unifyBreaks {text : List Char} (single : ¬['\r', '\r', '\n'] <:+: text) :
    ¬['\r', '\n'] <:+: unifyBreaks text := by
  induction text with
  | nil => simp
  | cons c rest inductionHypothesis =>
      rw [List.infix_cons_iff, not_or] at single
      have later := inductionHypothesis single.2
      by_cases dropped : c = '\r' ∧ rest.head? = some '\n'
      · obtain ⟨rfl, feed⟩ := dropped
        rwa [unifyBreaks_return feed]
      · rw [unifyBreaks_keep dropped, List.infix_cons_iff, not_or]
        refine ⟨?_, later⟩
        intro here
        obtain ⟨rfl, feedNext⟩ := List.cons_prefix_cons.mp here
        have feed : (unifyBreaks rest).head? = some '\n' := by
          obtain ⟨tail, same⟩ := feedNext
          simp [← same]
        rcases feed_of_head?_unifyBreaks feed with feed | ⟨tail, rfl⟩
        · exact dropped ⟨rfl, feed⟩
        · exact single.1 (by simp)

theorem unifyBreaks_unifyBreaks {text : List Char} (single : ¬['\r', '\r', '\n'] <:+: text) :
    unifyBreaks (unifyBreaks text) = unifyBreaks text :=
  unifyBreaks_eq_self (not_infix_unifyBreaks single)

theorem lineCells_unifyBreaks {text : List Char} (single : ¬['\r', '\r', '\n'] <:+: text) :
    lineCells (unifyBreaks text) = lineCells text := by
  rw [lineCells, lineCells, unifyBreaks_unifyBreaks single]

/-! ## Looking for a text -/

structure BreakFree (cells : List Char) : Prop where
  noFeed : '\n' ∉ cells
  noReturn : '\r' ∉ cells

theorem BreakFree.unifyBreaks_append {front : List Char} (breakFree : BreakFree front)
    (rest : List Char) : unifyBreaks (front ++ rest) = front ++ unifyBreaks rest := by
  have whole : ¬(front.getLast? = some '\r' ∧ rest.head? = some '\n') := by
    rintro ⟨last, -⟩
    exact breakFree.noReturn (List.mem_of_getLast? last)
  rw [Text.unifyBreaks_append front rest whole, unifyBreaks_of_notMem breakFree.noReturn]

theorem BreakFree.not_prefix_return {needle : List Char} (breakFree : BreakFree needle)
    (nonempty : needle ≠ []) (rest : List Char) : ¬needle <+: '\r' :: rest := by
  obtain ⟨c, others, rfl⟩ := List.exists_cons_of_ne_nil nonempty
  intro here
  have first := (List.cons_prefix_cons.mp here).1
  exact breakFree.noReturn (first ▸ List.mem_cons_self)

theorem BreakFree.prefix_unifyBreaks_iff {needle : List Char} (breakFree : BreakFree needle) :
    ∀ text : List Char, needle <+: unifyBreaks text ↔ needle <+: text := by
  induction needle with
  | nil => simp
  | cons d others inductionHypothesis =>
      intro text
      have dFree : d ≠ '\n' ∧ d ≠ '\r' :=
        ⟨fun same => breakFree.noFeed (same ▸ List.mem_cons_self),
          fun same => breakFree.noReturn (same ▸ List.mem_cons_self)⟩
      have othersFree : BreakFree others :=
        ⟨fun member => breakFree.noFeed (List.mem_cons_of_mem d member),
          fun member => breakFree.noReturn (List.mem_cons_of_mem d member)⟩
      cases text with
      | nil => simp
      | cons c rest =>
          by_cases dropped : c = '\r' ∧ rest.head? = some '\n'
          · obtain ⟨rfl, feed⟩ := dropped
            obtain ⟨tail, rfl⟩ := List.head?_eq_some_iff.mp feed
            rw [unifyBreaks_return feed, unifyBreaks_cons_of_ne (by decide)]
            simp [List.cons_prefix_cons, dFree.1, dFree.2]
          · rw [unifyBreaks_keep dropped, List.cons_prefix_cons, List.cons_prefix_cons,
              inductionHypothesis othersFree]

theorem BreakFree.isPrefixOf_unifyBreaks {needle : List Char} (breakFree : BreakFree needle)
    (text : List Char) : needle.isPrefixOf (unifyBreaks text) = needle.isPrefixOf text := by
  rw [Bool.eq_iff_iff, List.isPrefixOf_iff_prefix, List.isPrefixOf_iff_prefix,
    breakFree.prefix_unifyBreaks_iff]

theorem head?_unifyBreaks_eq_some_iff {c : Char} (noFeed : c ≠ '\n') (noReturn : c ≠ '\r')
    (text : List Char) : (unifyBreaks text).head? = some c ↔ text.head? = some c := by
  have breakFree : BreakFree [c] :=
    ⟨by simpa using Ne.symm noFeed, by simpa using Ne.symm noReturn⟩
  have begins : ∀ cells : List Char, cells.head? = some c ↔ [c] <+: cells := by
    intro cells
    cases cells <;> simp [eq_comm]
  rw [begins, begins, breakFree.prefix_unifyBreaks_iff]

theorem BreakFree.lastOccurrence_unifyBreaks {needle : List Char} (breakFree : BreakFree needle)
    (nonempty : needle ≠ []) (text : List Char) :
    lastOccurrence needle (unifyBreaks text) = (lastOccurrence needle text).map unifyBreaks := by
  induction text with
  | nil => simp [lastOccurrence_nil, nonempty]
  | cons c rest inductionHypothesis =>
      by_cases dropped : c = '\r' ∧ rest.head? = some '\n'
      · obtain ⟨rfl, feed⟩ := dropped
        have notHere : ¬needle.isPrefixOf ('\r' :: rest) = true := by
          rw [List.isPrefixOf_iff_prefix]
          exact breakFree.not_prefix_return nonempty rest
        rw [unifyBreaks_return feed, inductionHypothesis, lastOccurrence_cons, if_neg notHere,
          Option.or_none]
      · have here := breakFree.isPrefixOf_unifyBreaks (c :: rest)
        have kept := unifyBreaks_keep dropped
        rw [kept] at here
        rw [kept, lastOccurrence_cons, lastOccurrence_cons, inductionHypothesis, here]
        by_cases fits : needle.isPrefixOf (c :: rest) = true
        · cases lastOccurrence needle rest <;> simp [fits, kept]
        · simp [fits]

theorem BreakFree.occursIn_unifyBreaks {needle : List Char} (breakFree : BreakFree needle)
    (nonempty : needle ≠ []) (text : List Char) :
    occursIn needle (unifyBreaks text) = occursIn needle text := by
  rw [← lastOccurrence_isSome, breakFree.lastOccurrence_unifyBreaks nonempty, Option.isSome_map,
    lastOccurrence_isSome]

/-! ## Cutting behind a line, skipping blanks -/

theorem afterFirstFeed_unifyBreaks (text : List Char) :
    afterFirstFeed (unifyBreaks text) = unifyBreaks (afterFirstFeed text) := by
  induction text with
  | nil => rfl
  | cons c rest inductionHypothesis =>
      by_cases feed : c = '\n'
      · subst feed
        rw [unifyBreaks_cons_of_ne (by decide), afterFirstFeed_feed, afterFirstFeed_feed]
      · rw [afterFirstFeed_cons feed, ← inductionHypothesis, unifyBreaks_cons]
        split
        · rfl
        · exact afterFirstFeed_cons feed _

theorem takeWhile_isBlank_unifyBreaks (text : List Char) :
    (unifyBreaks text).takeWhile isBlank = unifyBreaks (text.takeWhile isBlank) := by
  induction text with
  | nil => rfl
  | cons c rest inductionHypothesis =>
      by_cases blank : isBlank c = true
      · -- A line feed is blank, so the run goes on at it exactly if the text does.
        have next : (rest.takeWhile isBlank).head? = some '\n' ↔ rest.head? = some '\n' := by
          cases rest with
          | nil => simp
          | cons d tail =>
              by_cases blankNext : isBlank d = true
              · simp [blankNext]
              · have noFeed : d ≠ '\n' := by
                  rintro rfl
                  exact blankNext (by decide)
                simp [blankNext, noFeed]
        rw [List.takeWhile_cons_of_pos blank, unifyBreaks_cons, unifyBreaks_cons,
          ← inductionHypothesis]
        simp only [next]
        split
        · rfl
        · rw [List.takeWhile_cons_of_pos blank]
      · have noReturn : c ≠ '\r' := by
          rintro rfl
          exact blank (by decide)
        rw [unifyBreaks_cons_of_ne noReturn, List.takeWhile_cons_of_neg blank,
          List.takeWhile_cons_of_neg blank, unifyBreaks_nil]

theorem dropWhile_isBlank_unifyBreaks (text : List Char) :
    (unifyBreaks text).dropWhile isBlank = unifyBreaks (text.dropWhile isBlank) := by
  induction text with
  | nil => rfl
  | cons c rest inductionHypothesis =>
      by_cases blank : isBlank c = true
      · rw [List.dropWhile_cons_of_pos blank, ← inductionHypothesis, unifyBreaks_cons]
        split
        · rfl
        · rw [List.dropWhile_cons_of_pos blank]
      · have noReturn : c ≠ '\r' := by
          rintro rfl
          exact blank (by decide)
        rw [unifyBreaks_cons_of_ne noReturn, List.dropWhile_cons_of_neg blank,
          List.dropWhile_cons_of_neg blank, unifyBreaks_cons_of_ne noReturn]

/-! ## Texts of lines -/

theorem intercalate_lineCells_of_notMem {text : List Char} (noReturn : '\r' ∉ text) :
    ['\n'].intercalate (lineCells text) = text := by
  rw [intercalate_lineCells, unifyBreaks_of_notMem noReturn]

theorem breakFree_of_mem_lineCells {text : List Char} (noReturn : '\r' ∉ text) :
    ∀ line ∈ lineCells text, BreakFree line := by
  intro line member
  refine ⟨feed_notMem_lineCells text line member, ?_⟩
  intro inLine
  have inside := isInfix_of_mem_lineCells member
  rw [unifyBreaks_of_notMem noReturn] at inside
  exact noReturn (inside.subset inLine)

theorem lineCells_intercalate {lines : List (List Char)} (nonempty : lines ≠ [])
    (breakFree : ∀ line ∈ lines, BreakFree line) :
    lineCells (['\n'].intercalate lines) = lines := by
  have noReturn : '\r' ∉ ['\n'].intercalate lines :=
    notMem_intercalate (by decide) fun line member => (breakFree line member).noReturn
  have noFeed : ∀ line ∈ lines, '\n' ∉ line := fun line member => (breakFree line member).noFeed
  rw [lineCells, unifyBreaks_of_notMem noReturn, splitAtChar_eq_splitOn,
    List.splitOn_intercalate '\n' noFeed nonempty]

/-- Lines that are not blank, joined and cut again.  From no lines at all comes one empty line,
which is blank. -/
theorem filter_lineCells_intercalate {lines : List (List Char)}
    (kept : ∀ line ∈ lines, isBlankLine line = false)
    (breakFree : ∀ line ∈ lines, BreakFree line) :
    (lineCells (['\n'].intercalate lines)).filter (fun line => !isBlankLine line) = lines := by
  by_cases empty : lines = []
  · subst empty
    rfl
  · rw [lineCells_intercalate empty breakFree, List.filter_eq_self]
    intro line member
    rw [kept line member, Bool.not_false]

end LineMap.Text
