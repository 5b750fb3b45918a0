import LineMap.Proofs.Text.Breaks
import LineMap.Proofs.Text.Pattern

/-!
# Splitting and joining lines

The lines of a text are what stands between the matches of one pattern, a line feed with a carriage
return before it or without one.  Joining undoes splitting up to the carriage returns of the breaks,
and splitting undoes joining whatever break stands in each place.
-/

set_option autoImplicit false

namespace LineMap.Text

/-! ## The pieces between matches -/

/-- The pieces of a text between the matches of a pattern.  Each match takes something, and the next
one is sought behind it. -/
inductive Pattern.Splits (pattern : Pattern) : Option Char → List Char → List (List Char) → Prop
  | whole {previous : Option Char} {text : List Char}
      (unmatched : pattern.search previous text = none) : pattern.Splits previous text [text]
  | cut {previous : Option Char} {text : List Char} {found : Found} {pieces : List (List Char)}
      (matched : pattern.search previous text = some found) (takes : found.body ≠ [])
      (later : pattern.Splits found.body.getLast? found.rest pieces) :
      pattern.Splits previous text (found.before :: pieces)

namespace Pattern

variable {pattern : Pattern} {previous : Option Char}

theorem Splits.unique {text : List Char} {pieces others : List (List Char)}
    (splits : pattern.Splits previous text pieces)
    (otherSplits : pattern.Splits previous text others) : pieces = others := by
  induction splits generalizing others with
  | whole unmatched =>
      cases otherSplits with
      | whole => rfl
      | cut matched => cases unmatched.symm.trans matched
  | cut matched _ _ inductionHypothesis =>
      cases otherSplits with
      | whole unmatched => cases unmatched.symm.trans matched
      | cut otherMatched _ otherLater =>
          cases Option.some.inj (matched.symm.trans otherMatched)
          rw [inductionHypothesis otherLater]

/-- A character at which nothing matches stands at the front of the first piece. -/
theorem Splits.cons {c : Char} {rest piece : List Char} {pieces : List (List Char)}
    (splits : pattern.Splits (some c) rest (piece :: pieces))
    (unmatched : pattern.ways previous (c :: rest) = []) :
    pattern.Splits previous (c :: rest) ((c :: piece) :: pieces) := by
  have onward : pattern.search previous (c :: rest) =
      (pattern.search (some c) rest).map fun found => { found with before := c :: found.before } := by
    rw [search, unmatched]
    rfl
  cases splits with
  | whole none =>
      rw [none] at onward
      exact .whole onward
  | cut matched takes later =>
      rw [matched] at onward
      exact .cut onward takes later

theorem Splits.of_ways {c : Char} {rest : List Char} {way : Way} {others : List Way}
    {pieces : List (List Char)} (matched : pattern.ways previous (c :: rest) = way :: others)
    (takes : way.1 ≠ []) (splits : pattern.Splits way.1.getLast? way.2 pieces) :
    pattern.Splits previous (c :: rest) ([] :: pieces) := by
  have here : pattern.search previous (c :: rest) = some ⟨[], way.1, way.2⟩ := by
    rw [search, matched]
    rfl
  exact .cut here takes splits

end Pattern

/-- A text results from another by putting a replacement in the place of each match. -/
def Pattern.Replaces (pattern : Pattern) (replacement text result : List Char) : Prop :=
  ∃ pieces, pattern.Splits none text pieces ∧ result = replacement.intercalate pieces

/-! ## Line breaks -/

def returnFeed : Pattern :=
  .literal ['\r', '\n']

/-- A line feed, and a carriage return directly before it if there is one. -/
def lineBreak : Pattern :=
  (Pattern.either (.literal ['\r']) (.literal [])).followedBy (.literal ['\n'])

/-- A text is empty, or begins with a line feed, with a carriage return and a line feed, or with a
character that is no part of a line break. -/
@[elab_as_elim]
theorem breakInduction {motive : List Char → Prop} (nil : motive [])
    (feed : ∀ rest, motive rest → motive ('\n' :: rest))
    (returnFeed : ∀ rest, motive rest → motive ('\r' :: '\n' :: rest))
    (other : ∀ c rest, c ≠ '\n' → ¬(c = '\r' ∧ rest.head? = some '\n') → motive rest →
      motive (c :: rest))
    (text : List Char) : motive text := by
  -- A carriage return and a line feed are taken in one step, so the induction is on the length.
  induction size : text.length using Nat.strongRecOn generalizing text with
  | ind size inductionHypothesis =>
      subst size
      have shorter : ∀ rest : List Char, rest.length < text.length → motive rest :=
        fun rest less => inductionHypothesis rest.length less rest rfl
      cases text with
      | nil => exact nil
      | cons c rest =>
          by_cases isFeed : c = '\n'
          · subst isFeed
            exact feed rest (shorter rest (by simp))
          · by_cases isReturn : c = '\r' ∧ rest.head? = some '\n'
            · obtain ⟨rfl, feedNext⟩ := isReturn
              obtain ⟨tail, rfl⟩ := List.head?_eq_some_iff.mp feedNext
              exact returnFeed tail (shorter tail (by simp only [List.length_cons]; omega))
            · exact other c rest isFeed isReturn (shorter rest (by simp))

section

variable (previous : Option Char)

theorem ways_lineBreak_feed (rest : List Char) :
    lineBreak.ways previous ('\n' :: rest) = [(['\n'], rest)] := by
  simp [lineBreak, Pattern.ways, Way.after]

theorem ways_lineBreak_returnFeed (rest : List Char) :
    lineBreak.ways previous ('\r' :: '\n' :: rest) = [(['\r', '\n'], rest)] := by
  simp [lineBreak, Pattern.ways, Way.after]

theorem ways_returnFeed (rest : List Char) :
    returnFeed.ways previous ('\r' :: '\n' :: rest) = [(['\r', '\n'], rest)] := by
  simp [returnFeed, Pattern.ways]

theorem ways_returnFeed_eq_nil {c : Char} {rest : List Char}
    (noReturn : ¬(c = '\r' ∧ rest.head? = some '\n')) :
    returnFeed.ways previous (c :: rest) = [] := by
  have unfit : ¬['\r', '\n'].isPrefixOf (c :: rest) = true := by
    rw [List.isPrefixOf_iff_prefix, List.cons_prefix_cons]
    rintro ⟨rfl, tail, rfl⟩
    exact noReturn ⟨rfl, rfl⟩
  rw [returnFeed, Pattern.ways, if_neg unfit]

theorem ways_lineBreak_eq_nil {c : Char} {rest : List Char} (noFeed : c ≠ '\n')
    (noReturn : ¬(c = '\r' ∧ rest.head? = some '\n')) :
    lineBreak.ways previous (c :: rest) = [] := by
  have unfit := ways_returnFeed_eq_nil previous noReturn
  by_cases isReturn : c = '\r'
  · subst isReturn
    simpa [lineBreak, returnFeed, Pattern.ways] using unfit
  · simp [lineBreak, Pattern.ways, Ne.symm noFeed, Ne.symm isReturn]

end

theorem splits_lineCells (text : List Char) :
    ∀ previous : Option Char, lineBreak.Splits previous text (lineCells text) := by
  induction text using breakInduction with
  | nil => exact fun previous => .whole (by simp [Pattern.search, lineBreak, Pattern.ways])
  | feed rest inductionHypothesis =>
      intro previous
      rw [lineCells_feed]
      exact .of_ways (ways_lineBreak_feed previous rest) (by simp) (inductionHypothesis _)
  | returnFeed rest inductionHypothesis =>
      intro previous
      rw [lineCells_return rfl, lineCells_feed]
      exact .of_ways (ways_lineBreak_returnFeed previous rest) (by simp) (inductionHypothesis _)
  | other c rest noFeed noReturn inductionHypothesis =>
      intro previous
      obtain ⟨line, lines, cut⟩ := List.exists_cons_of_ne_nil (lineCells_ne_nil rest)
      rw [lineCells_cons noFeed noReturn cut]
      exact (cut ▸ inductionHypothesis (some c)).cons (ways_lineBreak_eq_nil previous noFeed noReturn)

theorem exists_splits_returnFeed (text : List Char) :
    ∀ previous : Option Char, ∃ piece pieces, returnFeed.Splits previous text (piece :: pieces) ∧
      unifyBreaks text = ['\n'].intercalate (piece :: pieces) := by
  induction text using breakInduction with
  | nil =>
      intro previous
      exact ⟨[], [], .whole (by simp [Pattern.search, returnFeed, Pattern.ways]), rfl⟩
  | feed rest inductionHypothesis =>
      intro previous
      obtain ⟨piece, pieces, splits, joined⟩ := inductionHypothesis (some '\n')
      refine ⟨'\n' :: piece, pieces, splits.cons (ways_returnFeed_eq_nil previous (by simp)), ?_⟩
      rw [unifyBreaks_cons_of_ne (by decide), joined, intercalate_cons, intercalate_cons,
        List.cons_append]
  | returnFeed rest inductionHypothesis =>
      intro previous
      obtain ⟨piece, pieces, splits, joined⟩ := inductionHypothesis (some '\n')
      refine ⟨[], piece :: pieces, .of_ways (ways_returnFeed previous rest) (by simp) splits, ?_⟩
      rw [unifyBreaks_return rfl, unifyBreaks_cons_of_ne (by decide), joined]
      rfl
  | other c rest noFeed noReturn inductionHypothesis =>
      intro previous
      obtain ⟨piece, pieces, splits, joined⟩ := inductionHypothesis (some c)
      refine ⟨c :: piece, pieces, splits.cons (ways_returnFeed_eq_nil previous noReturn), ?_⟩
      rw [unifyBreaks_keep noReturn, joined, intercalate_cons, intercalate_cons, List.cons_append]

/-- Joining the lines of a text by line feeds puts a line feed in the place of each carriage return
and line feed. -/
theorem replaces_intercalate_lineCells (text : List Char) :
    returnFeed.Replaces ['\n'] text (['\n'].intercalate (lineCells text)) := by
  obtain ⟨piece, pieces, splits, joined⟩ := exists_splits_returnFeed text none
  exact ⟨piece :: pieces, splits, by rw [intercalate_lineCells, joined]⟩

/-! ## Joining lines by any breaks -/

inductive Break where
  | feed
  | returnFeed
deriving DecidableEq

def Break.text : Break → String
  | .feed => "\n"
  | .returnFeed => "\r\n"

/-- A line and the further lines, each with the break that stands before it. -/
def joinedBy (first : String) : List (Break × String) → String
  | [] => first
  | (lineEnd, second) :: others => first ++ lineEnd.text ++ joinedBy second others

theorem lineCells_of_notMem {line : List Char} (noFeed : '\n' ∉ line) : lineCells line = [line] := by
  have unified : ¬['\r', '\n'] <:+: line := fun occurs => noFeed (occurs.subset (by simp))
  rw [lineCells, unifyBreaks_eq_self unified, splitAtChar_eq_splitOn,
    List.splitOn_eq_singleton noFeed]

theorem splitLines_append_break {line : String} (noFeed : '\n' ∉ line.toList)
    (noReturn : line.toList.getLast? ≠ some '\r') (lineEnd : Break) (rest : String) :
    splitLines (line ++ lineEnd.text ++ rest) = line :: splitLines rest := by
  have cut : lineCells (line ++ lineEnd.text ++ rest).toList =
      line.toList :: lineCells rest.toList := by
    rw [String.toList_append, String.toList_append, List.append_assoc]
    cases lineEnd with
    | feed =>
        exact (lineCells_append_feed _ _ noReturn).trans (by rw [lineCells_of_notMem noFeed]; rfl)
    | returnFeed =>
        exact (lineCells_append_returnFeed _ _).trans (by rw [lineCells_of_notMem noFeed]; rfl)
  rw [splitLines, cut, List.map_cons, String.ofList_toList, splitLines]

/-- Lines are found again between the breaks that were put there, unless a carriage return before a
break would be taken for a part of it. -/
theorem splitLines_joinedBy (first : String) (others : List (Break × String))
    (noFeed : ∀ line ∈ first :: others.map Prod.snd, '\n' ∉ line.toList)
    (noReturn : ∀ line ∈ (first :: others.map Prod.snd).dropLast,
      line.toList.getLast? ≠ some '\r') :
    splitLines (joinedBy first others) = first :: others.map Prod.snd := by
  induction others generalizing first with
  | nil =>
      rw [joinedBy, splitLines, lineCells_of_notMem (noFeed first List.mem_cons_self)]
      simp
  | cons other rest inductionHypothesis =>
      obtain ⟨lineEnd, second⟩ := other
      rw [List.map_cons] at noFeed noReturn ⊢
      rw [List.dropLast_cons_cons, List.forall_mem_cons] at noReturn
      obtain ⟨firstFeed, laterFeed⟩ := List.forall_mem_cons.mp noFeed
      rw [joinedBy, splitLines_append_break firstFeed noReturn.1,
        inductionHypothesis second laterFeed noReturn.2]

/-- Splitting cuts a text at every match of the pattern for line breaks and nowhere else.  So no
line holds a line feed, and joining the lines by line feeds gives the text with each carriage return
and line feed replaced by a line feed.  Conversely, lines without line feeds that are joined by
breaks of either form, chosen for each place, are found again by splitting, if none but the last
ends in a carriage return. -/
theorem splitLines_splits_and_joins :
    (∀ text : String,
      (∀ pieces, lineBreak.Splits none text.toList pieces ↔
        pieces = (splitLines text).map String.toList) ∧
      (∀ line ∈ splitLines text, '\n' ∉ line.toList) ∧
      returnFeed.Replaces ['\n'] text.toList ("\n".intercalate (splitLines text)).toList) ∧
    ∀ (first : String) (others : List (Break × String)),
      (∀ line ∈ first :: others.map Prod.snd, '\n' ∉ line.toList) →
      (∀ line ∈ (first :: others.map Prod.snd).dropLast, line.toList.getLast? ≠ some '\r') →
      splitLines (joinedBy first others) = first :: others.map Prod.snd := by
  refine ⟨fun text => ?_, splitLines_joinedBy⟩
  have cells : (splitLines text).map String.toList = lineCells text.toList := by
    simp [splitLines, Function.comp_def]
  refine ⟨fun pieces => ?_, fun line member => ?_, ?_⟩
  · rw [cells]
    constructor
    · exact fun splits => splits.unique (splits_lineCells text.toList none)
    · rintro rfl
      exact splits_lineCells text.toList none
  · exact feed_notMem_lineCells text.toList _ (cells ▸ List.mem_map_of_mem member)
  · have replaced := replaces_intercalate_lineCells text.toList
    rw [← cells] at replaced
    rwa [String.toList_intercalate]

/-- Three lines, one of them empty, with a break of each form; only the last line ends in a carriage
return. -/
theorem splitLines_splits_and_joins_mixed :
    splitLines "a\r\n\nb\r" = ["a", "", "b\r"] :=
  splitLines_splits_and_joins.2 "a" [(.returnFeed, ""), (.feed, "b\r")] (by decide) (by decide)

end LineMap.Text
