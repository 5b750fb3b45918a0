import LineMap.Listing.IrDump
import LineMap.Proofs.Text.Lines
import LineMap.Proofs.Text.Pattern
import LineMap.Proofs.Text.Search
import LineMap.Text.Identifier

/-!
# The final unit as the match of one pattern

The final unit is found by two scans, one for its opening and one for the closing brace behind it.
The pattern that describes a unit as a whole is read by backtracking: if nothing closes a unit, it
tries the other keywords, other runs of blanks, and all later places.  None of that can succeed.  An
opening reaches through the first brace of the text, whatever the keyword, so what a later opening
leaves is a part of what the first one leaves.
-/

set_option autoImplicit false

namespace LineMap.Listing.IrDump

open LineMap.Text

/-- A closing brace at the beginning of a line, and all that stands before it. -/
def closingPattern : Pattern :=
  (Pattern.lazyRun fun _ => true).followedBy (.followedBy .lineStart (.literal ['\x7d']))

def bodyPattern : Pattern :=
  (Pattern.greedyRun isBlank).followedBy ((Pattern.literal ['\x7b']).followedBy closingPattern)

def unitPattern (kinds : List (List Char)) : Pattern :=
  (Pattern.oneOf (kinds.map Pattern.literal)).followedBy bodyPattern

/-! ## The closing brace -/

theorem throughClosing_eq_none_iff (text : List Char) :
    throughClosing text = none ↔ ¬['\n', '\x7d'] <:+: text := by
  induction text with
  | nil => simp [throughClosing]
  | cons c rest inductionHypothesis =>
      rw [throughClosing, List.infix_cons_iff]
      by_cases here : c = '\n' ∧ rest.head? = some '\x7d'
      · obtain ⟨rfl, braceNext⟩ := here
        obtain ⟨tail, rfl⟩ := List.head?_eq_some_iff.mp braceNext
        simp
      · have notHere : ¬['\n', '\x7d'] <+: c :: rest := by
          rintro ⟨tail, same⟩
          simp only [List.cons_append, List.cons.injEq] at same
          obtain ⟨rfl, rfl⟩ := same
          exact here ⟨rfl, rfl⟩
        simp [here, notHere, inductionHypothesis]

theorem throughClosing_eq_some {text body : List Char} (found : throughClosing text = some body) :
    ∃ inside rest, text = inside ++ '\n' :: '\x7d' :: rest ∧
      body = inside ++ ['\n', '\x7d'] ∧ ¬['\n', '\x7d'] <:+: inside ++ ['\n'] := by
  induction text generalizing body with
  | nil => simp [throughClosing] at found
  | cons c rest inductionHypothesis =>
      rw [throughClosing] at found
      by_cases here : c = '\n' ∧ rest.head? = some '\x7d'
      · rw [if_pos here] at found
        obtain ⟨rfl, braceNext⟩ := here
        obtain ⟨tail, rfl⟩ := List.head?_eq_some_iff.mp braceNext
        cases Option.some.inj found
        exact ⟨[], tail, rfl, rfl, by simp [List.infix_cons_iff]⟩
      · rw [if_neg here] at found
        obtain ⟨tail, tailFound, rfl⟩ := Option.map_eq_some_iff.mp found
        obtain ⟨inside, after, rfl, rfl, unclosed⟩ := inductionHypothesis tailFound
        refine ⟨c :: inside, after, rfl, rfl, ?_⟩
        rw [List.cons_append, List.infix_cons_iff, not_or]
        refine ⟨?_, unclosed⟩
        rintro ⟨beyond, same⟩
        simp only [List.cons_append, List.cons.injEq] at same
        obtain ⟨rfl, same⟩ := same
        cases inside with
        | nil => simp at same
        | cons d others =>
            simp only [List.cons_append, List.cons.injEq] at same
            exact here ⟨rfl, by simp [← same.1]⟩

/-- If no closing brace is found, none is found in what follows either. -/
theorem throughClosing_none_of_suffix {text later : List Char} (part : later <:+ text)
    (unclosed : throughClosing text = none) : throughClosing later = none := by
  rw [throughClosing_eq_none_iff] at unclosed ⊢
  exact fun closed => unclosed (closed.trans part.isInfix)

theorem ways_closing_cons (previous : Option Char) (c : Char) (rest : List Char) :
    closingPattern.ways previous (c :: rest) =
      (if beginsLine previous ∧ c = '\x7d' then [(['\x7d'], rest)] else []) ++
        (closingPattern.ways (some c) rest).map (Way.after [c]) := by
  have atOnce : (Pattern.followedBy .lineStart (.literal ['\x7d'])).ways previous (c :: rest) =
      if beginsLine previous ∧ c = '\x7d' then [(['\x7d'], rest)] else [] := by
    by_cases start : beginsLine previous
    · by_cases brace : c = '\x7d'
      · subst brace
        simp [Pattern.ways, start, Way.after]
      · simp [Pattern.ways, start, brace, Ne.symm brace]
    · simp [Pattern.ways, start]
  rw [closingPattern, Pattern.ways_lazyRun_cons, atOnce, if_pos rfl]

/-- The lazy run stops at the first closing brace behind a line feed. -/
theorem head?_ways_closing (text : List Char) :
    ∀ previous : Option Char, ¬(beginsLine previous = true ∧ text.head? = some '\x7d') →
      (closingPattern.ways previous text).head? =
        (throughClosing text).map fun body => (body, text.drop body.length) := by
  induction text with
  | nil =>
      intro previous _
      simp [closingPattern, Pattern.ways_lazyRun_nil, Pattern.ways, throughClosing]
  | cons c rest inductionHypothesis =>
      intro previous notAtOnce
      have noHead : ¬(beginsLine previous = true ∧ c = '\x7d') := by simpa using notAtOnce
      rw [ways_closing_cons, if_neg noHead, List.nil_append, List.head?_map, throughClosing]
      by_cases here : c = '\n' ∧ rest.head? = some '\x7d'
      · obtain ⟨rfl, braceNext⟩ := here
        obtain ⟨tail, rfl⟩ := List.head?_eq_some_iff.mp braceNext
        simp [ways_closing_cons, beginsLine, Way.after]
      · have notNext : ¬(beginsLine (some c) = true ∧ rest.head? = some '\x7d') := by
          simpa [beginsLine] using here
        rw [if_neg here, inductionHypothesis (some c) notNext]
        cases throughClosing rest <;> rfl

/-! ## The opening -/

theorem opening?_eq_some {text kind opening rest : List Char}
    (found : opening? text kind = some (opening, rest)) :
    ∃ gap, (∀ c ∈ gap, isBlank c = true) ∧ opening = kind ++ gap ++ ['\x7b'] ∧
      text = opening ++ rest := by
  rw [opening?] at found
  split at found
  · rename_i fits
    obtain ⟨after, rfl⟩ := List.isPrefixOf_iff_prefix.mp fits
    simp only [List.drop_left] at found
    split at found
    · rename_i tail brace
      simp only [Option.some.injEq, Prod.mk.injEq] at found
      obtain ⟨rfl, rfl⟩ := found
      have whole : after.takeWhile isBlank ++ '\x7b' :: tail = after := by
        rw [← brace, List.takeWhile_append_dropWhile]
      refine ⟨after.takeWhile isBlank, ?_, rfl, by simp [whole]⟩
      exact List.all_eq_true.mp List.all_takeWhile
    · cases found
  · cases found

def afterBrace (text : List Char) : List Char :=
  (text.dropWhile (· ≠ '\x7b')).drop 1

theorem afterBrace_suffix (c : Char) (rest : List Char) :
    afterBrace rest <:+ afterBrace (c :: rest) := by
  by_cases brace : c = '\x7b'
  · have all : afterBrace (c :: rest) = rest := by simp [afterBrace, brace]
    rw [all]
    exact (List.drop_suffix 1 _).trans (List.dropWhile_suffix _)
  · have same : afterBrace (c :: rest) = afterBrace rest := by simp [afterBrace, brace]
    exact same ▸ List.suffix_rfl

theorem opening?_unique {text kind opening rest : List Char} (noBrace : '\x7b' ∉ kind)
    (found : opening? text kind = some (opening, rest)) :
    (opening, rest) = (text.takeWhile (· ≠ '\x7b') ++ ['\x7b'], afterBrace text) := by
  obtain ⟨gap, blanks, rfl, rfl⟩ := opening?_eq_some found
  have before : ∀ c ∈ kind ++ gap, decide (c ≠ '\x7b') = true := by
    intro c member
    rcases List.mem_append.mp member with member | member
    · exact decide_eq_true fun brace => noBrace (brace ▸ member)
    · have blank := blanks c member
      exact decide_eq_true fun brace => by
        rw [brace] at blank
        exact absurd blank (by decide)
  rw [afterBrace, List.append_assoc (kind ++ gap), List.takeWhile_append_of_pos before,
    List.dropWhile_append_of_pos before]
  simp

theorem firstOpening_rest {kinds : List (List Char)} (noBrace : ∀ kind ∈ kinds, '\x7b' ∉ kind)
    {text opening rest : List Char} (found : firstOpening kinds text = some (opening, rest)) :
    rest <:+ afterBrace text := by
  induction text with
  | nil => simp [firstOpening] at found
  | cons c others inductionHypothesis =>
      rw [firstOpening] at found
      cases here : kinds.findSome? (opening? (c :: others)) with
      | some first =>
          rw [here] at found
          cases Option.some.inj found
          obtain ⟨kind, member, fits⟩ := List.exists_of_findSome?_eq_some here
          have same := opening?_unique (noBrace kind member) fits
          exact (Prod.mk.inj same).2 ▸ List.suffix_rfl
      | none =>
          rw [here] at found
          exact (inductionHypothesis found).trans (afterBrace_suffix c others)

/-! ## One pattern against two scans -/

/-- An opening with the closing brace behind it: what they enclose, and what follows. -/
def closedAfter (opened : List Char × List Char) : Option Way :=
  (throughClosing opened.2).map fun body => (opened.1 ++ body, opened.2.drop body.length)

theorem head?_ways_body (text : List Char) :
    ∀ previous : Option Char, (bodyPattern.ways previous text).head? =
      match text.dropWhile isBlank with
      | '\x7b' :: rest => closedAfter (text.takeWhile isBlank ++ ['\x7b'], rest)
      | _ => none := by
  induction text with
  | nil =>
      intro previous
      simp [bodyPattern, Pattern.ways_greedyRun_nil, Pattern.ways_literal_followedBy]
  | cons c rest inductionHypothesis =>
      intro previous
      rw [bodyPattern, Pattern.ways_greedyRun_cons, ← bodyPattern,
        Pattern.ways_literal_followedBy]
      by_cases blank : isBlank c
      · have noBrace : c ≠ '\x7b' := by
          rintro rfl
          exact absurd blank (by decide)
        have noLiteral : ¬['\x7b'].isPrefixOf (c :: rest) = true := by
          simp [Ne.symm noBrace]
        rw [if_pos blank, if_neg noLiteral, List.append_nil, List.head?_map,
          inductionHypothesis (some c), List.dropWhile_cons_of_pos blank,
          List.takeWhile_cons_of_pos blank]
        split
        · simp [closedAfter, Option.map_map, Function.comp_def, Way.after]
        · rfl
      · rw [if_neg blank, List.nil_append, List.dropWhile_cons_of_neg blank,
          List.takeWhile_cons_of_neg blank]
        by_cases brace : c = '\x7b'
        · subst brace
          have notAtOnce : ¬(beginsLine (some '\x7b') = true ∧ rest.head? = some '\x7d') := by
            simp [beginsLine]
          have fits : ['\x7b'].isPrefixOf ('\x7b' :: rest) = true := by simp
          rw [if_pos fits, List.head?_map]
          simp only [List.getLast?_singleton, Option.some_or, List.length_singleton,
            List.drop_succ_cons, List.drop_zero, head?_ways_closing rest _ notAtOnce]
          simp [closedAfter, Option.map_map, Function.comp_def, Way.after]
        · have noLiteral : ¬['\x7b'].isPrefixOf (c :: rest) = true := by
            simp [Ne.symm brace]
          rw [if_neg noLiteral]
          split
          · rename_i found
            exact absurd (List.cons.inj found).1 brace
          · rfl

theorem head?_ways_keyword (kind : List Char) (previous : Option Char) (text : List Char) :
    (((Pattern.literal kind).followedBy bodyPattern).ways previous text).head? =
      (opening? text kind).bind closedAfter := by
  rw [Pattern.ways_literal_followedBy, opening?]
  by_cases fits : kind.isPrefixOf text
  · rw [if_pos fits, if_pos fits, List.head?_map, head?_ways_body]
    split
    · rename_i rest brace
      simp [brace, closedAfter, Option.map_map, Function.comp_def, Way.after]
    · rename_i noBrace
      dsimp only
      split
      · rename_i rest brace
        exact absurd brace (noBrace rest)
      · rfl
  · simp [fits]

private theorem findSome?_bind_of_unique {α β γ : Type} (f : α → Option β) (next : β → Option γ)
    (only : β) : ∀ items : List α, (∀ item ∈ items, ∀ b, f item = some b → b = only) →
      (items.findSome? fun item => (f item).bind next) = (items.findSome? f).bind next := by
  intro items
  induction items with
  | nil => intro _; rfl
  | cons first others inductionHypothesis =>
      intro unique
      have later := inductionHypothesis fun item member =>
        unique item (List.mem_cons_of_mem first member)
      rw [List.findSome?_cons, List.findSome?_cons, later]
      cases here : f first with
      | none => rfl
      | some b =>
          have same : b = only := unique first List.mem_cons_self b here
          subst same
          cases found : next b with
          | some c => simp [found]
          | none =>
              simp only [Option.bind_some, found]
              cases rest : others.findSome? f with
              | none => rfl
              | some other =>
                  obtain ⟨item, member, itemFound⟩ := List.exists_of_findSome?_eq_some rest
                  have again := unique item (List.mem_cons_of_mem first member) other itemFound
                  rw [again, Option.bind_some, found]

/-- At one place, trying further keywords behind an opening that is never closed is in vain. -/
theorem head?_ways_unit {kinds : List (List Char)} (noBrace : ∀ kind ∈ kinds, '\x7b' ∉ kind)
    (previous : Option Char) (text : List Char) :
    ((unitPattern kinds).ways previous text).head? =
      (kinds.findSome? (opening? text)).bind closedAfter := by
  rw [unitPattern, Pattern.head?_ways_oneOf, List.findSome?_map]
  simp only [Function.comp_def, head?_ways_keyword]
  apply findSome?_bind_of_unique (opening? text) closedAfter
    (text.takeWhile (· ≠ '\x7b') ++ ['\x7b'], afterBrace text)
  intro kind member opened found
  exact opening?_unique (noBrace kind member) found

/-- At later places, trying further openings behind one that is never closed is in vain. -/
theorem search_unit {kinds : List (List Char)} (noBrace : ∀ kind ∈ kinds, '\x7b' ∉ kind)
    (text : List Char) :
    ∀ previous : Option Char, ((unitPattern kinds).search previous text).map (·.body) =
      (firstOpening kinds text).bind fun opened =>
        (throughClosing opened.2).map (opened.1 ++ ·) := by
  induction text with
  | nil =>
      intro previous
      have noOpening : kinds.findSome? (opening? []) = none := by
        rw [List.findSome?_eq_none_iff]
        intro kind _
        cases kind <;> simp [opening?]
      simp [Pattern.search, head?_ways_unit noBrace, noOpening, firstOpening]
  | cons c rest inductionHypothesis =>
      intro previous
      rw [Pattern.search, head?_ways_unit noBrace, firstOpening]
      cases here : kinds.findSome? (opening? (c :: rest)) with
      | none =>
          simp only [Option.bind_none, Option.map_map]
          exact inductionHypothesis (some c)
      | some opened =>
          rw [Option.bind_some, Option.bind_some, closedAfter]
          cases closed : throughClosing opened.2 with
          | some body => rfl
          | none =>
              obtain ⟨kind, member, fits⟩ := List.exists_of_findSome?_eq_some here
              have left := (Prod.mk.inj (opening?_unique (noBrace kind member) fits)).2
              have laterNone := inductionHypothesis (some c)
              have noneLater : (firstOpening kinds rest).bind (fun opened =>
                  (throughClosing opened.2).map (opened.1 ++ ·)) = none := by
                cases later : firstOpening kinds rest with
                | none => rfl
                | some second =>
                    have part := (firstOpening_rest noBrace later).trans
                      (afterBrace_suffix c rest)
                    rw [← left] at part
                    simp [throughClosing_none_of_suffix part closed]
              rw [noneLater, Option.map_eq_none_iff] at laterNone
              simp [laterNone]

/-- The two scans give the match of the pattern, or the whole text where it does not match. -/
theorem unitOrAll_eq_search {kinds : List (List Char)} (noBrace : ∀ kind ∈ kinds, '\x7b' ∉ kind)
    (text : List Char) :
    unitOrAll kinds text =
      match (unitPattern kinds).search none text with
      | some found => found.body
      | none => text := by
  have same := search_unit noBrace text none
  rw [unitOrAll]
  cases opened : firstOpening kinds text with
  | none =>
      rw [opened, Option.bind_none, Option.map_eq_none_iff] at same
      simp [same]
  | some opening =>
      cases closed : throughClosing opening.2 with
      | none =>
          rw [opened, Option.bind_some, closed, Option.map_none, Option.map_eq_none_iff] at same
          simp [same, closed]
      | some body =>
          rw [opened, Option.bind_some, closed, Option.map_some] at same
          obtain ⟨found, success, whole⟩ := Option.map_eq_some_iff.mp same
          simp [success, closed, whole]

/-! ## The lines of a unit -/

/-- Whether the lines of a text are those of a unit: the first begins with a keyword, the last is a
closing brace, and no other begins with one. -/
def IsUnit (kinds : List (List Char)) (block : List Char) : Prop :=
  ∃ first inside, lineCells block = first :: (inside ++ [['\x7d']]) ∧
    (∃ kind ∈ kinds, kind <+: first) ∧
    ∀ line ∈ first :: inside, ¬['\x7d'] <+: line

/-- Of the lines before the first closing brace behind a line feed, at most the very first can begin
with a closing brace. -/
theorem lineCells_closed (inside : List Char) (unclosed : ¬['\n', '\x7d'] <:+: inside ++ ['\n']) :
    ∃ first others, lineCells (inside ++ ['\n', '\x7d']) = first :: (others ++ [['\x7d']]) ∧
      (['\x7d'] <+: first → ['\x7d'] <+: inside) ∧ ∀ line ∈ others, ¬['\x7d'] <+: line := by
  induction inside with
  | nil => exact ⟨[], [], rfl, by simp, by simp⟩
  | cons c rest inductionHypothesis =>
      rw [List.cons_append, List.infix_cons_iff, not_or] at unclosed
      obtain ⟨notHere, notLater⟩ := unclosed
      obtain ⟨first, others, cut, firstBrace, noBrace⟩ := inductionHypothesis notLater
      by_cases feed : c = '\n'
      · subst feed
        refine ⟨[], first :: others, ?_, by simp, ?_⟩
        · rw [List.cons_append, lineCells_feed, cut, List.cons_append]
        · intro line member
          rcases List.mem_cons.mp member with rfl | member
          · intro brace
            obtain ⟨tail, rfl⟩ := firstBrace brace
            exact notHere (by simp)
          · exact noBrace line member
      · by_cases dropped : c = '\r' ∧ (rest ++ ['\n', '\x7d']).head? = some '\n'
        · obtain ⟨rfl, feedNext⟩ := dropped
          refine ⟨first, others, ?_, ?_, noBrace⟩
          · rw [List.cons_append, lineCells_return feedNext, cut]
          · intro brace
            obtain ⟨tail, rfl⟩ := firstBrace brace
            simp at feedNext
        · refine ⟨c :: first, others, ?_, ?_, noBrace⟩
          · rw [List.cons_append]
            exact lineCells_cons feed dropped cut
          · rintro ⟨tail, same⟩
            simp only [List.cons_append, List.cons.injEq] at same
            simp [← same.1]

/-- No closing brace comes to stand behind a line feed where text without one ends in another
brace. -/
theorem unclosed_behind (opening : List Char) (noBrace : '\x7d' ∉ opening) {text : List Char}
    (unclosed : ¬['\n', '\x7d'] <:+: text) :
    ¬['\n', '\x7d'] <:+: opening ++ '\x7b' :: text := by
  induction opening with
  | nil => simp [List.infix_cons_iff, unclosed]
  | cons c rest inductionHypothesis =>
      rw [List.mem_cons, not_or] at noBrace
      rw [List.cons_append, List.infix_cons_iff, not_or]
      refine ⟨?_, inductionHypothesis noBrace.2⟩
      rintro ⟨tail, same⟩
      simp only [List.cons_append, List.cons.injEq] at same
      cases rest with
      | nil => simp at same
      | cons d others =>
          simp only [List.cons_append, List.cons.injEq] at same
          exact noBrace.2 (by simp [← same.2.1])

/-- A keyword has a first character, and neither braces nor line breaks. -/
structure IsKeyword (kind : List Char) : Prop where
  nonempty : kind ≠ []
  noOpening : '\x7b' ∉ kind
  noClosing : '\x7d' ∉ kind
  noFeed : '\n' ∉ kind
  noReturn : '\r' ∉ kind

theorem isKeyword_of_isIdentifier {kind : List Char} (identifier : isIdentifier kind = true) :
    IsKeyword kind := by
  have continues : ∀ c ∈ kind, continuesIdentifier c = true := by
    cases kind with
    | nil => simp
    | cons c rest =>
        rw [isIdentifier, Bool.and_eq_true] at identifier
        intro d member
        rcases List.mem_cons.mp member with rfl | member
        · simp [continuesIdentifier, identifier.1]
        · exact List.all_eq_true.mp identifier.2 d member
  have excluded : ∀ c, continuesIdentifier c = false → c ∉ kind := by
    intro c strange member
    rw [continues c member] at strange
    cases strange
  refine ⟨?_, excluded _ ?_, excluded _ ?_, excluded _ ?_, excluded _ ?_⟩
  · rintro rfl
    cases identifier
  all_goals decide +kernel

theorem isUnit_of_opened {kinds : List (List Char)} (keywords : ∀ kind ∈ kinds, IsKeyword kind)
    {text opening rest body : List Char} (opened : firstOpening kinds text = some (opening, rest))
    (closed : throughClosing rest = some body) : IsUnit kinds (opening ++ body) := by
  induction text with
  | nil => simp [firstOpening] at opened
  | cons c others inductionHypothesis =>
      rw [firstOpening] at opened
      cases here : kinds.findSome? (opening? (c :: others)) with
      | none =>
          rw [here] at opened
          exact inductionHypothesis opened
      | some first =>
          rw [here] at opened
          cases Option.some.inj opened
          obtain ⟨kind, member, fits⟩ := List.exists_of_findSome?_eq_some here
          obtain ⟨gap, blanks, rfl, -⟩ := opening?_eq_some fits
          obtain ⟨inside, after, -, rfl, unclosed⟩ := throughClosing_eq_some closed
          have keyword := keywords kind member
          have noBrace : '\x7d' ∉ kind ++ gap := by
            rw [List.mem_append, not_or]
            exact ⟨keyword.noClosing, fun inGap => absurd (blanks _ inGap) (by decide)⟩
          have whole : ¬['\n', '\x7d'] <:+: (kind ++ gap ++ '\x7b' :: inside) ++ ['\n'] := by
            simpa using unclosed_behind (kind ++ gap) noBrace unclosed
          obtain ⟨line, lines, cut, lineBrace, noBraces⟩ := lineCells_closed _ whole
          refine ⟨line, lines, by simpa using cut, ⟨kind, member, ?_⟩, ?_⟩
          · -- The keyword has no line break, so it stands at the front of the first line.
            obtain ⟨front, later, tailCut⟩ := List.exists_cons_of_ne_nil
              (lineCells_ne_nil (gap ++ '\x7b' :: inside ++ ['\n', '\x7d']))
            have kindCut := lineCells_append kind keyword.noFeed keyword.noReturn tailCut
            have same : line = kind ++ front := by
              have both := cut.symm.trans (by simpa using kindCut)
              exact (List.cons.inj both).1
            exact ⟨front, same.symm⟩
          · intro other otherMember
            rcases List.mem_cons.mp otherMember with rfl | otherMember
            · intro brace
              obtain ⟨tail, same⟩ := lineBrace brace
              obtain ⟨d, letters, rfl⟩ := List.exists_cons_of_ne_nil keyword.nonempty
              simp only [List.cons_append, List.cons.injEq] at same
              exact keyword.noClosing (by simp [← same.1])
            · exact noBraces other otherMember

/-! ## The final unit of a dump -/

theorem keywords_of_ne_nil {kinds : List String} (some : kinds ≠ []) :
    keywords kinds = kinds.map String.toList := by
  rw [keywords, if_neg (by simpa using some)]

theorem isKeyword_of_mem_keywords {kinds : List String} (some : kinds ≠ [])
    (identifiers : ∀ kind ∈ kinds, isIdentifier kind.toList = true) :
    ∀ kind ∈ keywords kinds, IsKeyword kind := by
  rw [keywords_of_ne_nil some]
  intro kind member
  obtain ⟨name, nameMember, rfl⟩ := List.mem_map.mp member
  exact isKeyword_of_isIdentifier (identifiers name nameMember)

theorem isUnit_of_search {kinds : List (List Char)} (keywords : ∀ kind ∈ kinds, IsKeyword kind)
    {text : List Char} {found : Pattern.Found}
    (success : (unitPattern kinds).search none text = some found) : IsUnit kinds found.body := by
  have same := search_unit (fun kind member => (keywords kind member).noOpening) text none
  rw [success, Option.map_some] at same
  obtain ⟨opening, opened, inner⟩ := Option.bind_eq_some_iff.mp same.symm
  obtain ⟨body, closed, whole⟩ := Option.map_eq_some_iff.mp inner
  rw [← whole]
  exact isUnit_of_opened keywords opened closed

/-- The final unit is the leftmost match of the pattern in what follows the line of the last marker,
or all of that where the pattern does not match. -/
theorem finalText_eq_leftmost_match (marker : String) (kinds : List String) (text : String)
    (someKind : kinds ≠ []) (identifiers : ∀ kind ∈ kinds, isIdentifier kind.toList = true)
    (occurs : marker.toList <:+: text.toList) :
    ∃ found remainder block, BeginsAtLast marker.toList text.toList found ∧
      FollowsFirstFeed found remainder ∧
      finalText marker kinds text = some (String.ofList block) ∧
      match (unitPattern (kinds.map String.toList)).search none remainder with
      | some unit =>
          block = unit.body ∧ unit.before ++ unit.body ++ unit.rest = remainder ∧
            IsUnit (kinds.map String.toList) block
      | none => block = remainder := by
  have isSome : (lastOccurrence marker.toList text.toList).isSome = true := by
    rw [lastOccurrence_isSome, occursIn_iff]
    exact occurs
  obtain ⟨found, last⟩ := Option.isSome_iff_exists.mp isSome
  have keyword := isKeyword_of_mem_keywords someKind identifiers
  have noBrace : ∀ kind ∈ keywords kinds, '\x7b' ∉ kind :=
    fun kind member => (keyword kind member).noOpening
  refine ⟨found, afterFirstFeed found, unitOrAll (keywords kinds) (afterFirstFeed found),
    lastOccurrence_eq_some last, followsFirstFeed_afterFirstFeed found, ?_, ?_⟩
  · rw [finalText, finalCells, last, Option.map_some, Option.map_some]
  · rw [← keywords_of_ne_nil someKind, unitOrAll_eq_search noBrace]
    cases success : (unitPattern (keywords kinds)).search none (afterFirstFeed found) with
    | none => rfl
    | some unit =>
        exact ⟨rfl, Pattern.search_covers _ _ none unit success,
          isUnit_of_search keyword success⟩

/-- With a keyword that begins another, a line break before the brace, and a marker that comes
twice. -/
theorem finalText_eq_leftmost_match_twice :
    (∀ kind ∈ ["script", "scripted"], isIdentifier kind.toList = true) ∧
      "IR".toList <:+: "IR\nscript \x7b\n\x7d\nIR 2\nscripted\r\n \x7b\n\x7d\n".toList ∧
      ∃ found remainder block,
        BeginsAtLast "IR".toList
          "IR\nscript \x7b\n\x7d\nIR 2\nscripted\r\n \x7b\n\x7d\n".toList found ∧
        FollowsFirstFeed found remainder ∧
        finalText "IR" ["script", "scripted"]
          "IR\nscript \x7b\n\x7d\nIR 2\nscripted\r\n \x7b\n\x7d\n" =
            some (String.ofList block) ∧
        match (unitPattern (["script", "scripted"].map String.toList)).search none remainder with
        | some unit =>
            block = unit.body ∧ unit.before ++ unit.body ++ unit.rest = remainder ∧
              IsUnit (["script", "scripted"].map String.toList) block
        | none => block = remainder :=
  ⟨by decide +kernel, by decide,
    finalText_eq_leftmost_match "IR" ["script", "scripted"]
      "IR\nscript \x7b\n\x7d\nIR 2\nscripted\r\n \x7b\n\x7d\n" (by decide) (by decide +kernel)
      (by decide)⟩

end LineMap.Listing.IrDump
