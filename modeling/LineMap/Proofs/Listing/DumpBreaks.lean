import LineMap.Proofs.Listing.FinalPart
import LineMap.Proofs.Text.Breaks

/-!
# Line endings in a dump

The final unit is looked for in the text itself and only then cut into lines.  Each of the searches
gives the same for a text with line feeds only: a keyword holds no part of an ending, blanks hold
whole endings, and a closing brace stands behind the line feed of one.
-/

set_option autoImplicit false

namespace LineMap.Listing.IrDump

open LineMap.Text

theorem IsKeyword.breakFree {kind : List Char} (keyword : IsKeyword kind) : BreakFree kind :=
  ⟨keyword.noFeed, keyword.noReturn⟩

/-! ## The opening -/

def unifyOpened (opened : List Char × List Char) : List Char × List Char :=
  (unifyBreaks opened.1, unifyBreaks opened.2)

theorem opening?_unifyBreaks {kind : List Char} (breakFree : BreakFree kind) (text : List Char) :
    opening? (unifyBreaks text) kind = (opening? text kind).map unifyOpened := by
  rw [opening?, opening?, breakFree.isPrefixOf_unifyBreaks]
  by_cases fits : kind.isPrefixOf text = true
  · obtain ⟨after, rfl⟩ := List.isPrefixOf_iff_prefix.mp fits
    rw [if_pos fits, if_pos fits, breakFree.unifyBreaks_append, List.drop_left, List.drop_left]
    simp only [dropWhile_isBlank_unifyBreaks, takeWhile_isBlank_unifyBreaks]
    have sameBrace := head?_unifyBreaks_eq_some_iff (c := '\x7b') (by decide) (by decide)
      (after.dropWhile isBlank)
    split
    · rename_i rest brace
      obtain ⟨tail, whole⟩ := List.head?_eq_some_iff.mp (sameBrace.mp (by rw [brace]; rfl))
      rw [whole, unifyBreaks_cons_of_ne (by decide)] at brace
      have opening : unifyBreaks (kind ++ (after.takeWhile isBlank ++ ['\x7b'])) =
          kind ++ (unifyBreaks (after.takeWhile isBlank) ++ ['\x7b']) := by
        rw [breakFree.unifyBreaks_append, unifyBreaks_append _ ['\x7b'] (by simp),
          unifyBreaks_of_notMem (show '\r' ∉ ['\x7b'] by decide)]
      simp [whole, unifyOpened, opening, (List.cons.inj brace).2]
    · rename_i noBrace
      split
      · rename_i rest brace
        have first := sameBrace.mpr (by rw [brace]; rfl)
        obtain ⟨tail, whole⟩ := List.head?_eq_some_iff.mp first
        exact absurd whole (noBrace tail)
      · rfl
  · rw [if_neg fits, if_neg fits, Option.map_none]

theorem opening?_return {kind : List Char} (breakFree : BreakFree kind) (nonempty : kind ≠ [])
    (rest : List Char) : opening? ('\r' :: rest) kind = none := by
  rw [opening?, if_neg]
  rw [List.isPrefixOf_iff_prefix]
  exact breakFree.not_prefix_return nonempty rest

private theorem findSome?_map_of_forall {α β : Type} {f g : α → Option β} (change : β → β) :
    ∀ items : List α, (∀ item ∈ items, g item = (f item).map change) →
      items.findSome? g = (items.findSome? f).map change := by
  intro items same
  induction items with
  | nil => rfl
  | cons item others inductionHypothesis =>
      have later := inductionHypothesis fun other member =>
        same other (List.mem_cons_of_mem item member)
      rw [List.findSome?_cons, List.findSome?_cons, same item List.mem_cons_self, later]
      cases f item <;> rfl

variable {kinds : List (List Char)}

theorem firstOpening_unifyBreaks (keyword : ∀ kind ∈ kinds, IsKeyword kind) (text : List Char) :
    firstOpening kinds (unifyBreaks text) = (firstOpening kinds text).map unifyOpened := by
  induction text with
  | nil => rfl
  | cons c rest inductionHypothesis =>
      by_cases dropped : c = '\r' ∧ rest.head? = some '\n'
      · obtain ⟨rfl, feed⟩ := dropped
        have notHere : kinds.findSome? (opening? ('\r' :: rest)) = none := by
          rw [List.findSome?_eq_none_iff]
          intro kind member
          exact opening?_return (keyword kind member).breakFree (keyword kind member).nonempty rest
        rw [unifyBreaks_return feed, inductionHypothesis, firstOpening, notHere]
      · have kept := unifyBreaks_keep dropped
        have here : kinds.findSome? (opening? (unifyBreaks (c :: rest))) =
            (kinds.findSome? (opening? (c :: rest))).map unifyOpened :=
          findSome?_map_of_forall unifyOpened kinds fun kind member =>
            opening?_unifyBreaks (keyword kind member).breakFree (c :: rest)
        rw [kept] at here
        rw [kept, firstOpening, firstOpening, here]
        cases kinds.findSome? (opening? (c :: rest)) with
        | some opened => rfl
        | none => exact inductionHypothesis

/-! ## The closing brace -/

theorem head?_throughClosing {text body : List Char} (closed : throughClosing text = some body) :
    body.head? = text.head? := by
  obtain ⟨after, rfl⟩ := throughClosing_isPrefix closed
  have nonempty : body ≠ [] := by
    obtain ⟨inside, -, -, rfl, -⟩ := throughClosing_eq_some closed
    simp
  obtain ⟨c, others, rfl⟩ := List.exists_cons_of_ne_nil nonempty
  rfl

theorem throughClosing_unifyBreaks (text : List Char) :
    throughClosing (unifyBreaks text) = (throughClosing text).map unifyBreaks := by
  induction text with
  | nil => rfl
  | cons c rest inductionHypothesis =>
      -- What is found in the rest begins as the rest does, so the same breaks are dropped.
      have behind : ∀ body, throughClosing rest = some body → unifyBreaks (c :: body) =
          if c = '\r' ∧ rest.head? = some '\n' then unifyBreaks body else c :: unifyBreaks body := by
        intro body closed
        rw [unifyBreaks_cons, head?_throughClosing closed]
      by_cases dropped : c = '\r' ∧ rest.head? = some '\n'
      · obtain ⟨rfl, feed⟩ := dropped
        rw [unifyBreaks_return feed, inductionHypothesis, throughClosing,
          if_neg fun both => absurd both.1 (by decide)]
        cases closed : throughClosing rest with
        | none => rfl
        | some body => simp [behind body closed, feed]
      · have sameBrace := head?_unifyBreaks_eq_some_iff (c := '\x7d') (by decide) (by decide) rest
        rw [unifyBreaks_keep dropped, throughClosing, throughClosing, inductionHypothesis]
        simp only [sameBrace]
        split
        · rfl
        · cases closed : throughClosing rest with
          | none => rfl
          | some body => simp [behind body closed, dropped]

/-! ## The final unit -/

theorem unitOrAll_unifyBreaks (keyword : ∀ kind ∈ kinds, IsKeyword kind) (text : List Char) :
    unitOrAll kinds (unifyBreaks text) = unifyBreaks (unitOrAll kinds text) := by
  rw [unitOrAll, unitOrAll, firstOpening_unifyBreaks keyword]
  cases opened : firstOpening kinds text with
  | none => rfl
  | some found =>
      obtain ⟨opening, rest⟩ := found
      simp only [Option.map_some, unifyOpened, throughClosing_unifyBreaks]
      cases closed : throughClosing rest with
      | none => rfl
      | some body =>
          obtain ⟨-, kind, gap, -, -, shape, -⟩ := firstOpening_eq_some opened
          have whole : ¬(opening.getLast? = some '\r' ∧ body.head? = some '\n') := by
            simp [shape]
          simp [unifyBreaks_append opening body whole]

theorem finalCells_unifyBreaks {marker : String} {kinds : List String} (nonempty : marker ≠ "")
    (breakFree : BreakFree marker.toList) (someKind : kinds ≠ [])
    (identifiers : ∀ kind ∈ kinds, isIdentifier kind.toList = true) (text : List Char) :
    finalCells marker kinds (unifyBreaks text) =
      (finalCells marker kinds text).map unifyBreaks := by
  have keyword := isKeyword_of_mem_keywords someKind identifiers
  have markerCells : marker.toList ≠ [] := mt String.toList_eq_nil_iff.mp nonempty
  rw [finalCells, finalCells, breakFree.lastOccurrence_unifyBreaks markerCells, Option.map_map,
    Option.map_map]
  congr 1
  funext suffix
  simp only [Function.comp_apply]
  rw [afterFirstFeed_unifyBreaks, unitOrAll_unifyBreaks keyword]

end LineMap.Listing.IrDump
