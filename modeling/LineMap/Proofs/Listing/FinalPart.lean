import LineMap.Proofs.Listing.FinalUnit

/-!
# The final unit as a part of the dump

Whatever the keywords are, the final unit is a part of what follows the line of the last marker.
All of that lies behind the place where the marker begins, so the marker does not occur in it.
-/

set_option autoImplicit false

namespace LineMap.Listing.IrDump

open LineMap.Text

theorem throughClosing_isPrefix {text body : List Char}
    (closed : throughClosing text = some body) : body <+: text := by
  obtain ⟨inside, rest, rfl, rfl, -⟩ := throughClosing_eq_some closed
  exact ⟨rest, by simp⟩

theorem firstOpening_eq_some {kinds : List (List Char)} {text opening rest : List Char}
    (opened : firstOpening kinds text = some (opening, rest)) :
    ∃ before kind gap, kind ∈ kinds ∧ (∀ c ∈ gap, isBlank c = true) ∧
      opening = kind ++ gap ++ ['\x7b'] ∧ text = before ++ (opening ++ rest) := by
  induction text with
  | nil => cases opened
  | cons c others inductionHypothesis =>
      rw [firstOpening] at opened
      cases here : kinds.findSome? (opening? (c :: others)) with
      | some first =>
          rw [here] at opened
          cases Option.some.inj opened
          obtain ⟨kind, member, fits⟩ := List.exists_of_findSome?_eq_some here
          obtain ⟨gap, blanks, shape, whole⟩ := opening?_eq_some fits
          exact ⟨[], kind, gap, member, blanks, shape, whole⟩
      | none =>
          rw [here] at opened
          obtain ⟨before, kind, gap, member, blanks, shape, whole⟩ := inductionHypothesis opened
          exact ⟨c :: before, kind, gap, member, blanks, shape, by rw [whole, List.cons_append]⟩

theorem unitOrAll_isInfix (kinds : List (List Char)) (text : List Char) :
    unitOrAll kinds text <:+: text := by
  rw [unitOrAll]
  cases opened : firstOpening kinds text with
  | none => exact List.infix_rfl
  | some found =>
      obtain ⟨opening, rest⟩ := found
      cases closed : throughClosing rest with
      | none => simp [closed]
      | some body =>
          obtain ⟨before, -, -, -, -, -, rfl⟩ := firstOpening_eq_some opened
          obtain ⟨after, rfl⟩ := throughClosing_isPrefix closed
          simp only [closed]
          exact ⟨before, after, by simp⟩

theorem afterFirstFeed_isSuffix (text : List Char) : afterFirstFeed text <:+ text :=
  (List.drop_suffix 1 _).trans (List.dropWhile_suffix _)

theorem afterFirstFeed_cons_isSuffix (c : Char) (rest : List Char) :
    afterFirstFeed (c :: rest) <:+ rest := by
  by_cases feed : c = '\n'
  · subst feed
    simp only [afterFirstFeed_feed, List.suffix_rfl]
  · rw [afterFirstFeed_cons feed]
    exact afterFirstFeed_isSuffix rest

theorem finalCells_eq_some {marker : String} {kinds : List String} {text block : List Char}
    (found : finalCells marker kinds text = some block) :
    ∃ suffix, BeginsAtLast marker.toList text suffix ∧
      block = unitOrAll (keywords kinds) (afterFirstFeed suffix) := by
  obtain ⟨suffix, last, rfl⟩ := Option.map_eq_some_iff.mp found
  exact ⟨suffix, lastOccurrence_eq_some last, rfl⟩

theorem finalCells_isInfix {marker : String} {kinds : List String} {text block : List Char}
    (found : finalCells marker kinds text = some block) : block <:+: text := by
  obtain ⟨suffix, last, rfl⟩ := finalCells_eq_some found
  have inside : afterFirstFeed suffix <:+ text :=
    (afterFirstFeed_isSuffix suffix).trans last.isSuffix
  exact (unitOrAll_isInfix _ _).trans inside.isInfix

/-- The part of a text behind the line of the last occurrence holds no further occurrence. -/
theorem not_isInfix_afterFirstFeed {needle text suffix : List Char} (nonempty : needle ≠ [])
    (last : BeginsAtLast needle text suffix) : ¬needle <:+: afterFirstFeed suffix := by
  intro occurs
  obtain ⟨c, rest, rfl⟩ := List.exists_cons_of_ne_nil fun empty : suffix = [] =>
    nonempty (List.prefix_nil.mp (empty ▸ last.isOccurrence))
  obtain ⟨later, atLater, part⟩ := List.infix_iff_prefix_suffix.mp occurs
  have laterInRest : later <:+ rest := part.trans (afterFirstFeed_cons_isSuffix c rest)
  have same := last.isLast later (laterInRest.trans (List.suffix_cons c rest)) atLater
  have tooLong := laterInRest.length_le
  rw [same, List.length_cons] at tooLong
  omega

theorem finalCells_finalCells {marker : String} {kinds : List String} {text block : List Char}
    (nonempty : marker.toList ≠ []) (found : finalCells marker kinds text = some block) :
    finalCells marker kinds block = none := by
  obtain ⟨suffix, last, rfl⟩ := finalCells_eq_some found
  rw [finalCells, Option.map_eq_none_iff, ← Option.not_isSome_iff_eq_none, lastOccurrence_isSome,
    occursIn_iff]
  intro occurs
  exact not_isInfix_afterFirstFeed nonempty last (occurs.trans (unitOrAll_isInfix _ _))

/-- The empty marker occurs everywhere, but behind the line of its last occurrence is nothing. -/
theorem finalCells_eq_nil {marker : String} {kinds : List String} {text block : List Char}
    (empty : marker.toList = []) (found : finalCells marker kinds text = some block) :
    block = [] := by
  obtain ⟨suffix, last, rfl⟩ := finalCells_eq_some found
  rw [empty] at last
  have atEnd : [] = suffix := last.isLast [] List.nil_suffix List.nil_prefix
  rw [← atEnd]
  rfl

theorem getD_finalCells_finalCells {marker : String} {kinds : List String}
    {text block : List Char} (found : finalCells marker kinds text = some block) :
    (finalCells marker kinds block).getD block = block := by
  by_cases empty : marker.toList = []
  · cases again : finalCells marker kinds block with
    | none => rw [Option.getD_none]
    | some inner =>
        rw [Option.getD_some, finalCells_eq_nil empty again, finalCells_eq_nil empty found]
  · rw [finalCells_finalCells empty found, Option.getD_none]

end LineMap.Listing.IrDump
