import LineMap.Proofs.Listing.FinalPart

/-!
# The line of the marker

The final unit is looked for behind the first line feed from the beginning of the last marker on.
That is behind the line on which the marker ends, unless the marker itself goes over several lines:
then its own later lines are searched, and may be given back.
-/

set_option autoImplicit false

namespace LineMap

open LineMap.Text

/-! ## Behind the first line feed -/

theorem Text.afterFirstFeed_append {front : List Char} (noFeed : '\n' ∉ front)
    (rest : List Char) : afterFirstFeed (front ++ rest) = afterFirstFeed rest := by
  induction front with
  | nil => rfl
  | cons c others inductionHypothesis =>
      rw [List.mem_cons, not_or] at noFeed
      rw [List.cons_append, afterFirstFeed_cons (Ne.symm noFeed.1), inductionHypothesis noFeed.2]

theorem Text.followsFirstFeed_iff (text remainder : List Char) :
    FollowsFirstFeed text remainder ↔ remainder = afterFirstFeed text := by
  constructor
  · rintro (⟨line, noFeed, rfl⟩ | ⟨noFeed, rfl⟩)
    · rw [afterFirstFeed_append noFeed, afterFirstFeed_feed]
    · have none := afterFirstFeed_append noFeed []
      rw [List.append_nil] at none
      exact none.symm
  · rintro rfl
    exact followsFirstFeed_afterFirstFeed text

theorem Text.BeginsAtLast.unique {needle text found other : List Char}
    (last : BeginsAtLast needle text found) (otherLast : BeginsAtLast needle text other) :
    found = other := by
  rcases List.suffix_or_suffix_of_suffix last.isSuffix otherLast.isSuffix with inside | inside
  · exact otherLast.isLast found inside last.isOccurrence
  · exact (last.isLast other inside otherLast.isOccurrence).symm

namespace Listing.IrDump

/-- Whether a text is what follows the line on which the last occurrence of the marker ends.  A line
feed at the end of the marker ends that line. -/
def FollowsMarkerLine (marker text remainder : List Char) : Prop :=
  ∃ opening last after, marker = opening ++ [last] ∧
    BeginsAtLast marker text (marker ++ after) ∧ FollowsFirstFeed (last :: after) remainder

theorem followsMarkerLine_iff {opening text after : List Char} {last : Char}
    (occurrence : BeginsAtLast (opening ++ [last]) text (opening ++ [last] ++ after))
    (remainder : List Char) :
    FollowsMarkerLine (opening ++ [last]) text remainder ↔
      remainder = afterFirstFeed (last :: after) := by
  rw [← followsFirstFeed_iff]
  constructor
  · rintro ⟨otherOpening, otherLast, otherAfter, sameMarker, otherOccurrence, follows⟩
    obtain ⟨rfl, sameLast⟩ := List.append_inj' sameMarker rfl
    obtain rfl : last = otherLast := (List.cons.inj sameLast).1
    obtain rfl : after = otherAfter :=
      List.append_cancel_left (occurrence.unique otherOccurrence)
    exact follows
  · intro follows
    exact ⟨opening, last, after, rfl, occurrence, follows⟩

/-- The first line feed from the beginning of the marker on ends the line of its last character
exactly if there is none before that character. -/
theorem afterFirstFeed_opening_iff (opening after : List Char) (last : Char) :
    afterFirstFeed (opening ++ last :: after) = afterFirstFeed (last :: after) ↔
      '\n' ∉ opening := by
  constructor
  · intro same feed
    obtain ⟨first, rest, rfl, noFeed⟩ := List.eq_append_cons_of_mem feed
    rw [List.append_assoc, List.cons_append, afterFirstFeed_append noFeed,
      afterFirstFeed_feed] at same
    have short := (afterFirstFeed_cons_isSuffix last after).length_le
    rw [← same, List.length_append, List.length_cons] at short
    omega
  · intro noFeed
    exact afterFirstFeed_append noFeed (last :: after)

theorem unitOrAll_ne_nil (kinds : List (List Char)) {text : List Char} (nonempty : text ≠ []) :
    unitOrAll kinds text ≠ [] := by
  rw [unitOrAll]
  cases opened : firstOpening kinds text with
  | none => exact nonempty
  | some found =>
      obtain ⟨opening, rest⟩ := found
      cases closed : throughClosing rest with
      | none => simpa [closed] using nonempty
      | some body =>
          obtain ⟨-, kind, gap, -, -, rfl, -⟩ := firstOpening_eq_some opened
          simp [closed]

/-! ## What is searched -/

/-- What is searched lies behind the line of the marker exactly if no line feed stands before the
marker's last character. -/
theorem followsMarkerLine_afterFirstFeed_iff {marker text after : List Char}
    (nonempty : marker ≠ []) (occurrence : BeginsAtLast marker text (marker ++ after)) :
    FollowsMarkerLine marker text (afterFirstFeed (marker ++ after)) ↔ '\n' ∉ marker.dropLast := by
  have divided := List.dropLast_concat_getLast nonempty
  generalize marker.dropLast = opening at divided ⊢
  generalize marker.getLast nonempty = last at divided
  subst divided
  rw [followsMarkerLine_iff occurrence, List.append_assoc, List.singleton_append,
    afterFirstFeed_opening_iff]

theorem exists_afterFirstFeed_eq {marker : List Char} (feed : '\n' ∈ marker.dropLast)
    (after : List Char) : ∃ first rest, marker = first ++ '\n' :: rest ∧ rest ≠ [] ∧
      afterFirstFeed (marker ++ after) = rest ++ after := by
  obtain ⟨first, rest, divided, noFeed⟩ := List.eq_append_cons_of_mem feed
  have nonempty : marker ≠ [] := by
    rintro rfl
    cases feed
  have whole := List.dropLast_concat_getLast nonempty
  rw [divided, List.append_assoc, List.cons_append] at whole
  generalize marker.getLast nonempty = last at whole
  subst whole
  refine ⟨first, rest ++ [last], rfl, by simp, ?_⟩
  rw [List.append_assoc, afterFirstFeed_append noFeed, List.cons_append, afterFirstFeed_feed]

theorem exists_finalText_eq {marker text : String} (occurs : marker.toList <:+: text.toList)
    (kinds : List String) :
    ∃ after, BeginsAtLast marker.toList text.toList (marker.toList ++ after) ∧
      finalText marker kinds text = some (String.ofList
        (unitOrAll (keywords kinds) (afterFirstFeed (marker.toList ++ after)))) := by
  have isSome : (lastOccurrence marker.toList text.toList).isSome = true := by
    rw [lastOccurrence_isSome, occursIn_iff]
    exact occurs
  obtain ⟨found, last⟩ := Option.isSome_iff_exists.mp isSome
  have occurrence := lastOccurrence_eq_some last
  obtain ⟨after, rfl⟩ := occurrence.isOccurrence
  refine ⟨after, occurrence, ?_⟩
  rw [finalText, finalCells, last, Option.map_some, Option.map_some]

/-- A text that is only the marker has the marker's later lines as its final unit. -/
theorem finalText_self_ne_nil {marker : String} (feed : '\n' ∈ marker.toList.dropLast)
    (kinds : List String) {block : String} (found : finalText marker kinds marker = some block) :
    block.toList ≠ [] := by
  obtain ⟨after, occurrence, shape⟩ :=
    exists_finalText_eq (List.infix_refl marker.toList) kinds
  obtain ⟨first, rest, -, nonempty, searched⟩ := exists_afterFirstFeed_eq feed after
  rw [shape, searched] at found
  cases Option.some.inj found
  rw [String.toList_ofList]
  exact unitOrAll_ne_nil _ fun empty => nonempty (List.append_eq_nil_iff.mp empty).1

/-- Behind the marker's line in a text that is only the marker is nothing. -/
theorem eq_nil_of_followsMarkerLine_self {marker remainder : List Char}
    (follows : FollowsMarkerLine marker marker remainder) : remainder = [] := by
  obtain ⟨opening, last, after, -, occurrence, behind⟩ := follows
  obtain rfl : after = [] := by
    have bound := occurrence.isSuffix.length_le
    rw [List.length_append] at bound
    exact List.eq_nil_of_length_eq_zero (by omega)
  rw [followsFirstFeed_iff] at behind
  rw [behind]
  exact List.suffix_nil.mp (afterFirstFeed_cons_isSuffix last [])

/-- What is given back is a part of what follows the line of the last marker, in every text, exactly
if no line feed stands before the last character of the marker.  Otherwise the lines of the marker
behind its first are searched too. -/
theorem finalText_behindMarkerLine_iff (marker : String) (kinds : List String)
    (nonempty : marker ≠ "") :
    ((∀ text, marker.toList <:+: text.toList → ∃ block remainder,
        finalText marker kinds text = some block ∧
        FollowsMarkerLine marker.toList text.toList remainder ∧ block.toList <:+: remainder) ↔
      '\n' ∉ marker.toList.dropLast) ∧
    ∀ text, marker.toList <:+: text.toList → ∃ after searched,
      BeginsAtLast marker.toList text.toList (marker.toList ++ after) ∧
      finalText marker kinds text =
        some (String.ofList (unitOrAll (keywords kinds) searched)) ∧
      (FollowsMarkerLine marker.toList text.toList searched ↔
        '\n' ∉ marker.toList.dropLast) ∧
      ('\n' ∈ marker.toList.dropLast → ∃ first rest, marker.toList = first ++ '\n' :: rest ∧
        rest ≠ [] ∧ searched = rest ++ after) := by
  have markerCells : marker.toList ≠ [] := mt String.toList_eq_nil_iff.mp nonempty
  refine ⟨⟨?_, ?_⟩, ?_⟩
  · intro behind feed
    obtain ⟨block, remainder, found, follows, part⟩ :=
      behind marker (List.infix_refl marker.toList)
    rw [eq_nil_of_followsMarkerLine_self follows, List.infix_nil] at part
    exact finalText_self_ne_nil feed kinds found part
  · intro noFeed text occurs
    obtain ⟨after, occurrence, found⟩ := exists_finalText_eq occurs kinds
    have follows := (followsMarkerLine_afterFirstFeed_iff markerCells occurrence).mpr noFeed
    refine ⟨_, _, found, follows, ?_⟩
    rw [String.toList_ofList]
    exact unitOrAll_isInfix _ _
  · intro text occurs
    obtain ⟨after, occurrence, found⟩ := exists_finalText_eq occurs kinds
    exact ⟨after, _, occurrence, found,
      followsMarkerLine_afterFirstFeed_iff markerCells occurrence,
      fun feed => exists_afterFirstFeed_eq feed after⟩

/-- The second line of a marker is given back. -/
theorem finalText_behindMarkerLine_iff_twoLines :
    "A\nB" ≠ "" ∧ '\n' ∈ "A\nB".toList.dropLast ∧
      finalText "A\nB" ["script"] "A\nB\nx" = some "B\nx" ∧
      ¬∀ text, "A\nB".toList <:+: text.toList → ∃ block remainder,
        finalText "A\nB" ["script"] text = some block ∧
        FollowsMarkerLine "A\nB".toList text.toList remainder ∧ block.toList <:+: remainder := by
  have twoLines : '\n' ∈ "A\nB".toList.dropLast := by decide
  refine ⟨by decide, twoLines, by decide, ?_⟩
  intro behind
  exact (finalText_behindMarkerLine_iff "A\nB" ["script"] (by decide)).1.mp behind twoLines

end Listing.IrDump

end LineMap
