import LineMap.Listing.AsmSection

/-!
# The lines of the assembly section

Where the section lies in a transcript is read off a division of the transcript: what stands before
the start line, that line, what stands behind it up to the end, and the rest.
-/

set_option autoImplicit false

namespace LineMap.Listing.AsmSection

open LineMap.Text

theorem findIdx?_eq_some_append {α : Type} {accepts : α → Bool} {items : List α} {index : Nat}
    (found : items.findIdx? accepts = some index) :
    ∃ before item after, items = before ++ item :: after ∧ before.length = index ∧
      accepts item = true ∧ ∀ other ∈ before, accepts other = false := by
  obtain ⟨inside, here, earlier⟩ := List.findIdx?_eq_some_iff_getElem.mp found
  refine ⟨items.take index, items[index], items.drop (index + 1), ?_, ?_, here, ?_⟩
  · rw [← List.drop_eq_getElem_cons inside, List.take_append_drop]
  · rw [List.length_take, Nat.min_eq_left (Nat.le_of_lt inside)]
  · intro other member
    obtain ⟨place, bound, rfl⟩ := List.mem_take_iff_getElem.mp member
    simpa using earlier place (by omega)

variable {startMarker endMarker : String}

/-- How the bounds divide the lines.  The start line is the first with the start marker, and no line
of the section behind it holds the end marker. -/
theorem bounds?_eq_some {lines : List (List Char)} {bounds : Bounds}
    (found : bounds? lines startMarker endMarker = some bounds) :
    ∃ before line inside after, lines = before ++ line :: (inside ++ after) ∧
      bounds = ⟨before.length, before.length + 1 + inside.length⟩ ∧
      holds startMarker line = true ∧ (∀ other ∈ before, holds startMarker other = false) ∧
      ∀ other ∈ inside, holds endMarker other = false := by
  rw [bounds?] at found
  cases starts : lines.findIdx? (holds startMarker) with
  | none => simp [starts] at found
  | some start =>
      obtain ⟨before, line, rest, rfl, rfl, here, earlier⟩ := findIdx?_eq_some_append starts
      have behind : (before ++ line :: rest).drop (before.length + 1) = rest := by
        simp [List.drop_append]
      simp only [starts, behind] at found
      cases ends : rest.findIdx? (holds endMarker) with
      | some offset =>
          obtain ⟨inside, last, after, rfl, rfl, -, unended⟩ := findIdx?_eq_some_append ends
          simp only [ends, Option.some.injEq] at found
          exact ⟨before, line, inside, last :: after, rfl, found.symm, here, earlier, unended⟩
      | none =>
          simp only [ends] at found
          split at found
          case isTrue => cases found
          case isFalse =>
            refine ⟨before, line, rest, [], by rw [List.append_nil], ?_, here, earlier,
              List.findIdx?_eq_none_iff.mp ends⟩
            rw [← Option.some.inj found, List.length_append, List.length_cons]
            congr 1
            omega

theorem between_append (before inside after : List (List Char)) (line : List Char) :
    between before.length (before.length + 1 + inside.length)
      (before ++ line :: (inside ++ after)) = line :: inside := by
  have behind : before.length + 1 + inside.length - before.length = inside.length + 1 := by omega
  simp [between, List.drop_take, behind]

/-- A section that begins with its start line and is not ended reaches through all lines. -/
theorem bounds?_cons {line : List Char} {inside : List (List Char)}
    (starts : holds startMarker line = true) (lineOpen : holds endMarker line = false)
    (insideOpen : ∀ other ∈ inside, holds endMarker other = false) :
    bounds? (line :: inside) startMarker endMarker = some ⟨0, inside.length + 1⟩ := by
  have first : (line :: inside).findIdx? (holds startMarker) = some 0 := by
    simp [List.findIdx?_cons, starts]
  have never : inside.findIdx? (holds endMarker) = none := List.findIdx?_eq_none_iff.mpr insideOpen
  simp [bounds?, first, never, lineOpen]

/-- Of a text that is all section, and has no blank lines, all lines are shown. -/
theorem extract?_eq_all {text : String} {line : List Char} {inside : List (List Char)}
    (whole : lineCells text.toList = line :: inside) (starts : holds startMarker line = true)
    (lineOpen : holds endMarker line = false)
    (insideOpen : ∀ other ∈ inside, holds endMarker other = false)
    (shown : ∀ other ∈ line :: inside, isBlankLine other = false) :
    extract? startMarker endMarker true text =
      some (unsourced ((line :: inside).map String.ofList)) := by
  have all : between 0 (inside.length + 1) (line :: inside) = line :: inside := by simp [between]
  have kept : (line :: inside).filter (fun other => !isBlankLine other) = line :: inside := by
    rw [List.filter_eq_self]
    intro other member
    rw [shown other member, Bool.not_false]
  simp only [extract?, whole, bounds?_cons starts lineOpen insideOpen, Option.map_some, if_true,
    all, kept]

end LineMap.Listing.AsmSection
