import LineMap.Proofs.Listing.SectionLines
import LineMap.Proofs.Text.Search
import Mathlib.Order.Bounds.Basic

/-!
# The bounds of the assembly section

The section begins at the first line with the start marker.  It ends at the first later line with
the end marker, or with the transcript if no line at all has one.  What is shown of it depends on
nothing before the start and, where an end marker follows, on nothing behind that.
-/

set_option autoImplicit false

namespace LineMap.Listing.AsmSection

open LineMap.Text

def HoldsAt (marker : String) (lines : List (List Char)) (index : Nat) : Prop :=
  ∃ line, lines[index]? = some line ∧ marker.toList <:+: line

/-- Where a section lies: it starts at the first start marker, and stops at the first end marker
behind that, or at the end of lines that have no end marker anywhere. -/
structure IsSection (startMarker endMarker : String) (lines : List (List Char))
    (bounds : Bounds) : Prop where
  startsFirst : IsLeast {index | HoldsAt startMarker lines index} bounds.start
  stops : IsLeast {index | bounds.start < index ∧ HoldsAt endMarker lines index} bounds.stop ∨
    ((∀ index, ¬HoldsAt endMarker lines index) ∧ bounds.stop = lines.length)

/-! ## Lines with a marker -/

theorem holds_iff (marker : String) (line : List Char) :
    holds marker line = true ↔ marker.toList <:+: line :=
  occursIn_iff marker.toList line

variable {marker startMarker endMarker : String} {lines : List (List Char)}

theorem HoldsAt.lt_length {index : Nat} (here : HoldsAt marker lines index) :
    index < lines.length := by
  obtain ⟨line, found, -⟩ := here
  exact (List.getElem?_eq_some_iff.mp found).1

theorem holdsAt_iff_getElem {index : Nat} (inside : index < lines.length) :
    HoldsAt marker lines index ↔ holds marker lines[index] = true := by
  simp [HoldsAt, holds_iff, inside]

theorem holdsAt_drop (low index : Nat) :
    HoldsAt marker (lines.drop low) index ↔ HoldsAt marker lines (low + index) := by
  simp [HoldsAt]

/-- Among the lines from one on, the search finds the first with the marker. -/
theorem findIdx?_drop_eq_some_iff (low offset : Nat) :
    (lines.drop low).findIdx? (holds marker) = some offset ↔
      IsLeast {index | low ≤ index ∧ HoldsAt marker lines index} (low + offset) := by
  rw [List.findIdx?_eq_some_iff_getElem]
  constructor
  · rintro ⟨inside, here, earlier⟩
    rw [← holdsAt_iff_getElem inside, holdsAt_drop] at here
    refine ⟨⟨Nat.le_add_right low offset, here⟩, ?_⟩
    rintro index ⟨above, other⟩
    by_contra below
    obtain ⟨step, rfl⟩ := Nat.exists_eq_add_of_le above
    have before : step < offset := by omega
    apply earlier step before
    rw [← holdsAt_iff_getElem, holdsAt_drop]
    exact other
  · rintro ⟨⟨-, here⟩, least⟩
    rw [← holdsAt_drop] at here
    refine ⟨here.lt_length, (holdsAt_iff_getElem here.lt_length).mp here, ?_⟩
    intro step before other
    rw [← holdsAt_iff_getElem, holdsAt_drop] at other
    have bound := least ⟨Nat.le_add_right low step, other⟩
    omega

theorem findIdx?_drop_eq_none_iff (low : Nat) :
    (lines.drop low).findIdx? (holds marker) = none ↔
      ∀ index, low ≤ index → ¬HoldsAt marker lines index := by
  rw [List.findIdx?_eq_none_iff]
  constructor
  · intro never index above here
    obtain ⟨step, rfl⟩ := Nat.exists_eq_add_of_le above
    rw [← holdsAt_drop] at here
    obtain ⟨line, found, occurs⟩ := here
    have absent := never line (List.mem_of_getElem? found)
    rw [(holds_iff marker line).mpr occurs] at absent
    cases absent
  · intro never line member
    obtain ⟨step, found⟩ := List.mem_iff_getElem?.mp member
    rw [Bool.eq_false_iff, ne_eq, holds_iff]
    intro occurs
    exact never (low + step) (Nat.le_add_right low step)
      ((holdsAt_drop low step).mp ⟨line, found, occurs⟩)

theorem findIdx?_eq_some_iff_isLeast (index : Nat) :
    lines.findIdx? (holds marker) = some index ↔
      IsLeast {index | HoldsAt marker lines index} index := by
  have fromTop : (lines.drop 0).findIdx? (holds marker) = some index ↔
      IsLeast {index | 0 ≤ index ∧ HoldsAt marker lines index} (0 + index) :=
    findIdx?_drop_eq_some_iff 0 index
  simpa using fromTop

theorem any_take_iff (count : Nat) :
    (lines.take count).any (holds marker) = true ↔
      ∃ index, index < count ∧ HoldsAt marker lines index := by
  rw [List.any_eq_true]
  constructor
  · rintro ⟨line, member, occurs⟩
    obtain ⟨index, inside, rfl⟩ := List.mem_take_iff_getElem.mp member
    have below : index < lines.length := by omega
    exact ⟨index, by omega, (holdsAt_iff_getElem below).mpr occurs⟩
  · rintro ⟨index, below, here⟩
    have inside := here.lt_length
    refine ⟨lines[index], ?_, (holdsAt_iff_getElem inside).mp here⟩
    exact List.mem_take_iff_getElem.mpr ⟨index, lt_min below here.lt_length, rfl⟩

/-! ## The bounds -/

theorem IsSection.start_lt_stop {bounds : Bounds}
    (found : IsSection startMarker endMarker lines bounds) : bounds.start < bounds.stop := by
  rcases found.stops with last | ⟨-, atEnd⟩
  · exact last.1.1
  · rw [atEnd]
    exact found.startsFirst.1.lt_length

theorem IsSection.stop_le_length {bounds : Bounds}
    (found : IsSection startMarker endMarker lines bounds) : bounds.stop ≤ lines.length := by
  rcases found.stops with last | ⟨-, atEnd⟩
  · exact Nat.le_of_lt last.1.2.lt_length
  · exact Nat.le_of_eq atEnd

theorem IsSection.unique {bounds others : Bounds}
    (found : IsSection startMarker endMarker lines bounds)
    (alsoFound : IsSection startMarker endMarker lines others) : bounds = others := by
  obtain ⟨start, stop⟩ := bounds
  obtain ⟨otherStart, otherStop⟩ := others
  obtain rfl : start = otherStart := found.startsFirst.unique alsoFound.startsFirst
  congr 1
  rcases found.stops with last | ⟨never, atEnd⟩
  · rcases alsoFound.stops with otherLast | ⟨never, -⟩
    · exact last.unique otherLast
    · exact absurd last.1.2 (never stop)
  · rcases alsoFound.stops with otherLast | ⟨-, otherAtEnd⟩
    · exact absurd otherLast.1.2 (never otherStop)
    · exact atEnd.trans otherAtEnd.symm

theorem isSection_of_bounds? {bounds : Bounds}
    (found : bounds? lines startMarker endMarker = some bounds) :
    IsSection startMarker endMarker lines bounds := by
  rw [bounds?] at found
  cases starts : lines.findIdx? (holds startMarker) with
  | none => simp [starts] at found
  | some start =>
      have first := (findIdx?_eq_some_iff_isLeast start).mp starts
      cases ends : (lines.drop (start + 1)).findIdx? (holds endMarker) with
      | some offset =>
          simp only [starts, ends, Option.some.injEq] at found
          subst found
          exact ⟨first, .inl ((findIdx?_drop_eq_some_iff (start + 1) offset).mp ends)⟩
      | none =>
          simp only [starts, ends] at found
          split at found
          case isTrue => cases found
          case isFalse notBefore =>
            cases Option.some.inj found
            refine ⟨first, .inr ⟨?_, rfl⟩⟩
            intro index here
            by_cases before : index < start + 1
            · exact notBefore ((any_take_iff (start + 1)).mpr ⟨index, before, here⟩)
            · exact (findIdx?_drop_eq_none_iff (start + 1)).mp ends index (by omega) here

/-- There is no section without a start marker, nor where an end marker stands, but none behind the
start. -/
theorem bounds?_eq_none_iff :
    bounds? lines startMarker endMarker = none ↔
      (∀ index, ¬HoldsAt startMarker lines index) ∨
        ∃ start, IsLeast {index | HoldsAt startMarker lines index} start ∧
          (∃ index, HoldsAt endMarker lines index) ∧
          ∀ index, HoldsAt endMarker lines index → index ≤ start := by
  rw [bounds?]
  cases starts : lines.findIdx? (holds startMarker) with
  | none =>
      have never : ∀ index, 0 ≤ index → ¬HoldsAt startMarker lines index :=
        (findIdx?_drop_eq_none_iff 0).mp starts
      exact iff_of_true rfl (.inl fun index => never index (Nat.zero_le index))
  | some start =>
      have first := (findIdx?_eq_some_iff_isLeast start).mp starts
      cases ends : (lines.drop (start + 1)).findIdx? (holds endMarker) with
      | some offset =>
          have last := (findIdx?_drop_eq_some_iff (start + 1) offset).mp ends
          simp only [ends]
          refine iff_of_false (Option.some_ne_none _) ?_
          rintro (never | ⟨other, otherFirst, -, before⟩)
          · exact never start first.1
          · rw [otherFirst.unique first] at before
            have tooFar := before _ last.1.2
            omega
      | none =>
          have notLater := (findIdx?_drop_eq_none_iff (start + 1)).mp ends
          have bounded : ∀ index, HoldsAt endMarker lines index → index ≤ start := by
            intro index here
            by_contra later
            exact notLater index (by omega) here
          simp only [ends]
          split
          case isTrue before =>
            obtain ⟨index, -, here⟩ := (any_take_iff (start + 1)).mp before
            exact iff_of_true rfl (.inr ⟨start, first, ⟨index, here⟩, bounded⟩)
          case isFalse notBefore =>
            refine iff_of_false (Option.some_ne_none _) ?_
            rintro (never | ⟨-, -, ⟨index, here⟩, -⟩)
            · exact never start first.1
            · have before := bounded index here
              exact notBefore ((any_take_iff (start + 1)).mpr ⟨index, by omega, here⟩)

theorem bounds?_eq_some_iff (bounds : Bounds) :
    bounds? lines startMarker endMarker = some bounds ↔
      IsSection startMarker endMarker lines bounds := by
  refine ⟨isSection_of_bounds?, ?_⟩
  intro isSection
  cases found : bounds? lines startMarker endMarker with
  | some others => rw [isSection.unique (isSection_of_bounds? found)]
  | none =>
      rcases bounds?_eq_none_iff.mp found with never | ⟨start, first, ⟨index, here⟩, before⟩
      · exact absurd isSection.startsFirst.1 (never bounds.start)
      · rcases isSection.stops with last | ⟨never, -⟩
        · have behind := last.1.1
          rw [isSection.startsFirst.unique first] at behind
          have bound := before _ last.1.2
          omega
        · exact absurd here (never index)

/-! ## The lines of the section -/

/-- What is shown of a section: the lines in it that are not blank, with its start line before them
if that is wanted and not blank. -/
def shown (includeStart : Bool) (line : List Char) (inside : List (List Char)) :
    List (List Char) :=
  (if includeStart && !isBlankLine line then [line] else []) ++
    inside.filter fun other => !isBlankLine other

theorem filter_between {before inside after : List (List Char)} {line : List Char}
    (includeStart : Bool) :
    (between (if includeStart then before.length else before.length + 1)
        (before.length + 1 + inside.length) (before ++ line :: (inside ++ after))).filter
          (fun other => !isBlankLine other) = shown includeStart line inside := by
  cases includeStart with
  | true =>
      rw [if_pos rfl, between_append, List.filter_cons, shown, Bool.true_and]
      split <;> rfl
  | false =>
      have behind : before.length + 1 + inside.length - (before.length + 1) = inside.length := by
        omega
      simp [between, List.drop_take, behind, shown]

theorem extract?_eq_some {text : String} {before inside after : List (List Char)}
    {line : List Char} (whole : lineCells text.toList = before ++ line :: (inside ++ after))
    (found : bounds? (lineCells text.toList) startMarker endMarker =
      some ⟨before.length, before.length + 1 + inside.length⟩) (includeStart : Bool) :
    extract? startMarker endMarker includeStart text =
      some (unsourced ((shown includeStart line inside).map String.ofList)) := by
  simp only [extract?, found, Option.map_some]
  rw [whole, filter_between]

theorem extract?_eq_none_iff (text : String) (includeStart : Bool) :
    extract? startMarker endMarker includeStart text = none ↔
      bounds? (lineCells text.toList) startMarker endMarker = none :=
  Option.map_eq_none_iff

/-- A section that is ended lies between the first start line and the next end line, whatever stands
around them. -/
theorem bounds?_append {before inside after : List (List Char)} {line last : List Char}
    (notBefore : ∀ other ∈ before, holds startMarker other = false)
    (starts : holds startMarker line = true)
    (insideOpen : ∀ other ∈ inside, holds endMarker other = false)
    (ends : holds endMarker last = true) :
    bounds? (before ++ line :: (inside ++ last :: after)) startMarker endMarker =
      some ⟨before.length, before.length + 1 + inside.length⟩ := by
  have never := List.findIdx?_eq_none_iff.mpr notBefore
  have open' := List.findIdx?_eq_none_iff.mpr insideOpen
  have first : (before ++ line :: (inside ++ last :: after)).findIdx? (holds startMarker) =
      some before.length := by
    simp [List.findIdx?_append, never, List.findIdx?_cons, starts]
  have behind : (before ++ line :: (inside ++ last :: after)).drop (before.length + 1) =
      inside ++ last :: after := by
    simp [List.drop_append]
  have next : (inside ++ last :: after).findIdx? (holds endMarker) = some inside.length := by
    simp [List.findIdx?_append, open', List.findIdx?_cons, ends]
  simp only [bounds?, first, behind, next]

theorem exists_division {bounds : Bounds}
    (found : bounds? lines startMarker endMarker = some bounds)
    (ended : HoldsAt endMarker lines bounds.stop) :
    ∃ before line inside last after, lines = before ++ line :: (inside ++ last :: after) ∧
      bounds = ⟨before.length, before.length + 1 + inside.length⟩ ∧
      holds startMarker line = true ∧ (∀ other ∈ inside, holds endMarker other = false) ∧
      holds endMarker last = true := by
  obtain ⟨before, line, inside, after, rfl, rfl, starts, -, insideOpen⟩ := bounds?_eq_some found
  obtain ⟨last, atStop, occurs⟩ := ended
  dsimp only at atStop
  have next : after[0]? = some last := by
    have later : before.length + 1 + inside.length - before.length = inside.length + 1 := by omega
    rw [List.getElem?_append_right (by omega), later, List.getElem?_cons_succ,
      List.getElem?_append_right (Nat.le_refl _), Nat.sub_self] at atStop
    exact atStop
  cases after with
  | nil => cases next
  | cons other rest =>
      cases Option.some.inj next
      exact ⟨before, line, inside, last, rest, rfl, rfl, starts, insideOpen,
        (holds_iff endMarker last).mpr occurs⟩

theorem extract?_replaced {text other : String} {bounds : Bounds} {front back : List (List Char)}
    (found : bounds? (lineCells text.toList) startMarker endMarker = some bounds)
    (ended : HoldsAt endMarker (lineCells text.toList) bounds.stop)
    (notInFront : ∀ line ∈ front, ¬startMarker.toList <:+: line)
    (replaced : lineCells other.toList =
      front ++ ((lineCells text.toList).take (bounds.stop + 1)).drop bounds.start ++ back)
    (includeStart : Bool) :
    extract? startMarker endMarker includeStart other =
      extract? startMarker endMarker includeStart text := by
  obtain ⟨before, line, inside, last, after, whole, rfl, starts, insideOpen, ends⟩ :=
    exists_division found ended
  have kept : ((lineCells text.toList).take (before.length + 1 + inside.length + 1)).drop
      before.length = line :: (inside ++ [last]) := by
    have count : before.length + 1 + inside.length + 1 - before.length =
        inside.length + 1 + 1 := by omega
    rw [whole, List.drop_take, count, List.drop_left, List.take_succ_cons, List.take_append,
      List.take_of_length_le (Nat.le_succ inside.length), Nat.add_sub_cancel_left]
    rfl
  have otherWhole : lineCells other.toList = front ++ line :: (inside ++ last :: back) := by
    rw [replaced, kept]
    simp
  have notBefore : ∀ line ∈ front, holds startMarker line = false := by
    intro line member
    rw [Bool.eq_false_iff, ne_eq, holds_iff]
    exact notInFront line member
  have otherFound : bounds? (front ++ line :: (inside ++ last :: back)) startMarker endMarker =
      some ⟨front.length, front.length + 1 + inside.length⟩ :=
    bounds?_append notBefore starts insideOpen ends
  rw [← otherWhole] at otherFound
  rw [extract?_eq_some otherWhole otherFound, extract?_eq_some whole found]

/-- The section starts at the first start marker and ends at the next end marker, or with lines that
have no end marker at all.  Shown are its lines that are not blank, which do not change with what
stands before the start or behind the end. -/
theorem extract?_shows_section (startMarker endMarker : String) :
    (∀ lines bounds, bounds? lines startMarker endMarker = some bounds ↔
        IsSection startMarker endMarker lines bounds) ∧
      (∀ lines, bounds? lines startMarker endMarker = none ↔
        (∀ index, ¬HoldsAt startMarker lines index) ∨
          ∃ start, IsLeast {index | HoldsAt startMarker lines index} start ∧
            (∃ index, HoldsAt endMarker lines index) ∧
            ∀ index, HoldsAt endMarker lines index → index ≤ start) ∧
      (∀ lines bounds, bounds? lines startMarker endMarker = some bounds →
        bounds.start < bounds.stop ∧ bounds.stop ≤ lines.length) ∧
      (∀ text includeStart, extract? startMarker endMarker includeStart text = none ↔
        bounds? (lineCells text.toList) startMarker endMarker = none) ∧
      (∀ text bounds, bounds? (lineCells text.toList) startMarker endMarker = some bounds →
        ∃ before line inside after,
          lineCells text.toList = before ++ line :: (inside ++ after) ∧
          bounds = ⟨before.length, before.length + 1 + inside.length⟩ ∧
          ∀ includeStart, extract? startMarker endMarker includeStart text =
            some (unsourced ((shown includeStart line inside).map String.ofList))) ∧
      ∀ text other bounds front back,
        bounds? (lineCells text.toList) startMarker endMarker = some bounds →
        HoldsAt endMarker (lineCells text.toList) bounds.stop →
        (∀ line ∈ front, ¬startMarker.toList <:+: line) →
        lineCells other.toList =
          front ++ ((lineCells text.toList).take (bounds.stop + 1)).drop bounds.start ++ back →
        ∀ includeStart, extract? startMarker endMarker includeStart other =
          extract? startMarker endMarker includeStart text := by
  refine ⟨?_, ?_, ?_, ?_, ?_, ?_⟩
  · intro lines bounds
    exact bounds?_eq_some_iff bounds
  · intro lines
    exact bounds?_eq_none_iff
  · intro lines bounds found
    have isSection := isSection_of_bounds? found
    exact ⟨isSection.start_lt_stop, isSection.stop_le_length⟩
  · intro text includeStart
    exact extract?_eq_none_iff text includeStart
  · intro text bounds found
    obtain ⟨before, line, inside, after, whole, rfl, -⟩ := bounds?_eq_some found
    exact ⟨before, line, inside, after, whole, rfl, extract?_eq_some whole found⟩
  · intro text other bounds front back found ended notInFront replaced includeStart
    exact extract?_replaced found ended notInFront replaced includeStart

/-- A transcript in which an end marker also stands before the start, and another with the same
section. -/
theorem extract?_shows_section_transcript :
    bounds? (lineCells "end\n>go end\n\nmove\nend\n>go".toList) ">go" "end" = some ⟨1, 4⟩ ∧
      IsSection ">go" "end" (lineCells "end\n>go end\n\nmove\nend\n>go".toList) ⟨1, 4⟩ ∧
      HoldsAt "end" (lineCells "end\n>go end\n\nmove\nend\n>go".toList) 4 ∧
      (∀ line ∈ ["a".toList], ¬">go".toList <:+: line) ∧
      extract? ">go" "end" true "end\n>go end\n\nmove\nend\n>go" =
        some [⟨">go end", none⟩, ⟨"move", none⟩] ∧
      extract? ">go" "end" true "a\n>go end\n\nmove\nend\nend\nb" =
        extract? ">go" "end" true "end\n>go end\n\nmove\nend\n>go" := by
  obtain ⟨bounded, -, -, -, -, unchanged⟩ := extract?_shows_section ">go" "end"
  have found : bounds? (lineCells "end\n>go end\n\nmove\nend\n>go".toList) ">go" "end" =
      some ⟨1, 4⟩ := by decide
  have isSection := (bounded _ _).mp found
  have ended : HoldsAt "end" (lineCells "end\n>go end\n\nmove\nend\n>go".toList) 4 :=
    ⟨"end".toList, by decide, by decide⟩
  refine ⟨found, isSection, ended, by decide, by decide, ?_⟩
  exact unchanged _ _ _ ["a".toList] ["end".toList, "b".toList] found ended (by decide) (by decide)
    true

end LineMap.Listing.AsmSection
