import LineMap.Proofs.Listing.FinalUnit

/-!
# The order of the kinds of units

The kinds of units are alternatives of one pattern, and alternatives are tried in the order in which
they are listed: where one begins another, their order decides in general which of them matches.
Behind a keyword come blanks and a brace, though, and a keyword contains neither.  At one place all
keywords that fit therefore lead to the same opening, the one through the first brace, and it does
not matter which of them is tried first or how often.
-/

set_option autoImplicit false

namespace LineMap.Text

/-- If all successes in a list are the same, only its members decide which one is found. -/
theorem findSome?_eq_of_unique {α β : Type} {f : α → Option β} {only : β} {items others : List α}
    (sameMembers : ∀ item, item ∈ items ↔ item ∈ others)
    (unique : ∀ item ∈ items, ∀ found, f item = some found → found = only) :
    items.findSome? f = others.findSome? f := by
  cases first : items.findSome? f with
  | none =>
      rw [List.findSome?_eq_none_iff] at first
      exact (List.findSome?_eq_none_iff.mpr fun item member =>
        first item ((sameMembers item).mpr member)).symm
  | some found =>
      obtain ⟨item, member, success⟩ := List.exists_of_findSome?_eq_some first
      have isSome : (others.findSome? f).isSome = true :=
        List.findSome?_isSome_iff.mpr ⟨item, (sameMembers item).mp member, by simp [success]⟩
      obtain ⟨second, secondFound⟩ := Option.isSome_iff_exists.mp isSome
      obtain ⟨other, otherMember, otherSuccess⟩ := List.exists_of_findSome?_eq_some secondFound
      rw [secondFound, unique item member found success,
        unique other ((sameMembers other).mpr otherMember) second otherSuccess]

theorem Pattern.search_congr {first second : Pattern}
    (sameHead : ∀ previous text, (first.ways previous text).head? =
      (second.ways previous text).head?) (text : List Char) :
    ∀ previous : Option Char, first.search previous text = second.search previous text := by
  induction text with
  | nil => exact fun previous => congrArg _ (sameHead previous [])
  | cons c rest inductionHypothesis =>
      intro previous
      rw [search, search, sameHead, inductionHypothesis]

end LineMap.Text

namespace LineMap.Listing.IrDump

open LineMap.Text

/-! ## The opening as the match of a pattern -/

def bracePattern : Pattern :=
  (Pattern.greedyRun isBlank).followedBy (.literal ['\x7b'])

def openingPattern (kinds : List (List Char)) : Pattern :=
  (Pattern.oneOf (kinds.map Pattern.literal)).followedBy bracePattern

/-- The run of blanks gives none of them back, since no blank is a brace. -/
theorem head?_ways_brace (text : List Char) :
    ∀ previous : Option Char, (bracePattern.ways previous text).head? =
      match text.dropWhile isBlank with
      | '\x7b' :: rest => some (text.takeWhile isBlank ++ ['\x7b'], rest)
      | _ => none := by
  induction text with
  | nil =>
      intro previous
      simp [bracePattern, Pattern.ways_greedyRun_nil, Pattern.ways]
  | cons c rest inductionHypothesis =>
      intro previous
      rw [bracePattern, Pattern.ways_greedyRun_cons, ← bracePattern]
      by_cases blank : isBlank c
      · have noBrace : '\x7b' ≠ c := by
          rintro rfl
          exact absurd blank (by decide)
        have noLiteral : (Pattern.literal ['\x7b']).ways previous (c :: rest) = [] := by
          simp [Pattern.ways, noBrace]
        rw [if_pos blank, noLiteral, List.append_nil, List.head?_map,
          inductionHypothesis (some c), List.dropWhile_cons_of_pos blank,
          List.takeWhile_cons_of_pos blank]
        split <;> rfl
      · rw [if_neg blank, List.nil_append, List.dropWhile_cons_of_neg blank,
          List.takeWhile_cons_of_neg blank]
        by_cases brace : c = '\x7b'
        · subst brace
          simp [Pattern.ways]
        · simp [Pattern.ways, brace, Ne.symm brace]

theorem head?_ways_kind (kind : List Char) (previous : Option Char) (text : List Char) :
    (((Pattern.literal kind).followedBy bracePattern).ways previous text).head? =
      opening? text kind := by
  rw [Pattern.ways_literal_followedBy, opening?]
  by_cases fits : kind.isPrefixOf text
  · rw [if_pos fits, if_pos fits, List.head?_map, head?_ways_brace]
    dsimp only
    cases behind : (text.drop kind.length).dropWhile isBlank with
    | nil => rfl
    | cons c rest =>
        by_cases brace : c = '\x7b'
        · simp [brace, Way.after]
        · simp [brace]
  · simp [fits]

theorem head?_ways_opening (kinds : List (List Char)) (previous : Option Char)
    (text : List Char) :
    ((openingPattern kinds).ways previous text).head? = kinds.findSome? (opening? text) := by
  rw [openingPattern, Pattern.head?_ways_oneOf, List.findSome?_map]
  simp only [Function.comp_def, head?_ways_kind]

theorem firstOpening_eq_search (kinds : List (List Char)) (text : List Char) :
    ∀ previous : Option Char, firstOpening kinds text =
      ((openingPattern kinds).search previous text).map fun found =>
        (found.body, found.rest) := by
  induction text with
  | nil =>
      intro previous
      have noOpening : kinds.findSome? (opening? []) = none := by
        rw [List.findSome?_eq_none_iff]
        intro kind _
        cases kind <;> simp [opening?]
      simp [Pattern.search, head?_ways_opening, noOpening, firstOpening]
  | cons c rest inductionHypothesis =>
      intro previous
      rw [firstOpening, Pattern.search, head?_ways_opening]
      cases kinds.findSome? (opening? (c :: rest)) with
      | some opened => rfl
      | none => simp [inductionHypothesis (some c), Option.map_map, Function.comp_def]

/-! ## The same kinds in another order -/

section SameKinds

variable {kinds others : List (List Char)}

theorem search_opening_congr (noBrace : ∀ kind ∈ kinds, '\x7b' ∉ kind)
    (sameMembers : ∀ kind, kind ∈ kinds ↔ kind ∈ others) (text : List Char)
    (previous : Option Char) :
    (openingPattern kinds).search previous text =
      (openingPattern others).search previous text := by
  apply Pattern.search_congr
  intro before place
  rw [head?_ways_opening, head?_ways_opening]
  apply findSome?_eq_of_unique sameMembers
  intro kind member opened found
  exact opening?_unique (noBrace kind member) found

theorem unitOrAll_congr (noBrace : ∀ kind ∈ kinds, '\x7b' ∉ kind)
    (sameMembers : ∀ kind, kind ∈ kinds ↔ kind ∈ others) (text : List Char) :
    unitOrAll kinds text = unitOrAll others text := by
  rw [unitOrAll, unitOrAll, firstOpening_eq_search kinds text none,
    firstOpening_eq_search others text none, search_opening_congr noBrace sameMembers]

end SameKinds

/-- Two lists of the same identifiers, in whatever order and however often each is listed, give the
same matches and the same lines. -/
theorem finalLines_eq_of_same_kinds (marker text : String) (kinds others : List String)
    (someKind : kinds ≠ []) (someOther : others ≠ [])
    (identifiers : ∀ kind ∈ kinds, isIdentifier kind.toList = true)
    (sameMembers : ∀ kind, kind ∈ kinds ↔ kind ∈ others) :
    (∀ remainder, (openingPattern (kinds.map String.toList)).search none remainder =
        (openingPattern (others.map String.toList)).search none remainder) ∧
      finalLines marker kinds text = finalLines marker others text := by
  have noBrace : ∀ kind ∈ kinds.map String.toList, '\x7b' ∉ kind := by
    rw [← keywords_of_ne_nil someKind]
    exact fun kind member => (isKeyword_of_mem_keywords someKind identifiers kind member).noOpening
  have sameKeywords : ∀ kind, kind ∈ kinds.map String.toList ↔ kind ∈ others.map String.toList := by
    intro kind
    simp only [List.mem_map, sameMembers]
  refine ⟨fun remainder => search_opening_congr noBrace sameKeywords remainder none, ?_⟩
  have sameUnit := unitOrAll_congr noBrace sameKeywords
  simp only [finalLines, finalCells, keywords_of_ne_nil someKind, keywords_of_ne_nil someOther,
    sameUnit]

/-- With a keyword that begins another, in both orders and listed twice. -/
theorem finalLines_eq_of_same_kinds_prefix :
    (∀ kind ∈ ["script", "scripted"], isIdentifier kind.toList = true) ∧
      (∀ kind, kind ∈ ["script", "scripted"] ↔ kind ∈ ["scripted", "script", "scripted"]) ∧
      (∀ remainder,
        (openingPattern (["script", "scripted"].map String.toList)).search none remainder =
          (openingPattern (["scripted", "script", "scripted"].map String.toList)).search none
            remainder) ∧
      finalLines "IR" ["script", "scripted"] "IR\nscripted\n \x7b\n\x7d\nscript \x7b\n\x7d\n" =
        finalLines "IR" ["scripted", "script", "scripted"]
          "IR\nscripted\n \x7b\n\x7d\nscript \x7b\n\x7d\n" := by
  have identifiers : ∀ kind ∈ ["script", "scripted"], isIdentifier kind.toList = true := by
    decide +kernel
  have sameMembers : ∀ kind : String,
      kind ∈ ["script", "scripted"] ↔ kind ∈ ["scripted", "script", "scripted"] := by
    intro kind
    grind
  exact ⟨identifiers, sameMembers,
    finalLines_eq_of_same_kinds "IR" "IR\nscripted\n \x7b\n\x7d\nscript \x7b\n\x7d\n"
      ["script", "scripted"] ["scripted", "script", "scripted"] (by decide) (by decide)
      identifiers sameMembers⟩

end LineMap.Listing.IrDump
