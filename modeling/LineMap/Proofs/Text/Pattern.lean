/-!
# Text patterns

Patterns in the usual notation for matching text, read by backtracking: a pattern gives all the ways
in which it matches at one place, in the order in which they are tried.  Searching takes the first
way at the first place where there is one.
-/

set_option autoImplicit false

namespace LineMap.Text

/-- A pattern.  A greedy run tries long matches first, a lazy run short ones. -/
inductive Pattern where
  | literal (cells : List Char)
  | greedyRun (inClass : Char → Bool)
  | lazyRun (inClass : Char → Bool)
  | lineStart
  | never
  | either (first second : Pattern)
  | followedBy (first second : Pattern)

/-- One way in which a pattern matches at a place: the text that it takes and what is left. -/
abbrev Way : Type := List Char × List Char

def Way.after (taken : List Char) (way : Way) : Way :=
  (taken ++ way.1, way.2)

/-- The runs of a class at the beginning of a text, the shortest first. -/
def runs (inClass : Char → Bool) : List Char → List Way
  | [] => [([], [])]
  | c :: rest =>
      ([], c :: rest) ::
        if inClass c then (runs inClass rest).map (Way.after [c]) else []

/-- Whether a line begins behind a character; one begins where there is none. -/
def beginsLine (previous : Option Char) : Bool :=
  previous.all (· = '\n')

namespace Pattern

def oneOf (alternatives : List Pattern) : Pattern :=
  alternatives.foldr either never

/-- The ways in which a pattern matches at the beginning of a text, in the order in which they are
tried; the previous character decides whether a line begins there. -/
def ways : Pattern → Option Char → List Char → List Way
  | literal cells, _, text =>
      if cells.isPrefixOf text then [(cells, text.drop cells.length)] else []
  | greedyRun inClass, _, text => (runs inClass text).reverse
  | lazyRun inClass, _, text => runs inClass text
  | lineStart, previous, text => if beginsLine previous then [([], text)] else []
  | never, _, _ => []
  | either first second, previous, text =>
      first.ways previous text ++ second.ways previous text
  | followedBy first second, previous, text =>
      (first.ways previous text).flatMap fun way =>
        (second.ways (way.1.getLast?.or previous) way.2).map (Way.after way.1)

/-- A place where a pattern matches: what stands before the match, the match, and what follows. -/
structure Found where
  before : List Char
  body : List Char
  rest : List Char

/-- The match at the first place where there is one. -/
def search (pattern : Pattern) : Option Char → List Char → Option Found
  | previous, [] => (pattern.ways previous []).head?.map fun way => ⟨[], way.1, way.2⟩
  | previous, c :: text =>
      match (pattern.ways previous (c :: text)).head? with
      | some way => some ⟨[], way.1, way.2⟩
      | none =>
          (pattern.search (some c) text).map fun found =>
            { found with before := c :: found.before }

end Pattern

/-! ## What a match covers -/

/-- The runs of a class are the parts that begin a text and are all in the class. -/
theorem mem_runs_iff (inClass : Char → Bool) (text : List Char) (way : Way) :
    way ∈ runs inClass text ↔ (∀ c ∈ way.1, inClass c = true) ∧ way.1 ++ way.2 = text := by
  induction text generalizing way with
  | nil =>
      rw [runs, List.mem_singleton, List.append_eq_nil_iff, Prod.ext_iff]
      exact ⟨fun empty => ⟨by simp [empty.1], empty⟩, And.right⟩
  | cons c rest inductionHypothesis =>
      rw [runs, List.mem_cons]
      constructor
      · rintro (rfl | member)
        · exact ⟨nofun, rfl⟩
        · by_cases inside : inClass c
          · rw [if_pos inside, List.mem_map] at member
            obtain ⟨inner, innerMember, rfl⟩ := member
            obtain ⟨allInside, cover⟩ := (inductionHypothesis inner).mp innerMember
            exact ⟨List.forall_mem_cons.mpr ⟨inside, allInside⟩, congrArg (c :: ·) cover⟩
          · simp [inside] at member
      · rintro ⟨allInside, cover⟩
        obtain ⟨run, left⟩ := way
        cases run with
        | nil => exact .inl (congrArg (Prod.mk []) cover)
        | cons d others =>
            obtain ⟨rfl, rfl⟩ := List.cons.inj cover
            obtain ⟨inside, othersInside⟩ := List.forall_mem_cons.mp allInside
            rw [if_pos inside]
            exact .inr (List.mem_map_of_mem
              ((inductionHypothesis (others, left)).mpr ⟨othersInside, rfl⟩))

theorem runs_cover (inClass : Char → Bool) (text : List Char) :
    ∀ way ∈ runs inClass text, way.1 ++ way.2 = text :=
  fun way member => ((mem_runs_iff inClass text way).mp member).2

namespace Pattern

theorem ways_cover (pattern : Pattern) :
    ∀ (previous : Option Char) (text : List Char),
      ∀ way ∈ pattern.ways previous text, way.1 ++ way.2 = text := by
  induction pattern with
  | literal cells =>
      intro previous text way member
      simp only [ways] at member
      split at member
      · rename_i fits
        obtain ⟨rest, rfl⟩ := List.isPrefixOf_iff_prefix.mp fits
        rw [List.mem_singleton] at member
        subst member
        simp
      · simp at member
  | greedyRun inClass =>
      intro previous text way member
      exact runs_cover inClass text way (List.mem_reverse.mp member)
  | lazyRun inClass =>
      intro previous text way member
      exact runs_cover inClass text way member
  | lineStart =>
      intro previous text way member
      simp only [ways] at member
      split at member
      · rw [List.mem_singleton] at member
        subst member
        rfl
      · simp at member
  | never =>
      intro previous text way member
      simp [ways] at member
  | either first second firstHypothesis secondHypothesis =>
      intro previous text way member
      rcases List.mem_append.mp member with member | member
      · exact firstHypothesis previous text way member
      · exact secondHypothesis previous text way member
  | followedBy first second firstHypothesis secondHypothesis =>
      intro previous text way member
      simp only [ways, List.mem_flatMap, List.mem_map] at member
      obtain ⟨opening, openingMember, closing, closingMember, rfl⟩ := member
      have openingCovers := firstHypothesis previous text opening openingMember
      have closingCovers := secondHypothesis _ _ closing closingMember
      rw [Way.after, List.append_assoc, closingCovers, openingCovers]

theorem search_covers (pattern : Pattern) (text : List Char) :
    ∀ (previous : Option Char) (found : Found), pattern.search previous text = some found →
      found.before ++ found.body ++ found.rest = text := by
  induction text with
  | nil =>
      intro previous found success
      obtain ⟨way, first, rfl⟩ := Option.map_eq_some_iff.mp success
      simpa using pattern.ways_cover previous [] way (List.mem_of_head? first)
  | cons c rest inductionHypothesis =>
      intro previous found success
      rw [search] at success
      cases here : (pattern.ways previous (c :: rest)).head? with
      | some way =>
          rw [here] at success
          cases Option.some.inj success
          simpa using pattern.ways_cover previous _ way (List.mem_of_head? here)
      | none =>
          rw [here] at success
          obtain ⟨later, laterFound, rfl⟩ := Option.map_eq_some_iff.mp success
          simpa using inductionHypothesis (some c) later laterFound

/-! ## One pattern behind another -/

private theorem map_after_nil (found : List Way) : found.map (Way.after []) = found := by
  have same : Way.after [] = id := by
    funext way
    rfl
  rw [same, List.map_id]

private theorem flatMap_map_after (next : Pattern) (previous : Option Char) (c : Char)
    (openings : List Way) :
    ((openings.map (Way.after [c])).flatMap fun way =>
        (next.ways (way.1.getLast?.or previous) way.2).map (Way.after way.1)) =
      (openings.flatMap fun way =>
        (next.ways (way.1.getLast?.or (some c)) way.2).map (Way.after way.1)).map
          (Way.after [c]) := by
  induction openings with
  | nil => rfl
  | cons way others inductionHypothesis =>
      have last : (Way.after [c] way).1.getLast?.or previous =
          way.1.getLast?.or (some c) := by
        simp only [Way.after, List.singleton_append, List.getLast?_cons]
        cases way.1.getLast? <;> rfl
      have composed : Way.after (Way.after [c] way).1 = Way.after [c] ∘ Way.after way.1 := by
        funext inner
        simp [Way.after]
      rw [List.map_cons, List.flatMap_cons, List.flatMap_cons, List.map_append,
        inductionHypothesis, last, composed, List.map_map]
      rfl

theorem ways_lazyRun_nil (inClass : Char → Bool) (next : Pattern) (previous : Option Char) :
    ((lazyRun inClass).followedBy next).ways previous [] = next.ways previous [] := by
  simp [ways, runs, map_after_nil]

theorem ways_lazyRun_cons (inClass : Char → Bool) (next : Pattern) (previous : Option Char)
    (c : Char) (rest : List Char) :
    ((lazyRun inClass).followedBy next).ways previous (c :: rest) =
      next.ways previous (c :: rest) ++
        if inClass c then
          (((lazyRun inClass).followedBy next).ways (some c) rest).map (Way.after [c])
        else [] := by
  simp only [ways, runs, List.flatMap_cons, List.getLast?_nil, Option.none_or, map_after_nil]
  congr 1
  by_cases inside : inClass c
  · rw [if_pos inside, if_pos inside, flatMap_map_after]
  · simp [inside]

theorem ways_greedyRun_nil (inClass : Char → Bool) (next : Pattern) (previous : Option Char) :
    ((greedyRun inClass).followedBy next).ways previous [] = next.ways previous [] := by
  simp [ways, runs, map_after_nil]

theorem ways_greedyRun_cons (inClass : Char → Bool) (next : Pattern) (previous : Option Char)
    (c : Char) (rest : List Char) :
    ((greedyRun inClass).followedBy next).ways previous (c :: rest) =
      (if inClass c then
        (((greedyRun inClass).followedBy next).ways (some c) rest).map (Way.after [c])
      else []) ++ next.ways previous (c :: rest) := by
  simp only [ways, runs, List.reverse_cons, List.flatMap_append, List.flatMap_cons,
    List.flatMap_nil, List.append_nil, List.getLast?_nil, Option.none_or, map_after_nil]
  congr 1
  by_cases inside : inClass c
  · rw [if_pos inside, if_pos inside, ← List.map_reverse, flatMap_map_after]
  · simp [inside]

theorem ways_literal_followedBy (cells : List Char) (next : Pattern) (previous : Option Char)
    (text : List Char) :
    ((literal cells).followedBy next).ways previous text =
      if cells.isPrefixOf text then
        (next.ways (cells.getLast?.or previous) (text.drop cells.length)).map (Way.after cells)
      else [] := by
  by_cases fits : cells.isPrefixOf text <;> simp [ways, fits]

/-- The first way of several alternatives with something behind them is that of the first
alternative that has one. -/
theorem head?_ways_oneOf (alternatives : List Pattern) (next : Pattern)
    (previous : Option Char) (text : List Char) :
    (((oneOf alternatives).followedBy next).ways previous text).head? =
      alternatives.findSome? fun first => ((first.followedBy next).ways previous text).head? := by
  induction alternatives with
  | nil => rfl
  | cons first others inductionHypothesis =>
      have unfolded : ((oneOf (first :: others)).followedBy next).ways previous text =
          (first.followedBy next).ways previous text ++
            ((oneOf others).followedBy next).ways previous text := by
        simp only [ways, oneOf, List.foldr_cons, List.flatMap_append]
      rw [unfolded, List.head?_append, inductionHypothesis, List.findSome?_cons]
      cases ((first.followedBy next).ways previous text).head? <;> rfl

end Pattern

end LineMap.Text
