import LineMap.Proofs.Listing.CarryForward
import LineMap.Proofs.Text.Breaks

/-!
# Listings behind one another

A listing behind another is read as if it stood alone, except for the plain lines that begin it:
they have the location that is in force at the end of the one before.  So listings that begin with a
frame header, an annotation or an empty line are read each on its own.
-/

set_option autoImplicit false

namespace LineMap.Listing.Annotated

open LineMap.Text

def carriedPast (known : Option Int) (lines : List Classified) : Option Int :=
  lines.foldl (fun carried line => carry carried line.kind line.annotated) known

/-! ## Following from one listing into the next -/

theorem follow_append (known : Option Int) (front rest : List Classified) :
    follow known (front ++ rest) = follow known front ++ follow (carriedPast known front) rest := by
  induction front generalizing known with
  | nil => rfl
  | cons line others inductionHypothesis =>
      rw [List.cons_append, follow, follow, inductionHypothesis, List.cons_append]
      rfl

theorem classifyAll_append {front rest : List (List Char)} {items others : List Classified}
    (first : classifyAll front = .ok items) (second : classifyAll rest = .ok others) :
    classifyAll (front ++ rest) = .ok (items ++ others) := by
  induction front generalizing items with
  | nil =>
      cases Except.ok.inj first
      exact second
  | cons line lines inductionHypothesis =>
      obtain ⟨kind, annotated, later, classified, laterClassified, rfl⟩ :=
        classifyAll_cons_eq_ok first
      rw [List.cons_append, classifyAll, classified, inductionHypothesis laterClassified]
      rfl

/-- What is carried past a line that is not plain does not depend on what was carried before. -/
theorem carry_of_ne_plain {kind : LineKind} (notPlain : kind ≠ .plain) (known : Option Int)
    (annotated : Option Int) : carry known kind annotated = carry none kind annotated := by
  cases kind with
  | plain => exact absurd rfl notPlain
  | frame => rfl
  | blank => rfl
  | marking => rfl

def isPlain (line : List Char) : Bool :=
  match classify line with
  | .ok (.plain, _) => true
  | _ => false

/-- The lines of a listing behind another: the plain ones that begin it have the location that is
carried into it. -/
def carriedInto (carried : Option Int) (cells : List (List Char)) (lines : List OutputLine) :
    List OutputLine :=
  let plain := (cells.takeWhile isPlain).length
  (lines.take plain).map (fun line => { line with source? := locate carried }) ++
    lines.drop plain

theorem carriedInto_cons_of_isPlain (carried : Option Int) {cell : List Char}
    (plain : isPlain cell = true) (cells : List (List Char)) (line : OutputLine)
    (lines : List OutputLine) :
    carriedInto carried (cell :: cells) (line :: lines) =
      { line with source? := locate carried } :: carriedInto carried cells lines := by
  simp [carriedInto, plain]

theorem carriedInto_of_not_isPlain (carried : Option Int) {cell : List Char}
    (notPlain : isPlain cell = false) (cells : List (List Char)) (lines : List OutputLine) :
    carriedInto carried (cell :: cells) lines = lines := by
  simp [carriedInto, notPlain]

/-- A listing that is followed with a line in hand differs only in the plain lines that begin it. -/
theorem follow_eq_carriedInto {cells : List (List Char)} {items : List Classified}
    (classified : classifyAll cells = .ok items) (known : Option Int) :
    follow known items = carriedInto known cells (follow none items) := by
  induction cells generalizing items with
  | nil =>
      cases Except.ok.inj classified
      rfl
  | cons cell rest inductionHypothesis =>
      obtain ⟨kind, annotated, others, here, later, rfl⟩ := classifyAll_cons_eq_ok classified
      by_cases plain : kind = .plain
      · subst plain
        have isPlain : isPlain cell = true := by rw [Annotated.isPlain, here]
        rw [follow, follow, carriedInto_cons_of_isPlain known isPlain]
        exact congrArg _ (inductionHypothesis later)
      · have notPlain : isPlain cell = false := by
          rw [Annotated.isPlain, here]
          cases kind <;> first | rfl | exact absurd rfl plain
        rw [carriedInto_of_not_isPlain known notPlain, follow, follow,
          carry_of_ne_plain plain known]

theorem not_endsCarry_of_isPlain {line : List Char} (noFeed : '\n' ∉ line)
    (plain : isPlain line = true) : ¬EndsCarry line := by
  rw [isPlain] at plain
  split at plain
  case h_1 annotated classified =>
    have kept := (carry_eq_some_iff noFeed classified (some 0) 0).mp rfl
    rcases kept with annotates | ⟨-, open'⟩
    · have none := (carry_eq_some_iff noFeed classified none 0).mpr (.inl annotates)
      cases none
    · exact open'
  case h_2 => cases plain

/-! ## What is in force at the end -/

theorem carriedPast_eq_some_iff {cell : List Char} {cells : List (List Char)}
    (noFeed : ∀ line ∈ cell :: cells, '\n' ∉ line) {items : List Classified}
    (classified : classifyAll (cell :: cells) = .ok items) (known : Option Int) (number : Int) :
    carriedPast known items = some number ↔
      InForce (cell :: cells) cells.length number ∨
        (known = some number ∧ Undisturbed (cell :: cells) cells.length) := by
  induction cells generalizing cell items known with
  | nil =>
      obtain ⟨kind, annotated, others, here, later, rfl⟩ := classifyAll_cons_eq_ok classified
      cases Except.ok.inj later
      rw [List.length_nil, inForce_cons_zero, undisturbed_cons_zero]
      exact carry_eq_some_iff (noFeed cell List.mem_cons_self) here known number
  | cons second rest inductionHypothesis =>
      obtain ⟨kind, annotated, others, here, later, rfl⟩ := classifyAll_cons_eq_ok classified
      obtain ⟨cellNoFeed, restNoFeed⟩ := List.forall_mem_cons.mp noFeed
      have rest := inductionHypothesis restNoFeed later (carry known kind annotated)
      rw [carry_eq_some_iff cellNoFeed here] at rest
      rw [List.length_cons, inForce_cons_succ, undisturbed_cons_succ]
      refine Iff.trans rest ?_
      rw [or_and_right, and_assoc, or_assoc]

/-! ## One listing behind another -/

/-- Whether what was carried before a listing is of no account for it: its first line is a frame
header, an annotation or empty. -/
def StartsAfresh (text : String) : Prop :=
  ∃ line rest, lineCells text.toList = line :: rest ∧ EndsCarry line

theorem lineCells_append_break {first : String} (noReturn : first.toList.getLast? ≠ some '\r')
    (second : String) : lineCells (first ++ "\n" ++ second).toList =
      lineCells first.toList ++ lineCells second.toList := by
  have whole : (first ++ "\n" ++ second).toList = first.toList ++ '\n' :: second.toList := by simp
  rw [whole, lineCells_append_feed first.toList second.toList noReturn]

theorem StartsAfresh.append_break {first : String} (afresh : StartsAfresh first)
    (noReturn : first.toList.getLast? ≠ some '\r') (second : String) :
    StartsAfresh (first ++ "\n" ++ second) := by
  obtain ⟨line, rest, cut, ends⟩ := afresh
  refine ⟨line, rest ++ lineCells second.toList, ?_, ends⟩
  rw [lineCells_append_break noReturn, cut, List.cons_append]

theorem exists_parse_append {first second : String} {firstLines secondLines : List OutputLine}
    (noReturn : first.toList.getLast? ≠ some '\r') (firstParsed : parse first = .ok firstLines)
    (secondParsed : parse second = .ok secondLines) :
    ∃ carried : Option Int,
      (∀ number, carried = some number ↔
        InForce (lineCells first.toList) ((lineCells first.toList).length - 1) number) ∧
      parse (first ++ "\n" ++ second) =
        .ok (firstLines ++ carriedInto carried (lineCells second.toList) secondLines) := by
  obtain ⟨items, classified, rfl⟩ := Result.map_eq_ok_iff.mp firstParsed
  obtain ⟨others, otherClassified, rfl⟩ := Result.map_eq_ok_iff.mp secondParsed
  refine ⟨carriedPast none items, ?_, ?_⟩
  · intro number
    have noFeed := feed_notMem_lineCells first.toList
    obtain ⟨cell, cells, cut⟩ := List.exists_cons_of_ne_nil (lineCells_ne_nil first.toList)
    rw [cut] at classified noFeed ⊢
    rw [carriedPast_eq_some_iff noFeed classified]
    simp
  · rw [parse, lineCells_append_break noReturn, classifyAll_append classified otherClassified,
      Except.map, follow_append, follow_eq_carriedInto otherClassified (carriedPast none items)]

theorem StartsAfresh.parse_append {first second : String}
    {firstLines secondLines : List OutputLine} (afresh : StartsAfresh second)
    (noReturn : first.toList.getLast? ≠ some '\r') (firstParsed : parse first = .ok firstLines)
    (secondParsed : parse second = .ok secondLines) :
    parse (first ++ "\n" ++ second) = .ok (firstLines ++ secondLines) := by
  obtain ⟨carried, -, whole⟩ := exists_parse_append noReturn firstParsed secondParsed
  obtain ⟨line, rest, cut, ends⟩ := afresh
  have noFeed : '\n' ∉ line := feed_notMem_lineCells second.toList line (by simp [cut])
  have notPlain : isPlain line = false :=
    Bool.eq_false_iff.mpr fun plain => not_endsCarry_of_isPlain noFeed plain ends
  rw [whole, cut, carriedInto_of_not_isPlain carried notPlain]

/-- A listing can be read part by part, if each part but the first begins with a line that ends what
was carried. -/
theorem parse_intercalate {parts : List String} (nonempty : parts ≠ [])
    (noReturn : ∀ part ∈ parts.dropLast, part.toList.getLast? ≠ some '\r')
    (afresh : ∀ part ∈ parts.tail, StartsAfresh part) {pieces : List (List OutputLine)}
    (parsed : parts.mapM parse = .ok pieces) :
    parse ("\n".intercalate parts) = .ok pieces.flatten := by
  induction parts generalizing pieces with
  | nil => exact absurd rfl nonempty
  | cons first others inductionHypothesis =>
      rw [List.mapM_cons] at parsed
      obtain ⟨firstLines, firstParsed, parsed⟩ := Result.bind_eq_ok_iff.mp parsed
      obtain ⟨later, laterParsed, whole⟩ := Result.bind_eq_ok_iff.mp parsed
      cases Except.ok.inj whole
      cases others with
      | nil =>
          cases Except.ok.inj laterParsed
          rw [String.intercalate_singleton, firstParsed]
          simp
      | cons second rest =>
          rw [List.dropLast_cons_cons] at noReturn
          obtain ⟨firstNoReturn, restNoReturn⟩ := List.forall_mem_cons.mp noReturn
          obtain ⟨secondAfresh, restAfresh⟩ := List.forall_mem_cons.mp afresh
          have restParsed :=
            inductionHypothesis (List.cons_ne_nil second rest) restNoReturn restAfresh laterParsed
          have restStarts : StartsAfresh ("\n".intercalate (second :: rest)) := by
            cases rest with
            | nil =>
                rw [String.intercalate_singleton]
                exact secondAfresh
            | cons third more =>
                rw [String.intercalate_cons_cons]
                exact secondAfresh.append_break
                  (restNoReturn second (by simp [List.dropLast_cons_cons])) _
          rw [String.intercalate_cons_cons, List.flatten_cons]
          exact restStarts.parse_append firstNoReturn firstParsed restParsed

/-- Two listings with a line feed between them are read one after the other.  The plain lines that
begin the second have the location of the annotation that is in force at the end of the first; where
there are none, the two have nothing to do with each other, and so any number of parts. -/
theorem parse_compositional :
    (∀ first second firstLines secondLines, first.toList.getLast? ≠ some '\r' →
      parse first = .ok firstLines → parse second = .ok secondLines →
      ∃ carried : Option Int,
        (∀ number, carried = some number ↔
          InForce (lineCells first.toList) ((lineCells first.toList).length - 1) number) ∧
        parse (first ++ "\n" ++ second) =
          .ok (firstLines ++ carriedInto carried (lineCells second.toList) secondLines)) ∧
    (∀ first second firstLines secondLines, first.toList.getLast? ≠ some '\r' →
      parse first = .ok firstLines → parse second = .ok secondLines → StartsAfresh second →
      parse (first ++ "\n" ++ second) = .ok (firstLines ++ secondLines)) ∧
    ∀ parts pieces, parts ≠ [] → (∀ part ∈ parts.dropLast, part.toList.getLast? ≠ some '\r') →
      (∀ part ∈ parts.tail, StartsAfresh part) → parts.mapM parse = .ok pieces →
      parse ("\n".intercalate parts) = .ok pieces.flatten := by
  refine ⟨?_, ?_, ?_⟩
  · intro first second firstLines secondLines noReturn firstParsed secondParsed
    exact exists_parse_append noReturn firstParsed secondParsed
  · intro first second firstLines secondLines noReturn firstParsed secondParsed afresh
    exact afresh.parse_append noReturn firstParsed secondParsed
  · intro parts pieces nonempty noReturn afresh parsed
    exact parse_intercalate nonempty noReturn afresh parsed

/-- An annotation that goes on into the next listing up to an empty line, but not past a frame
header. -/
theorem parse_compositional_carried :
    parse "     annotation: f:7\ncode" =
        .ok [⟨"     annotation: f:7", some ⟨none, some 7, none⟩⟩,
          ⟨"code", some ⟨none, some 7, none⟩⟩] ∧
      parse "more\n\nlast" = .ok (unsourced ["more", "", "last"]) ∧
      parse ("     annotation: f:7\ncode" ++ "\n" ++ "more\n\nlast") =
        .ok [⟨"     annotation: f:7", some ⟨none, some 7, none⟩⟩,
          ⟨"code", some ⟨none, some 7, none⟩⟩, ⟨"more", some ⟨none, some 7, none⟩⟩,
          ⟨"", none⟩, ⟨"last", none⟩] ∧
      StartsAfresh "  Frame_0 :\nmore" ∧
      parse ("     annotation: f:7\ncode" ++ "\n" ++ "  Frame_0 :\nmore") =
        .ok [⟨"     annotation: f:7", some ⟨none, some 7, none⟩⟩,
          ⟨"code", some ⟨none, some 7, none⟩⟩, ⟨"  Frame_0 :", none⟩, ⟨"more", none⟩] := by
  have first : parse "     annotation: f:7\ncode" =
      .ok [⟨"     annotation: f:7", some ⟨none, some 7, none⟩⟩,
        ⟨"code", some ⟨none, some 7, none⟩⟩] :=
    Result.toOption_eq_some_iff.mp (by decide)
  have second : parse "more\n\nlast" = .ok (unsourced ["more", "", "last"]) :=
    Result.toOption_eq_some_iff.mp (by decide)
  have frame : parse "  Frame_0 :\nmore" = .ok (unsourced ["  Frame_0 :", "more"]) :=
    Result.toOption_eq_some_iff.mp (by decide)
  have afresh : StartsAfresh "  Frame_0 :\nmore" :=
    ⟨"  Frame_0 :".toList, ["more".toList], by decide, .inl ((isFrameHeader_iff _).mp (by decide))⟩
  have noReturn : "     annotation: f:7\ncode".toList.getLast? ≠ some '\r' := by decide
  obtain ⟨carries, separates, -⟩ := parse_compositional
  obtain ⟨carried, inForce, whole⟩ := carries _ _ _ _ noReturn first second
  have seven : carried = some 7 := by
    refine (inForce 7).mpr ⟨0, "     annotation: f:7".toList, by decide, by decide,
      ⟨"7".toList, (markedDigits?_eq_some_iff _ _).mp (by decide), by decide⟩, ?_⟩
    intro index other behind before found
    obtain rfl : index = 1 := by
      have count : (lineCells "     annotation: f:7\ncode".toList).length - 1 = 1 := by decide
      omega
    cases Option.some.inj found
    exact not_endsCarry_of_isPlain (by decide) (by decide)
  have begins : carriedInto (some 7) (lineCells "more\n\nlast".toList)
      (unsourced ["more", "", "last"]) =
        [⟨"more", some ⟨none, some 7, none⟩⟩, ⟨"", none⟩, ⟨"last", none⟩] := by decide
  rw [seven, begins] at whole
  refine ⟨first, second, whole, afresh, ?_⟩
  exact separates _ _ _ _ noReturn first frame afresh

end LineMap.Listing.Annotated
