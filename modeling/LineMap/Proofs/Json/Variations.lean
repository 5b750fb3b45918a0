import LineMap.Proofs.Json.Derivation
import LineMap.Text.Lines

/-!
# Phrases with other gaps and in other dialects

The gaps of a phrase are of no account: with other gaps it has the same value, the same depth, and
is admitted by the same dialects.  So a reader does not notice how the lines of a text end, because
line breaks stand in gaps only.  A dialect that admits more than another about numbers and strings
admits more phrases.
-/

set_option autoImplicit false

namespace LineMap.Json

open LineMap.Text

/-! ## Other gaps -/

variable (change : Gap → Gap)

def Label.withGaps (label : Label) : Label :=
  ⟨label.name, change label.after, change label.before⟩

mutual

def Phrase.withGaps : Phrase → Phrase
  | .emptyArray inside => .emptyArray (change inside)
  | .array before items => .array (change before) items.withGaps
  | .emptyObject inside => .emptyObject (change inside)
  | .object before members => .object (change before) members.withGaps
  | other => other

def ItemList.withGaps : ItemList → ItemList
  | .last item after => .last item.withGaps (change after)
  | .more item after before others =>
      .more item.withGaps (change after) (change before) others.withGaps

def MemberList.withGaps : MemberList → MemberList
  | .last label value after => .last (label.withGaps change) value.withGaps (change after)
  | .more label value after before others =>
      .more (label.withGaps change) value.withGaps (change after) (change before) others.withGaps

end

mutual

theorem Phrase.value_withGaps : ∀ phrase : Phrase, (phrase.withGaps change).value = phrase.value
  | .word _ | .number _ | .string _ | .emptyArray _ | .emptyObject _ => rfl
  | .array _ items => congrArg Value.arr items.values_withGaps
  | .object _ members => congrArg Value.obj members.values_withGaps

theorem ItemList.values_withGaps : ∀ items : ItemList, (items.withGaps change).values = items.values
  | .last item _ => by rw [ItemList.withGaps, ItemList.values, ItemList.values, item.value_withGaps]
  | .more item _ _ others => by
      rw [ItemList.withGaps, ItemList.values, ItemList.values, item.value_withGaps,
        others.values_withGaps]

theorem MemberList.values_withGaps :
    ∀ members : MemberList, (members.withGaps change).values = members.values
  | .last label value _ => by
      rw [MemberList.withGaps, MemberList.values, MemberList.values, value.value_withGaps]
      rfl
  | .more label value _ _ others => by
      rw [MemberList.withGaps, MemberList.values, MemberList.values, value.value_withGaps,
        others.values_withGaps]
      rfl

end

mutual

theorem Phrase.depth_withGaps : ∀ phrase : Phrase, (phrase.withGaps change).depth = phrase.depth
  | .word _ | .number _ | .string _ | .emptyArray _ | .emptyObject _ => rfl
  | .array _ items => congrArg Nat.succ items.depth_withGaps
  | .object _ members => congrArg Nat.succ members.depth_withGaps

theorem ItemList.depth_withGaps : ∀ items : ItemList, (items.withGaps change).depth = items.depth
  | .last item _ => by rw [ItemList.withGaps, ItemList.depth, ItemList.depth, item.depth_withGaps]
  | .more item _ _ others => by
      rw [ItemList.withGaps, ItemList.depth, ItemList.depth, item.depth_withGaps,
        others.depth_withGaps]

theorem MemberList.depth_withGaps :
    ∀ members : MemberList, (members.withGaps change).depth = members.depth
  | .last _ value _ => by
      rw [MemberList.withGaps, MemberList.depth, MemberList.depth, value.depth_withGaps]
  | .more _ value _ _ others => by
      rw [MemberList.withGaps, MemberList.depth, MemberList.depth, value.depth_withGaps,
        others.depth_withGaps]

end

variable {dialect : Dialect}

mutual

theorem Phrase.admitted_withGaps :
    ∀ phrase : Phrase, (phrase.withGaps change).Admitted dialect ↔ phrase.Admitted dialect
  | .word _ | .number _ | .string _ | .emptyArray _ | .emptyObject _ => .rfl
  | .array _ items => items.admitted_withGaps
  | .object _ members => members.admitted_withGaps

theorem ItemList.admitted_withGaps :
    ∀ items : ItemList, (items.withGaps change).Admitted dialect ↔ items.Admitted dialect
  | .last item _ => item.admitted_withGaps
  | .more item _ _ others => and_congr item.admitted_withGaps others.admitted_withGaps

theorem MemberList.admitted_withGaps :
    ∀ members : MemberList, (members.withGaps change).Admitted dialect ↔ members.Admitted dialect
  | .last _ value _ => and_congr .rfl value.admitted_withGaps
  | .more _ value _ _ others =>
      and_congr (and_congr .rfl value.admitted_withGaps) others.admitted_withGaps

end

/-! ## Line breaks -/

theorem universalBreaks_append (cells : List Char) {rest : List Char}
    (noFeed : rest.head? ≠ some '\n') :
    universalBreaks (cells ++ rest) = universalBreaks cells ++ universalBreaks rest := by
  induction cells with
  | nil => rfl
  | cons c others inductionHypothesis =>
      have next : (others ++ rest).head? = some '\n' ↔ others.head? = some '\n' := by
        cases others with
        | nil => simp [noFeed]
        | cons d more => rfl
      rw [List.cons_append, universalBreaks_cons, universalBreaks_cons, inductionHypothesis]
      simp only [next]
      split
      · split <;> rfl
      · rfl

theorem universalBreaks_append_of_notMem {cells : List Char} (noReturn : '\r' ∉ cells)
    (rest : List Char) : universalBreaks (cells ++ rest) = cells ++ universalBreaks rest := by
  induction cells with
  | nil => rfl
  | cons c others inductionHypothesis =>
      rw [List.mem_cons, not_or] at noReturn
      rw [List.cons_append, universalBreaks_cons, if_neg (Ne.symm noReturn.1),
        inductionHypothesis noReturn.2]
      rfl

theorem mem_universalBreaks {c : Char} {cells : List Char} (member : c ∈ universalBreaks cells) :
    c = '\n' ∨ c ∈ cells := by
  induction cells with
  | nil => exact .inr member
  | cons d others inductionHypothesis =>
      rw [universalBreaks_cons] at member
      split at member
      · split at member
        · exact (inductionHypothesis member).imp_right (List.mem_cons_of_mem d)
        · rcases List.mem_cons.mp member with rfl | later
          · exact .inl rfl
          · exact (inductionHypothesis later).imp_right (List.mem_cons_of_mem d)
      · rcases List.mem_cons.mp member with rfl | later
        · exact .inr List.mem_cons_self
        · exact (inductionHypothesis later).imp_right (List.mem_cons_of_mem d)

def Gap.unified (gap : Gap) : Gap where
  cells := universalBreaks gap.cells
  blank c member := by
    rcases mem_universalBreaks member with rfl | inside
    · decide
    · exact gap.blank c inside

theorem notMem_return_of_digits (run : DigitRun) : '\r' ∉ run.cells :=
  fun member => absurd (run.digits '\r' member) (by decide)

theorem Power.notMem_return (power : Power) : '\r' ∉ power.cells := by
  obtain ⟨capital, sign?, digits⟩ := power
  have noReturn := notMem_return_of_digits digits
  cases capital <;> rcases sign? with _ | (_ | _) <;> simp [cells, signCells, noReturn]

theorem Numeral.notMem_return (numeral : Numeral) : '\r' ∉ numeral.cells := by
  obtain ⟨negative, whole, noLeadingZero, fraction?, power?⟩ := numeral
  have noReturn := notMem_return_of_digits whole
  have inFraction : '\r' ∉ fraction?.elim [] fun digits => '.' :: digits.cells := by
    cases fraction? with
    | none => exact List.not_mem_nil
    | some digits => simp [notMem_return_of_digits digits]
  have inPower : '\r' ∉ power?.elim [] Power.cells := by
    cases power? with
    | none => exact List.not_mem_nil
    | some power => exact power.notMem_return
  cases negative <;> simp [cells, tailCells, noReturn, inFraction, inPower]

theorem HexDigit.char_ne_return (digit : HexDigit) : '\r' ≠ digit.char := by
  obtain ⟨value, capital⟩ := digit
  revert value capital
  decide

theorem Piece.notMem_return (piece : Piece) : '\r' ∉ piece.cells := by
  cases piece with
  | plain c alone =>
      intro member
      cases List.mem_singleton.mp member
      exact absurd alone.2.2 (by decide)
  | short letter c denotes =>
      have noReturn : '\r' ≠ letter := by
        rintro rfl
        cases denotes
      simp [cells, noReturn]
  | unicode unit =>
      simp [cells, HexUnit.cells, unit.a.char_ne_return, unit.b.char_ne_return,
        unit.c.char_ne_return, unit.d.char_ne_return]

theorem notMem_return_quotedCells (pieces : List Piece) : '\r' ∉ quotedCells pieces := by
  have content : '\r' ∉ contentCells pieces := fun member => by
    obtain ⟨piece, -, inside⟩ := List.mem_flatMap.mp member
    exact piece.notMem_return inside
  simp [quotedCells, content]

theorem Word.notMem_return (word : Word) : '\r' ∉ word.cells := by
  rcases word with _ | (_ | _) | _ | (_ | _) <;> decide

theorem head?_append_ne {cells : List Char}
    (begins : ∃ byte bytes, Utf8.encode cells = byte :: bytes ∧ beginsValue byte = true)
    (rest : List Char) : (cells ++ rest).head? ≠ some '\n' := by
  obtain ⟨byte, bytes, whole, beginsByte⟩ := begins
  intro feed
  cases cells with
  | nil => cases whole
  | cons c others =>
      cases Option.some.inj feed
      cases (List.cons.inj whole).1
      cases beginsByte

theorem Phrase.head?_append_ne (phrase : Phrase) (rest : List Char) :
    (phrase.cells ++ rest).head? ≠ some '\n' :=
  Json.head?_append_ne phrase.exists_encode_cons rest

theorem ItemList.head?_append_ne (items : ItemList) (rest : List Char) :
    (items.cells ++ rest).head? ≠ some '\n' :=
  Json.head?_append_ne items.exists_encode_cons rest

theorem MemberList.head?_append_ne (members : MemberList) (rest : List Char) :
    (members.cells ++ rest).head? ≠ some '\n' := by
  obtain ⟨bytes, whole⟩ := members.exists_encode_cons
  exact Json.head?_append_ne ⟨34, bytes, whole, rfl⟩ rest

theorem universalBreaks_gap (gap : Gap) {rest : List Char} (noFeed : rest.head? ≠ some '\n') :
    universalBreaks (gap.cells ++ rest) = gap.unified.cells ++ universalBreaks rest :=
  universalBreaks_append gap.cells noFeed

theorem universalBreaks_mark {c : Char} (noReturn : c ≠ '\r') (rest : List Char) :
    universalBreaks (c :: rest) = c :: universalBreaks rest := by
  rw [universalBreaks_cons, if_neg noReturn]

theorem universalBreaks_label (label : Label) (value : Phrase) (rest : List Char) :
    universalBreaks (label.cells ++ (value.cells ++ rest)) =
      (label.withGaps Gap.unified).cells ++ universalBreaks (value.cells ++ rest) := by
  simp only [Label.cells, Label.withGaps, List.append_assoc, List.cons_append]
  rw [universalBreaks_append_of_notMem (notMem_return_quotedCells label.name),
    universalBreaks_gap label.after (by simp), universalBreaks_mark (by decide),
    universalBreaks_gap label.before (value.head?_append_ne rest)]

mutual

/-- No phrase ends with a carriage return, so what follows it stays apart. -/
theorem Phrase.universalBreaks_append : ∀ (phrase : Phrase) (rest : List Char),
    universalBreaks (phrase.cells ++ rest) =
      (phrase.withGaps Gap.unified).cells ++ universalBreaks rest
  | .word word, rest => universalBreaks_append_of_notMem word.notMem_return rest
  | .number numeral, rest => universalBreaks_append_of_notMem numeral.notMem_return rest
  | .string pieces, rest => universalBreaks_append_of_notMem (notMem_return_quotedCells pieces) rest
  | .emptyArray inside, rest => by
      simp only [Phrase.cells, Phrase.withGaps, List.cons_append, List.append_assoc,
        List.nil_append]
      rw [universalBreaks_mark (by decide), universalBreaks_gap inside (by simp),
        universalBreaks_mark (by decide)]
  | .array before items, rest => by
      simp only [Phrase.cells, Phrase.withGaps, List.cons_append, List.append_assoc,
        List.nil_append]
      rw [universalBreaks_mark (by decide), universalBreaks_gap before (items.head?_append_ne _),
        items.universalBreaks_append (by simp), universalBreaks_mark (by decide)]
  | .emptyObject inside, rest => by
      simp only [Phrase.cells, Phrase.withGaps, List.cons_append, List.append_assoc,
        List.nil_append]
      rw [universalBreaks_mark (by decide), universalBreaks_gap inside (by simp),
        universalBreaks_mark (by decide)]
  | .object before members, rest => by
      simp only [Phrase.cells, Phrase.withGaps, List.cons_append, List.append_assoc,
        List.nil_append]
      rw [universalBreaks_mark (by decide), universalBreaks_gap before (members.head?_append_ne _),
        members.universalBreaks_append (by simp), universalBreaks_mark (by decide)]

theorem ItemList.universalBreaks_append : ∀ (items : ItemList) {rest : List Char},
    rest.head? ≠ some '\n' →
    universalBreaks (items.cells ++ rest) =
      (items.withGaps Gap.unified).cells ++ universalBreaks rest
  | .last item after, rest, noFeed => by
      simp only [ItemList.cells, ItemList.withGaps, List.append_assoc]
      rw [item.universalBreaks_append, universalBreaks_gap after noFeed]
  | .more item after before others, rest, noFeed => by
      simp only [ItemList.cells, ItemList.withGaps, List.cons_append, List.append_assoc]
      rw [item.universalBreaks_append, universalBreaks_gap after (by simp),
        universalBreaks_mark (by decide), universalBreaks_gap before (others.head?_append_ne _),
        others.universalBreaks_append noFeed]

theorem MemberList.universalBreaks_append : ∀ (members : MemberList) {rest : List Char},
    rest.head? ≠ some '\n' →
    universalBreaks (members.cells ++ rest) =
      (members.withGaps Gap.unified).cells ++ universalBreaks rest
  | .last label value after, rest, noFeed => by
      simp only [MemberList.cells, MemberList.withGaps, List.append_assoc]
      rw [universalBreaks_label, value.universalBreaks_append, universalBreaks_gap after noFeed]
  | .more label value after before others, rest, noFeed => by
      simp only [MemberList.cells, MemberList.withGaps, List.cons_append, List.append_assoc]
      rw [universalBreaks_label, value.universalBreaks_append, universalBreaks_gap after (by simp),
        universalBreaks_mark (by decide), universalBreaks_gap before (others.head?_append_ne _),
        others.universalBreaks_append noFeed]

end

/-! ## Sentences -/

def Sentence.unified (sentence : Sentence) : Sentence :=
  ⟨sentence.before.unified, sentence.phrase.withGaps Gap.unified, sentence.after.unified⟩

theorem universalBreaks_sentence (sentence : Sentence) :
    universalBreaks sentence.cells = sentence.unified.cells := by
  rw [Sentence.cells, universalBreaks_gap _ (sentence.phrase.head?_append_ne _),
    Phrase.universalBreaks_append]
  rfl

/-- What a reader makes of a sentence is the same however its lines end. -/
theorem readText_universalBreaks (dialect : Dialect) (sentence : Sentence) (value : Value) :
    readText dialect (Utf8.encode (universalBreaks sentence.cells)) = .ok value ↔
      readText dialect (Utf8.encode sentence.cells) = .ok value := by
  rw [universalBreaks_sentence, readText_sentence_eq_ok_iff, readText_sentence_eq_ok_iff,
    Sentence.unified, Phrase.admitted_withGaps, Phrase.depth_withGaps, Phrase.value_withGaps]

/-! ## Other dialects -/

structure Dialect.Covers (wide narrow : Dialect) : Prop where
  numerals : ∀ numeral : Numeral, numeral.Admitted narrow → numeral.Admitted wide
  strings : ∀ pieces, StringAdmitted narrow pieces → StringAdmitted wide pieces

mutual

theorem Phrase.Admitted.mono {wide narrow : Dialect} (covers : wide.Covers narrow) :
    ∀ {phrase : Phrase}, phrase.Admitted narrow → phrase.Admitted wide
  | .word _, _ | .emptyArray _, _ | .emptyObject _, _ => trivial
  | .number numeral, admitted => covers.numerals numeral admitted
  | .string pieces, admitted => covers.strings pieces admitted
  | .array _ _, admitted => ItemList.Admitted.mono covers admitted
  | .object _ _, admitted => MemberList.Admitted.mono covers admitted

theorem ItemList.Admitted.mono {wide narrow : Dialect} (covers : wide.Covers narrow) :
    ∀ {items : ItemList}, items.Admitted narrow → items.Admitted wide
  | .last _ _, admitted => Phrase.Admitted.mono covers admitted
  | .more _ _ _ _, ⟨first, later⟩ =>
      ⟨Phrase.Admitted.mono covers first, ItemList.Admitted.mono covers later⟩

theorem MemberList.Admitted.mono {wide narrow : Dialect} (covers : wide.Covers narrow) :
    ∀ {members : MemberList}, members.Admitted narrow → members.Admitted wide
  | .last label _ _, ⟨name, value⟩ =>
      ⟨covers.strings label.name name, Phrase.Admitted.mono covers value⟩
  | .more label _ _ _ _, ⟨⟨name, value⟩, later⟩ =>
      ⟨⟨covers.strings label.name name, Phrase.Admitted.mono covers value⟩,
        MemberList.Admitted.mono covers later⟩

end

theorem typedDialect_covers_fileDialect : typedDialect.Covers fileDialect where
  numerals numeral admitted := by
    refine ⟨.inr rfl, fun _ => ?_⟩
    rcases admitted.whole with zero | short
    · rw [zero]
      decide
    · exact short
  strings _ _ := .inl rfl

end LineMap.Json
