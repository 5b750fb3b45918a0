import LineMap.Proofs.Json.Derivation
import LineMap.Proofs.Json.Escapes
import LineMap.Proofs.Text.Lines

/-!
# Reading indented text

Containers are written part by part: the first behind a new line, every other one behind a comma and
a new line, and the closing bracket on a line of its own.  What is written of a value is a phrase
with that value, if all strings in it are texts and it holds no number of double precision.  So it
is read back in every dialect that allows its depth and the digits of its integers.
-/

set_option autoImplicit false

namespace LineMap.Json

open LineMap.Text

def bytesOf (text : String) : List UInt8 :=
  Utf8.encode text.toList

theorem bytesOf_append (front rest : String) :
    bytesOf (front ++ rest) = bytesOf front ++ bytesOf rest := by
  rw [bytesOf, String.toList_append, Utf8.encode_append, bytesOf, bytesOf]

/-- A value that is read back from its written form: its strings are texts, its integers have no
more digits than the dialect admits, it nests no deeper than allowed, and it holds no number of
double precision. -/
inductive Value.Legible (dialect : Dialect) : Nat → Value → Prop where
  | null {allowance : Nat} : Value.Legible dialect allowance .null
  | bool {allowance : Nat} (b : Bool) : Value.Legible dialect allowance (.bool b)
  | int {allowance : Nat} {n : Int} (short : dialect.AdmitsDigits (numeral n.natAbs).length) :
      Value.Legible dialect allowance (.int n)
  | str {allowance : Nat} {s : Str} (isText : s.IsText) : Value.Legible dialect allowance (.str s)
  | arr {allowance : Nat} {items : List Value}
      (parts : ∀ item ∈ items, Value.Legible dialect allowance item) :
      Value.Legible dialect (allowance + 1) (.arr items)
  | obj {allowance : Nat} {members : Members} (names : ∀ member ∈ members, member.1.IsText)
      (parts : ∀ member ∈ members, Value.Legible dialect allowance member.2) :
      Value.Legible dialect (allowance + 1) (.obj members)

/-! ## The layout -/

def lineGap (depth : Nat) : Gap where
  cells := (newLine depth).toList
  blank := by
    intro c member
    rw [newLine, String.toList_ofList] at member
    rcases List.mem_cons.mp member with rfl | space
    · rfl
    · rw [List.eq_of_mem_replicate space]
      rfl

/-- The parts of a container behind the first: a comma and a new line stand before each. -/
def following (depth : Nat) (parts : List String) : List Char :=
  parts.flatMap fun part => ',' :: ((lineGap depth).cells ++ part.toList)

theorem following_cons (depth : Nat) (part : String) (parts : List String) :
    following depth (part :: parts) =
      ',' :: ((lineGap depth).cells ++ (part.toList ++ following depth parts)) := by
  rw [following, List.flatMap_cons, List.cons_append, List.append_assoc, following]

theorem toList_enclosed (opening closing : String) (depth : Nat) (part : String)
    (parts : List String) :
    (enclosed opening closing depth (part :: parts)).toList =
      opening.toList ++ ((lineGap (depth + 1)).cells ++
        ((part.toList ++ (following (depth + 1) parts ++ (lineGap depth).cells)) ++
          closing.toList)) := by
  have separator : ("," ++ newLine (depth + 1)).toList = ',' :: (lineGap (depth + 1)).cells := by
    rw [String.toList_append]
    rfl
  rw [enclosed, if_neg (by simp)]
  simp only [String.toList_append, String.toList_intercalate, List.map_cons, intercalate_cons,
    List.flatMap_map, separator, List.cons_append, List.append_assoc, following]
  rfl

theorem indentedItems_eq_map (depth : Nat) (items : List Value) :
    Value.indentedItems depth items = items.map (Value.indentedAt depth) := by
  induction items with
  | nil => rfl
  | cons item others inductionHypothesis =>
      rw [Value.indentedItems, inductionHypothesis, List.map_cons]

def indentedMember (depth : Nat) (member : Str × Value) : String :=
  escapedString member.1 ++ ": " ++ member.2.indentedAt depth

theorem indentedMembers_eq_map (depth : Nat) (members : Members) :
    Value.indentedMembers depth members = members.map (indentedMember depth) := by
  induction members with
  | nil => rfl
  | cons member others inductionHypothesis =>
      rw [Value.indentedMembers, inductionHypothesis, List.map_cons, indentedMember]

/-! ## Written values are phrases -/

/-- Whether a phrase is what is written of a value at a depth, and is admitted and shallow enough
to be read. -/
structure Phrase.Writes (dialect : Dialect) (allowance depth : Nat) (value : Value)
    (phrase : Phrase) : Prop where
  cells : phrase.cells = (value.indentedAt depth).toList
  denotes : phrase.value = value
  admitted : phrase.Admitted dialect
  shallow : phrase.depth ≤ allowance

variable {dialect : Dialect} {allowance depth : Nat}

/-- The items of an array, from the first character of the first one on. -/
theorem exists_itemList {item : Value} {items : List Value}
    (parts : ∀ part ∈ item :: items,
      ∃ phrase, Phrase.Writes dialect allowance (depth + 1) part phrase) :
    ∃ list : ItemList,
      list.cells = (item.indentedAt (depth + 1)).toList ++
        (following (depth + 1) (items.map (Value.indentedAt (depth + 1))) ++
          (lineGap depth).cells) ∧
      list.values = item :: items ∧ list.Admitted dialect ∧ list.depth ≤ allowance := by
  induction items generalizing item with
  | nil =>
      obtain ⟨phrase, cells, rfl, admitted, shallow⟩ := parts item List.mem_cons_self
      refine ⟨.last phrase (lineGap depth), ?_, rfl, admitted, shallow⟩
      rw [ItemList.cells, cells]
      rfl
  | cons second others inductionHypothesis =>
      obtain ⟨itemWritten, othersWritten⟩ := List.forall_mem_cons.mp parts
      obtain ⟨phrase, cells, rfl, admitted, shallow⟩ := itemWritten
      obtain ⟨list, listCells, values, listAdmitted, listShallow⟩ :=
        inductionHypothesis othersWritten
      refine ⟨.more phrase .empty (lineGap (depth + 1)) list, ?_, ?_, ⟨admitted, listAdmitted⟩,
        Nat.max_le.mpr ⟨shallow, listShallow⟩⟩
      · rw [ItemList.cells, cells, listCells, List.map_cons, following_cons]
        simp [Gap.empty]
      · rw [ItemList.values, values]

theorem exists_member {member : Str × Value} (isText : member.1.IsText)
    (written : ∃ phrase, Phrase.Writes dialect allowance depth member.2 phrase) :
    ∃ (label : Label) (phrase : Phrase),
      label.cells ++ phrase.cells = (indentedMember depth member).toList ∧
      (pointsOf label.name, phrase.value) = member ∧
      (StringAdmitted dialect label.name ∧ phrase.Admitted dialect) ∧
      phrase.depth ≤ allowance := by
  obtain ⟨name, value⟩ := member
  obtain ⟨phrase, cells, rfl, admitted, shallow⟩ := written
  obtain ⟨pieces, nameCells, rfl⟩ := exists_quoted_escaped isText
  refine ⟨⟨pieces, .empty, .space⟩, phrase, ?_, rfl, ⟨.inr isText, admitted⟩, shallow⟩
  rw [Label.cells, nameCells, cells, indentedMember, String.toList_append, String.toList_append]
  rfl

/-- The members of an object, from the first character of the first one on. -/
theorem exists_memberList {member : Str × Value} {members : Members}
    (names : ∀ part ∈ member :: members, part.1.IsText)
    (parts : ∀ part ∈ member :: members,
      ∃ phrase, Phrase.Writes dialect allowance (depth + 1) part.2 phrase) :
    ∃ list : MemberList,
      list.cells = (indentedMember (depth + 1) member).toList ++
        (following (depth + 1) (members.map (indentedMember (depth + 1))) ++
          (lineGap depth).cells) ∧
      list.values = member :: members ∧ list.Admitted dialect ∧ list.depth ≤ allowance := by
  induction members generalizing member with
  | nil =>
      obtain ⟨label, phrase, cells, rfl, admitted, shallow⟩ :=
        exists_member (names member List.mem_cons_self) (parts member List.mem_cons_self)
      refine ⟨.last label phrase (lineGap depth), ?_, rfl, admitted, shallow⟩
      rw [MemberList.cells, ← List.append_assoc, cells]
      rfl
  | cons second others inductionHypothesis =>
      obtain ⟨isText, othersTexts⟩ := List.forall_mem_cons.mp names
      obtain ⟨memberWritten, othersWritten⟩ := List.forall_mem_cons.mp parts
      obtain ⟨label, phrase, cells, rfl, admitted, shallow⟩ := exists_member isText memberWritten
      obtain ⟨list, listCells, values, listAdmitted, listShallow⟩ :=
        inductionHypothesis othersTexts othersWritten
      refine ⟨.more label phrase .empty (lineGap (depth + 1)) list, ?_, ?_,
        ⟨admitted, listAdmitted⟩, Nat.max_le.mpr ⟨shallow, listShallow⟩⟩
      · rw [MemberList.cells, ← List.append_assoc, cells, listCells, List.map_cons, following_cons]
        simp [Gap.empty]
      · rw [MemberList.values, values]

theorem exists_array {items : List Value}
    (parts : ∀ part ∈ items, ∃ phrase, Phrase.Writes dialect allowance (depth + 1) part phrase) :
    ∃ phrase, Phrase.Writes dialect (allowance + 1) depth (.arr items) phrase := by
  cases items with
  | nil =>
      refine ⟨.emptyArray .empty, ?_, rfl, trivial, Nat.zero_le _⟩
      rw [Value.indentedAt, Value.indentedItems, enclosed, List.isEmpty_nil, if_pos rfl]
      rfl
  | cons item items =>
      obtain ⟨list, cells, values, admitted, shallow⟩ := exists_itemList parts
      refine ⟨.array (lineGap (depth + 1)) list, ?_, congrArg Value.arr values, admitted,
        Nat.succ_le_succ shallow⟩
      rw [Value.indentedAt, indentedItems_eq_map, List.map_cons, toList_enclosed, ← cells]
      rfl

theorem exists_object {members : Members} (names : ∀ part ∈ members, part.1.IsText)
    (parts : ∀ part ∈ members,
      ∃ phrase, Phrase.Writes dialect allowance (depth + 1) part.2 phrase) :
    ∃ phrase, Phrase.Writes dialect (allowance + 1) depth (.obj members) phrase := by
  cases members with
  | nil =>
      refine ⟨.emptyObject .empty, ?_, rfl, trivial, Nat.zero_le _⟩
      rw [Value.indentedAt, Value.indentedMembers, enclosed, List.isEmpty_nil, if_pos rfl]
      rfl
  | cons member members =>
      obtain ⟨list, cells, values, admitted, shallow⟩ := exists_memberList names parts
      refine ⟨.object (lineGap (depth + 1)) list, ?_, congrArg Value.obj values, admitted,
        Nat.succ_le_succ shallow⟩
      rw [Value.indentedAt, indentedMembers_eq_map, List.map_cons, toList_enclosed, ← cells]
      rfl

theorem Value.Legible.exists_phrase {value : Value} (legible : value.Legible dialect allowance) :
    ∀ depth, ∃ phrase, Phrase.Writes dialect allowance depth value phrase := by
  induction legible with
  | null => exact fun _ => ⟨.word .null, rfl, rfl, trivial, Nat.zero_le _⟩
  | bool b =>
      intro depth
      refine ⟨.word (.bool b), ?_, rfl, trivial, Nat.zero_le _⟩
      cases b <;> rfl
  | @int _ n short =>
      intro depth
      exact ⟨.number (.ofInt n), (Numeral.toList_toString n).symm, Numeral.value_ofInt n,
        Numeral.admitted_ofInt short, Nat.zero_le _⟩
  | str isText =>
      intro depth
      obtain ⟨pieces, cells, points⟩ := exists_quoted_escaped isText
      exact ⟨.string pieces, cells, congrArg Value.str points, .inr (points ▸ isText),
        Nat.zero_le _⟩
  | arr _ inductionHypothesis =>
      exact fun depth => exists_array fun part member =>
        inductionHypothesis part member (depth + 1)
  | obj names _ inductionHypothesis =>
      exact fun depth => exists_object names fun part member =>
        inductionHypothesis part member (depth + 1)

/-- The text of a legible value is read as that value, also with a gap behind it. -/
theorem readText_indented {value : Value} (legible : value.Legible dialect dialect.depthLimit)
    (gap : Gap) : readText dialect (bytesOf value.indented ++ gap.bytes) = .ok value := by
  obtain ⟨phrase, writes⟩ := legible.exists_phrase 0
  have cells : bytesOf value.indented ++ gap.bytes =
      Utf8.encode (Sentence.cells ⟨.empty, phrase, gap⟩) := by
    rw [Sentence.cells, writes.cells, Utf8.encode_append, Utf8.encode_append]
    rfl
  rw [cells]
  exact (readText_sentence_eq_ok_iff dialect _ value).mpr
    ⟨writes.admitted, writes.shallow, writes.denotes⟩

end LineMap.Json
