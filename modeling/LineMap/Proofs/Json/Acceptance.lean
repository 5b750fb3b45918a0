import LineMap.Proofs.Json.Numerals
import LineMap.Proofs.Json.Strings

/-!
# Reading phrases

A reader that comes to a phrase reads it as its value if the dialect admits it and it nests no
deeper than allowed; otherwise the reader fails, and if the dialect admits the phrase, it fails for
the depth.  So the reader of a text does exactly what the grammar says about a sentence.
-/

set_option autoImplicit false

namespace LineMap.Json

open LineMap.Text
open LineMap.Number

variable {dialect : Dialect} {fuel allowance index : Nat} {rest : List UInt8}

/-! ## Gaps -/

namespace Gap

def bytes (gap : Gap) : List UInt8 :=
  Utf8.encode gap.cells

theorem isGap_of_mem (gap : Gap) : ∀ byte ∈ gap.bytes, isGap byte = true := by
  obtain ⟨cells, blank⟩ := gap
  intro byte member
  obtain ⟨c, present, inside⟩ := List.mem_flatMap.mp member
  have known := blank c present
  simp only [isGapChar, Bool.or_eq_true, decide_eq_true_eq] at known
  rcases known with ((rfl | rfl) | rfl) | rfl
  all_goals
    cases List.mem_singleton.mp inside
    rfl

theorem skipGap_bytes (gap : Gap) {byte : UInt8} (outside : isGap byte = false)
    (others : List UInt8) (index : Nat) :
    Cursor.skipGap ⟨gap.bytes ++ byte :: others, index⟩ =
      ⟨byte :: others, index + gap.bytes.length⟩ :=
  skipGap_append gap.isGap_of_mem (by simp [outside]) index

theorem endsNumber_bytes (gap : Gap) (ends : rest.head?.all endsNumber) :
    (gap.bytes ++ rest).head?.all endsNumber := by
  cases whole : gap.bytes with
  | nil => exact ends
  | cons byte others =>
      have known := gap.isGap_of_mem byte (whole ▸ List.mem_cons_self)
      simp only [isGap, Bool.or_eq_true, beq_iff_eq] at known
      rcases known with ((rfl | rfl) | rfl) | rfl <;> rfl

end Gap

theorem isGap_comma : isGap 44 = false := rfl

theorem isGap_quote : isGap 34 = false := rfl

theorem isGap_colon : isGap 58 = false := rfl

theorem isGap_closeArray : isGap 93 = false := rfl

theorem isGap_closeObject : isGap 125 = false := rfl

theorem skip_one (byte : UInt8) (others : List UInt8) (index : Nat) :
    Cursor.skip 1 ⟨byte :: others, index⟩ = ⟨others, index + 1⟩ := rfl

/-! ## What phrases begin with -/

/-- Whether a value can begin with a byte, in a place where the end of an array could stand. -/
def beginsValue (byte : UInt8) : Bool :=
  !isGap byte && byte != 93

theorem isGap_of_beginsValue {byte : UInt8} (begins : beginsValue byte = true) :
    isGap byte = false ∧ byte ≠ 93 := by
  simpa [beginsValue] using begins

theorem beginsValue_of_isDigitByte {byte : UInt8} (digit : isDigitByte byte = true) :
    beginsValue byte = true := by
  have differs : ∀ other : UInt8, isDigitByte other = false → (byte == other) = false := by
    intro other noDigit
    rw [beq_eq_false_iff_ne]
    rintro rfl
    rw [digit] at noDigit
    cases noDigit
  simp [beginsValue, isGap, bne, differs 32 rfl, differs 10 rfl, differs 9 rfl, differs 13 rfl,
    differs 93 rfl]

theorem Numeral.encode_cells (numeral : Numeral) :
    Utf8.encode numeral.cells =
      if numeral.negative then 45 :: numeral.bytes else numeral.bytes := by
  rw [cells, Utf8.encode_append, Utf8.encode_append]
  cases numeral.negative <;> rfl

theorem Numeral.exists_bytes_cons (numeral : Numeral) :
    ∃ byte others, numeral.bytes = byte :: others ∧ isDigitByte byte = true := by
  obtain ⟨byte, others, whole, digit⟩ := numeral.whole.exists_bytes_cons
  exact ⟨byte, others ++ Utf8.encode numeral.tailCells, by rw [bytes, whole]; rfl, digit⟩

/-- A phrase begins with a byte that is neither a gap nor the end of an array. -/
theorem Phrase.exists_encode_cons (phrase : Phrase) :
    ∃ byte others, Utf8.encode phrase.cells = byte :: others ∧ beginsValue byte = true := by
  cases phrase with
  | word word =>
      cases word with
      | null => exact ⟨_, _, rfl, rfl⟩
      | bool b => cases b <;> exact ⟨_, _, rfl, rfl⟩
      | nan => exact ⟨_, _, rfl, rfl⟩
      | infinity negative => cases negative <;> exact ⟨_, _, rfl, rfl⟩
  | number numeral =>
      rw [cells, numeral.encode_cells]
      cases numeral.negative with
      | false =>
          obtain ⟨byte, others, whole, digit⟩ := numeral.exists_bytes_cons
          exact ⟨byte, others, whole, beginsValue_of_isDigitByte digit⟩
      | true => exact ⟨45, _, rfl, rfl⟩
  | string pieces => exact ⟨34, _, Utf8.encode_cons _ _, rfl⟩
  | emptyArray inside => exact ⟨91, _, Utf8.encode_cons _ _, rfl⟩
  | array before items => exact ⟨91, _, Utf8.encode_cons _ _, rfl⟩
  | emptyObject inside => exact ⟨123, _, Utf8.encode_cons _ _, rfl⟩
  | object before members => exact ⟨123, _, Utf8.encode_cons _ _, rfl⟩

/-! ## What it means to be read -/

def Phrase.IsRead (dialect : Dialect) (phrase : Phrase) : Prop :=
  ∀ (allowance fuel : Nat) (rest : List UInt8) (index : Nat),
    (Utf8.encode phrase.cells).length ≤ fuel → rest.head?.all endsNumber →
    Yields (readValue dialect fuel allowance ⟨Utf8.encode phrase.cells ++ rest, index⟩)
      (phrase.Admitted dialect) (phrase.depth ≤ allowance) phrase.value rest

def ItemList.IsRead (dialect : Dialect) (items : ItemList) : Prop :=
  ∀ (allowance fuel : Nat) (found : List Value) (rest : List UInt8) (index : Nat),
    (Utf8.encode items.cells).length < fuel →
    Yields (readItems dialect fuel allowance found ⟨Utf8.encode items.cells ++ 93 :: rest, index⟩)
      (items.Admitted dialect) (items.depth ≤ allowance) (.arr (found.reverse ++ items.values)) rest

def MemberList.IsRead (dialect : Dialect) (members : MemberList) : Prop :=
  ∀ (allowance fuel : Nat) (seen : Members) (rest : List UInt8) (index : Nat),
    (Utf8.encode members.cells).length < fuel →
    Yields
      (readMembers dialect fuel allowance seen ⟨Utf8.encode members.cells ++ 125 :: rest, index⟩)
      (members.Admitted dialect) (members.depth + 1 ≤ allowance)
      (.obj (seen.reverse ++ members.values)) rest

/-! ## Words, numbers and strings -/

theorem isRead_of_readWord {word : Word} (front tail : List UInt8)
    (shape : Utf8.encode word.cells = front ++ tail) (some : front ≠ [])
    (dispatch : ∀ allowance fuel rest index,
      readValue dialect (fuel + 1) allowance ⟨front ++ (tail ++ rest), index⟩ =
        (readWord tail ⟨tail ++ rest, index + front.length⟩).bind fun after =>
          .ok (word.value, after)) :
    (Phrase.word word).IsRead dialect := by
  intro allowance fuel rest index enough _
  have positive : 0 < front.length := List.length_pos_iff.mpr some
  have shape : Utf8.encode (Phrase.word word).cells = front ++ tail := shape
  rw [shape, List.length_append] at enough
  obtain ⟨fuel, rfl⟩ := Nat.exists_eq_add_one.mpr (by omega : 0 < fuel)
  refine .read (index + front.length + tail.length) trivial (Nat.zero_le _) ?_
  rw [shape, List.append_assoc, dispatch, readWord_append]
  rfl

/-- Every word is told by its first byte, only the negative infinity by its second. -/
theorem isRead_word (word : Word) : (Phrase.word word).IsRead dialect := by
  cases word with
  | null =>
      exact isRead_of_readWord [110] [117, 108, 108] rfl (by simp) fun _ _ _ _ => rfl
  | bool b =>
      cases b with
      | false =>
          exact isRead_of_readWord [102] [97, 108, 115, 101] rfl (by simp) fun _ _ _ _ => rfl
      | true =>
          exact isRead_of_readWord [116] [114, 117, 101] rfl (by simp) fun _ _ _ _ => rfl
  | nan => exact isRead_of_readWord [78] [97, 78] rfl (by simp) fun _ _ _ _ => rfl
  | infinity negative =>
      cases negative with
      | false => exact isRead_of_readWord [73] infinityTail rfl (by simp) fun _ _ _ _ => rfl
      | true => exact isRead_of_readWord [45, 73] infinityTail rfl (by simp) fun _ _ _ _ => rfl

theorem readValue_of_isDigitByte {byte : UInt8} (digit : isDigitByte byte = true)
    (others : List UInt8) (fuel index : Nat) :
    readValue dialect (fuel + 1) allowance ⟨byte :: others, index⟩ =
      readMagnitude dialect false ⟨byte :: others, index⟩ := by
  have differs : ∀ other : UInt8, isDigitByte other = false → byte ≠ other := by
    rintro other noDigit rfl
    rw [digit] at noDigit
    cases noDigit
  rw [readValue]
  simp only [if_neg (differs 110 rfl), if_neg (differs 116 rfl), if_neg (differs 102 rfl),
    if_neg (differs 78 rfl), if_neg (differs 73 rfl), if_neg (differs 34 rfl),
    if_neg (differs 45 rfl), if_pos digit]

theorem isRead_number (numeral : Numeral) : (Phrase.number numeral).IsRead dialect := by
  intro allowance fuel rest index enough ends
  obtain ⟨byte, others, whole, digit⟩ := numeral.exists_bytes_cons
  have read (start : Nat) : Yields
      (readMagnitude dialect numeral.negative ⟨numeral.bytes ++ rest, start⟩)
      (numeral.Admitted dialect) (0 ≤ allowance) numeral.value rest :=
    (readMagnitude_bytes numeral ends start).congr .rfl
      (iff_of_true trivial (Nat.zero_le allowance))
  rw [Phrase.cells, numeral.encode_cells] at enough ⊢
  cases negative : numeral.negative with
  | false =>
      rw [negative, if_neg (by decide), whole, List.length_cons] at enough
      obtain ⟨fuel, rfl⟩ := Nat.exists_eq_add_one.mpr (by omega : 0 < fuel)
      rw [negative, whole] at read
      rw [if_neg (by decide), whole, List.cons_append, readValue_of_isDigitByte digit]
      exact read index
  | true =>
      rw [negative, if_pos rfl, List.length_cons] at enough
      obtain ⟨fuel, rfl⟩ := Nat.exists_eq_add_one.mpr (by omega : 0 < fuel)
      have noInfinity : byte ≠ 73 := by
        rintro rfl
        cases digit
      have sign : readValue dialect (fuel + 1) allowance ⟨45 :: (numeral.bytes ++ rest), index⟩ =
          readMagnitude dialect true ⟨numeral.bytes ++ rest, index + 1⟩ := by
        have dispatch : readValue dialect (fuel + 1) allowance
            ⟨45 :: (numeral.bytes ++ rest), index⟩ =
              readNegative dialect ⟨numeral.bytes ++ rest, index + 1⟩ := rfl
        rw [dispatch, whole, List.cons_append, readNegative]
        split
        · rename_i same
          exact absurd (List.cons.inj same).1 noInfinity
        · rfl
      rw [negative] at read
      rw [if_pos rfl, List.cons_append, sign]
      exact read (index + 1)

theorem encode_quotedCells (pieces : List Piece) :
    Utf8.encode (quotedCells pieces) = 34 :: (Utf8.encode (contentCells pieces) ++ [34]) := by
  rw [quotedCells, Utf8.encode_cons, Utf8.encode_append]
  rfl

theorem isRead_string (pieces : List Piece) : (Phrase.string pieces).IsRead dialect := by
  intro allowance fuel rest index enough _
  rw [Phrase.cells, encode_quotedCells, List.length_cons, List.length_append,
    List.length_singleton] at enough
  obtain ⟨fuel, rfl⟩ := Nat.exists_eq_add_one.mpr (by omega : 0 < fuel)
  have dispatch : readValue dialect (fuel + 1) allowance
      ⟨34 :: (Utf8.encode (contentCells pieces) ++ 34 :: rest), index⟩ =
        readString dialect fuel ⟨Utf8.encode (contentCells pieces) ++ 34 :: rest, index + 1⟩ >>=
          fun found => .ok (.str found.1, found.2) := rfl
  rw [Phrase.cells, encode_quotedCells, List.cons_append, List.append_assoc]
  exact ((readString_pieces pieces (by omega) rest (index + 1)).map Value.str).congr .rfl
    (iff_of_true trivial (Nat.zero_le allowance))

/-! ## Arrays -/

theorem readValue_opensArray :
    readValue dialect (fuel + 1) allowance ⟨91 :: rest, index⟩ =
      match (Cursor.mk rest (index + 1)).skipGap.rest with
      | [] => (Cursor.mk rest (index + 1)).skipGap.fail (.endOf .array)
      | 93 :: _ => .ok (.arr [], (Cursor.mk rest (index + 1)).skipGap.skip 1)
      | _ :: _ =>
          match allowance with
          | 0 => (Cursor.mk rest (index + 1)).skipGap.fail (.tooDeep .array)
          | allowance + 1 =>
              readItems dialect fuel allowance [] (Cursor.mk rest (index + 1)).skipGap := rfl

theorem isRead_emptyArray (inside : Gap) : (Phrase.emptyArray inside).IsRead dialect := by
  intro allowance fuel rest index enough _
  have shape : Utf8.encode (Phrase.emptyArray inside).cells = 91 :: (inside.bytes ++ [93]) := by
    rw [Phrase.cells, Utf8.encode_cons, Utf8.encode_append]
    rfl
  rw [shape, List.length_cons] at enough
  obtain ⟨fuel, rfl⟩ := Nat.exists_eq_add_one.mpr (by omega : 0 < fuel)
  refine .read (index + 1 + inside.bytes.length + 1) trivial (Nat.zero_le _) ?_
  rw [shape, List.cons_append, List.append_assoc, List.singleton_append, readValue_opensArray,
    inside.skipGap_bytes isGap_closeArray]
  rfl

namespace ItemList

theorem exists_encode_cons (items : ItemList) :
    ∃ byte others, Utf8.encode items.cells = byte :: others ∧ beginsValue byte = true := by
  cases items with
  | last item after =>
      obtain ⟨byte, others, whole, begins⟩ := item.exists_encode_cons
      exact ⟨byte, _, by rw [cells, Utf8.encode_append, whole]; rfl, begins⟩
  | more item after before others =>
      obtain ⟨byte, others, whole, begins⟩ := item.exists_encode_cons
      exact ⟨byte, _, by rw [cells, Utf8.encode_append, whole]; rfl, begins⟩

end ItemList

theorem isRead_last {item : Phrase} (after : Gap) (itemRead : item.IsRead dialect) :
    (ItemList.last item after).IsRead dialect := by
  intro allowance fuel found rest index enough
  rw [ItemList.cells, Utf8.encode_append, List.length_append] at enough
  obtain ⟨fuel, rfl⟩ := Nat.exists_eq_add_one.mpr (Nat.zero_lt_of_lt enough)
  rw [ItemList.cells, Utf8.encode_append, List.append_assoc, readItems]
  refine (Yields.bind (itemRead allowance fuel (after.bytes ++ 93 :: rest) index (by omega)
    (after.endsNumber_bytes rfl)) fun stop => ?_).congr (iff_of_eq (and_true _))
      (iff_of_eq (and_true _))
  simp only [after.skipGap_bytes isGap_closeArray, skip_one, List.reverse_cons]
  exact .always rfl

theorem isRead_more {item : Phrase} (after before : Gap) {others : ItemList}
    (itemRead : item.IsRead dialect) (othersRead : others.IsRead dialect) :
    (ItemList.more item after before others).IsRead dialect := by
  intro allowance fuel found rest index enough
  obtain ⟨byte, bytes, begins, beginsByte⟩ := others.exists_encode_cons
  obtain ⟨noGap, noClose⟩ := isGap_of_beginsValue beginsByte
  have shape : Utf8.encode (ItemList.more item after before others).cells =
      Utf8.encode item.cells ++
        (after.bytes ++ 44 :: (before.bytes ++ Utf8.encode others.cells)) := by
    rw [ItemList.cells, Utf8.encode_append, Utf8.encode_append, Utf8.encode_cons,
      Utf8.encode_append]
    rfl
  rw [shape] at enough
  simp only [List.length_append, List.length_cons] at enough
  obtain ⟨fuel, rfl⟩ := Nat.exists_eq_add_one.mpr (Nat.zero_lt_of_lt enough)
  rw [shape, readItems]
  simp only [List.append_assoc, List.cons_append]
  refine (Yields.bind (itemRead allowance fuel _ index (by omega)
    (after.endsNumber_bytes rfl)) fun stop => ?_).congr .rfl Nat.max_le.symm
  have later := othersRead allowance fuel (item.value :: found) rest
    (stop + after.bytes.length + 1 + before.bytes.length) (by omega)
  rw [List.reverse_cons, List.append_assoc] at later
  rw [begins, List.cons_append] at later ⊢
  simp only [after.skipGap_bytes isGap_comma, skip_one, before.skipGap_bytes noGap,
    List.head?_cons, Option.some.injEq, noClose, if_false, if_true]
  exact later

theorem readValue_array {others : List UInt8} {byte : UInt8} {start : Nat}
    (first : Cursor.skipGap ⟨rest, index + 1⟩ = ⟨byte :: others, start⟩) (noClose : byte ≠ 93) :
    readValue dialect (fuel + 1) allowance ⟨91 :: rest, index⟩ =
      match allowance with
      | 0 => .error ⟨.tooDeep .array, start⟩
      | allowance + 1 => readItems dialect fuel allowance [] ⟨byte :: others, start⟩ := by
  rw [readValue_opensArray, first]
  split
  next none => cases none
  next close => exact absurd (List.cons.inj close).1 noClose
  next => rfl

theorem isRead_array (before : Gap) {items : ItemList} (itemsRead : items.IsRead dialect) :
    (Phrase.array before items).IsRead dialect := by
  intro allowance fuel rest index enough _
  obtain ⟨byte, bytes, begins, beginsByte⟩ := items.exists_encode_cons
  obtain ⟨noGap, noClose⟩ := isGap_of_beginsValue beginsByte
  have shape : Utf8.encode (Phrase.array before items).cells =
      91 :: (before.bytes ++ (Utf8.encode items.cells ++ [93])) := by
    rw [Phrase.cells, Utf8.encode_cons, Utf8.encode_append, Utf8.encode_append]
    rfl
  have first : Cursor.skipGap ⟨before.bytes ++ (Utf8.encode items.cells ++ 93 :: rest), index + 1⟩ =
      ⟨Utf8.encode items.cells ++ 93 :: rest, index + 1 + before.bytes.length⟩ := by
    rw [begins, List.cons_append]
    exact before.skipGap_bytes noGap _ _
  rw [shape] at enough
  simp only [List.length_append, List.length_cons, List.length_nil] at enough
  obtain ⟨fuel, rfl⟩ := Nat.exists_eq_add_one.mpr (by omega : 0 < fuel)
  rw [shape]
  simp only [List.append_assoc, List.cons_append, List.nil_append]
  rw [begins, List.cons_append] at first
  rw [begins, List.cons_append, readValue_array first noClose, ← List.cons_append, ← begins]
  cases allowance with
  | zero => exact .tooDeep .array _ (Nat.not_succ_le_zero _) rfl
  | succ allowance =>
      exact (itemsRead allowance fuel [] rest (index + 1 + before.bytes.length) (by omega)).congr
        .rfl Nat.succ_le_succ_iff.symm

/-! ## Objects -/

theorem readValue_opensObject :
    readValue dialect (fuel + 1) allowance ⟨123 :: rest, index⟩ =
      match (Cursor.mk rest (index + 1)).skipGap.rest with
      | [] => (Cursor.mk rest (index + 1)).skipGap.fail (.endOf .object)
      | 125 :: _ => .ok (.obj [], (Cursor.mk rest (index + 1)).skipGap.skip 1)
      | _ :: _ =>
          readMembers dialect fuel allowance [] (Cursor.mk rest (index + 1)).skipGap := rfl

theorem isRead_emptyObject (inside : Gap) : (Phrase.emptyObject inside).IsRead dialect := by
  intro allowance fuel rest index enough _
  have shape : Utf8.encode (Phrase.emptyObject inside).cells = 123 :: (inside.bytes ++ [125]) := by
    rw [Phrase.cells, Utf8.encode_cons, Utf8.encode_append]
    rfl
  rw [shape, List.length_cons] at enough
  obtain ⟨fuel, rfl⟩ := Nat.exists_eq_add_one.mpr (by omega : 0 < fuel)
  refine .read (index + 1 + inside.bytes.length + 1) trivial (Nat.zero_le _) ?_
  rw [shape, List.cons_append, List.append_assoc, List.singleton_append, readValue_opensObject,
    inside.skipGap_bytes isGap_closeObject]
  rfl

/-- The bytes of a label behind the first mark of its name. -/
def Label.bytes (label : Label) : List UInt8 :=
  Utf8.encode (contentCells label.name) ++
    34 :: (label.after.bytes ++ 58 :: label.before.bytes)

theorem Label.encode_cells (label : Label) : Utf8.encode label.cells = 34 :: label.bytes := by
  rw [cells, Utf8.encode_append, encode_quotedCells, Utf8.encode_append, Utf8.encode_cons, bytes,
    List.cons_append, List.append_assoc]
  rfl

theorem MemberList.exists_encode_cons (members : MemberList) :
    ∃ others, Utf8.encode members.cells = 34 :: others := by
  cases members with
  | last label value after =>
      exact ⟨_, by rw [cells, Utf8.encode_append, label.encode_cells]; rfl⟩
  | more label value after before others =>
      exact ⟨_, by rw [cells, Utf8.encode_append, label.encode_cells]; rfl⟩

def readMember (dialect : Dialect) (fuel allowance : Nat) (cursor : Cursor) :
    Except Failure ((Str × Value) × Cursor) := do
  if cursor.rest.head? ≠ some 34 then cursor.fail .nameNotString
  else
    let (name, after) ← readString dialect fuel (cursor.skip 1)
    let colon := after.skipGap
    match colon.rest with
    | [] => colon.fail (.endOf .object)
    | byte :: _ =>
        if byte ≠ 58 then colon.fail .expectedColon
        else
          let first := (colon.skip 1).skipGap
          match first.rest, allowance with
          | [], _ => first.fail .endOfValue
          | _ :: _, 0 => first.fail (.tooDeep .object)
          | _ :: _, allowance + 1 =>
              let (value, after) ← readValue dialect fuel allowance first
              return ((name, value), after)

def readBehindMember (dialect : Dialect) (fuel allowance : Nat) (members : Members)
    (cursor : Cursor) : Except Failure (Value × Cursor) :=
  let next := cursor.skipGap
  match next.rest with
  | [] => next.fail (.endOf .object)
  | byte :: _ =>
      if byte = 44 then
        let following := (next.skip 1).skipGap
        match following.rest with
        | [] => following.fail .endOfValue
        | 125 :: _ => following.fail .trailingComma
        | _ :: _ => readMembers dialect fuel allowance members following
      else if byte = 125 then return (.obj members.reverse, next.skip 1)
      else next.fail (.expectedNext .object)

theorem readMembers_succ (fuel allowance : Nat) (seen : Members) (cursor : Cursor) :
    readMembers dialect (fuel + 1) allowance seen cursor =
      readMember dialect fuel allowance cursor >>= fun found =>
        readBehindMember dialect fuel allowance (found.1 :: seen) found.2 := by
  rw [readMembers, readMember]
  by_cases opens : cursor.rest.head? = some 34
  · simp only [opens, ne_eq, not_true_eq_false, if_false]
    cases readString dialect fuel (cursor.skip 1) with
    | error failure => rfl
    | ok named =>
        simp only [bind, Except.bind]
        cases named.2.skipGap.rest with
        | nil => rfl
        | cons byte others =>
            by_cases colon : byte = 58
            · simp only [colon, not_true_eq_false, if_false]
              cases (named.2.skipGap.skip 1).skipGap.rest with
              | nil => rfl
              | cons first more =>
                  cases allowance with
                  | zero => rfl
                  | succ allowance =>
                      dsimp only
                      cases readValue dialect fuel allowance (named.2.skipGap.skip 1).skipGap <;>
                        rfl
            · simp only [colon, not_false_eq_true, if_true]
              rfl
  · simp only [opens, ne_eq, not_false_eq_true, if_true]
    rfl

theorem readMember_label (label : Label) {value : Phrase} {allowance fuel : Nat}
    (valueRead : value.IsRead dialect)
    (enough : label.bytes.length + (Utf8.encode value.cells).length < fuel)
    (ends : rest.head?.all endsNumber) (index : Nat) :
    Yields
      (readMember dialect fuel allowance
        ⟨34 :: (label.bytes ++ (Utf8.encode value.cells ++ rest)), index⟩)
      (StringAdmitted dialect label.name ∧ value.Admitted dialect) (value.depth + 1 ≤ allowance)
      (pointsOf label.name, value.value) rest := by
  obtain ⟨byte, bytes, begins, beginsByte⟩ := value.exists_encode_cons
  have noGap := (isGap_of_beginsValue beginsByte).1
  simp only [Label.bytes, List.append_assoc, List.cons_append, List.length_append,
    List.length_cons] at enough ⊢
  rw [readMember]
  simp only [List.head?_cons, ne_eq, not_true_eq_false, if_false, skip_one]
  refine (Yields.bind (readString_pieces label.name (by omega) _ (index + 1))
    fun stop => ?_).congr .rfl (iff_of_eq (true_and _))
  rw [begins, List.cons_append]
  simp only [label.after.skipGap_bytes isGap_colon, skip_one, not_true_eq_false, if_false,
    label.before.skipGap_bytes noGap]
  cases allowance with
  | zero => exact .tooDeep .object _ (Nat.not_succ_le_zero _) rfl
  | succ allowance =>
      have read := valueRead allowance fuel rest
        (stop + label.after.bytes.length + 1 + label.before.bytes.length) (by omega) ends
      rw [begins, List.cons_append] at read
      exact (read.map (Prod.mk (pointsOf label.name))).congr .rfl Nat.succ_le_succ_iff.symm

theorem isRead_lastMember (label : Label) {value : Phrase} (after : Gap)
    (valueRead : value.IsRead dialect) :
    (MemberList.last label value after).IsRead dialect := by
  intro allowance fuel seen rest index enough
  have shape : Utf8.encode (MemberList.last label value after).cells =
      34 :: (label.bytes ++ (Utf8.encode value.cells ++ after.bytes)) := by
    rw [MemberList.cells, Utf8.encode_append, Utf8.encode_append, label.encode_cells]
    rfl
  rw [shape] at enough
  simp only [List.length_append, List.length_cons] at enough
  obtain ⟨fuel, rfl⟩ := Nat.exists_eq_add_one.mpr (Nat.zero_lt_of_lt enough)
  rw [shape, readMembers_succ]
  simp only [List.append_assoc, List.cons_append]
  refine (Yields.bind (readMember_label label valueRead (by omega)
    (after.endsNumber_bytes rfl) index) fun stop => ?_).congr (iff_of_eq (and_true _))
      (iff_of_eq (and_true _))
  simp only [readBehindMember, after.skipGap_bytes isGap_closeObject, skip_one, List.reverse_cons]
  exact .always rfl

theorem isRead_moreMembers (label : Label) {value : Phrase} (after before : Gap)
    {others : MemberList} (valueRead : value.IsRead dialect) (othersRead : others.IsRead dialect) :
    (MemberList.more label value after before others).IsRead dialect := by
  intro allowance fuel seen rest index enough
  obtain ⟨bytes, begins⟩ := others.exists_encode_cons
  have shape : Utf8.encode (MemberList.more label value after before others).cells =
      34 :: (label.bytes ++ (Utf8.encode value.cells ++
        (after.bytes ++ 44 :: (before.bytes ++ Utf8.encode others.cells)))) := by
    rw [MemberList.cells, Utf8.encode_append, Utf8.encode_append, Utf8.encode_append,
      Utf8.encode_cons, Utf8.encode_append, label.encode_cells]
    rfl
  rw [shape] at enough
  simp only [List.length_append, List.length_cons] at enough
  obtain ⟨fuel, rfl⟩ := Nat.exists_eq_add_one.mpr (Nat.zero_lt_of_lt enough)
  rw [shape, readMembers_succ]
  simp only [List.append_assoc, List.cons_append]
  have deeper : value.depth + 1 ≤ allowance ∧ others.depth + 1 ≤ allowance ↔
      (MemberList.more label value after before others).depth + 1 ≤ allowance := by
    rw [MemberList.depth]
    omega
  refine (Yields.bind (readMember_label label valueRead (by omega)
    (after.endsNumber_bytes rfl) index) fun stop => ?_).congr .rfl deeper
  have later := othersRead allowance fuel ((pointsOf label.name, value.value) :: seen) rest
    (stop + after.bytes.length + 1 + before.bytes.length) (by omega)
  rw [List.reverse_cons, List.append_assoc] at later
  rw [begins, List.cons_append] at later ⊢
  simp only [readBehindMember, after.skipGap_bytes isGap_comma, skip_one,
    before.skipGap_bytes isGap_quote, if_true]
  exact later

theorem readValue_object {others : List UInt8} {start : Nat}
    (first : Cursor.skipGap ⟨rest, index + 1⟩ = ⟨34 :: others, start⟩) :
    readValue dialect (fuel + 1) allowance ⟨123 :: rest, index⟩ =
      readMembers dialect fuel allowance [] ⟨34 :: others, start⟩ := by
  rw [readValue_opensObject, first]
  rfl

theorem isRead_object (before : Gap) {members : MemberList}
    (membersRead : members.IsRead dialect) : (Phrase.object before members).IsRead dialect := by
  intro allowance fuel rest index enough _
  obtain ⟨bytes, begins⟩ := members.exists_encode_cons
  have shape : Utf8.encode (Phrase.object before members).cells =
      123 :: (before.bytes ++ (Utf8.encode members.cells ++ [125])) := by
    rw [Phrase.cells, Utf8.encode_cons, Utf8.encode_append, Utf8.encode_append]
    rfl
  rw [shape] at enough
  simp only [List.length_append, List.length_cons, List.length_nil] at enough
  obtain ⟨fuel, rfl⟩ := Nat.exists_eq_add_one.mpr (by omega : 0 < fuel)
  have read := membersRead allowance fuel [] rest (index + 1 + before.bytes.length) (by omega)
  have first := before.skipGap_bytes isGap_quote (bytes ++ 125 :: rest) (index + 1)
  rw [shape]
  simp only [List.append_assoc, List.cons_append, List.nil_append]
  rw [begins, List.cons_append] at read ⊢
  rw [readValue_object first]
  exact read

/-! ## All phrases -/

mutual

theorem Phrase.isRead (dialect : Dialect) : ∀ phrase : Phrase, phrase.IsRead dialect
  | .word word => isRead_word word
  | .number numeral => isRead_number numeral
  | .string pieces => isRead_string pieces
  | .emptyArray inside => isRead_emptyArray inside
  | .array before items => isRead_array before (items.isRead dialect)
  | .emptyObject inside => isRead_emptyObject inside
  | .object before members => isRead_object before (members.isRead dialect)

theorem ItemList.isRead (dialect : Dialect) : ∀ items : ItemList, items.IsRead dialect
  | .last item after => isRead_last after (item.isRead dialect)
  | .more item after before others =>
      isRead_more after before (item.isRead dialect) (others.isRead dialect)

theorem MemberList.isRead (dialect : Dialect) : ∀ members : MemberList, members.IsRead dialect
  | .last label value after => isRead_lastMember label after (value.isRead dialect)
  | .more label value after before others =>
      isRead_moreMembers label after before (value.isRead dialect) (others.isRead dialect)

end

/-! ## Sentences -/

theorem readText_sentence (dialect : Dialect) (sentence : Sentence) :
    (sentence.phrase.Admitted dialect ∧ sentence.phrase.depth ≤ dialect.depthLimit ∧
        readText dialect (Utf8.encode sentence.cells) = .ok sentence.phrase.value) ∨
      (¬sentence.phrase.Admitted dialect ∧
        ∃ failure, readText dialect (Utf8.encode sentence.cells) = .error failure) ∨
      (¬sentence.phrase.depth ≤ dialect.depthLimit ∧ ∃ container index,
        readText dialect (Utf8.encode sentence.cells) = .error ⟨.tooDeep container, index⟩) := by
  obtain ⟨before, phrase, after⟩ := sentence
  obtain ⟨byte, bytes, begins, beginsByte⟩ := phrase.exists_encode_cons
  have noGap := (isGap_of_beginsValue beginsByte).1
  have shape : Utf8.encode (Sentence.cells ⟨before, phrase, after⟩) =
      before.bytes ++ (Utf8.encode phrase.cells ++ after.bytes) := by
    rw [Sentence.cells, Utf8.encode_append, Utf8.encode_append]
    rfl
  have start : Cursor.skipGap ⟨before.bytes ++ (Utf8.encode phrase.cells ++ after.bytes), 0⟩ =
      ⟨Utf8.encode phrase.cells ++ after.bytes, 0 + before.bytes.length⟩ := by
    rw [begins, List.cons_append]
    exact before.skipGap_bytes noGap _ 0
  have ends : after.bytes.head?.all endsNumber := by
    have nothing : (after.bytes ++ []).head?.all endsNumber := after.endsNumber_bytes rfl
    rwa [List.append_nil] at nothing
  have finish : ∀ stop, Cursor.skipGap ⟨after.bytes, stop⟩ = ⟨[], stop + after.bytes.length⟩ := by
    intro stop
    have skipped : Cursor.skipGap ⟨after.bytes ++ [], stop⟩ = ⟨[], stop + after.bytes.length⟩ :=
      skipGap_append after.isGap_of_mem rfl stop
    rwa [List.append_nil] at skipped
  rw [shape]
  have whole : (Utf8.encode phrase.cells).length ≤
      2 * (before.bytes ++ (Utf8.encode phrase.cells ++ after.bytes)).length + 2 := by
    simp only [List.length_append]
    omega
  simp only [readText, start]
  cases phrase.isRead dialect dialect.depthLimit _ after.bytes (0 + before.bytes.length) whole ends
    with
  | read stop isAdmitted isShallow success =>
      refine .inl ⟨isAdmitted, isShallow, ?_⟩
      simp only [success, bind, Except.bind, finish]
      rfl
  | refused failure notAdmitted failed =>
      exact .inr (.inl ⟨notAdmitted, failure, by rw [failed]; rfl⟩)
  | tooDeep container index notShallow failed =>
      exact .inr (.inr ⟨notShallow, container, index, by rw [failed]; rfl⟩)

end LineMap.Json
