import LineMap.Proofs.Number.Writable
import LineMap.Proofs.Text.HalfPairs
import LineMap.Validation.Checked
import Mathlib.Logic.Basic

/-!
# What files hold

Where halves of surrogate pairs are refused, every string and every name of a value that is read is
the JSON string of a text.  So nothing is lost where it is taken as that text.  Where whole parts
are bounded, every integer can be written.
-/

set_option autoImplicit false

namespace LineMap

open LineMap.Text

/-! ## Strings and values without halves of surrogate pairs -/

def Text.CodePoint.IsScalar (point : CodePoint) : Prop :=
  ∃ c, point = .scalar c

namespace Json

namespace Str

def IsText (s : Str) : Prop :=
  ∀ point ∈ s, point.IsScalar

theorem isText_map_scalar (cells : List Char) : IsText (cells.map .scalar) := by
  intro point member
  obtain ⟨c, -, rfl⟩ := List.mem_map.mp member
  exact ⟨c, rfl⟩

theorem IsText.exists_eq_map {s : Str} (isText : s.IsText) :
    ∃ cells : List Char, s = cells.map .scalar := by
  induction s with
  | nil => exact ⟨[], rfl⟩
  | cons point rest inductionHypothesis =>
      obtain ⟨⟨c, rfl⟩, restText⟩ := List.forall_mem_cons.mp isText
      obtain ⟨cells, rfl⟩ := inductionHypothesis restText
      exact ⟨c :: cells, rfl⟩

theorem IsText.ofString_plain {s : Str} (isText : s.IsText) : Str.ofString s.plain = s := by
  obtain ⟨cells, rfl⟩ := isText.exists_eq_map
  have whole : cells.map .scalar = Str.ofString (String.ofList cells) := by
    rw [Str.ofString, String.toList_ofList]
  rw [whole, plain_ofString]

theorem chars?_eq_some_iff {s : Str} {cells : List Char} :
    s.chars? = some cells ↔ s = cells.map .scalar := by
  constructor
  · intro found
    fun_induction chars? s generalizing cells with
    | case1 =>
        cases found
        rfl
    | case2 c rest inductionHypothesis =>
        obtain ⟨others, restFound, rfl⟩ := Option.map_eq_some_iff.mp found
        rw [inductionHypothesis restFound, List.map_cons]
    | case3 => cases found
  · rintro rfl
    exact chars?_map_scalar cells

theorem toString?_eq_some_iff {s : Str} {text : String} :
    s.toString? = some text ↔ s = Str.ofString text := by
  constructor
  · intro found
    obtain ⟨cells, charsFound, rfl⟩ := Option.map_eq_some_iff.mp found
    rw [chars?_eq_some_iff.mp charsFound, Str.ofString, String.toList_ofList]
  · rintro rfl
    exact toString?_ofString text

end Str

/-- A value in which all strings and all names have one property and all integers another. -/
inductive Value.MadeOf (text : Str → Prop) (number : Int → Prop) : Value → Prop where
  | null : Value.null.MadeOf text number
  | bool (b : Bool) : (Value.bool b).MadeOf text number
  | int {n : Int} (fits : number n) : (Value.int n).MadeOf text number
  | float (x : Number.Binary64) : (Value.float x).MadeOf text number
  | str {s : Str} (isText : text s) : (Value.str s).MadeOf text number
  | arr {items : List Value} (parts : ∀ item ∈ items, item.MadeOf text number) :
      (Value.arr items).MadeOf text number
  | obj {members : Members} (names : ∀ member ∈ members, text member.1)
      (parts : ∀ member ∈ members, member.2.MadeOf text number) :
      (Value.obj members).MadeOf text number

abbrev Value.Textual (value : Value) : Prop :=
  value.MadeOf Str.IsText fun _ => True

theorem Value.MadeOf.mono {text other : Str → Prop} {number bound : Int → Prop} {value : Value}
    (made : value.MadeOf text number) (strings : ∀ s, text s → other s)
    (numbers : ∀ n, number n → bound n) : value.MadeOf other bound := by
  induction made with
  | null => exact .null
  | bool b => exact .bool b
  | int fits => exact .int (numbers _ fits)
  | float x => exact .float x
  | str isText => exact .str (strings _ isText)
  | arr _ parts => exact .arr parts
  | obj names _ parts => exact .obj (fun member present => strings _ (names member present)) parts

/-! ## Reading -/

variable {dialect : Dialect}

theorem isScalar_of_readTrailing {leading : Nat} {cursor after : Cursor} {point : CodePoint}
    (read : readTrailing leading cursor = .ok (point, after)) : point.IsScalar := by
  unfold readTrailing at read
  split at read
  next =>
    obtain ⟨⟨unit, next⟩, -, read⟩ := Result.bind_eq_ok_iff.mp read
    dsimp only at read
    split at read
    · cases read
      exact ⟨_, rfl⟩
    · cases read
  all_goals cases read

theorem isScalar_of_readUnicode (strict : dialect.loneSurrogates = false) {cursor after : Cursor}
    {point : CodePoint} (read : readUnicode dialect cursor = .ok (point, after)) :
    point.IsScalar := by
  obtain ⟨⟨unit, next⟩, -, read⟩ := Result.bind_eq_ok_iff.mp read
  simp only [strict, Bool.false_eq_true, if_false] at read
  split at read
  · exact isScalar_of_readTrailing read
  · split at read <;> cases read
    exact ⟨_, rfl⟩

theorem isScalar_of_readEscape (strict : dialect.loneSurrogates = false) {cursor after : Cursor}
    {point : CodePoint} (read : readEscape dialect cursor = .ok (point, after)) :
    point.IsScalar := by
  unfold readEscape at read
  dsimp only at read
  split at read
  case h_10 => exact isScalar_of_readUnicode strict read
  all_goals cases read <;> exact ⟨_, rfl⟩

def Segment.IsScalar : Segment → Prop
  | .raw _ => True
  | .escaped point => point.IsScalar

theorem isText_of_decodeSegments (strict : dialect.loneSurrogates = false)
    {segments : List Segment} (scalars : ∀ segment ∈ segments, segment.IsScalar) :
    ∀ {before : Nat} {s : Str}, decodeSegments dialect before segments = .ok s → s.IsText := by
  induction segments with
  | nil =>
      intro before s decoded
      cases decoded
      exact nofun
  | cons segment rest inductionHypothesis =>
      intro before s decoded
      obtain ⟨scalar, restScalars⟩ := List.forall_mem_cons.mp scalars
      cases segment with
      | escaped point =>
          obtain ⟨later, restDecoded, found⟩ := Result.bind_eq_ok_iff.mp decoded
          cases found
          exact List.forall_mem_cons.mpr ⟨scalar, inductionHypothesis restScalars restDecoded⟩
      | raw bytes =>
          simp only [decodeSegments, strict, Bool.false_eq_true, if_false] at decoded
          split at decoded
          · cases decoded
          next points pointsDecoded =>
            obtain ⟨later, restDecoded, found⟩ := Result.bind_eq_ok_iff.mp decoded
            cases found
            obtain ⟨cells, rfl⟩ := Utf8.exists_eq_map_of_decodePoints_zero pointsDecoded
            exact List.forall_mem_append.mpr
              ⟨Str.isText_map_scalar cells, inductionHypothesis restScalars restDecoded⟩

/-- The segments of a string hold no half of a pair if those that were read before do not. -/
theorem isScalar_of_readContent (strict : dialect.loneSurrogates = false) (fuel : Nat) :
    ∀ {raw : List UInt8} {before segments : List Segment} {cursor after : Cursor},
      (∀ segment ∈ before, segment.IsScalar) →
      readContent dialect fuel raw before cursor = .ok (segments, after) →
      ∀ segment ∈ segments, segment.IsScalar := by
  induction fuel with
  | zero => exact fun _ read => nomatch read
  | succ fuel inductionHypothesis =>
      intro raw before segments cursor after scalars read
      rw [readContent] at read
      split at read
      · cases read
      · split at read
        · cases read
          intro segment member
          rcases List.mem_cons.mp (List.mem_reverse.mp member) with rfl | member
          · trivial
          · exact scalars segment member
        · split at read
          · obtain ⟨⟨point, next⟩, escape, read⟩ := Result.bind_eq_ok_iff.mp read
            refine inductionHypothesis ?_ read
            exact List.forall_mem_cons.mpr ⟨isScalar_of_readEscape strict escape,
              List.forall_mem_cons.mpr ⟨trivial, scalars⟩⟩
          · split at read
            · cases read
            · exact inductionHypothesis scalars read

theorem isText_of_readString (strict : dialect.loneSurrogates = false) {fuel : Nat}
    {cursor after : Cursor} {s : Str} (read : readString dialect fuel cursor = .ok (s, after)) :
    s.IsText := by
  obtain ⟨⟨segments, next⟩, content, read⟩ := Result.bind_eq_ok_iff.mp read
  dsimp only at read
  split at read
  next decoded =>
    cases read
    have scalars := isScalar_of_readContent strict fuel (List.forall_mem_nil _) content
    exact isText_of_decodeSegments strict scalars decoded
  next => cases read

/-- A number is read as one of floating point, or as the integer that its digits denote. -/
theorem readMagnitude_cases {negative : Bool} {cursor after : Cursor} {value : Value}
    (read : readMagnitude dialect negative cursor = .ok (value, after)) :
    (∃ x, value = .float x) ∨ ∃ whole stop, readWhole dialect cursor = .ok (whole, stop) ∧
      value = .int (Number.signed negative (numberOf whole)) := by
  obtain ⟨⟨whole, next⟩, wholeRead, read⟩ := Result.bind_eq_ok_iff.mp read
  dsimp only at read
  split at read
  · obtain ⟨⟨fraction, next⟩, -, read⟩ := Result.bind_eq_ok_iff.mp read
    dsimp only at read
    split at read
    · obtain ⟨⟨power, next⟩, -, read⟩ := Result.bind_eq_ok_iff.mp read
      cases read
      exact .inl ⟨_, rfl⟩
    · cases read
      exact .inl ⟨_, rfl⟩
  · split at read
    · obtain ⟨⟨power, next⟩, -, read⟩ := Result.bind_eq_ok_iff.mp read
      cases read
      exact .inl ⟨_, rfl⟩
    · split at read <;> cases read
      exact .inr ⟨whole, _, wholeRead, rfl⟩

/-- The ways in which a value is read: where there are parts, they have been read before. -/
inductive ValueRead (dialect : Dialect) (fuel : Nat) (cursor after : Cursor) : Value → Prop where
  | null : ValueRead dialect fuel cursor after .null
  | bool (b : Bool) : ValueRead dialect fuel cursor after (.bool b)
  | float (x : Number.Binary64) : ValueRead dialect fuel cursor after (.float x)
  | int (negative : Bool) {start stop : Cursor} {whole : List Char}
      (read : readWhole dialect start = .ok (whole, stop)) :
      ValueRead dialect fuel cursor after (.int (Number.signed negative (numberOf whole)))
  | str {rest : List UInt8} {s : Str} (begins : cursor.rest = 34 :: rest)
      (read : readString dialect fuel (cursor.skip 1) = .ok (s, after)) :
      ValueRead dialect fuel cursor after (.str s)
  | emptyArr : ValueRead dialect fuel cursor after (.arr [])
  | arr {allowance : Nat} {start : Cursor} {value : Value}
      (read : readItems dialect fuel allowance [] start = .ok (value, after)) :
      ValueRead dialect fuel cursor after value
  | emptyObj : ValueRead dialect fuel cursor after (.obj [])
  | obj {allowance : Nat} {start : Cursor} {value : Value}
      (read : readMembers dialect fuel allowance [] start = .ok (value, after)) :
      ValueRead dialect fuel cursor after value

section Cases

variable {fuel allowance : Nat} {cursor after : Cursor} {value : Value}

theorem eq_of_readWord {word : List UInt8} {start : Cursor} {meant : Value}
    (read : (readWord word start >>= fun next => pure (meant, next)) = .ok (value, after)) :
    value = meant := by
  obtain ⟨next, -, read⟩ := Result.bind_eq_ok_iff.mp read
  cases read
  rfl

theorem valueRead_of_readMagnitude {negative : Bool} {start : Cursor}
    (read : readMagnitude dialect negative start = .ok (value, after)) :
    ValueRead dialect fuel cursor after value := by
  obtain ⟨x, rfl⟩ | ⟨whole, stop, wholeRead, rfl⟩ := readMagnitude_cases read
  · exact .float x
  · exact .int negative wholeRead

theorem valueRead_of_readNegative {start : Cursor}
    (read : readNegative dialect start = .ok (value, after)) :
    ValueRead dialect fuel cursor after value := by
  unfold readNegative at read
  split at read
  · exact eq_of_readWord read ▸ .float _
  · exact valueRead_of_readMagnitude read

theorem readValue_cases
    (read : readValue dialect (fuel + 1) allowance cursor = .ok (value, after)) :
    ValueRead dialect fuel cursor after value := by
  rw [readValue] at read
  split at read
  · cases read
  next byte rest shape =>
    dsimp only at read
    rcases ite_eq_iff.mp read with ⟨-, read⟩ | ⟨-, read⟩
    · exact eq_of_readWord read ▸ .null
    rcases ite_eq_iff.mp read with ⟨-, read⟩ | ⟨-, read⟩
    · exact eq_of_readWord read ▸ .bool true
    rcases ite_eq_iff.mp read with ⟨-, read⟩ | ⟨-, read⟩
    · exact eq_of_readWord read ▸ .bool false
    rcases ite_eq_iff.mp read with ⟨-, read⟩ | ⟨-, read⟩
    · exact eq_of_readWord read ▸ .float _
    rcases ite_eq_iff.mp read with ⟨-, read⟩ | ⟨-, read⟩
    · exact eq_of_readWord read ▸ .float _
    rcases ite_eq_iff.mp read with ⟨quote, read⟩ | ⟨-, read⟩
    · obtain ⟨⟨s, next⟩, string, read⟩ := Result.bind_eq_ok_iff.mp read
      cases read
      exact .str (quote ▸ shape) string
    rcases ite_eq_iff.mp read with ⟨-, read⟩ | ⟨-, read⟩
    · exact valueRead_of_readNegative read
    rcases ite_eq_iff.mp read with ⟨-, read⟩ | ⟨-, read⟩
    · exact valueRead_of_readMagnitude read
    rcases ite_eq_iff.mp read with ⟨-, read⟩ | ⟨-, read⟩
    · split at read
      · cases read
      · cases read
        exact .emptyArr
      · split at read
        · cases read
        · exact .arr read
    rcases ite_eq_iff.mp read with ⟨-, read⟩ | ⟨-, read⟩
    · split at read
      · cases read
      · cases read
        exact .emptyObj
      · exact .obj read
    · cases read

/-- An item is read, and then the array ends or other items follow. -/
theorem readItems_cases {items : List Value}
    (read : readItems dialect (fuel + 1) allowance items cursor = .ok (value, after)) :
    ∃ item stop, readValue dialect fuel allowance cursor = .ok (item, stop) ∧
      (value = .arr (item :: items).reverse ∨
        ∃ next, readItems dialect fuel allowance (item :: items) next = .ok (value, after)) := by
  rw [readItems] at read
  obtain ⟨⟨item, stop⟩, itemRead, read⟩ := Result.bind_eq_ok_iff.mp read
  refine ⟨item, stop, itemRead, ?_⟩
  dsimp only at read
  split at read
  · cases read
  split at read
  · split at read
    · cases read
    · exact .inr ⟨_, read⟩
  split at read
  · cases read
    exact .inl rfl
  · cases read

/-- A name and a value are read, and then the object ends or other members follow. -/
theorem readMembers_cases {members : Members}
    (read : readMembers dialect (fuel + 1) allowance members cursor = .ok (value, after)) :
    ∃ name part, (∃ stop, readString dialect fuel (cursor.skip 1) = .ok (name, stop)) ∧
      (∃ allowance start stop, readValue dialect fuel allowance start = .ok (part, stop)) ∧
      (value = .obj ((name, part) :: members).reverse ∨
        ∃ next, readMembers dialect fuel allowance ((name, part) :: members) next =
          .ok (value, after)) := by
  rw [readMembers] at read
  split at read
  · cases read
  obtain ⟨⟨name, stop⟩, nameRead, read⟩ := Result.bind_eq_ok_iff.mp read
  dsimp only at read
  split at read
  · cases read
  split at read
  · cases read
  split at read
  · cases read
  · cases read
  obtain ⟨⟨part, stop⟩, partRead, read⟩ := Result.bind_eq_ok_iff.mp read
  refine ⟨name, part, ⟨_, nameRead⟩, ⟨_, _, _, partRead⟩, ?_⟩
  dsimp only at read
  split at read
  · cases read
  split at read
  · split at read
    · cases read
    · cases read
    · exact .inr ⟨_, read⟩
  split at read
  · cases read
    exact .inl rfl
  · cases read

end Cases

/-- What the readings of strings and of whole parts give in a dialect. -/
structure Dialect.Gives (dialect : Dialect) (text : Str → Prop) (number : Int → Prop) : Prop where
  strings : ∀ {fuel : Nat} {cursor after : Cursor} {s : Str},
    readString dialect fuel cursor = .ok (s, after) → text s
  wholes : ∀ {cursor after : Cursor} {whole : List Char} (negative : Bool),
    readWhole dialect cursor = .ok (whole, after) →
      number (Number.signed negative (numberOf whole))

section Values

variable {text : Str → Prop} {number : Int → Prop}

/-- What is read with so much fuel is made of what the dialect gives, if what was read of it before
is. -/
structure ReadsParts (dialect : Dialect) (text : Str → Prop) (number : Int → Prop) (fuel : Nat) :
    Prop where
  value : ∀ {allowance : Nat} {cursor after : Cursor} {value : Value},
    readValue dialect fuel allowance cursor = .ok (value, after) → value.MadeOf text number
  items : ∀ {allowance : Nat} {items : List Value} {cursor after : Cursor} {value : Value},
    (∀ item ∈ items, item.MadeOf text number) →
      readItems dialect fuel allowance items cursor = .ok (value, after) →
        value.MadeOf text number
  members : ∀ {allowance : Nat} {members : Members} {cursor after : Cursor} {value : Value},
    (∀ member ∈ members, text member.1 ∧ member.2.MadeOf text number) →
      readMembers dialect fuel allowance members cursor = .ok (value, after) →
        value.MadeOf text number

namespace ReadsParts

theorem zero (dialect : Dialect) : ReadsParts dialect text number 0 where
  value := fun read => nomatch read
  items := fun _ read => nomatch read
  members := fun _ read => nomatch read

variable {fuel allowance : Nat} {cursor after : Cursor} {value : Value}

theorem readValue_succ (gives : dialect.Gives text number)
    (earlier : ReadsParts dialect text number fuel)
    (read : readValue dialect (fuel + 1) allowance cursor = .ok (value, after)) :
    value.MadeOf text number := by
  cases readValue_cases read with
  | null => exact .null
  | bool b => exact .bool b
  | float x => exact .float x
  | int negative wholeRead => exact .int (gives.wholes negative wholeRead)
  | str _ stringRead => exact .str (gives.strings stringRead)
  | emptyArr => exact .arr (List.forall_mem_nil _)
  | arr itemsRead => exact earlier.items (List.forall_mem_nil _) itemsRead
  | emptyObj => exact .obj (List.forall_mem_nil _) (List.forall_mem_nil _)
  | obj membersRead => exact earlier.members (List.forall_mem_nil _) membersRead

theorem readItems_succ {items : List Value} (earlier : ReadsParts dialect text number fuel)
    (parts : ∀ item ∈ items, item.MadeOf text number)
    (read : readItems dialect (fuel + 1) allowance items cursor = .ok (value, after)) :
    value.MadeOf text number := by
  obtain ⟨item, stop, itemRead, last⟩ := readItems_cases read
  have all : ∀ part ∈ item :: items, part.MadeOf text number :=
    List.forall_mem_cons.mpr ⟨earlier.value itemRead, parts⟩
  obtain rfl | ⟨next, more⟩ := last
  · exact .arr fun part member => all part (List.mem_reverse.mp member)
  · exact earlier.items all more

theorem readMembers_succ (gives : dialect.Gives text number) {members : Members}
    (earlier : ReadsParts dialect text number fuel)
    (parts : ∀ member ∈ members, text member.1 ∧ member.2.MadeOf text number)
    (read : readMembers dialect (fuel + 1) allowance members cursor = .ok (value, after)) :
    value.MadeOf text number := by
  obtain ⟨name, part, ⟨stop, nameRead⟩, ⟨_, _, _, partRead⟩, last⟩ := readMembers_cases read
  have all : ∀ member ∈ (name, part) :: members, text member.1 ∧ member.2.MadeOf text number :=
    List.forall_mem_cons.mpr ⟨⟨gives.strings nameRead, earlier.value partRead⟩, parts⟩
  obtain rfl | ⟨next, more⟩ := last
  · exact .obj (fun member present => (all member (List.mem_reverse.mp present)).1)
      (fun member present => (all member (List.mem_reverse.mp present)).2)
  · exact earlier.members all more

end ReadsParts

theorem readsParts (gives : dialect.Gives text number) (fuel : Nat) :
    ReadsParts dialect text number fuel := by
  induction fuel with
  | zero => exact .zero dialect
  | succ fuel earlier =>
      exact ⟨earlier.readValue_succ gives, earlier.readItems_succ, earlier.readMembers_succ gives⟩

theorem madeOf_of_readText (gives : dialect.Gives text number) {bytes : List UInt8} {value : Value}
    (read : readText dialect bytes = .ok value) : value.MadeOf text number := by
  obtain ⟨⟨found, after⟩, readFound, read⟩ := Result.bind_eq_ok_iff.mp read
  dsimp only at read
  split at read
  · cases read
    exact (readsParts gives _).value readFound
  · cases read

end Values

/-! ## Files -/

/-- The whole part of a number has no more digits than the dialect allows. -/
theorem length_le_of_readWhole {bound : Nat} (limit : dialect.wholeLimit = some bound)
    (positive : 0 < bound) {cursor after : Cursor} {whole : List Char}
    (read : readWhole dialect cursor = .ok (whole, after)) : whole.length ≤ bound := by
  unfold readWhole at read
  split at read
  · split at read <;> cases read
    exact positive
  · cases read
    exact positive
  · obtain ⟨⟨digits, stop⟩, -, read⟩ := Result.bind_eq_ok_iff.mp read
    dsimp only at read
    split at read
    next fits =>
      cases read
      simpa [within, limit] using fits
    next => cases read

theorem gives_fileDialect :
    fileDialect.Gives Str.IsText fun n => Number.isWritable n = true where
  strings := isText_of_readString rfl
  wholes negative read := Number.isWritable_signed_numberOf negative
    (length_le_of_readWhole rfl (by decide) read)

end Json

theorem Validation.Payload.madeOf_of_json {document : Payload} {value : Json.Value}
    (read : document.json = .ok value) :
    value.MadeOf Json.Str.IsText fun n => Number.isWritable n = true := by
  unfold Payload.json at read
  dsimp only at read
  split at read
  next readValue =>
    cases read
    exact Json.madeOf_of_readText Json.gives_fileDialect readValue
  next => cases read

theorem Validation.Payload.textual_of_json {document : Payload} {value : Json.Value}
    (read : document.json = .ok value) : value.Textual :=
  (madeOf_of_json read).mono (fun _ isText => isText) fun _ _ => trivial

end LineMap
