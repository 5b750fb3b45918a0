import LineMap.Proofs.Json.Textual

/-!
# Halves of surrogate pairs in a string that is read

Escapes and gaps are ASCII.  So if the bytes of half of a surrogate pair stand in a text that is one
string, they stand in a part of it that is no escape, and half of a pair stands in the string that
is read.
-/

set_option autoImplicit false

namespace LineMap.Json

open LineMap.Text
open LineMap.Text.Utf8

variable {dialect : Dialect} {cursor after : Cursor}

/-! ## Escapes and gaps -/

def PastAscii (cursor after : Cursor) : Prop :=
  ∃ front, cursor.rest = front ++ after.rest ∧ ∀ byte ∈ front, byte.toNat < 0x80

theorem holdsHalf_of_ascii_append {front rest : List UInt8}
    (ascii : ∀ byte ∈ front, byte.toNat < 0x80) (holds : HoldsHalf (front ++ rest)) :
    HoldsHalf rest := by
  induction front with
  | nil => exact holds
  | cons byte others inductionHypothesis =>
      obtain ⟨first, later⟩ := List.forall_mem_cons.mp ascii
      have afterNothing : HoldsHalf ([] ++ byte :: (others ++ rest)) := holds
      obtain nothing | behind := afterNothing.of_append_cons first
      · exact absurd nothing (not_holdsHalf_of_ascii (List.forall_mem_nil _))
      · exact inductionHypothesis later behind

namespace PastAscii

theorem holdsHalf (past : PastAscii cursor after) (holds : HoldsHalf cursor.rest) :
    HoldsHalf after.rest := by
  obtain ⟨front, whole, ascii⟩ := past
  exact holdsHalf_of_ascii_append ascii (whole ▸ holds)

theorem refl (cursor : Cursor) : PastAscii cursor cursor :=
  ⟨[], rfl, List.forall_mem_nil _⟩

theorem trans {middle : Cursor} (first : PastAscii cursor middle)
    (later : PastAscii middle after) : PastAscii cursor after := by
  obtain ⟨front, whole, ascii⟩ := first
  obtain ⟨more, rest, moreAscii⟩ := later
  exact ⟨front ++ more, by rw [whole, rest, List.append_assoc],
    List.forall_mem_append.mpr ⟨ascii, moreAscii⟩⟩

theorem skip (front : List UInt8) {rest : List UInt8} (shape : cursor.rest = front ++ rest)
    (ascii : ∀ byte ∈ front, byte.toNat < 0x80) :
    PastAscii cursor (cursor.skip front.length) :=
  ⟨front, by rw [Cursor.skip, shape, List.drop_left], ascii⟩

end PastAscii

theorem lt_of_hexValue? : ∀ n < 0x100, (hexValue? (UInt8.ofNat n)).isSome = true → n < 0x80 := by
  decide +kernel

theorem toNat_lt_of_hexValue? {byte : UInt8} {value : Nat} (found : hexValue? byte = some value) :
    byte.toNat < 0x80 := by
  refine lt_of_hexValue? byte.toNat byte.toNat_lt ?_
  rw [UInt8.ofNat_toNat, found]
  rfl

theorem pastAscii_readHex {number : Nat} (read : readHex cursor = .ok (number, after)) :
    PastAscii cursor after := by
  unfold readHex at read
  split at read
  next a b c d rest shape =>
    simp only at read
    split at read
    next first second third fourth =>
      cases read
      refine ⟨[a, b, c, d], shape, ?_⟩
      simp [toNat_lt_of_hexValue? first, toNat_lt_of_hexValue? second,
        toNat_lt_of_hexValue? third, toNat_lt_of_hexValue? fourth]
    all_goals cases read
  next => cases read

theorem pastAscii_second {number : Nat} {tail : List UInt8}
    (shape : cursor.rest = 92 :: 117 :: tail)
    (read : readHex (cursor.skip 2) = .ok (number, after)) : PastAscii cursor after :=
  (PastAscii.skip [92, 117] shape (by simp)).trans (pastAscii_readHex read)

theorem pastAscii_readUnicode {point : CodePoint}
    (read : readUnicode dialect cursor = .ok (point, after)) : PastAscii cursor after := by
  unfold readUnicode at read
  obtain ⟨⟨number, behind⟩, hexRead, read⟩ := Result.bind_eq_ok_iff.mp read
  have past := pastAscii_readHex hexRead
  simp only at read
  split at read
  · split at read
    · unfold joinTrailing at read
      split at read
      next tail shape =>
        obtain ⟨⟨second, stop⟩, secondRead, read⟩ := Result.bind_eq_ok_iff.mp read
        simp only at read
        split at read <;> cases read
        · exact past.trans (pastAscii_second shape secondRead)
        · exact past
      next =>
        cases read
        exact past
    · unfold readTrailing at read
      split at read
      next tail shape =>
        obtain ⟨⟨second, stop⟩, secondRead, read⟩ := Result.bind_eq_ok_iff.mp read
        simp only at read
        split at read <;> cases read
        exact past.trans (pastAscii_second shape secondRead)
      all_goals cases read
  · split at read
    · split at read <;> cases read
      exact past
    · cases read
      exact past

theorem pastAscii_readEscape {point : CodePoint}
    (read : readEscape dialect cursor = .ok (point, after)) : PastAscii cursor after := by
  have single : ∀ {byte : UInt8} {rest : List UInt8}, cursor.rest = byte :: rest →
      byte.toNat < 0x80 → PastAscii cursor (cursor.skip 1) := fun shape ascii =>
    .skip [_] shape (List.forall_mem_singleton.mpr ascii)
  unfold readEscape at read
  simp only at read
  split at read
  case h_1 => cases read
  case h_10 tail shape => exact (single shape (by decide)).trans (pastAscii_readUnicode read)
  case h_11 => cases read
  all_goals
    rename_i shape
    cases read
    exact single shape (by decide)

theorem pastAscii_skipGap (cursor : Cursor) : PastAscii cursor cursor.skipGap := by
  obtain ⟨bytes, index⟩ := cursor
  induction bytes generalizing index with
  | nil => exact .refl _
  | cons byte rest inductionHypothesis =>
      rw [Cursor.skipGap, skipWhile]
      split
      next gap =>
        have ascii : byte.toNat < 0x80 := by
          simp only [isGap, Bool.or_eq_true, beq_iff_eq] at gap
          rcases gap with ((rfl | rfl) | rfl) | rfl <;> decide
        have first : PastAscii ⟨byte :: rest, index⟩ ⟨rest, index + 1⟩ :=
          ⟨[byte], rfl, List.forall_mem_singleton.mpr ascii⟩
        exact first.trans (inductionHypothesis (index + 1))
      next => exact .refl _

/-! ## Strings -/

/-- Whether a segment that is no escape holds the bytes of a half. -/
def HoldRawHalf (segments : List Segment) : Prop :=
  ∃ bytes, .raw bytes ∈ segments ∧ HoldsHalf bytes

/-- The bytes of a half that come next, or were passed by before, end up in a segment unless they
stand behind the string. -/
theorem holdRawHalf_of_readContent {fuel : Nat} :
    ∀ {raw : List UInt8} {segments read : List Segment} {cursor : Cursor},
      HoldRawHalf segments ∨ HoldsHalf (raw.reverse ++ cursor.rest) →
      readContent dialect fuel raw segments cursor = .ok (read, after) →
      HoldRawHalf read ∨ HoldsHalf after.rest := by
  induction fuel with
  | zero => exact fun _ read => nomatch read
  | succ fuel inductionHypothesis =>
      intro raw segments read cursor holds success
      rw [readContent] at success
      split at success
      · cases success
      next byte rest shape =>
        rw [shape] at holds
        split at success
        next quote =>
          cases success
          rcases holds with ⟨bytes, member, half⟩ | half
          · exact .inl ⟨bytes, by simp [member], half⟩
          · refine (half.of_append_cons (by rw [quote]; decide)).imp_left fun inside => ?_
            exact ⟨raw.reverse, by simp, inside⟩
        next =>
          split at success
          next backslash =>
            obtain ⟨⟨point, behind⟩, escapeRead, success⟩ := Result.bind_eq_ok_iff.mp success
            refine inductionHypothesis ?_ success
            rcases holds with ⟨bytes, member, half⟩ | half
            · exact .inl ⟨bytes, by simp [member], half⟩
            · obtain inside | later := half.of_append_cons (by rw [backslash]; decide)
              · exact .inl ⟨raw.reverse, by simp, inside⟩
              · exact .inr ((pastAscii_readEscape escapeRead).holdsHalf later)
          next =>
            split at success
            · cases success
            · refine inductionHypothesis (holds.imp_right fun half => ?_) success
              rwa [List.reverse_cons, List.append_assoc]

theorem exists_surrogate_of_decodeSegments {segments : List Segment} {before : Nat} {s : Str}
    (raw : HoldRawHalf segments) (decoded : decodeSegments dialect before segments = .ok s) :
    ∃ code, .surrogate code ∈ s := by
  induction segments generalizing before s with
  | nil =>
      obtain ⟨bytes, member, -⟩ := raw
      cases member
  | cons segment rest inductionHypothesis =>
      obtain ⟨bytes, member, half⟩ := raw
      cases segment with
      | escaped point =>
          obtain ⟨later, restDecoded, found⟩ := Result.bind_eq_ok_iff.mp decoded
          cases found
          have inRest : .raw bytes ∈ rest := by simpa using member
          obtain ⟨code, inLater⟩ := inductionHypothesis ⟨bytes, inRest, half⟩ restDecoded
          exact ⟨code, List.mem_cons_of_mem _ inLater⟩
      | raw first =>
          rw [decodeSegments] at decoded
          split at decoded
          · cases decoded
          next points pointsDecoded =>
            obtain ⟨later, restDecoded, found⟩ := Result.bind_eq_ok_iff.mp decoded
            cases found
            rcases List.mem_cons.mp member with same | inRest
            · cases same
              obtain ⟨code, inFirst⟩ := exists_surrogate_of_decodePoints half pointsDecoded
              exact ⟨code, List.mem_append_left _ inFirst⟩
            · obtain ⟨code, inLater⟩ := inductionHypothesis ⟨bytes, inRest, half⟩ restDecoded
              exact ⟨code, List.mem_append_right _ inLater⟩

theorem exists_surrogate_of_readString {fuel : Nat} {s : Str} (holds : HoldsHalf cursor.rest)
    (read : readString dialect fuel cursor = .ok (s, after)) :
    (∃ code, .surrogate code ∈ s) ∨ HoldsHalf after.rest := by
  obtain ⟨⟨segments, behind⟩, contentRead, read⟩ := Result.bind_eq_ok_iff.mp read
  dsimp only at read
  split at read
  next decoded =>
    cases read
    have begun : HoldsHalf (([] : List UInt8).reverse ++ cursor.rest) := holds
    refine (holdRawHalf_of_readContent (.inr begun) contentRead).imp_left fun raw => ?_
    exact exists_surrogate_of_decodeSegments raw decoded
  next => cases read

/-! ## Texts -/

theorem readItems_ne_str {fuel : Nat} :
    ∀ {allowance : Nat} {items : List Value} {cursor : Cursor} {s : Str},
      readItems dialect fuel allowance items cursor ≠ .ok (.str s, after) := by
  induction fuel with
  | zero => exact nofun
  | succ fuel inductionHypothesis =>
      intro allowance items cursor s read
      obtain ⟨_, _, -, last | ⟨next, more⟩⟩ := readItems_cases read
      · cases last
      · exact inductionHypothesis more

theorem readMembers_ne_str {fuel : Nat} :
    ∀ {allowance : Nat} {members : Members} {cursor : Cursor} {s : Str},
      readMembers dialect fuel allowance members cursor ≠ .ok (.str s, after) := by
  induction fuel with
  | zero => exact nofun
  | succ fuel inductionHypothesis =>
      intro allowance members cursor s read
      obtain ⟨_, _, -, -, last | ⟨next, more⟩⟩ := readMembers_cases read
      · cases last
      · exact inductionHypothesis more

/-- A value is read as a string only where a string begins. -/
theorem exists_readString_of_readValue {fuel allowance : Nat} {s : Str}
    (read : readValue dialect (fuel + 1) allowance cursor = .ok (.str s, after)) :
    ∃ rest, cursor.rest = 34 :: rest ∧
      readString dialect fuel (cursor.skip 1) = .ok (s, after) := by
  cases readValue_cases read with
  | str begins stringRead => exact ⟨_, begins, stringRead⟩
  | arr itemsRead => exact absurd itemsRead readItems_ne_str
  | obj membersRead => exact absurd membersRead readMembers_ne_str

/-- Where the bytes of a half stand in a text that is one string, a half stands in the string. -/
theorem exists_surrogate_of_readText {bytes : List UInt8} {s : Str} (holds : HoldsHalf bytes)
    (read : readText dialect bytes = .ok (.str s)) : ∃ code, .surrogate code ∈ s := by
  obtain ⟨⟨value, behind⟩, valueRead, read⟩ := Result.bind_eq_ok_iff.mp read
  dsimp only at read
  split at read
  next ends =>
    cases read
    obtain ⟨rest, shape, string⟩ := exists_readString_of_readValue valueRead
    have first : HoldsHalf (Cursor.mk bytes 0).skipGap.rest :=
      (pastAscii_skipGap ⟨bytes, 0⟩).holdsHalf holds
    have inside := (PastAscii.skip [34] shape (by simp)).holdsHalf first
    refine (exists_surrogate_of_readString inside string).resolve_right fun later => ?_
    have last := (pastAscii_skipGap behind).holdsHalf later
    rw [List.isEmpty_iff.mp ends] at last
    exact not_holdsHalf_of_ascii (List.forall_mem_nil _) last
  next => cases read

end LineMap.Json
