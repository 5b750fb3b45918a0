import LineMap.Proofs.Json.Acceptance

/-!
# Texts that are read are sentences

Where a reader succeeds, it has come through a phrase, so a text that is read as a whole is a
sentence.  Together with what the reader makes of sentences, this says which texts are read, and as
which values.
-/

set_option autoImplicit false

namespace LineMap.Json

open LineMap.Text
open LineMap.Number

variable {dialect : Dialect} {cells : List Char} {cursor after : Cursor}

/-! ## From bytes to characters -/

theorem exists_of_encode_cons {byte : UInt8} {tail : List UInt8}
    (shape : Utf8.encode cells = byte :: tail) (ascii : byte.toNat < 0x80) :
    ∃ c rest, cells = c :: rest ∧ c.toNat = byte.toNat ∧ tail = Utf8.encode rest := by
  cases cells with
  | nil => cases shape
  | cons c rest =>
      by_cases small : c.toNat < 0x80
      · rw [encode_cons_of_lt small] at shape
        obtain ⟨first, others⟩ := List.cons.inj shape
        refine ⟨c, rest, rfl, ?_, others.symm⟩
        rw [← first]
        exact (UInt8.toNat_ofNat_of_lt' (Nat.lt_trans small (by decide))).symm
      · rw [Utf8.encode_cons] at shape
        obtain ⟨first, bytes, whole⟩ := Utf8.exists_utf8EncodeChar_cons c
        have above := Utf8.le_of_mem_utf8EncodeChar (Nat.le_of_not_lt small) first
          (whole ▸ List.mem_cons_self)
        rw [whole] at shape
        cases (List.cons.inj shape).1
        omega

theorem exists_of_encode_mark {byte : UInt8} {tail : List UInt8} (mark : Char)
    (shape : Utf8.encode cells = byte :: tail)
    (isMark : byte.toNat = mark.toNat ∧ mark.toNat < 0x80) :
    ∃ rest, cells = mark :: rest ∧ tail = Utf8.encode rest := by
  obtain ⟨same, ascii⟩ := isMark
  obtain ⟨c, rest, rfl, isByte, holds⟩ := exists_of_encode_cons shape (same ▸ ascii)
  cases Char.toNat_inj.mp (isByte.trans same)
  exact ⟨rest, rfl, holds⟩

/-- What is decided on the first byte is decided on the first character, if all bytes above ASCII
are of no concern. -/
theorem head?_all_encode {ofChar : Char → Bool} {ofByte : UInt8 → Bool}
    (agree : ∀ n < 0x80, ofChar (Char.ofNat n) = ofByte (UInt8.ofNat n))
    (above : ∀ n < 0x100, 0x80 ≤ n → ofByte (UInt8.ofNat n) = true)
    (first : cells.head?.all ofChar) : (Utf8.encode cells).head?.all ofByte := by
  cases shape : Utf8.encode cells with
  | nil => rfl
  | cons byte tail =>
      have back : UInt8.ofNat byte.toNat = byte := UInt8.ofNat_toNat
      rw [List.head?_cons, Option.all_some]
      by_cases ascii : byte.toNat < 0x80
      · obtain ⟨c, rest, rfl, same, -⟩ := exists_of_encode_cons shape ascii
        have agreed := agree byte.toNat ascii
        rw [back, ← same, Char.ofNat_toNat] at agreed
        rw [← agreed]
        exact first
      · have high := above byte.toNat byte.toNat_lt (Nat.le_of_not_lt ascii)
        rwa [back] at high

theorem head?_dropWhile_all (inClass : Char → Bool) (cells : List Char) :
    (cells.dropWhile inClass).head?.all fun c => !inClass c := by
  have stops := List.head?_dropWhile_not inClass cells
  cases first : (cells.dropWhile inClass).head? with
  | none => rfl
  | some c => simpa [first] using stops

def Through (cells front : List Char) (after : Cursor) : Prop :=
  ∃ rest, cells = front ++ rest ∧ after.rest = Utf8.encode rest

theorem Through.append {rest more : List Char} (through : Through rest more after)
    (front : List Char) : Through (front ++ rest) (front ++ more) after := by
  obtain ⟨later, rfl, holds⟩ := through
  exact ⟨later, (List.append_assoc front more later).symm, holds⟩

theorem through_skip {byte : UInt8} (mark : Char) (holds : cursor.rest = Utf8.encode cells)
    (next : cursor.rest.head? = some byte)
    (isMark : byte.toNat = mark.toNat ∧ mark.toNat < 0x80) :
    Through cells [mark] (cursor.skip 1) := by
  obtain ⟨tail, shape⟩ := List.head?_eq_some_iff.mp next
  obtain ⟨rest, rfl, tailHolds⟩ := exists_of_encode_mark mark (holds ▸ shape) isMark
  exact ⟨rest, rfl, by rw [Cursor.skip, shape, List.drop_one, List.tail_cons, tailHolds]⟩

/-! ## Gaps and words -/

theorem through_skipGap (holds : cursor.rest = Utf8.encode cells) :
    ∃ gap : Gap, Through cells gap.cells cursor.skipGap := by
  obtain ⟨bytes, index⟩ := cursor
  have same : bytes = Utf8.encode cells := holds
  subst same
  let gap : Gap := ⟨cells.takeWhile isGapChar, List.all_eq_true.mp List.all_takeWhile⟩
  have stops : (Utf8.encode (cells.dropWhile isGapChar)).head?.all fun byte => !isGap byte :=
    head?_all_encode (by decide) (by decide +kernel) (head?_dropWhile_all isGapChar cells)
  have whole : Utf8.encode cells = gap.bytes ++ Utf8.encode (cells.dropWhile isGapChar) := by
    rw [Gap.bytes, ← Utf8.encode_append, List.takeWhile_append_dropWhile]
  refine ⟨gap, cells.dropWhile isGapChar, List.takeWhile_append_dropWhile.symm, ?_⟩
  rw [whole, skipGap_append gap.isGap_of_mem stops]

theorem through_readWord (word : List Char) (ascii : ∀ c ∈ word, c.toNat < 0x80)
    (holds : cursor.rest = Utf8.encode cells)
    (read : readWord (word.map fun c => UInt8.ofNat c.toNat) cursor = .ok after) :
    Through cells word after := by
  induction word generalizing cells cursor with
  | nil =>
      cases read
      exact ⟨cells, rfl, holds⟩
  | cons expected others inductionHypothesis =>
      obtain ⟨first, later⟩ := List.forall_mem_cons.mp ascii
      obtain ⟨bytes, index⟩ := cursor
      cases bytes with
      | nil => cases read
      | cons byte tail =>
          simp only [List.map_cons, readWord] at read
          split at read
          next same =>
            have isMark : byte.toNat = expected.toNat := by
              rw [same]
              exact UInt8.toNat_ofNat_of_lt' (Nat.lt_trans first (by decide))
            obtain ⟨rest, rfl, tailHolds⟩ :=
              exists_of_encode_mark expected holds.symm ⟨isMark, first⟩
            exact (inductionHypothesis later tailHolds read).append [expected]
          next => cases read

/-! ## Numbers -/

theorem through_readDigits {digits : List Char} (holds : cursor.rest = Utf8.encode cells)
    (read : readDigits cursor = .ok (digits, after)) :
    ∃ run : DigitRun, Through cells run.cells after := by
  obtain ⟨bytes, index⟩ := cursor
  have same : bytes = Utf8.encode cells := holds
  subst same
  have stops : NoDigit (Utf8.encode (cells.dropWhile isAsciiDigit)) :=
    head?_all_encode (by decide) (by decide +kernel) (head?_dropWhile_all isAsciiDigit cells)
  have cut : cells.takeWhile isAsciiDigit ++ cells.dropWhile isAsciiDigit = cells :=
    List.takeWhile_append_dropWhile
  by_cases none : cells.takeWhile isAsciiDigit = []
  · -- The first byte is no digit, so nothing was read.
    rw [none, List.nil_append] at cut
    rw [cut] at stops
    exfalso
    cases shape : Utf8.encode cells with
    | nil =>
        rw [shape] at read
        cases read
    | cons byte tail =>
        have outside : isDigitByte byte = false := by simpa [NoDigit, shape] using stops
        simp [readDigits, shape, outside, Cursor.fail] at read
  · let run : DigitRun :=
      ⟨cells.takeWhile isAsciiDigit, none, List.all_eq_true.mp List.all_takeWhile⟩
    have found := readDigits_run run stops index
    rw [DigitRun.bytes, ← Utf8.encode_append, cut] at found
    rw [found] at read
    cases read
    exact ⟨run, _, cut.symm, rfl⟩

/-- Where a whole part is read, it has no zero in front of further digits. -/
theorem through_readWhole {digits : List Char} (holds : cursor.rest = Utf8.encode cells)
    (read : readWhole dialect cursor = .ok (digits, after)) :
    ∃ run : DigitRun, (run.cells.head? = some '0' → run.cells = ['0']) ∧
      Through cells run.cells after := by
  have zero : ∃ run : DigitRun, run.cells = ['0'] :=
    ⟨⟨['0'], List.cons_ne_nil _ _, List.forall_mem_singleton.mpr rfl⟩, rfl⟩
  unfold readWhole at read
  split at read
  case h_1 byte tail shape =>
    split at read
    · cases read
    · cases read
      obtain ⟨run, single⟩ := zero
      refine ⟨run, fun _ => single, ?_⟩
      rw [single]
      exact through_skip '0' holds (by rw [shape]; rfl) (by decide)
  case h_2 shape =>
    cases read
    obtain ⟨run, single⟩ := zero
    refine ⟨run, fun _ => single, ?_⟩
    rw [single]
    exact through_skip '0' holds (by rw [shape]; rfl) (by decide)
  case h_3 noLonger noZero =>
    obtain ⟨⟨found, stop⟩, digitsRead, read⟩ := Result.bind_eq_ok_iff.mp read
    obtain ⟨run, rest, rfl, stopHolds⟩ := through_readDigits holds digitsRead
    have reached : stop = after := by
      simp only at read
      split at read <;> cases read
      rfl
    subst reached
    refine ⟨run, fun leads => ?_, rest, rfl, stopHolds⟩
    obtain ⟨others, shape⟩ := List.head?_eq_some_iff.mp leads
    have bytes : cursor.rest = 48 :: Utf8.encode (others ++ rest) := by
      rw [holds, shape]
      rfl
    cases behind : Utf8.encode (others ++ rest) with
    | nil => exact absurd (bytes.trans (by rw [behind])) noZero
    | cons byte tail => exact absurd (bytes.trans (by rw [behind])) (noLonger byte tail)

theorem through_readPower {exponent : Int} (holds : cursor.rest = Utf8.encode cells)
    (read : readPower cursor = .ok (exponent, after)) :
    ∃ sign? digits, Through cells (Power.signCells sign? ++ DigitRun.cells digits) after := by
  unfold readPower at read
  obtain ⟨⟨found, stop⟩, digitsRead, read⟩ := Result.bind_eq_ok_iff.mp read
  cases read
  split at digitsRead
  · rename_i tail shape
    obtain ⟨rest, rfl, restHolds⟩ :=
      through_skip '-' holds (by rw [shape]; rfl) (by decide)
    obtain ⟨run, through⟩ := through_readDigits restHolds digitsRead
    exact ⟨some true, run, through.append _⟩
  · rename_i tail shape
    obtain ⟨rest, rfl, restHolds⟩ :=
      through_skip '+' holds (by rw [shape]; rfl) (by decide)
    obtain ⟨run, through⟩ := through_readDigits restHolds digitsRead
    exact ⟨some false, run, through.append _⟩
  · obtain ⟨run, through⟩ := through_readDigits holds digitsRead
    exact ⟨none, run, through⟩

theorem through_power {exponent : Int} (holds : cursor.rest = Utf8.encode cells)
    (marked : cursor.atExponent = true)
    (read : readPower (cursor.skip 1) = .ok (exponent, after)) :
    ∃ power : Power, Through cells power.cells after := by
  rw [Cursor.atExponent, Bool.or_eq_true, beq_iff_eq, beq_iff_eq] at marked
  rcases marked with small | capital
  · obtain ⟨rest, rfl, behind⟩ := through_skip 'e' holds small (by decide)
    obtain ⟨sign?, digits, through⟩ := through_readPower behind read
    exact ⟨⟨false, sign?, digits⟩, through.append ['e']⟩
  · obtain ⟨rest, rfl, behind⟩ := through_skip 'E' holds capital (by decide)
    obtain ⟨sign?, digits, through⟩ := through_readPower behind read
    exact ⟨⟨true, sign?, digits⟩, through.append ['E']⟩

/-- Where a number is read behind its sign, the rest of a numeral stands in the text. -/
theorem through_readMagnitude {negative : Bool} {value : Value}
    (holds : cursor.rest = Utf8.encode cells)
    (read : readMagnitude dialect negative cursor = .ok (value, after)) :
    ∃ numeral : Numeral, numeral.negative = negative ∧
      Through cells (numeral.whole.cells ++ numeral.tailCells) after := by
  unfold readMagnitude at read
  obtain ⟨⟨wholeDigits, behindWhole⟩, wholeRead, read⟩ := Result.bind_eq_ok_iff.mp read
  obtain ⟨whole, noLeadingZero, rest, rfl, wholeHolds⟩ := through_readWhole holds wholeRead
  simp only at read
  split at read
  next point =>
    obtain ⟨others, rfl, pointHolds⟩ :=
      through_skip '.' wholeHolds point (by decide)
    obtain ⟨⟨fractionDigits, behind⟩, fractionRead, read⟩ := Result.bind_eq_ok_iff.mp read
    obtain ⟨fraction, more, rfl, fractionHolds⟩ := through_readDigits pointHolds fractionRead
    simp only at read
    split at read
    next marked =>
      obtain ⟨⟨exponent, stop⟩, powerRead, read⟩ := Result.bind_eq_ok_iff.mp read
      cases read
      obtain ⟨power, through⟩ := through_power fractionHolds marked powerRead
      exact ⟨⟨negative, whole, noLeadingZero, some fraction, some power⟩, rfl,
        ((through.append fraction.cells).append ['.']).append whole.cells⟩
    next =>
      cases read
      have stays : Through more [] after := ⟨more, rfl, fractionHolds⟩
      exact ⟨⟨negative, whole, noLeadingZero, some fraction, none⟩, rfl,
        ((stays.append fraction.cells).append ['.']).append whole.cells⟩
  next =>
    split at read
    next marked =>
      obtain ⟨⟨exponent, stop⟩, powerRead, read⟩ := Result.bind_eq_ok_iff.mp read
      cases read
      obtain ⟨power, through⟩ := through_power wholeHolds marked powerRead
      exact ⟨⟨negative, whole, noLeadingZero, none, some power⟩, rfl,
        through.append whole.cells⟩
    next =>
      split at read
      · cases read
        have stays : Through rest [] after := ⟨rest, rfl, wholeHolds⟩
        exact ⟨⟨negative, whole, noLeadingZero, none, none⟩, rfl, stays.append whole.cells⟩
      · cases read

/-! ## Strings -/

theorem exists_hexDigit : ∀ n < 0x100, (hexValue? (UInt8.ofNat n)).isSome = true →
    ∃ value : Fin 16, ∃ capital : Bool, n = (HexDigit.char ⟨value, capital⟩).toNat := by
  decide +kernel

theorem HexDigit.char_lt (digit : HexDigit) : digit.char.toNat < 0x80 := by
  obtain ⟨value, capital⟩ := digit
  revert value capital
  decide

theorem exists_of_hexValue? {byte : UInt8} {value : Nat} {tail : List UInt8}
    (found : hexValue? byte = some value) (shape : Utf8.encode cells = byte :: tail) :
    ∃ (digit : HexDigit) (rest : List Char),
      cells = digit.char :: rest ∧ tail = Utf8.encode rest := by
  have back : UInt8.ofNat byte.toNat = byte := UInt8.ofNat_toNat
  obtain ⟨number, capital, same⟩ := exists_hexDigit byte.toNat byte.toNat_lt
    (by rw [back, found]; rfl)
  obtain ⟨rest, rfl, holds⟩ := exists_of_encode_mark _ shape
    ⟨same, HexDigit.char_lt ⟨number, capital⟩⟩
  exact ⟨⟨number, capital⟩, rest, rfl, holds⟩

theorem through_readHex {number : Nat} (holds : cursor.rest = Utf8.encode cells)
    (read : readHex cursor = .ok (number, after)) :
    ∃ unit : HexUnit, Through cells unit.cells after := by
  unfold readHex at read
  split at read
  next a b c d rest shape =>
    simp only at read
    split at read
    next first second third fourth =>
      cases read
      obtain ⟨one, _, rfl, oneHolds⟩ := exists_of_hexValue? first (holds.symm.trans shape)
      obtain ⟨two, _, rfl, twoHolds⟩ := exists_of_hexValue? second oneHolds.symm
      obtain ⟨three, _, rfl, threeHolds⟩ := exists_of_hexValue? third twoHolds.symm
      obtain ⟨four, others, rfl, fourHolds⟩ := exists_of_hexValue? fourth threeHolds.symm
      exact ⟨⟨one, two, three, four⟩, others, rfl, fourHolds⟩
    all_goals cases read
  next => cases read

/-- The reader has come through what stands behind the backslash of an escape, which may be two
escapes that denote one character. -/
def ThroughEscape (cells : List Char) (after : Cursor) : Prop :=
  ∃ pieces tail, contentCells pieces = '\\' :: tail ∧ Through cells tail after

theorem through_second {α : Type} {next : Nat × Cursor → Except Failure (α × Cursor)} {a : α}
    {tail : List UInt8} (holds : cursor.rest = Utf8.encode cells)
    (shape : cursor.rest = 92 :: 117 :: tail)
    (read : readHex (cursor.skip 2) >>= next = .ok (a, after)) :
    ∃ (unit : HexUnit) (number : Nat) (stop : Cursor),
      Through cells ('\\' :: 'u' :: unit.cells) stop ∧ next (number, stop) = .ok (a, after) := by
  obtain ⟨⟨number, stop⟩, hexRead, read⟩ := Result.bind_eq_ok_iff.mp read
  obtain ⟨_, rfl, marked⟩ := exists_of_encode_mark '\\' (holds.symm.trans shape) (by decide)
  obtain ⟨others, rfl, tailHolds⟩ := exists_of_encode_mark 'u' marked.symm (by decide)
  have behind : (cursor.skip 2).rest = Utf8.encode others := by
    rw [Cursor.skip, shape, ← tailHolds]
    rfl
  obtain ⟨unit, through⟩ := through_readHex behind hexRead
  exact ⟨unit, number, stop, through.append ['\\', 'u'], read⟩

theorem through_readUnicode {point : CodePoint} (holds : cursor.rest = Utf8.encode cells)
    (read : readUnicode dialect cursor = .ok (point, after)) :
    ThroughEscape ('u' :: cells) after := by
  unfold readUnicode at read
  obtain ⟨⟨number, behind⟩, hexRead, read⟩ := Result.bind_eq_ok_iff.mp read
  obtain ⟨first, rest, rfl, behindHolds⟩ := through_readHex holds hexRead
  have alone : behind = after → ThroughEscape ('u' :: (first.cells ++ rest)) after := by
    rintro rfl
    exact ⟨[.unicode first], 'u' :: first.cells, rfl, rest, rfl, behindHolds⟩
  have both : ∀ (second : HexUnit), Through rest ('\\' :: 'u' :: second.cells) after →
      ThroughEscape ('u' :: (first.cells ++ rest)) after := by
    intro second through
    exact ⟨[.unicode first, .unicode second], 'u' :: (first.cells ++ '\\' :: 'u' :: second.cells),
      by simp [contentCells, Piece.cells], (through.append first.cells).append ['u']⟩
  simp only at read
  split at read
  · split at read
    · unfold joinTrailing at read
      split at read
      next tail shape =>
        obtain ⟨second, number, stop, through, read⟩ := through_second behindHolds shape read
        simp only at read
        split at read
        · cases read
          exact both second through
        · cases read
          exact alone rfl
      next =>
        cases read
        exact alone rfl
    · unfold readTrailing at read
      split at read
      next tail shape =>
        obtain ⟨second, number, stop, through, read⟩ := through_second behindHolds shape read
        simp only at read
        split at read
        · cases read
          exact both second through
        · cases read
      all_goals cases read
  · split at read
    · split at read
      · cases read
        exact alone rfl
      · cases read
    · cases read
      exact alone rfl

theorem through_readEscape {point : CodePoint} (holds : cursor.rest = Utf8.encode cells)
    (read : readEscape dialect cursor = .ok (point, after)) : ThroughEscape cells after := by
  have short : ∀ (letter : Char) {byte : UInt8} {tail : List UInt8}, cursor.rest = byte :: tail →
      (byte.toNat = letter.toNat ∧ letter.toNat < 0x80) ∧ (escapeOf? letter).isSome = true →
      ThroughEscape cells (cursor.skip 1) := by
    intro letter byte tail shape known
    obtain ⟨c, denotes⟩ := Option.isSome_iff_exists.mp known.2
    exact ⟨[.short letter c denotes], [letter], rfl,
      through_skip letter holds (by rw [shape]; rfl) known.1⟩
  unfold readEscape at read
  simp only at read
  split at read
  case h_1 => cases read
  case h_2 tail shape =>
    cases read
    exact short '"' shape (by decide)
  case h_3 tail shape =>
    cases read
    exact short '\\' shape (by decide)
  case h_4 tail shape =>
    cases read
    exact short '/' shape (by decide)
  case h_5 tail shape =>
    cases read
    exact short 'b' shape (by decide)
  case h_6 tail shape =>
    cases read
    exact short 'f' shape (by decide)
  case h_7 tail shape =>
    cases read
    exact short 'n' shape (by decide)
  case h_8 tail shape =>
    cases read
    exact short 'r' shape (by decide)
  case h_9 tail shape =>
    cases read
    exact short 't' shape (by decide)
  case h_10 tail shape =>
    obtain ⟨rest, rfl, behind⟩ := through_skip 'u' holds (by rw [shape]; rfl) (by decide)
    exact through_readUnicode behind read
  case h_11 => cases read

theorem readContent_control {c : Char} (control : c.toNat < 0x20) (fuel : Nat) (raw : List UInt8)
    (segments : List Segment) (rest : List Char) (index : Nat) :
    ∃ failure, readContent dialect fuel raw segments ⟨Utf8.encode (c :: rest), index⟩ =
      .error failure := by
  cases fuel with
  | zero => exact ⟨_, rfl⟩
  | succ fuel =>
      have value : (UInt8.ofNat c.toNat).toNat = c.toNat :=
        UInt8.toNat_ofNat_of_lt' (Nat.lt_trans control (by decide))
      have noMark : UInt8.ofNat c.toNat ≠ 34 ∧ UInt8.ofNat c.toNat ≠ 92 := by
        rw [ne_eq, ne_eq, ← UInt8.toNat_inj, ← UInt8.toNat_inj, value]
        simp only [UInt8.reduceToNat]
        omega
      have low : UInt8.ofNat c.toNat < 32 := by
        rw [UInt8.lt_iff_toNat_lt, value]
        exact control
      rw [encode_cons_of_lt (Nat.lt_trans control (by decide)), readContent]
      simp only [if_neg noMark.1, if_neg noMark.2, if_pos low]
      exact ⟨_, rfl⟩

/-- Where the content of a string is read, pieces and a closing mark stand in the text.  Bytes of a
character that the reader has begun may come first. -/
theorem through_readContent {fuel : Nat} :
    ∀ {begun raw : List UInt8} {segments read : List Segment} {cells : List Char}
      {cursor : Cursor}, (∀ byte ∈ begun, IsContent byte) →
      cursor.rest = begun ++ Utf8.encode cells →
      readContent dialect fuel raw segments cursor = .ok (read, after) →
      ∃ pieces, Through cells (contentCells pieces ++ ['"']) after := by
  induction fuel with
  | zero =>
      intro begun raw segments read cells cursor content holds success
      cases success
  | succ fuel inductionHypothesis =>
      have passed : ∀ {byte : UInt8} {others raw : List UInt8} {segments read : List Segment}
          {cells : List Char} {cursor : Cursor}, (∀ inside ∈ byte :: others, IsContent inside) →
          cursor.rest = byte :: others ++ Utf8.encode cells →
          readContent dialect (fuel + 1) raw segments cursor = .ok (read, after) →
          ∃ pieces, Through cells (contentCells pieces ++ ['"']) after := by
        intro byte others raw segments read cells cursor content holds success
        obtain ⟨⟨noQuote, noBackslash, noControl⟩, later⟩ := List.forall_mem_cons.mp content
        rw [readContent, holds, List.cons_append] at success
        simp only [if_neg noQuote, if_neg noBackslash, if_neg noControl] at success
        exact inductionHypothesis later rfl success
      intro begun raw segments read cells cursor content holds success
      cases begun with
      | cons byte others => exact passed content holds success
      | nil =>
          obtain ⟨bytes, index⟩ := cursor
          have same : bytes = Utf8.encode cells := holds
          subst same
          cases cells with
          | nil => cases success
          | cons c rest =>
              by_cases quote : c = '"'
              · subst quote
                cases success
                exact ⟨[], rest, rfl, rfl⟩
              by_cases backslash : c = '\\'
              · subst backslash
                obtain ⟨⟨point, behind⟩, escapeRead, contentRead⟩ :=
                  Result.bind_eq_ok_iff.mp success
                obtain ⟨escape, tail, whole, more, rfl, moreHolds⟩ :=
                  through_readEscape rfl escapeRead
                obtain ⟨pieces, through⟩ :=
                  inductionHypothesis (List.forall_mem_nil _) moreHolds contentRead
                have front : contentCells (escape ++ pieces) ++ ['"'] =
                    '\\' :: tail ++ (contentCells pieces ++ ['"']) := by
                  rw [← whole, contentCells, List.flatMap_append, List.append_assoc]
                  rfl
                refine ⟨escape ++ pieces, ?_⟩
                rw [front]
                exact through.append ('\\' :: tail)
              by_cases control : c.toNat < 0x20
              · obtain ⟨failure, failed⟩ :=
                  readContent_control control (fuel + 1) raw segments rest index
                cases failed.symm.trans success
              · have alone : StandsAlone c := ⟨quote, backslash, Nat.le_of_not_lt control⟩
                have inside := isContent_of_mem_utf8EncodeChar quote backslash alone.2.2
                obtain ⟨byte, bytes, shape⟩ := Utf8.exists_utf8EncodeChar_cons c
                rw [shape] at inside
                obtain ⟨pieces, through⟩ := passed inside
                  (by rw [← shape]; exact Utf8.encode_cons c rest) success
                exact ⟨.plain c alone :: pieces, through.append [c]⟩

/-- Where a string is read behind its first mark, pieces and its last mark stand in the text. -/
theorem through_readString {fuel : Nat} {s : Str} (holds : cursor.rest = Utf8.encode cells)
    (read : readString dialect fuel cursor = .ok (s, after)) :
    ∃ pieces, Through cells (contentCells pieces ++ ['"']) after := by
  unfold readString at read
  obtain ⟨⟨segments, stop⟩, contentRead, decoded⟩ := Result.bind_eq_ok_iff.mp read
  simp only at decoded
  split at decoded
  · cases decoded
    exact through_readContent (List.forall_mem_nil _) holds contentRead
  · cases decoded

/-! ## Values -/

/-- With some fuel, whatever is read as a value, as items or as members stands in the text. -/
structure Derives (dialect : Dialect) (fuel : Nat) : Prop where
  value : ∀ {allowance : Nat} {cells : List Char} {cursor after : Cursor} {value : Value},
    cursor.rest = Utf8.encode cells →
    readValue dialect fuel allowance cursor = .ok (value, after) →
    ∃ phrase : Phrase, Through cells phrase.cells after
  items : ∀ {allowance : Nat} {found : List Value} {cells : List Char} {cursor after : Cursor}
    {value : Value}, cursor.rest = Utf8.encode cells →
    readItems dialect fuel allowance found cursor = .ok (value, after) →
    ∃ items : ItemList, Through cells (items.cells ++ [']']) after
  members : ∀ {allowance : Nat} {seen : Members} {cells : List Char} {cursor after : Cursor}
    {value : Value}, cursor.rest = Utf8.encode cells →
    readMembers dialect fuel allowance seen cursor = .ok (value, after) →
    ∃ members : MemberList, Through cells (members.cells ++ ['\x7d']) after

theorem through_word (word : Word) (front tail : List Char) (shape : word.cells = front ++ tail)
    {value found : Value} (through : Through cells front cursor)
    (read : (readWord (tail.map fun c => UInt8.ofNat c.toNat) cursor >>= fun behind =>
      .ok (value, behind)) = .ok (found, after)) :
    ∃ phrase : Phrase, Through cells phrase.cells after := by
  obtain ⟨behind, wordRead, read⟩ := Result.bind_eq_ok_iff.mp read
  cases read
  obtain ⟨rest, rfl, holds⟩ := through
  have ascii : ∀ c ∈ tail, c.toNat < 0x80 := fun c member =>
    word.ascii c (shape ▸ List.mem_append_right front member)
  refine ⟨.word word, ?_⟩
  rw [Phrase.cells, shape]
  exact (through_readWord tail ascii holds wordRead).append front

theorem through_number {negative : Bool} {value : Value}
    (read : readMagnitude dialect negative cursor = .ok (value, after))
    (through : Through cells (if negative then ['-'] else []) cursor) :
    ∃ phrase : Phrase, Through cells phrase.cells after := by
  obtain ⟨rest, rfl, holds⟩ := through
  obtain ⟨numeral, rfl, behind⟩ := through_readMagnitude holds read
  exact ⟨.number numeral, behind.append _⟩

theorem through_readNegative {value : Value} (through : Through cells ['-'] cursor)
    (read : readNegative dialect cursor = .ok (value, after)) :
    ∃ phrase : Phrase, Through cells phrase.cells after := by
  unfold readNegative at read
  split at read
  next tail shape =>
    obtain ⟨rest, rfl, holds⟩ := through
    have capital := through_skip 'I' holds (by rw [shape]; rfl) (by decide)
    exact through_word (.infinity true) ['-', 'I'] "nfinity".toList rfl
      (capital.append ['-']) read
  next => exact through_number read through

theorem through_string {fuel : Nat} {found : Value} (through : Through cells ['"'] cursor)
    (read : (readString dialect fuel cursor >>= fun found => .ok (.str found.1, found.2)) =
      .ok (found, after)) : ∃ phrase : Phrase, Through cells phrase.cells after := by
  obtain ⟨rest, rfl, holds⟩ := through
  obtain ⟨⟨s, stop⟩, stringRead, read⟩ := Result.bind_eq_ok_iff.mp read
  cases read
  obtain ⟨pieces, behind⟩ := through_readString holds stringRead
  exact ⟨.string pieces, behind.append ['"']⟩

section Containers

variable {fuel allowance index : Nat} {tail : List UInt8} {found : Value}

theorem through_array (derives : Derives dialect fuel) (holds : 91 :: tail = Utf8.encode cells)
    (read : readValue dialect (fuel + 1) allowance ⟨91 :: tail, index⟩ = .ok (found, after)) :
    ∃ phrase : Phrase, Through cells phrase.cells after := by
  obtain ⟨inside, rfl, insideHolds⟩ := exists_of_encode_mark '[' holds.symm (by decide)
  have behind : (Cursor.mk tail (index + 1)).rest = Utf8.encode inside := insideHolds
  obtain ⟨gap, rest, rfl, restHolds⟩ := through_skipGap behind
  rw [readValue_opensArray] at read
  split at read
  next => cases read
  next shape =>
    cases read
    have closes := through_skip ']' restHolds (by rw [shape]; rfl) (by decide)
    exact ⟨.emptyArray gap, (closes.append gap.cells).append ['[']⟩
  next =>
    split at read
    · cases read
    · obtain ⟨items, through⟩ := derives.items restHolds read
      exact ⟨.array gap items, (through.append gap.cells).append ['[']⟩

theorem through_object (derives : Derives dialect fuel) (holds : 123 :: tail = Utf8.encode cells)
    (read : readValue dialect (fuel + 1) allowance ⟨123 :: tail, index⟩ = .ok (found, after)) :
    ∃ phrase : Phrase, Through cells phrase.cells after := by
  obtain ⟨inside, rfl, insideHolds⟩ := exists_of_encode_mark '\x7b' holds.symm (by decide)
  have behind : (Cursor.mk tail (index + 1)).rest = Utf8.encode inside := insideHolds
  obtain ⟨gap, rest, rfl, restHolds⟩ := through_skipGap behind
  rw [readValue_opensObject] at read
  split at read
  next => cases read
  next shape =>
    cases read
    have closes := through_skip '\x7d' restHolds (by rw [shape]; rfl) (by decide)
    exact ⟨.emptyObject gap, (closes.append gap.cells).append ['\x7b']⟩
  next =>
    obtain ⟨members, through⟩ := derives.members restHolds read
    exact ⟨.object gap members, (through.append gap.cells).append ['\x7b']⟩

theorem through_readValue (derives : Derives dialect fuel)
    (holds : cursor.rest = Utf8.encode cells)
    (read : readValue dialect (fuel + 1) allowance cursor = .ok (found, after)) :
    ∃ phrase : Phrase, Through cells phrase.cells after := by
  obtain ⟨bytes, index⟩ := cursor
  cases bytes with
  | nil => cases read
  | cons byte tail =>
      have stays : Through cells [] ⟨byte :: tail, index⟩ := ⟨cells, rfl, holds⟩
      have front : ∀ mark : Char, byte.toNat = mark.toNat ∧ mark.toNat < 0x80 →
          Through cells [mark] ⟨tail, index + 1⟩ := fun mark isMark =>
        through_skip mark holds rfl isMark
      by_cases isNull : byte = 110
      · subst isNull
        exact through_word .null ['n'] ['u', 'l', 'l'] rfl (front 'n' (by decide)) read
      by_cases isTrue : byte = 116
      · subst isTrue
        exact through_word (.bool true) ['t'] ['r', 'u', 'e'] rfl (front 't' (by decide)) read
      by_cases isFalse : byte = 102
      · subst isFalse
        exact through_word (.bool false) ['f'] ['a', 'l', 's', 'e'] rfl (front 'f' (by decide)) read
      by_cases isNan : byte = 78
      · subst isNan
        exact through_word .nan ['N'] ['a', 'N'] rfl (front 'N' (by decide)) read
      by_cases isInfinity : byte = 73
      · subst isInfinity
        exact through_word (.infinity false) ['I'] "nfinity".toList rfl (front 'I' (by decide)) read
      by_cases isQuote : byte = 34
      · subst isQuote
        exact through_string (front '"' (by decide)) read
      by_cases isMinus : byte = 45
      · subst isMinus
        exact through_readNegative (front '-' (by decide)) read
      by_cases isDigit : isDigitByte byte = true
      · rw [readValue_of_isDigitByte isDigit] at read
        exact through_number read stays
      by_cases opensArray : byte = 91
      · subst opensArray
        exact through_array derives holds read
      by_cases opensObject : byte = 123
      · subst opensObject
        exact through_object derives holds read
      simp [readValue, *, Cursor.fail] at read

theorem through_readItems (derives : Derives dialect fuel) {items : List Value}
    (holds : cursor.rest = Utf8.encode cells)
    (read : readItems dialect (fuel + 1) allowance items cursor = .ok (found, after)) :
    ∃ items : ItemList, Through cells (items.cells ++ [']']) after := by
  rw [readItems] at read
  obtain ⟨⟨value, stop⟩, itemRead, read⟩ := Result.bind_eq_ok_iff.mp read
  obtain ⟨item, rest, rfl, stopHolds⟩ := derives.value holds itemRead
  obtain ⟨behind, more, rfl, nextHolds⟩ := through_skipGap stopHolds
  simp only at read
  split at read
  next => cases read
  next byte tail shape =>
    split at read
    next comma =>
      subst comma
      obtain ⟨others, rfl, othersHolds⟩ :=
        through_skip ',' nextHolds (by rw [shape]; rfl) (by decide)
      obtain ⟨before, others, rfl, followingHolds⟩ := through_skipGap othersHolds
      split at read
      · cases read
      · obtain ⟨later, through⟩ := derives.items followingHolds read
        refine ⟨.more item behind before later, ?_⟩
        have whole := (((through.append before.cells).append [',']).append
          behind.cells).append item.cells
        simpa only [ItemList.cells, List.append_assoc, List.cons_append, List.nil_append]
          using whole
    next =>
      split at read
      next close =>
        subst close
        cases read
        refine ⟨.last item behind, ?_⟩
        have closes := through_skip ']' nextHolds (by rw [shape]; rfl) (by decide)
        have whole := (closes.append behind.cells).append item.cells
        simpa only [ItemList.cells, List.append_assoc] using whole
      next => cases read

theorem through_readMember (derives : Derives dialect fuel) {member : Str × Value}
    (holds : cursor.rest = Utf8.encode cells)
    (read : readMember dialect fuel allowance cursor = .ok (member, after)) :
    ∃ (label : Label) (value : Phrase), Through cells (label.cells ++ value.cells) after := by
  unfold readMember at read
  split at read
  next => cases read
  next opens =>
    obtain ⟨inside, rfl, insideHolds⟩ :=
      through_skip '"' holds (Decidable.not_not.mp opens) (by decide)
    obtain ⟨⟨name, stop⟩, nameRead, read⟩ := Result.bind_eq_ok_iff.mp read
    obtain ⟨pieces, rest, rfl, stopHolds⟩ := through_readString insideHolds nameRead
    obtain ⟨behind, rest, rfl, colonHolds⟩ := through_skipGap stopHolds
    simp only at read
    split at read
    next => cases read
    next byte tail shape =>
      split at read
      next => cases read
      next colon =>
        cases Decidable.not_not.mp colon
        obtain ⟨rest, rfl, restHolds⟩ :=
          through_skip ':' colonHolds (by rw [shape]; rfl) (by decide)
        obtain ⟨before, rest, rfl, firstHolds⟩ := through_skipGap restHolds
        split at read
        · cases read
        · cases read
        · obtain ⟨⟨found, last⟩, valueRead, read⟩ := Result.bind_eq_ok_iff.mp read
          cases read
          obtain ⟨value, through⟩ := derives.value firstHolds valueRead
          refine ⟨⟨pieces, behind, before⟩, value, ?_⟩
          have whole := ((((through.append before.cells).append [':']).append
            behind.cells).append (contentCells pieces ++ ['"'])).append ['"']
          simpa only [Label.cells, quotedCells, List.append_assoc, List.cons_append,
            List.nil_append] using whole

theorem through_readMembers (derives : Derives dialect fuel) {seen : Members}
    (holds : cursor.rest = Utf8.encode cells)
    (read : readMembers dialect (fuel + 1) allowance seen cursor = .ok (found, after)) :
    ∃ members : MemberList, Through cells (members.cells ++ ['\x7d']) after := by
  rw [readMembers_succ] at read
  obtain ⟨⟨member, stop⟩, memberRead, read⟩ := Result.bind_eq_ok_iff.mp read
  obtain ⟨label, value, rest, rfl, stopHolds⟩ := through_readMember derives holds memberRead
  obtain ⟨behind, more, rfl, nextHolds⟩ := through_skipGap stopHolds
  simp only [readBehindMember] at read
  split at read
  next => cases read
  next byte tail shape =>
    split at read
    next comma =>
      subst comma
      obtain ⟨others, rfl, othersHolds⟩ :=
        through_skip ',' nextHolds (by rw [shape]; rfl) (by decide)
      obtain ⟨before, others, rfl, followingHolds⟩ := through_skipGap othersHolds
      split at read
      · cases read
      · cases read
      · obtain ⟨later, through⟩ := derives.members followingHolds read
        refine ⟨.more label value behind before later, ?_⟩
        have whole := (((through.append before.cells).append [',']).append
          behind.cells).append (label.cells ++ value.cells)
        simpa only [MemberList.cells, List.append_assoc, List.cons_append, List.nil_append]
          using whole
    next =>
      split at read
      next close =>
        subst close
        cases read
        refine ⟨.last label value behind, ?_⟩
        have closes := through_skip '\x7d' nextHolds (by rw [shape]; rfl) (by decide)
        have whole := (closes.append behind.cells).append (label.cells ++ value.cells)
        simpa only [MemberList.cells, List.append_assoc] using whole
      next => cases read

end Containers

theorem derives (dialect : Dialect) (fuel : Nat) : Derives dialect fuel := by
  induction fuel with
  | zero =>
      constructor
      · intro allowance cells cursor after value holds read
        cases read
      · intro allowance found cells cursor after value holds read
        cases read
      · intro allowance seen cells cursor after value holds read
        cases read
  | succ fuel inductionHypothesis =>
      exact ⟨through_readValue inductionHypothesis, through_readItems inductionHypothesis,
        through_readMembers inductionHypothesis⟩

/-! ## Sentences -/

theorem exists_sentence {value : Value}
    (read : readText dialect (Utf8.encode cells) = .ok value) :
    ∃ sentence : Sentence, sentence.cells = cells := by
  unfold readText at read
  have holds : (Cursor.mk (Utf8.encode cells) 0).rest = Utf8.encode cells := rfl
  obtain ⟨before, rest, rfl, startHolds⟩ := through_skipGap holds
  obtain ⟨⟨found, stop⟩, valueRead, finish⟩ := Result.bind_eq_ok_iff.mp read
  obtain ⟨phrase, rest, rfl, stopHolds⟩ := (derives dialect _).value startHolds valueRead
  obtain ⟨behind, rest, rfl, lastHolds⟩ := through_skipGap stopHolds
  simp only at finish
  split at finish
  next empty =>
    have nothing : rest = [] := by
      rw [lastHolds] at empty
      cases rest with
      | nil => rfl
      | cons c others =>
          obtain ⟨byte, bytes, shape⟩ := Utf8.exists_utf8EncodeChar_cons c
          rw [Utf8.encode_cons, shape] at empty
          cases empty
    subst nothing
    exact ⟨⟨before, phrase, behind⟩, by rw [Sentence.cells, List.append_nil]⟩
  next => cases finish

/-- A sentence is read if the dialect admits it and it nests no deeper than allowed. -/
theorem readText_sentence_eq_ok_iff (dialect : Dialect) (sentence : Sentence) (value : Value) :
    readText dialect (Utf8.encode sentence.cells) = .ok value ↔
      sentence.phrase.Admitted dialect ∧ sentence.phrase.depth ≤ dialect.depthLimit ∧
        sentence.phrase.value = value := by
  rcases readText_sentence dialect sentence with
    ⟨admitted, shallow, success⟩ | ⟨refused, failure, failed⟩ | ⟨deep, container, index, failed⟩
  · rw [success]
    constructor
    · intro same
      exact ⟨admitted, shallow, Except.ok.inj same⟩
    · rintro ⟨-, -, rfl⟩
      rfl
  · rw [failed]
    exact iff_of_false nofun fun known => refused known.1
  · rw [failed]
    exact iff_of_false nofun fun known => deep known.2.1

/-- A text is read if it is a sentence that the dialect admits and that nests no deeper than
allowed; it is read as the value of the sentence. -/
theorem readText_eq_ok_iff (dialect : Dialect) (cells : List Char) (value : Value) :
    readText dialect (Utf8.encode cells) = .ok value ↔
      ∃ sentence : Sentence, sentence.cells = cells ∧ sentence.phrase.Admitted dialect ∧
        sentence.phrase.depth ≤ dialect.depthLimit ∧ sentence.phrase.value = value := by
  constructor
  · intro read
    obtain ⟨sentence, rfl⟩ := exists_sentence read
    exact ⟨sentence, rfl, (readText_sentence_eq_ok_iff dialect sentence value).mp read⟩
  · rintro ⟨sentence, rfl, known⟩
    exact (readText_sentence_eq_ok_iff dialect sentence value).mpr known

end LineMap.Json
