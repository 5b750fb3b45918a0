import LineMap.Proofs.Json.Phrase
import LineMap.Proofs.Json.Tokens
import LineMap.Proofs.Text.Digits

/-!
# Reading numbers

A number is read as its value if no byte follows that would go on with it.  An integer is written as
a number of the grammar that denotes it.
-/

set_option autoImplicit false

namespace LineMap.Json

open LineMap.Text
open LineMap.Number

/-! ## The bytes of digits -/

theorem lt_of_isAsciiDigit {c : Char} (digit : isAsciiDigit c = true) : c.toNat < 0x80 := by
  simp only [isAsciiDigit, Bool.and_eq_true, decide_eq_true_eq] at digit
  exact Nat.lt_of_le_of_lt digit.2 (by decide)

theorem isDigitByte_ofNat {c : Char} (digit : isAsciiDigit c = true) :
    isDigitByte (UInt8.ofNat c.toNat) = true := by
  have value : (UInt8.ofNat c.toNat).toNat = c.toNat :=
    UInt8.toNat_ofNat_of_lt' (Nat.lt_trans (lt_of_isAsciiDigit digit) (by decide))
  rw [isDigitByte, Bool.and_eq_true, decide_eq_true_eq, decide_eq_true_eq, UInt8.le_iff_toNat_le,
    UInt8.le_iff_toNat_le, value]
  simp only [isAsciiDigit, Bool.and_eq_true, decide_eq_true_eq] at digit
  exact digit

namespace DigitRun

def bytes (run : DigitRun) : List UInt8 :=
  Utf8.encode run.cells

theorem bytes_eq_map (run : DigitRun) :
    run.bytes = run.cells.map fun c => UInt8.ofNat c.toNat :=
  encode_of_ascii fun c member => lt_of_isAsciiDigit (run.digits c member)

theorem asciiChars_bytes (run : DigitRun) : asciiChars run.bytes = run.cells :=
  asciiChars_encode fun c member => lt_of_isAsciiDigit (run.digits c member)

theorem isDigitByte_of_mem (run : DigitRun) : ∀ byte ∈ run.bytes, isDigitByte byte = true := by
  intro byte member
  rw [bytes_eq_map, List.mem_map] at member
  obtain ⟨c, inRun, rfl⟩ := member
  exact isDigitByte_ofNat (run.digits c inRun)

theorem exists_bytes_cons (run : DigitRun) :
    ∃ byte others, run.bytes = byte :: others ∧ isDigitByte byte = true := by
  have some : run.bytes ≠ [] := by
    rw [bytes_eq_map]
    simpa using run.nonempty
  obtain ⟨byte, others, whole⟩ := List.exists_cons_of_ne_nil some
  exact ⟨byte, others, whole, run.isDigitByte_of_mem byte (whole ▸ List.mem_cons_self)⟩

end DigitRun

/-! ## Digits, whole parts and exponents -/

variable {dialect : Dialect} {rest : List UInt8}

def endsNumber (byte : UInt8) : Bool :=
  !isDigitByte byte && byte != 46 && byte != 101 && byte != 69

theorem isDigitByte_of_endsNumber {byte : UInt8} (ends : endsNumber byte = true) :
    isDigitByte byte = false := by
  simp only [endsNumber, Bool.and_eq_true, Bool.not_eq_true'] at ends
  exact ends.1.1.1

def NoDigit (rest : List UInt8) : Prop :=
  rest.head?.all fun byte => !isDigitByte byte

theorem noDigit_of_endsNumber (ends : rest.head?.all endsNumber) : NoDigit rest := by
  cases rest with
  | nil => rfl
  | cons byte others =>
      have stops : isDigitByte byte = false := isDigitByte_of_endsNumber (by simpa using ends)
      simp [NoDigit, stops]

theorem readDigits_run (run : DigitRun) (stops : NoDigit rest) (index : Nat) :
    readDigits ⟨run.bytes ++ rest, index⟩ = .ok (run.cells, ⟨rest, index + run.bytes.length⟩) := by
  have taken : (run.bytes ++ rest).takeWhile isDigitByte = run.bytes := by
    rw [List.takeWhile_append_of_pos run.isDigitByte_of_mem]
    cases rest with
    | nil => simp
    | cons next more =>
        have outside : isDigitByte next = false := by simpa [NoDigit] using stops
        simp [outside]
  have shape := run.asciiChars_bytes
  obtain ⟨byte, others, whole, -⟩ := run.exists_bytes_cons
  simp only [readDigits, taken]
  rw [whole] at shape ⊢
  simp [← shape, Cursor.skip]

/-- The first byte of a whole part is a zero only if the whole part is that zero. -/
theorem readWhole_run (whole : DigitRun)
    (noLeadingZero : whole.cells.head? = some '0' → whole.cells = ['0']) (stops : NoDigit rest)
    (index : Nat) :
    Yields (readWhole dialect ⟨whole.bytes ++ rest, index⟩)
      (whole.cells = ['0'] ∨ within dialect.wholeLimit whole.cells.length = true) True whole.cells
      rest := by
  by_cases zero : whole.cells = ['0']
  · have bytes : whole.bytes = [48] := by
      rw [DigitRun.bytes, zero]
      decide
    refine .read (index + 1) (.inl zero) trivial ?_
    rw [bytes, zero]
    cases rest with
    | nil => rfl
    | cons next more =>
        have outside : isDigitByte next = false := by simpa [NoDigit] using stops
        simp only [readWhole, List.singleton_append, outside]
        rfl
  · have notZero : ∀ others, whole.bytes ≠ 48 :: others := by
      intro others bytes
      have shape := whole.asciiChars_bytes
      rw [bytes] at shape
      exact zero (noLeadingZero (by rw [← shape]; rfl))
    obtain ⟨byte, others, bytes, -⟩ := whole.exists_bytes_cons
    have unfolded : readWhole dialect ⟨whole.bytes ++ rest, index⟩ =
        readDigits ⟨whole.bytes ++ rest, index⟩ >>= fun read =>
          if within dialect.wholeLimit read.1.length then .ok read
          else .error ⟨.numberTooLong, index + dialect.wholeLimit.getD 0 + 1⟩ := by
      rw [readWhole]
      split
      · rename_i same
        rw [bytes] at same notZero
        exact absurd (congrArg (· :: others) (List.cons.inj same).1) (notZero others)
      · rename_i same
        rw [bytes] at same notZero
        exact absurd (congrArg (· :: others) (List.cons.inj same).1) (notZero others)
      · rfl
    rw [unfolded, readDigits_run whole stops]
    refine .of_cases ?_ ?_
    · rintro (isZero | short)
      · exact absurd isZero zero
      · exact ⟨_, if_pos short⟩
    · intro long
      exact ⟨_, if_neg fun short => long (.inr short)⟩

def Power.bytes (power : Power) : List UInt8 :=
  Utf8.encode (Power.signCells power.sign?) ++ power.digits.bytes

theorem Power.encode_cells (power : Power) :
    Utf8.encode power.cells = (if power.capital then 69 else 101) :: power.bytes := by
  rw [cells, Utf8.encode_cons, Utf8.encode_append]
  cases power.capital <;> rfl

theorem readPower_bytes (power : Power) (stops : NoDigit rest) (index : Nat) :
    ∃ stop, readPower ⟨power.bytes ++ rest, index⟩ = .ok (power.exponent, ⟨rest, stop⟩) := by
  obtain ⟨capital, sign?, digits⟩ := power
  have read := readDigits_run digits stops
  cases sign? with
  | none =>
      obtain ⟨byte, others, whole, digit⟩ := digits.exists_bytes_cons
      have noSign : byte ≠ 45 ∧ byte ≠ 43 := by
        constructor <;> rintro rfl <;> cases digit
      refine ⟨index + digits.bytes.length, ?_⟩
      have bytes : Power.bytes ⟨capital, none, digits⟩ = digits.bytes := rfl
      have read := read index
      rw [bytes]
      rw [whole, List.cons_append] at read ⊢
      rw [readPower]
      simp [noSign, read, bind, Except.bind, pure, Except.pure, Power.exponent]
  | some negative =>
      refine ⟨index + 1 + digits.bytes.length, ?_⟩
      cases negative with
      | false =>
          have unfolded : readPower ⟨43 :: (digits.bytes ++ rest), index⟩ =
              readDigits ⟨digits.bytes ++ rest, index + 1⟩ >>= fun read =>
                .ok (signed false (numberOf read.1), read.2) := rfl
          have bytes : Power.bytes ⟨capital, some false, digits⟩ = 43 :: digits.bytes := rfl
          rw [bytes, List.cons_append, unfolded, read (index + 1)]
          rfl
      | true =>
          have unfolded : readPower ⟨45 :: (digits.bytes ++ rest), index⟩ =
              readDigits ⟨digits.bytes ++ rest, index + 1⟩ >>= fun read =>
                .ok (signed true (numberOf read.1), read.2) := rfl
          have bytes : Power.bytes ⟨capital, some true, digits⟩ = 45 :: digits.bytes := rfl
          rw [bytes, List.cons_append, unfolded, read (index + 1)]
          rfl

theorem power_begins (power : Power) (rest : List UInt8) :
    (∀ index, Cursor.atExponent ⟨Utf8.encode power.cells ++ rest, index⟩ = true) ∧
      NoDigit (Utf8.encode power.cells ++ rest) ∧
      (Utf8.encode power.cells ++ rest).head? ≠ some 46 := by
  rw [power.encode_cells]
  cases power.capital
  · exact ⟨fun _ => rfl, rfl, by simp⟩
  · exact ⟨fun _ => rfl, rfl, by simp⟩

theorem readPower_cells (power : Power) (stops : NoDigit rest) (index : Nat) :
    ∃ stop, readPower (Cursor.skip 1 ⟨Utf8.encode power.cells ++ rest, index⟩) =
      .ok (power.exponent, ⟨rest, stop⟩) := by
  rw [power.encode_cells]
  exact readPower_bytes power stops (index + 1)

theorem head?_ne_point (ends : rest.head?.all endsNumber) : rest.head? ≠ some 46 := by
  intro point
  rw [point] at ends
  cases ends

theorem atExponent_of_endsNumber (ends : rest.head?.all endsNumber) (index : Nat) :
    Cursor.atExponent ⟨rest, index⟩ = false := by
  cases rest with
  | nil => rfl
  | cons next more =>
      have stops : endsNumber next = true := by simpa using ends
      simp only [endsNumber, Bool.and_eq_true, bne_iff_ne] at stops
      simp [Cursor.atExponent, stops.1.2, stops.2]

/-! ## Numbers -/

def Numeral.bytes (numeral : Numeral) : List UInt8 :=
  numeral.whole.bytes ++ Utf8.encode numeral.tailCells

/-- A dialect admits a number for its whole part alone, unless it is an integer. -/
theorem Numeral.admitted_iff {numeral : Numeral} (noInteger : ¬numeral.IsInteger) :
    (numeral.whole.cells = ['0'] ∨
        within dialect.wholeLimit numeral.whole.cells.length = true) ∧ True ↔
      numeral.Admitted dialect :=
  ⟨fun both => ⟨both.1, fun isInteger => absurd isInteger noInteger⟩,
    fun admitted => ⟨admitted.whole, trivial⟩⟩

section Magnitude

variable {numeral : Numeral}

theorem readMagnitude_integer (isInteger : numeral.IsInteger) (ends : rest.head?.all endsNumber)
    (index : Nat) :
    Yields (readMagnitude dialect numeral.negative ⟨numeral.whole.bytes ++ rest, index⟩)
      (numeral.Admitted dialect) True numeral.value rest := by
  rw [readMagnitude, Numeral.value, if_pos isInteger]
  refine (Yields.bind (readWhole_run numeral.whole numeral.noLeadingZero
    (noDigit_of_endsNumber ends) index) fun stop => ?_).congr
      ⟨fun both => ⟨both.1, fun _ => both.2⟩,
        fun admitted => ⟨admitted.whole, admitted.integer isInteger⟩⟩ (iff_of_eq (and_self True))
  simp only [head?_ne_point ends, atExponent_of_endsNumber ends, if_false, Bool.false_eq_true]
  exact .of_cases (fun short => ⟨stop, if_pos short⟩) (fun long => ⟨_, if_neg long⟩)

theorem readMagnitude_power {power : Power} (noFraction : numeral.fraction? = none)
    (found : numeral.power? = some power) (stops : NoDigit rest) (index : Nat) :
    Yields (readMagnitude dialect numeral.negative
        ⟨numeral.whole.bytes ++ (Utf8.encode power.cells ++ rest), index⟩)
      (numeral.Admitted dialect) True numeral.value rest := by
  have noInteger : ¬numeral.IsInteger := by simp [Numeral.IsInteger, found]
  obtain ⟨atMark, noDigit, noPoint⟩ := power_begins power rest
  rw [readMagnitude, Numeral.value, if_neg noInteger, Numeral.fraction, noFraction, found]
  refine (Yields.bind (readWhole_run numeral.whole numeral.noLeadingZero noDigit index)
    fun stop => ?_).congr (Numeral.admitted_iff noInteger) (iff_of_eq (and_self True))
  obtain ⟨last, read⟩ := readPower_cells power stops stop
  simp only [noPoint, atMark, if_false, if_true, read, bind, Except.bind]
  exact .always rfl

theorem readMagnitude_fraction {fraction : DigitRun} (found : numeral.fraction? = some fraction)
    (ends : rest.head?.all endsNumber) (index : Nat) :
    Yields (readMagnitude dialect numeral.negative
        ⟨numeral.whole.bytes ++ 46 :: (fraction.bytes ++
          (Utf8.encode (numeral.power?.elim [] Power.cells) ++ rest)), index⟩)
      (numeral.Admitted dialect) True numeral.value rest := by
  have noInteger : ¬numeral.IsInteger := by simp [Numeral.IsInteger, found]
  have point : ∀ after, NoDigit (46 :: after) := fun _ => rfl
  have behind : ∀ after stop, Cursor.skip 1 ⟨46 :: after, stop⟩ = ⟨after, stop + 1⟩ :=
    fun _ _ => rfl
  rw [readMagnitude, Numeral.value, if_neg noInteger, Numeral.fraction, found]
  refine (Yields.bind (readWhole_run numeral.whole numeral.noLeadingZero (point _) index)
    fun stop => ?_).congr (Numeral.admitted_iff noInteger) (iff_of_eq (and_self True))
  cases numeral.power? with
  | none =>
      have read := readDigits_run fraction (noDigit_of_endsNumber ends) (stop + 1)
      have nothing : Utf8.encode (Option.elim none [] Power.cells) ++ rest = rest := rfl
      simp only [nothing, List.head?_cons, if_true, behind, read, atExponent_of_endsNumber ends,
        if_false, Bool.false_eq_true, bind, Except.bind]
      exact .always rfl
  | some power =>
      obtain ⟨atMark, noDigit, -⟩ := power_begins power rest
      have read := readDigits_run fraction noDigit (stop + 1)
      obtain ⟨last, powerRead⟩ := readPower_cells power (noDigit_of_endsNumber ends)
        (stop + 1 + fraction.bytes.length)
      simp only [Option.elim, List.head?_cons, if_true, behind, read, atMark, powerRead, bind,
        Except.bind]
      exact .always rfl

theorem readMagnitude_bytes (numeral : Numeral) (ends : rest.head?.all endsNumber) (index : Nat) :
    Yields (readMagnitude dialect numeral.negative ⟨numeral.bytes ++ rest, index⟩)
      (numeral.Admitted dialect) True numeral.value rest := by
  rw [Numeral.bytes, List.append_assoc]
  cases fraction : numeral.fraction? with
  | none =>
      cases found : numeral.power? with
      | none =>
          rw [Numeral.tailCells, fraction, found]
          exact readMagnitude_integer ⟨fraction, found⟩ ends index
      | some power =>
          rw [Numeral.tailCells, fraction, found]
          exact readMagnitude_power fraction found (noDigit_of_endsNumber ends) index
  | some digits =>
      rw [Numeral.tailCells, fraction, Utf8.encode_append, List.append_assoc]
      exact readMagnitude_fraction fraction ends index

end Magnitude

/-! ## Integers in decimal form -/

def numeral (n : Nat) : List UInt8 :=
  Utf8.encode (Nat.toDigits 10 n)

def Dialect.AdmitsDigits (dialect : Dialect) (count : Nat) : Prop :=
  within dialect.wholeLimit count = true ∧ within dialect.integerLimit count = true

def DigitRun.decimal (n : Nat) : DigitRun where
  cells := Nat.toDigits 10 n
  nonempty := Nat.toDigits_ne_nil
  digits := fun c member => isAsciiDigit_of_isDigit (isDigit_of_mem_decimal c member)

theorem length_numeral (n : Nat) : (numeral n).length = (Nat.toDigits 10 n).length := by
  have bytes : numeral n = (DigitRun.decimal n).bytes := rfl
  rw [bytes, DigitRun.bytes_eq_map, List.length_map, DigitRun.decimal]

namespace Numeral

def ofInt (n : Int) : Numeral where
  negative := decide (n < 0)
  whole := .decimal n.natAbs
  noLeadingZero := decimal_of_head?
  fraction? := none
  power? := none

theorem toList_toString (n : Int) : (toString n).toList = (ofInt n).cells := by
  have cells : (ofInt n).cells =
      (if n < 0 then ['-'] else []) ++ Nat.toDigits 10 n.natAbs := by
    simp [Numeral.cells, ofInt, tailCells, DigitRun.decimal]
  rw [cells, Int.toString_eq_repr, Int.repr_eq_if]
  by_cases negative : n < 0
  · have absolute : (-n).toNat = n.natAbs := by omega
    rw [if_neg (by omega), if_pos negative, String.toList_append, Nat.toList_repr, absolute]
    rfl
  · have absolute : n.toNat = n.natAbs := by omega
    rw [if_pos (by omega), if_neg negative, Nat.toList_repr, absolute]
    rfl

theorem value_ofInt (n : Int) : (ofInt n).value = .int n := by
  have isInteger : (ofInt n).IsInteger := ⟨rfl, rfl⟩
  have number : numberOf (ofInt n).whole.cells = n.natAbs := numberOf_decimal n.natAbs
  have back : signed (ofInt n).negative n.natAbs = n := by
    simp only [ofInt, signed, decide_eq_true_eq]
    split <;> omega
  rw [value, if_pos isInteger, number, back]

theorem admitted_ofInt {n : Int} (short : dialect.AdmitsDigits (numeral n.natAbs).length) :
    (ofInt n).Admitted dialect := by
  rw [length_numeral] at short
  exact ⟨.inr short.1, fun _ => short.2⟩

end Numeral

end LineMap.Json
