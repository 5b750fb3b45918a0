import LineMap.Proofs.Result
import LineMap.Proofs.Text.Utf8

/-!
# Halves of surrogate pairs among bytes

The bytes of half of a surrogate pair begin with two that stand next to each other in no UTF-8 form.
So the strict decoder refuses them wherever they stand, and the decoder that admits halves gives one
for them.
-/

set_option autoImplicit false

namespace LineMap.Text.Utf8

/-! ## The strict decoder -/

def HoldsHalf (bytes : List UInt8) : Prop :=
  ∃ front second rest, bytes = front ++ 0xED :: second :: rest ∧ 0xA0 ≤ second.toNat

theorem HoldsHalf.of_append_cons {front rest : List UInt8} {byte : UInt8}
    (holds : HoldsHalf (front ++ byte :: rest)) (ascii : byte.toNat < 0x80) :
    HoldsHalf front ∨ HoldsHalf rest := by
  obtain ⟨before, second, behind, same, high⟩ := holds
  have noLead : byte ≠ 0xED := by
    rintro rfl
    simp only [UInt8.reduceToNat] at ascii
    omega
  have noSecond : byte ≠ second := by
    rintro rfl
    omega
  rcases List.append_eq_append_iff.mp same with ⟨between, rfl, later⟩ | ⟨between, rfl, later⟩
  · cases between with
    | nil => exact absurd (List.cons.inj later).1 noLead
    | cons first more => exact .inr ⟨more, second, behind, (List.cons.inj later).2, high⟩
  · match between, later with
    | [], later => exact absurd (List.cons.inj later).1.symm noLead
    | [first], later => exact absurd (List.cons.inj (List.cons.inj later).2).1.symm noSecond
    | first :: next :: more, later =>
        rw [List.cons_append, List.cons_append, List.cons.injEq, List.cons.injEq] at later
        exact .inl ⟨before, second, more, by rw [later.1, later.2.1], high⟩

theorem not_holdsHalf_of_ascii {bytes : List UInt8} (ascii : ∀ byte ∈ bytes, byte.toNat < 0x80) :
    ¬HoldsHalf bytes := by
  rintro ⟨front, second, rest, rfl, high⟩
  have low := ascii second (by simp)
  omega

/-- A state that waits for bytes no higher than those behind the first. -/
def State.IsBounded : State → Prop
  | .within _ pending => pending.high ≤ 0xBF
  | _ => True

theorem isBounded_step {state : State} (bounded : state.IsBounded) (byte : UInt8) :
    (step state byte).IsBounded := by
  cases state with
  | ready position decoded =>
      simp only [step, lead]
      split_ifs <;> simp [State.IsBounded]
  | within decoded pending =>
      simp only [step]
      split_ifs <;> simp [State.IsBounded]
  | refused bad => trivial

theorem isBounded_foldl (bytes : List UInt8) {state : State} (bounded : state.IsBounded) :
    (bytes.foldl step state).IsBounded := by
  induction bytes generalizing state with
  | nil => exact bounded
  | cons byte rest inductionHypothesis => exact inductionHypothesis (isBounded_step bounded byte)

theorem foldl_step_refused (bad : Malformed) (bytes : List UInt8) :
    bytes.foldl step (.refused bad) = .refused bad := by
  induction bytes with
  | nil => rfl
  | cons byte rest inductionHypothesis => exact inductionHypothesis

/-- Between characters the first of the two bytes is taken, and the second is too high. -/
theorem step_half {second : UInt8} (high : 0xA0 ≤ second.toNat) (position : Nat)
    (decoded : List Char) :
    step (step (.ready position decoded) 0xED) second =
      .refused ⟨.continuation, position, 1, 0xED⟩ := by
  have outside : ¬second ≤ 0x9F := by
    rw [UInt8.le_iff_toNat_le]
    simp only [UInt8.reduceToNat]
    omega
  simp [step, lead, outside]

theorem exists_refused_of_half {state : State} (bounded : state.IsBounded) {second : UInt8}
    (high : 0xA0 ≤ second.toNat) : ∃ bad, step (step state 0xED) second = .refused bad := by
  cases state with
  | ready position decoded => exact ⟨_, step_half high position decoded⟩
  | within decoded pending =>
      have outside : ¬(0xED : UInt8) ≤ pending.high := by
        intro below
        exact absurd (UInt8.le_trans below bounded) (by decide)
      exact ⟨_, by simp [step, outside]; rfl⟩
  | refused bad => exact ⟨bad, rfl⟩

theorem decode_of_holdsHalf {bytes : List UInt8} (holds : HoldsHalf bytes) :
    ∃ bad, decode bytes = .error bad := by
  obtain ⟨front, second, rest, rfl, high⟩ := holds
  have bounded : (front.foldl step (.ready 0 [])).IsBounded := isBounded_foldl front trivial
  obtain ⟨bad, refused⟩ := exists_refused_of_half bounded high
  refine ⟨bad, ?_⟩
  rw [decode, List.foldl_append, List.foldl_cons, List.foldl_cons, refused, foldl_step_refused,
    finish]

/-! ## The decoder that admits halves -/

theorem decodePoints_of_decode {bytes : List UInt8} {cells : List Char}
    (decoded : decode bytes = .ok cells) (halves : Nat) :
    decodePoints halves bytes = .ok (cells.map .scalar) := by
  rw [decodePoints, decoded]

theorem decodePoints_encode (halves : Nat) (text : List Char) :
    decodePoints halves (encode text) = .ok (text.map .scalar) :=
  decodePoints_of_decode (decode_encode text) halves

theorem exists_eq_map_of_decodePoints_zero {bytes : List UInt8} {points : List CodePoint}
    (decoded : decodePoints 0 bytes = .ok points) :
    ∃ cells : List Char, points = cells.map .scalar := by
  rw [decodePoints] at decoded
  split at decoded
  next cells _ => exact ⟨cells, (Except.ok.inj decoded).symm⟩
  next => cases decoded

theorem exists_surrogate_of_split {bytes rest : List UInt8} {half : CodePoint}
    (split : splitSurrogate? bytes = some (half, rest)) : ∃ code, half = .surrogate code := by
  unfold splitSurrogate? at split
  split at split
  · split at split <;> cases split
    exact ⟨_, rfl⟩
  · cases split

/-- Where the strict decoder fails, the other gives a half if it gives anything. -/
theorem exists_surrogate_of_decodePoints {halves : Nat} {bytes : List UInt8}
    {points : List CodePoint} (holds : HoldsHalf bytes)
    (decoded : decodePoints halves bytes = .ok points) : ∃ code, .surrogate code ∈ points := by
  obtain ⟨bad, failed⟩ := decode_of_holdsHalf holds
  rw [decodePoints, failed] at decoded
  dsimp only at decoded
  split at decoded
  next halves half rest found =>
    obtain ⟨code, rfl⟩ := exists_surrogate_of_split found
    obtain ⟨front, -, decoded⟩ := Result.bind_eq_ok_iff.mp decoded
    obtain ⟨behind, -, decoded⟩ := Result.bind_eq_ok_iff.mp decoded
    cases decoded
    exact ⟨code, List.mem_append_right _ List.mem_cons_self⟩
  next => cases decoded

/-! ## Encoding -/

theorem encodePoints_append (front rest : List CodePoint) :
    encodePoints (front ++ rest) = encodePoints front ++ encodePoints rest :=
  List.flatMap_append

theorem encodePoints_map_scalar (text : List Char) :
    encodePoints (text.map .scalar) = encode text := by
  rw [encodePoints, List.flatMap_map]
  rfl

/-- The bytes of a half, with the second in the range that the strict decoder refuses. -/
theorem exists_encodePoint_surrogate (code : Nat) :
    ∃ second third, encodePoint (.surrogate code) = [0xED, second, third] ∧
      0xA0 ≤ second.toNat := by
  have small : 0xA0 + code / 64 % 32 < 256 := by omega
  have value := UInt8.toNat_ofNat_of_lt' small
  exact ⟨_, _, rfl, by omega⟩

theorem holdsHalf_encodePoints {points : List CodePoint} {code : Nat}
    (member : .surrogate code ∈ points) : HoldsHalf (encodePoints points) := by
  obtain ⟨front, rest, rfl⟩ := List.append_of_mem member
  obtain ⟨second, third, bytes, high⟩ := exists_encodePoint_surrogate code
  refine ⟨encodePoints front, second, third :: encodePoints rest, ?_, high⟩
  rw [encodePoints_append, encodePoints, encodePoints, List.flatMap_cons, bytes]
  rfl

/-- Points up to the first half among them, if there is one. -/
theorem exists_split_points (points : List CodePoint) :
    ∃ text : List Char, points = text.map .scalar ∨
      ∃ code rest, points = text.map .scalar ++ .surrogate code :: rest := by
  induction points with
  | nil => exact ⟨[], .inl rfl⟩
  | cons point rest inductionHypothesis =>
      cases point with
      | surrogate code => exact ⟨[], .inr ⟨code, rest, rfl⟩⟩
      | scalar c =>
          obtain ⟨text, rfl | ⟨code, behind, rfl⟩⟩ := inductionHypothesis
          · exact ⟨c :: text, .inl rfl⟩
          · exact ⟨c :: text, .inr ⟨code, behind, rfl⟩⟩

end LineMap.Text.Utf8
