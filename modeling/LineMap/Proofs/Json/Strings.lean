import LineMap.Proofs.Json.Phrase
import LineMap.Proofs.Json.Tokens

/-!
# Reading strings

The content of a string is passed by or, where it is escaped, read piece by piece.  It is read as
what its pieces denote, if the dialect admits that.
-/

set_option autoImplicit false

namespace LineMap.Json

open LineMap.Text

variable {dialect : Dialect} {rest : List UInt8}

/-! ## Escapes -/

theorem HexDigit.hexValue?_char (digit : HexDigit) :
    String.utf8EncodeChar digit.char = [UInt8.ofNat digit.char.toNat] ∧
      hexValue? (UInt8.ofNat digit.char.toNat) = some digit.value.val := by
  obtain ⟨value, capital⟩ := digit
  revert value capital
  decide +kernel

theorem readHex_unit (unit : HexUnit) (rest : List UInt8) (index : Nat) :
    readHex ⟨Utf8.encode unit.cells ++ rest, index⟩ = .ok (unit.number, ⟨rest, index + 4⟩) := by
  obtain ⟨a, b, c, d⟩ := unit
  obtain ⟨aByte, aValue⟩ := a.hexValue?_char
  obtain ⟨bByte, bValue⟩ := b.hexValue?_char
  obtain ⟨cByte, cValue⟩ := c.hexValue?_char
  obtain ⟨dByte, dValue⟩ := d.hexValue?_char
  simp only [HexUnit.cells, Utf8.encode_cons, aByte, bByte, cByte, dByte]
  simp only [readHex, List.nil_append, List.cons_append, aValue, bValue, cValue, dValue]
  rfl

/-- Whether a unit stands behind a unit, or no further one is begun. -/
inductive StandsBehind : List UInt8 → Prop where
  | unit (unit : HexUnit) (others : List UInt8) (noTrailing : isTrailing unit.number = false) :
      StandsBehind (92 :: 117 :: (Utf8.encode unit.cells ++ others))
  | other (rest : List UInt8) (noUnit : ∀ others, rest ≠ 92 :: 117 :: others) : StandsBehind rest

theorem joinTrailing_alone {leading : Nat} (behind : StandsBehind rest) (index : Nat) :
    joinTrailing leading ⟨rest, index⟩ = .ok (.surrogate leading, ⟨rest, index⟩) := by
  cases behind with
  | unit unit others noTrailing =>
      have skipped : Cursor.skip 2 ⟨92 :: 117 :: (Utf8.encode unit.cells ++ others), index⟩ =
          ⟨Utf8.encode unit.cells ++ others, index + 2⟩ := rfl
      simp only [joinTrailing, skipped, readHex_unit, bind, Except.bind, noTrailing,
        Bool.false_eq_true, if_false]
      rfl
  | other _ noUnit =>
      unfold joinTrailing
      split
      · rename_i others same
        exact absurd same (noUnit others)
      · rfl

theorem readTrailing_alone {leading : Nat} (behind : StandsBehind rest) (index : Nat) :
    ∃ failure, readTrailing leading ⟨rest, index⟩ = .error failure := by
  cases behind with
  | unit unit others noTrailing =>
      have skipped : Cursor.skip 2 ⟨92 :: 117 :: (Utf8.encode unit.cells ++ others), index⟩ =
          ⟨Utf8.encode unit.cells ++ others, index + 2⟩ := rfl
      simp only [readTrailing, skipped, readHex_unit, bind, Except.bind, noTrailing,
        Bool.false_eq_true, if_false]
      exact ⟨_, rfl⟩
  | other _ noUnit =>
      unfold readTrailing
      split
      · rename_i others same
        exact absurd same (noUnit others)
      all_goals exact ⟨_, rfl⟩

/-- A unit that is not the first half of a pair. -/
theorem readUnicode_unit (unit : HexUnit) (rest : List UInt8)
    (behind : isLeading unit.number = true → StandsBehind rest) (index : Nat) :
    Yields (readUnicode dialect ⟨Utf8.encode unit.cells ++ rest, index⟩)
      (dialect.loneSurrogates = true ∨ unit.point.IsScalar) True unit.point rest := by
  have unfolded : readUnicode dialect ⟨Utf8.encode unit.cells ++ rest, index⟩ =
      if isLeading unit.number then
        if dialect.loneSurrogates then joinTrailing unit.number ⟨rest, index + 4⟩
        else readTrailing unit.number ⟨rest, index + 4⟩
      else if isTrailing unit.number then
        if dialect.loneSurrogates then .ok (.surrogate unit.number, ⟨rest, index + 4⟩)
        else .error ⟨.loneSurrogate, index + 4 - 1⟩
      else .ok (.scalar (Char.ofNat unit.number), ⟨rest, index + 4⟩) := by
    rw [readUnicode, readHex_unit]
    rfl
  rw [unfolded]
  have half : isLeading unit.number = true ∨ isTrailing unit.number = true →
      unit.point = .surrogate unit.number ∧ ¬unit.point.IsScalar := by
    intro found
    have point : unit.point = .surrogate unit.number := by
      rw [HexUnit.point, if_pos (by simpa using found)]
    refine ⟨point, ?_⟩
    rintro ⟨c, same⟩
    rw [point] at same
    cases same
  cases leads : isLeading unit.number with
  | true =>
      obtain ⟨point, noScalar⟩ := half (.inl leads)
      rw [if_pos rfl, point]
      rw [point] at noScalar
      refine .of_cases ?_ ?_
      · intro admitted
        rw [if_pos (admitted.resolve_right noScalar), joinTrailing_alone (behind leads)]
        exact ⟨_, rfl⟩
      · intro refused
        rw [if_neg fun lone => refused (.inl lone)]
        exact readTrailing_alone (behind leads) _
  | false =>
      rw [if_neg (by decide)]
      cases trails : isTrailing unit.number with
      | true =>
          obtain ⟨point, noScalar⟩ := half (.inr trails)
          rw [if_pos rfl, point]
          rw [point] at noScalar
          refine .of_cases ?_ ?_
          · intro admitted
            rw [if_pos (admitted.resolve_right noScalar)]
            exact ⟨_, rfl⟩
          · intro refused
            rw [if_neg fun lone => refused (.inl lone)]
            exact ⟨_, rfl⟩
      | false =>
          have point : unit.point = .scalar (Char.ofNat unit.number) := by
            rw [HexUnit.point, leads, trails]
            rfl
          rw [if_neg (by decide), point]
          exact .read _ (.inr ⟨_, rfl⟩) trivial rfl

theorem readUnicode_pair (dialect : Dialect) {first second : HexUnit}
    (leads : isLeading first.number = true) (trails : isTrailing second.number = true)
    (rest : List UInt8) (index : Nat) :
    ∃ stop, readUnicode dialect
        ⟨Utf8.encode first.cells ++ 92 :: 117 :: (Utf8.encode second.cells ++ rest), index⟩ =
      .ok (.scalar (pairChar first.number second.number), ⟨rest, stop⟩) := by
  have skipped : Cursor.skip 2
      ⟨92 :: 117 :: (Utf8.encode second.cells ++ rest), index + 4⟩ =
        ⟨Utf8.encode second.cells ++ rest, index + 4 + 2⟩ := rfl
  refine ⟨index + 4 + 2 + 4, ?_⟩
  rw [readUnicode, readHex_unit]
  simp only [bind, Except.bind, leads, if_true, joinTrailing, readTrailing, skipped, readHex_unit,
    trails, ite_self]
  rfl

theorem readEscape_short {letter c : Char} (denotes : escapeOf? letter = some c)
    (rest : List UInt8) (index : Nat) :
    readEscape dialect ⟨Utf8.encode [letter] ++ rest, index⟩ =
      .ok (.scalar c, ⟨rest, index + 1⟩) := by
  unfold escapeOf? at denotes
  split at denotes
  all_goals cases denotes
  all_goals rfl

/-! ## Content -/

/-- Whether a byte is passed by as a part of the content of a string. -/
def IsContent (byte : UInt8) : Prop :=
  byte ≠ 34 ∧ byte ≠ 92 ∧ ¬byte < 32

theorem readContent_append {bytes : List UInt8} (content : ∀ byte ∈ bytes, IsContent byte) :
    ∀ (fuel : Nat) (raw : List UInt8) (segments : List Segment) (rest : List UInt8) (index : Nat),
      readContent dialect (fuel + bytes.length) raw segments ⟨bytes ++ rest, index⟩ =
        readContent dialect fuel (bytes.reverse ++ raw) segments ⟨rest, index + bytes.length⟩ := by
  induction bytes with
  | nil => exact fun _ _ _ _ _ => rfl
  | cons byte others inductionHypothesis =>
      intro fuel raw segments rest index
      obtain ⟨⟨noQuote, noBackslash, noControl⟩, later⟩ := List.forall_mem_cons.mp content
      rw [List.length_cons, ← Nat.add_assoc, List.cons_append, readContent]
      simp only [if_neg noQuote, if_neg noBackslash, if_neg noControl]
      rw [inductionHypothesis later, List.reverse_cons, List.append_assoc, List.singleton_append,
        Nat.add_assoc, Nat.add_comm 1]

theorem isContent_of_mem_utf8EncodeChar {c : Char} (noQuote : c ≠ '"') (noBackslash : c ≠ '\\')
    (noControl : 0x20 ≤ c.toNat) : ∀ byte ∈ String.utf8EncodeChar c, IsContent byte := by
  intro byte member
  have known : byte.toNat = c.toNat ∨ 0x80 ≤ byte.toNat := by
    by_cases ascii : c.toNat < 0x80
    · rw [Utf8.utf8EncodeChar_of_lt ascii, List.mem_singleton] at member
      subst member
      exact .inl (UInt8.toNat_ofNat_of_lt' (Nat.lt_trans ascii (by decide)))
    · exact .inr (Utf8.le_of_mem_utf8EncodeChar (Nat.le_of_not_lt ascii) byte member)
  have differs : ∀ d : Char, c ≠ d → c.toNat ≠ d.toNat := fun d distinct same =>
    distinct (Char.toNat_inj.mp same)
  have quote := differs '"' noQuote
  have backslash := differs '\\' noBackslash
  simp only [Char.reduceToNat] at quote backslash
  refine ⟨?_, ?_, ?_⟩
  · rintro rfl
    simp only [UInt8.reduceToNat] at known
    omega
  · rintro rfl
    simp only [UInt8.reduceToNat] at known
    omega
  · rw [UInt8.lt_iff_toNat_lt]
    simp only [UInt8.reduceToNat]
    omega

/-- What a reader makes of the content of a string, where the bytes that were passed by, and not yet
made a segment, are those of the characters in hand. -/
structure ReadsContent (dialect : Dialect) (pieces : List Piece) : Prop where
  admitted : StringAdmitted dialect pieces →
    ∀ (fuel : Nat) (pending : List Char) (segments : List Segment) (rest : List UInt8)
      (index : Nat), (Utf8.encode (contentCells pieces)).length < fuel →
      ∃ read stop,
        readContent dialect fuel (Utf8.encode pending).reverse segments
            ⟨Utf8.encode (contentCells pieces) ++ 34 :: rest, index⟩ =
          .ok (segments.reverse ++ read, ⟨rest, stop⟩) ∧
        ∀ before, decodeSegments dialect before read =
          .ok (pending.map .scalar ++ pointsOf pieces)
  refused : ¬StringAdmitted dialect pieces →
    ∀ (fuel : Nat) (pending : List Char) (segments : List Segment) (rest : List UInt8)
      (index : Nat), (Utf8.encode (contentCells pieces)).length < fuel →
      ∃ failure,
        readContent dialect fuel (Utf8.encode pending).reverse segments
            ⟨Utf8.encode (contentCells pieces) ++ 34 :: rest, index⟩ = .error failure

theorem stringAdmitted_cons {pieces others : List Piece} {point : CodePoint}
    (points : pointsOf pieces = point :: pointsOf others) :
    StringAdmitted dialect pieces ↔
      (dialect.loneSurrogates = true ∨ point.IsScalar) ∧ StringAdmitted dialect others := by
  rw [StringAdmitted, StringAdmitted, points, Str.IsText, List.forall_mem_cons, or_and_left]
  rfl

namespace ReadsContent

theorem nil (dialect : Dialect) : ReadsContent dialect [] where
  admitted := by
    intro _ fuel pending segments rest index enough
    obtain ⟨fuel, rfl⟩ := Nat.exists_eq_add_one.mpr (Nat.zero_lt_of_lt enough)
    refine ⟨[.raw (Utf8.encode pending)], index + 1, ?_, ?_⟩
    · simp [readContent, contentCells, Utf8.encode]
    · intro before
      simp [decodeSegments, pointsOf, Utf8.decodePoints_encode, bind, Except.bind, pure, Except.pure]
  refused := fun notAdmitted => absurd (.inr (List.forall_mem_nil _)) notAdmitted

theorem plain {others : List Piece} {c : Char} (alone : StandsAlone c)
    (later : ReadsContent dialect others) : ReadsContent dialect (.plain c alone :: others) := by
  have content : Utf8.encode (contentCells (.plain c alone :: others)) =
      String.utf8EncodeChar c ++ Utf8.encode (contentCells others) := Utf8.encode_cons _ _
  have step : ∀ (fuel : Nat) (pending : List Char) (segments : List Segment) (rest : List UInt8)
      (index : Nat), (Utf8.encode (contentCells (.plain c alone :: others))).length < fuel →
      ∃ spare, (Utf8.encode (contentCells others)).length < spare ∧
        readContent dialect fuel (Utf8.encode pending).reverse segments
            ⟨Utf8.encode (contentCells (.plain c alone :: others)) ++ 34 :: rest, index⟩ =
          readContent dialect spare (Utf8.encode (pending ++ [c])).reverse segments
            ⟨Utf8.encode (contentCells others) ++ 34 :: rest,
              index + (String.utf8EncodeChar c).length⟩ := by
    intro fuel pending segments rest index enough
    rw [content, List.length_append] at enough
    obtain ⟨spare, rfl⟩ := Nat.exists_eq_add_of_le'
      (Nat.le_of_lt (Nat.lt_of_le_of_lt (Nat.le_add_right _ _) enough))
    refine ⟨spare, by omega, ?_⟩
    rw [content, List.append_assoc,
      readContent_append (isContent_of_mem_utf8EncodeChar alone.1 alone.2.1 alone.2.2),
      Utf8.encode_append, List.reverse_append]
    simp [Utf8.encode]
  have parts : StringAdmitted dialect (.plain c alone :: others) ↔
      StringAdmitted dialect others :=
    (stringAdmitted_cons rfl).trans (and_iff_right (.inr ⟨c, rfl⟩))
  constructor
  · intro isAdmitted fuel pending segments rest index enough
    obtain ⟨spare, short, same⟩ := step fuel pending segments rest index enough
    obtain ⟨read, stop, success, decoded⟩ := later.admitted (parts.mp isAdmitted) spare
      (pending ++ [c]) segments rest (index + (String.utf8EncodeChar c).length) short
    refine ⟨read, stop, same.trans success, fun before => ?_⟩
    rw [decoded, List.map_append, List.append_assoc]
    rfl
  · intro notAdmitted fuel pending segments rest index enough
    obtain ⟨spare, short, same⟩ := step fuel pending segments rest index enough
    rw [same]
    exact later.refused (fun isAdmitted => notAdmitted (parts.mpr isAdmitted)) spare _ segments
      rest _ short

theorem escape {pieces others : List Piece} (marked : List Char) (point : CodePoint)
    (cells : contentCells pieces = '\\' :: (marked ++ contentCells others))
    (points : pointsOf pieces = point :: pointsOf others)
    (reads : ∀ rest index,
      Yields
        (readEscape dialect
          ⟨Utf8.encode marked ++ (Utf8.encode (contentCells others) ++ 34 :: rest), index⟩)
        (dialect.loneSurrogates = true ∨ point.IsScalar) True point
        (Utf8.encode (contentCells others) ++ 34 :: rest))
    (later : ReadsContent dialect others) : ReadsContent dialect pieces := by
  have content : Utf8.encode (contentCells pieces) =
      92 :: (Utf8.encode marked ++ Utf8.encode (contentCells others)) := by
    rw [cells, Utf8.encode_cons, Utf8.encode_append]
    rfl
  have parts : StringAdmitted dialect pieces ↔ _ := stringAdmitted_cons points
  have step : ∀ fuel pending segments rest index,
      readContent dialect (fuel + 1) (Utf8.encode pending).reverse segments
          ⟨Utf8.encode (contentCells pieces) ++ 34 :: rest, index⟩ =
        readEscape dialect ⟨Utf8.encode marked ++
            (Utf8.encode (contentCells others) ++ 34 :: rest), index + 1⟩ >>= fun found =>
          readContent dialect fuel [] (.escaped found.1 :: .raw (Utf8.encode pending) :: segments)
            found.2 := by
    intro fuel pending segments rest index
    rw [content, List.cons_append, List.append_assoc]
    simp [readContent]
  constructor
  · intro isAdmitted fuel pending segments rest index enough
    rw [content, List.length_cons, List.length_append] at enough
    obtain ⟨fuel, rfl⟩ := Nat.exists_eq_add_one.mpr (Nat.zero_lt_of_lt enough)
    obtain ⟨pointAdmitted, othersAdmitted⟩ := parts.mp isAdmitted
    rw [step]
    cases reads rest (index + 1) with
    | read after _ _ found =>
        obtain ⟨read, stop, success, decoded⟩ := later.admitted othersAdmitted fuel []
          (.escaped point :: .raw (Utf8.encode pending) :: segments) rest after (by omega)
        refine ⟨.raw (Utf8.encode pending) :: .escaped point :: read, stop, ?_, ?_⟩
        · rw [found]
          simpa [bind, Except.bind, Utf8.encode] using success
        · intro before
          simp [decodeSegments, Utf8.decodePoints_encode, bind, Except.bind, pure, Except.pure,
            decoded, points]
    | refused failure notAdmitted _ => exact absurd pointAdmitted notAdmitted
    | tooDeep _ _ notShallow _ => exact absurd trivial notShallow
  · intro notAdmitted fuel pending segments rest index enough
    rw [content, List.length_cons, List.length_append] at enough
    obtain ⟨fuel, rfl⟩ := Nat.exists_eq_add_one.mpr (Nat.zero_lt_of_lt enough)
    rw [step]
    cases reads rest (index + 1) with
    | read after pointAdmitted _ found =>
        rw [found]
        exact later.refused (fun othersAdmitted =>
          notAdmitted (parts.mpr ⟨pointAdmitted, othersAdmitted⟩)) fuel [] _ rest after (by omega)
    | refused failure _ failed => exact ⟨failure, by rw [failed]; rfl⟩
    | tooDeep _ _ notShallow _ => exact absurd trivial notShallow

theorem standsBehind {others : List Piece} (rest : List UInt8)
    (noPair : ∀ second later, others = .unicode second :: later →
      isTrailing second.number = false) :
    StandsBehind (Utf8.encode (contentCells others) ++ 34 :: rest) := by
  cases others with
  | nil => exact .other _ (fun _ same => nomatch same)
  | cons piece later =>
      cases piece with
      | plain c alone =>
          refine .other _ fun more same => ?_
          obtain ⟨byte, bytes, whole⟩ := Utf8.exists_utf8EncodeChar_cons c
          have content := isContent_of_mem_utf8EncodeChar alone.1 alone.2.1 alone.2.2 byte
            (whole ▸ List.mem_cons_self)
          rw [contentCells, List.flatMap_cons, Piece.cells, List.singleton_append,
            Utf8.encode_cons, whole] at same
          exact content.2.1 (List.cons.inj same).1
      | short letter c denotes =>
          refine .other _ fun more same => ?_
          unfold escapeOf? at denotes
          split at denotes
          all_goals cases denotes
          all_goals exact absurd (List.cons.inj (List.cons.inj same).2).1 (by decide)
      | unicode second =>
          have bytes : Utf8.encode (contentCells (.unicode second :: later)) ++ 34 :: rest =
              92 :: 117 :: (Utf8.encode second.cells ++
                (Utf8.encode (contentCells later) ++ 34 :: rest)) := by
            rw [contentCells, List.flatMap_cons, Utf8.encode_append, List.append_assoc]
            rfl
          rw [bytes]
          exact .unit second _ (noPair second later rfl)

theorem unit_cells (unit : HexUnit) (others : List Piece) :
    contentCells (.unicode unit :: others) =
      '\\' :: ('u' :: unit.cells ++ contentCells others) := rfl

/-- A unit that is not the first half of a pair denotes a point by itself. -/
theorem unit {unit : HexUnit} {others : List Piece}
    (points : pointsOf (.unicode unit :: others) = unit.point :: pointsOf others)
    (noPair : isLeading unit.number = true → ∀ second later, others = .unicode second :: later →
      isTrailing second.number = false)
    (later : ReadsContent dialect others) : ReadsContent dialect (.unicode unit :: others) :=
  escape ('u' :: unit.cells) unit.point (unit_cells unit others) points
    (fun rest index => readUnicode_unit unit _ (fun leads => standsBehind rest (noPair leads))
      (index + 1)) later

theorem pair {first second : HexUnit} {others : List Piece}
    (leads : isLeading first.number = true) (trails : isTrailing second.number = true)
    (later : ReadsContent dialect others) :
    ReadsContent dialect (.unicode first :: .unicode second :: others) := by
  refine escape ('u' :: first.cells ++ '\\' :: 'u' :: second.cells)
    (.scalar (pairChar first.number second.number)) rfl ?_ ?_ later
  · rw [pointsOf, leads, trails]
    rfl
  · intro rest index
    obtain ⟨stop, read⟩ := readUnicode_pair dialect leads trails
      (Utf8.encode (contentCells others) ++ 34 :: rest) (index + 1)
    have marked : Utf8.encode ('u' :: first.cells ++ '\\' :: 'u' :: second.cells) ++
        (Utf8.encode (contentCells others) ++ 34 :: rest) =
        117 :: (Utf8.encode first.cells ++ 92 :: 117 :: (Utf8.encode second.cells ++
          (Utf8.encode (contentCells others) ++ 34 :: rest))) := by
      rw [Utf8.encode_append, List.append_assoc]
      rfl
    rw [marked]
    exact .read stop (.inr ⟨_, rfl⟩) trivial read

end ReadsContent

/-- The content of every string is read if the dialect admits the string. -/
theorem readsContent (dialect : Dialect) (pieces : List Piece) : ReadsContent dialect pieces := by
  fun_induction pointsOf pieces with
  | case1 => exact .nil dialect
  | case2 c alone rest later => exact later.plain alone
  | case3 letter c denotes rest later =>
      exact later.escape [letter] (.scalar c) rfl rfl fun rest index =>
        .read _ (.inr ⟨c, rfl⟩) trivial (readEscape_short denotes _ index)
  | case4 first second rest pair later =>
      rw [Bool.and_eq_true] at pair
      exact later.pair pair.1 pair.2
  | case5 first second rest noPair later =>
      refine later.unit (by rw [pointsOf, if_neg noPair]) ?_
      intro leads other others same
      cases same
      simpa [leads] using noPair
  | case6 unit rest noUnit later =>
      refine later.unit (by rw [pointsOf]; exact noUnit) ?_
      intro _ other others same
      exact absurd same (noUnit other others)

/-- A string is read behind its first mark, up to its last. -/
theorem readString_pieces (pieces : List Piece) {fuel : Nat}
    (enough : (Utf8.encode (contentCells pieces)).length < fuel) (rest : List UInt8)
    (index : Nat) :
    Yields
      (readString dialect fuel ⟨Utf8.encode (contentCells pieces) ++ 34 :: rest, index⟩)
      (StringAdmitted dialect pieces) True (pointsOf pieces) rest := by
  have content := readsContent dialect pieces
  refine .of_cases ?_ ?_
  · intro isAdmitted
    obtain ⟨read, stop, success, decoded⟩ :=
      content.admitted isAdmitted fuel [] [] rest index enough
    have whole : readContent dialect fuel [] []
        ⟨Utf8.encode (contentCells pieces) ++ 34 :: rest, index⟩ = .ok (read, ⟨rest, stop⟩) :=
      success
    refine ⟨stop, ?_⟩
    rw [readString, whole]
    simp only [bind, Except.bind, decoded 0, List.map_nil, List.nil_append]
    rfl
  · intro notAdmitted
    obtain ⟨failure, failed⟩ := content.refused notAdmitted fuel [] [] rest index enough
    have whole : readContent dialect fuel [] []
        ⟨Utf8.encode (contentCells pieces) ++ 34 :: rest, index⟩ = .error failure := failed
    exact ⟨failure, by rw [readString, whole]; rfl⟩

end LineMap.Json