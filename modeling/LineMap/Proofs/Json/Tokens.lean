import LineMap.Json.Reader
import LineMap.Proofs.Text.Utf8

/-!
# Reading tokens

A reader comes to numbers and strings in the middle of a text.  What it makes of them is settled by
the token alone, as long as no byte follows that would go on with it: if the dialect admits the
token, it is read as its value, up to its end; otherwise the reader fails.
-/

set_option autoImplicit false

namespace LineMap.Json

open LineMap.Text

open LineMap.Number

/-- What a reader makes of something that is `admitted` or not and `shallow` or not: its value and
what follows it, or a failure.  If it is admitted, the failure is about its depth. -/
inductive Yields {α : Type} (result : Except Failure (α × Cursor)) (admitted shallow : Prop) (a : α)
    (rest : List UInt8) : Prop where
  | read (stop : Nat) (isAdmitted : admitted) (isShallow : shallow)
      (success : result = .ok (a, ⟨rest, stop⟩))
  | refused (failure : Failure) (notAdmitted : ¬admitted) (failed : result = .error failure)
  | tooDeep (container : Container) (index : Nat) (notShallow : ¬shallow)
      (failed : result = .error ⟨.tooDeep container, index⟩)

namespace Yields

variable {α β : Type} {admitted shallow also alsoShallow : Prop} {a : α} {b : β}
  {rest after : List UInt8}

theorem bind {first : Except Failure (α × Cursor)} {next : α × Cursor → Except Failure (β × Cursor)}
    (yields : Yields first admitted shallow a rest)
    (later : ∀ stop, Yields (next (a, ⟨rest, stop⟩)) also alsoShallow b after) :
    Yields (first >>= next) (admitted ∧ also) (shallow ∧ alsoShallow) b after := by
  cases yields with
  | read stop isAdmitted isShallow success =>
      subst success
      cases later stop with
      | read end_ nextAdmitted nextShallow found =>
          exact .read end_ ⟨isAdmitted, nextAdmitted⟩ ⟨isShallow, nextShallow⟩ found
      | refused failure notAdmitted failed =>
          exact .refused failure (fun both => notAdmitted both.2) failed
      | tooDeep container index notShallow failed =>
          exact .tooDeep container index (fun both => notShallow both.2) failed
  | refused failure notAdmitted failed =>
      subst failed
      exact .refused failure (fun both => notAdmitted both.1) rfl
  | tooDeep container index notShallow failed =>
      subst failed
      exact .tooDeep container index (fun both => notShallow both.1) rfl

theorem congr {result : Except Failure (α × Cursor)}
    (yields : Yields result admitted shallow a rest) (sameAdmitted : admitted ↔ also)
    (sameShallow : shallow ↔ alsoShallow) : Yields result also alsoShallow a rest := by
  rw [← propext sameAdmitted, ← propext sameShallow]
  exact yields

theorem map {first : Except Failure (α × Cursor)} (f : α → β)
    (yields : Yields first admitted shallow a rest) :
    Yields (first >>= fun found => .ok (f found.1, found.2)) admitted shallow (f a) rest := by
  cases yields with
  | read stop isAdmitted isShallow success =>
      subst success
      exact .read stop isAdmitted isShallow rfl
  | refused failure notAdmitted failed =>
      subst failed
      exact .refused failure notAdmitted rfl
  | tooDeep container index notShallow failed =>
      subst failed
      exact .tooDeep container index notShallow rfl

theorem of_cases {result : Except Failure (α × Cursor)}
    (read : admitted → ∃ stop, result = .ok (a, ⟨rest, stop⟩))
    (refused : ¬admitted → ∃ failure, result = .error failure) :
    Yields result admitted True a rest := by
  by_cases isAdmitted : admitted
  · obtain ⟨stop, success⟩ := read isAdmitted
    exact .read stop isAdmitted trivial success
  · obtain ⟨failure, failed⟩ := refused isAdmitted
    exact .refused failure isAdmitted failed

theorem always {result : Except Failure (α × Cursor)} {stop : Nat}
    (success : result = .ok (a, ⟨rest, stop⟩)) : Yields result True True a rest :=
  .read stop trivial trivial success

end Yields

/-! ## Bytes of ASCII characters -/

theorem encode_cons_of_lt {c : Char} (ascii : c.toNat < 0x80) (rest : List Char) :
    Utf8.encode (c :: rest) = UInt8.ofNat c.toNat :: Utf8.encode rest := by
  rw [Utf8.encode_cons, Utf8.utf8EncodeChar_of_lt ascii]
  rfl

theorem encode_of_ascii {cells : List Char} (ascii : ∀ c ∈ cells, c.toNat < 0x80) :
    Utf8.encode cells = cells.map fun c => UInt8.ofNat c.toNat := by
  induction cells with
  | nil => rfl
  | cons c rest inductionHypothesis =>
      obtain ⟨first, others⟩ := List.forall_mem_cons.mp ascii
      rw [encode_cons_of_lt first, inductionHypothesis others, List.map_cons]

theorem asciiChars_encode {cells : List Char} (ascii : ∀ c ∈ cells, c.toNat < 0x80) :
    asciiChars (Utf8.encode cells) = cells := by
  rw [encode_of_ascii ascii, asciiChars, List.map_map]
  refine (List.map_congr_left ?_).trans (List.map_id cells)
  intro c member
  have value : (UInt8.ofNat c.toNat).toNat = c.toNat :=
    UInt8.toNat_ofNat_of_lt' (Nat.lt_trans (ascii c member) (by decide))
  simp only [Function.comp_apply, value]
  exact Char.ofNat_toNat c

/-! ## Gaps and words -/

theorem skipGap_append {gaps rest : List UInt8} (all : ∀ byte ∈ gaps, isGap byte = true)
    (stops : rest.head?.all fun byte => !isGap byte) (index : Nat) :
    Cursor.skipGap ⟨gaps ++ rest, index⟩ = ⟨rest, index + gaps.length⟩ := by
  rw [Cursor.skipGap]
  induction gaps generalizing index with
  | nil =>
      cases rest with
      | nil => rfl
      | cons byte others =>
          have outside : ¬isGap byte = true := by simpa using stops
          rw [List.nil_append, skipWhile, if_neg outside]
          rfl
  | cons byte others inductionHypothesis =>
      obtain ⟨first, later⟩ := List.forall_mem_cons.mp all
      rw [List.cons_append, skipWhile, if_pos first, inductionHypothesis later, List.length_cons,
        Nat.add_assoc, Nat.add_comm 1]

theorem readWord_append (word rest : List UInt8) (index : Nat) :
    readWord word ⟨word ++ rest, index⟩ = .ok ⟨rest, index + word.length⟩ := by
  induction word generalizing index with
  | nil => rfl
  | cons byte others inductionHypothesis =>
      have step : readWord (byte :: others) ⟨byte :: (others ++ rest), index⟩ =
          readWord others ⟨others ++ rest, index + 1⟩ := by simp only [readWord, if_true]
      rw [List.cons_append, step, inductionHypothesis, List.length_cons, Nat.add_assoc,
        Nat.add_comm 1]

end LineMap.Json
