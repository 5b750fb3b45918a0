import LineMap.Config.Assign
import LineMap.Proofs.Json.Derivation
import LineMap.Proofs.Json.RawHalves
import Mathlib.Data.List.TakeWhile

/-!
# What a wording denotes

The wording of a value is JSON if it is a sentence that the dialect of typed values admits.  Then it
denotes the value of that sentence; otherwise its first character that is not blank decides whether
it denotes a text.  A wording with half of a surrogate pair never denotes a text.  A wording that
nests too deep to be read is out of question here.
-/

set_option autoImplicit false

namespace LineMap

open LineMap.Json
open LineMap.Text

/-! ## The first character that is not blank -/

theorem Text.head?_trimBy (inClass : Char → Bool) (cells : List Char) :
    (trimBy inClass cells).head? = cells.find? fun c => !inClass c := by
  rw [trimBy, List.find?_not_eq_head?_dropWhile]
  cases shape : cells.dropWhile inClass with
  | nil => rfl
  | cons c rest =>
      have outside := List.head?_dropWhile_not inClass cells
      rw [shape] at outside
      have stays : ¬inClass c = true := by simpa using outside
      rw [List.reverse_cons, List.dropWhile_append]
      split <;> simp [stays]

namespace Config

def IsJson (wording : String) (phrase : Phrase) : Prop :=
  ∃ sentence : Sentence, sentence.cells = wording.toList ∧ sentence.phrase = phrase ∧
    phrase.Admitted typedDialect

def WithinDepth (wording : Str) : Prop :=
  ∀ container index,
    readText typedDialect (Utf8.encodePoints wording) ≠ .error ⟨.tooDeep container, index⟩

theorem wordingValue_ne_error {wording : Str} (within : WithinDepth wording)
    (fault : Diagnostics.Fault) : wordingValue wording ≠ .error fault := by
  intro ended
  unfold wordingValue at ended
  split at ended
  · cases ended
  next container index read => exact within container index read
  · split at ended <;> cases ended

/-! ## Wordings that are texts -/

section Texts

variable {wording : String} {phrase : Phrase}

theorem encodePoints_ofString (text : String) :
    Utf8.encodePoints (Str.ofString text) = Utf8.encode text.toList :=
  Utf8.encodePoints_map_scalar text.toList

theorem wordingValue_of_isJson (within : WithinDepth (.ofString wording))
    (json : IsJson wording phrase) : wordingValue (.ofString wording) = .ok (some phrase.value) := by
  obtain ⟨sentence, cells, rfl, admitted⟩ := json
  rcases readText_sentence typedDialect sentence with
    ⟨-, -, success⟩ | ⟨refused, -⟩ | ⟨-, container, index, failed⟩
  · rw [wordingValue, encodePoints_ofString, ← cells, success]
  · exact absurd admitted refused
  · rw [cells, ← encodePoints_ofString] at failed
    exact absurd failed (within container index)

theorem eq_value_of_isJson {given : Value} (json : IsJson wording phrase)
    (denoted : wordingValue (.ofString wording) = .ok (some given)) : given = phrase.value := by
  have within : WithinDepth (.ofString wording) := by
    intro container index failed
    rw [wordingValue, failed] at denoted
    cases denoted
  rw [wordingValue_of_isJson within json] at denoted
  exact (Option.some.inj (Except.ok.inj denoted)).symm

theorem withinDepth_of_isJson (json : IsJson wording phrase)
    (shallow : phrase.depth ≤ typedDialect.depthLimit) : WithinDepth (.ofString wording) := by
  obtain ⟨sentence, cells, rfl, admitted⟩ := json
  intro container index failed
  rw [encodePoints_ofString] at failed
  cases ((readText_eq_ok_iff typedDialect _ _).mpr
    ⟨sentence, cells, admitted, shallow, rfl⟩).symm.trans failed

theorem trimBy_isBlankPoint (cells : List Char) :
    trimBy isBlankPoint (cells.map .scalar) = (trimBy isBlank cells).map .scalar := by
  have same : isBlankPoint ∘ CodePoint.scalar = isBlank := rfl
  rw [trimBy, trimBy, List.dropWhile_map, same, ← List.map_reverse, List.dropWhile_map, same,
    List.map_reverse]

/-- What is not JSON denotes itself as a text, unless it begins like an array, an object or a
string. -/
theorem wordingValue_of_notJson (within : WithinDepth (.ofString wording))
    (notJson : ∀ phrase, ¬IsJson wording phrase) :
    wordingValue (.ofString wording) =
      .ok ((wording.toList.find? fun c => !isBlank c).bind fun first =>
        if ['[', '\x7b', '"'].contains first then none else some (.text wording)) := by
  rw [wordingValue, ← head?_trimBy]
  split
  next value read =>
    rw [encodePoints_ofString] at read
    obtain ⟨sentence, cells, admitted, -, -⟩ := (readText_eq_ok_iff _ _ _).mp read
    exact absurd ⟨sentence, cells, rfl, admitted⟩ (notJson sentence.phrase)
  next container index read => exact absurd read (within container index)
  next =>
    rw [Str.ofString, trimBy_isBlankPoint]
    cases trimBy isBlank wording.toList with
    | nil => rfl
    | cons first rest =>
        have marks : (Str.ofString "[\x7b\"").contains (.scalar first) =
            ['[', '\x7b', '"'].contains first := by
          simp [Str.ofString]
        simp only [List.map_cons, List.head?_cons, Option.bind_some, marks]
        rfl

end Texts

/-! ## Wordings with half of a surrogate pair -/

/-- A string that is denoted by a wording with half of a pair holds half of a pair. -/
theorem exists_surrogate_of_wordingValue {wording s : Str} {code : Nat}
    (half : .surrogate code ∈ wording) (denoted : wordingValue wording = .ok (some (.str s))) :
    ∃ code, .surrogate code ∈ s := by
  unfold wordingValue at denoted
  split at denoted
  next value read =>
    cases denoted
    exact exists_surrogate_of_readText (Utf8.holdsHalf_encodePoints half) read
  next => cases denoted
  next =>
    split at denoted
    · cases denoted
    · split at denoted <;> cases denoted
      exact ⟨code, half⟩

end Config

end LineMap
