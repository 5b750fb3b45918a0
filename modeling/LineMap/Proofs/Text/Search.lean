import LineMap.Text.Search

/-!
# The last occurrence of a text

The suffix that begins at the last occurrence is the shortest one that begins with the text.  What
follows its line is all behind the first line feed in it.
-/

set_option autoImplicit false

namespace LineMap.Text

theorem occursIn_iff (needle text : List Char) :
    occursIn needle text = true ↔ needle <:+: text := by
  induction text with
  | nil => cases needle <;> simp [occursIn]
  | cons c rest inductionHypothesis =>
      rw [occursIn, Bool.or_eq_true, List.isPrefixOf_iff_prefix, inductionHypothesis,
        List.infix_cons_iff]

/-- Whether a suffix of a text is the one that begins at the last occurrence. -/
structure BeginsAtLast (needle text found : List Char) : Prop where
  isSuffix : found <:+ text
  isOccurrence : needle <+: found
  isLast : ∀ later, later <:+ found → needle <+: later → later = found

theorem lastOccurrence_eq_some {needle text found : List Char}
    (success : lastOccurrence needle text = some found) : BeginsAtLast needle text found := by
  induction text with
  | nil =>
      rw [lastOccurrence_nil] at success
      split at success
      · rename_i empty
        cases Option.some.inj success
        rw [List.isEmpty_iff] at empty
        subst empty
        exact ⟨List.suffix_rfl, List.prefix_rfl, fun later part _ => List.suffix_nil.mp part⟩
      · cases success
  | cons c rest inductionHypothesis =>
      rw [lastOccurrence_cons, Option.or_eq_some_iff] at success
      rcases success with inRest | ⟨notInRest, here⟩
      · obtain ⟨part, occurrence, last⟩ := inductionHypothesis inRest
        exact ⟨part.trans (List.suffix_cons c rest), occurrence, last⟩
      · split at here
        · rename_i fits
          cases Option.some.inj here
          refine ⟨List.suffix_rfl, List.isPrefixOf_iff_prefix.mp fits, ?_⟩
          intro later part occurrence
          rcases List.suffix_cons_iff.mp part with same | inRest
          · exact same
          · have occurs : needle <:+: rest :=
              occurrence.isInfix.trans inRest.isInfix
            have isSome := lastOccurrence_isSome needle rest
            rw [notInRest, (occursIn_iff needle rest).mpr occurs] at isSome
            cases isSome
        · cases here

/-- Whether a text is what follows the first line feed of another, or is empty for want of one. -/
def FollowsFirstFeed (text remainder : List Char) : Prop :=
  (∃ line, '\n' ∉ line ∧ text = line ++ '\n' :: remainder) ∨ ('\n' ∉ text ∧ remainder = [])

theorem afterFirstFeed_feed (rest : List Char) : afterFirstFeed ('\n' :: rest) = rest := by
  simp [afterFirstFeed]

theorem afterFirstFeed_cons {c : Char} (noFeed : c ≠ '\n') (rest : List Char) :
    afterFirstFeed (c :: rest) = afterFirstFeed rest := by
  simp [afterFirstFeed, noFeed]

theorem followsFirstFeed_afterFirstFeed (text : List Char) :
    FollowsFirstFeed text (afterFirstFeed text) := by
  induction text with
  | nil => exact Or.inr ⟨by simp, rfl⟩
  | cons c rest inductionHypothesis =>
      by_cases feed : c = '\n'
      · subst feed
        exact Or.inl ⟨[], by simp, by rw [afterFirstFeed_feed, List.nil_append]⟩
      · rw [afterFirstFeed_cons feed]
        rcases inductionHypothesis with ⟨line, noFeed, whole⟩ | ⟨noFeed, empty⟩
        · refine Or.inl ⟨c :: line, ?_, by rw [List.cons_append, ← whole]⟩
          rw [List.mem_cons, not_or]
          exact ⟨Ne.symm feed, noFeed⟩
        · refine Or.inr ⟨?_, empty⟩
          rw [List.mem_cons, not_or]
          exact ⟨Ne.symm feed, noFeed⟩

end LineMap.Text
