/-!
# Finding a text inside another

Occurrences are described by the suffix that begins there, so that what stands before and after a
match needs no arithmetic on positions.  The empty text occurs everywhere, also at the end.
-/

set_option autoImplicit false

namespace LineMap.Text

def occursIn (needle : List Char) : List Char → Bool
  | [] => needle.isEmpty
  | c :: rest => needle.isPrefixOf (c :: rest) || occursIn needle rest

private def lastFrom (needle : List Char) : Option (List Char) → List Char → Option (List Char)
  | best, [] => if needle.isEmpty then some [] else best
  | best, c :: rest =>
      lastFrom needle (if needle.isPrefixOf (c :: rest) then some (c :: rest) else best) rest

def lastOccurrence (needle text : List Char) : Option (List Char) :=
  lastFrom needle none text

/-- What follows the first line feed, or nothing if there is none. -/
def afterFirstFeed (text : List Char) : List Char :=
  (text.dropWhile (· ≠ '\n')).drop 1

private theorem lastFrom_isSome (needle : List Char) (text : List Char) :
    ∀ best : Option (List Char),
      (lastFrom needle best text).isSome = (best.isSome || occursIn needle text) := by
  induction text with
  | nil =>
      intro best
      by_cases empty : needle.isEmpty <;> simp [lastFrom, occursIn, empty]
  | cons c rest inductionHypothesis =>
      intro best
      by_cases here : needle.isPrefixOf (c :: rest) <;>
        simp [lastFrom, occursIn, inductionHypothesis, here]

theorem lastOccurrence_isSome (needle text : List Char) :
    (lastOccurrence needle text).isSome = occursIn needle text := by
  simp [lastOccurrence, lastFrom_isSome]

private theorem lastFrom_eq_or (needle : List Char) (text : List Char) :
    ∀ best : Option (List Char),
      lastFrom needle best text = (lastFrom needle none text).or best := by
  induction text with
  | nil =>
      intro best
      by_cases empty : needle.isEmpty <;> simp [lastFrom, empty]
  | cons c rest inductionHypothesis =>
      intro best
      by_cases here : needle.isPrefixOf (c :: rest)
      · simp only [lastFrom, if_pos here]
        rw [inductionHypothesis]
        cases lastFrom needle none rest <;> rfl
      · simp only [lastFrom, if_neg here]
        exact inductionHypothesis best

theorem lastOccurrence_nil (needle : List Char) :
    lastOccurrence needle [] = if needle.isEmpty then some [] else none := rfl

theorem lastOccurrence_cons (needle : List Char) (c : Char) (rest : List Char) :
    lastOccurrence needle (c :: rest) =
      (lastOccurrence needle rest).or
        (if needle.isPrefixOf (c :: rest) then some (c :: rest) else none) := by
  rw [lastOccurrence, lastFrom, lastFrom_eq_or, lastOccurrence]

end LineMap.Text
