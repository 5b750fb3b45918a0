/-!
# Lines of a text

A line ends at a line feed, and a carriage return directly before that line feed belongs to the
ending.  Splitting drops those carriage returns first and then cuts at every line feed, so a text
that ends in a line feed has an empty last line.
-/

set_option autoImplicit false

namespace LineMap.Text

private def unifyStep (c : Char) (after : Option Char × List Char) : Option Char × List Char :=
  (some c, if c = '\r' ∧ after.1 = some '\n' then after.2 else c :: after.2)

/-- Drops each carriage return that stands directly before a line feed. -/
def unifyBreaks (text : List Char) : List Char :=
  (text.foldr unifyStep (none, [])).2

private theorem unifyStep_fst (text : List Char) :
    (text.foldr unifyStep (none, [])).1 = text.head? := by
  cases text <;> rfl

@[simp] theorem unifyBreaks_nil : unifyBreaks [] = [] := rfl

theorem unifyBreaks_cons (c : Char) (rest : List Char) :
    unifyBreaks (c :: rest) =
      if c = '\r' ∧ rest.head? = some '\n' then unifyBreaks rest else c :: unifyBreaks rest := by
  simp only [unifyBreaks, List.foldr_cons, unifyStep, unifyStep_fst]

private def universalStep (c : Char) (after : Option Char × List Char) :
    Option Char × List Char :=
  (some c,
    if c = '\r' then
      if after.1 = some '\n' then after.2 else '\n' :: after.2
    else c :: after.2)

/-- Writes every line ending, also a carriage return that stands alone, as one line feed. -/
def universalBreaks (text : List Char) : List Char :=
  (text.foldr universalStep (none, [])).2

private theorem universalStep_fst (text : List Char) :
    (text.foldr universalStep (none, [])).1 = text.head? := by
  cases text <;> rfl

@[simp] theorem universalBreaks_nil : universalBreaks [] = [] := rfl

theorem universalBreaks_cons (c : Char) (rest : List Char) :
    universalBreaks (c :: rest) =
      if c = '\r' then
        if rest.head? = some '\n' then universalBreaks rest else '\n' :: universalBreaks rest
      else c :: universalBreaks rest := by
  simp only [universalBreaks, List.foldr_cons, universalStep, universalStep_fst]

private def cutStep (separator c : Char) : List (List Char) → List (List Char)
  | [] => if c = separator then [[], []] else [[c]]
  | piece :: pieces => if c = separator then [] :: piece :: pieces else (c :: piece) :: pieces

/-- The pieces of a text between the occurrences of one character; there is always a piece. -/
def splitAtChar (separator : Char) (text : List Char) : List (List Char) :=
  text.foldr (cutStep separator) [[]]

@[simp] theorem splitAtChar_nil (separator : Char) : splitAtChar separator [] = [[]] := rfl

theorem splitAtChar_ne_nil (separator : Char) (text : List Char) :
    splitAtChar separator text ≠ [] := by
  cases text with
  | nil => simp
  | cons c rest =>
      simp only [splitAtChar, List.foldr_cons]
      cases List.foldr (cutStep separator) [[]] rest <;> simp only [cutStep] <;> split <;> simp

theorem splitAtChar_cons_self (separator : Char) (rest : List Char) :
    splitAtChar separator (separator :: rest) = [] :: splitAtChar separator rest := by
  have pieces := splitAtChar_ne_nil separator rest
  simp only [splitAtChar, List.foldr_cons] at pieces ⊢
  cases cut : List.foldr (cutStep separator) [[]] rest with
  | nil => exact absurd cut pieces
  | cons piece others => simp [cutStep]

theorem splitAtChar_cons_of_ne {separator c : Char} (distinct : c ≠ separator)
    {rest piece : List Char} {pieces : List (List Char)}
    (cut : splitAtChar separator rest = piece :: pieces) :
    splitAtChar separator (c :: rest) = (c :: piece) :: pieces := by
  simp only [splitAtChar, List.foldr_cons] at cut ⊢
  simp [cut, cutStep, distinct]

/-- The lines of a text, as lists of characters. -/
def lineCells (text : List Char) : List (List Char) :=
  splitAtChar '\n' (unifyBreaks text)

/-- The lines of a text: cut at line feeds, the carriage return before one dropped. -/
def splitLines (text : String) : List String :=
  (lineCells text.toList).map String.ofList

/-- One final line feed does not belong to a line. -/
def dropFinalFeed (line : List Char) : List Char :=
  if line.getLast? = some '\n' then line.dropLast else line

end LineMap.Text
