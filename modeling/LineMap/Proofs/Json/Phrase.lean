import LineMap.Proofs.Json.Textual

/-!
# Phrases

The grammar of JSON text, apart from any reader.  A phrase is a value as it stands in a text, gaps
inside of it included: it has characters, a value, and a depth.  A dialect admits a phrase if it
admits its numbers and its strings; the depth counts on its own.  A sentence is a phrase with gaps
around it.  Besides the phrases of the standard there are the words `NaN`, `Infinity` and
`-Infinity`.
-/

set_option autoImplicit false

namespace LineMap.Json

open LineMap.Text
open LineMap.Number

/-! ## Gaps and words -/

def isGapChar (c : Char) : Bool :=
  c = ' ' || c = '\n' || c = '\t' || c = '\r'

structure Gap where
  cells : List Char
  blank : ∀ c ∈ cells, isGapChar c = true

def Gap.empty : Gap := ⟨[], List.forall_mem_nil _⟩

def Gap.space : Gap := ⟨[' '], List.forall_mem_singleton.mpr rfl⟩

def Gap.behindSpace (gap : Gap) : Gap :=
  ⟨' ' :: gap.cells, List.forall_mem_cons.mpr ⟨rfl, gap.blank⟩⟩

inductive Word where
  | null
  | bool (b : Bool)
  | nan
  | infinity (negative : Bool)

def Word.cells : Word → List Char
  | .null => "null".toList
  | .bool true => "true".toList
  | .bool false => "false".toList
  | .nan => "NaN".toList
  | .infinity false => "Infinity".toList
  | .infinity true => "-Infinity".toList

theorem Word.ascii (word : Word) : ∀ c ∈ word.cells, c.toNat < 0x80 := by
  have all : (word.cells.all fun c => c.toNat < 0x80) = true := by
    rcases word with _ | (_ | _) | _ | (_ | _) <;> rfl
  exact fun c member => of_decide_eq_true (List.all_eq_true.mp all c member)

def Word.value : Word → Value
  | .null => .null
  | .bool b => .bool b
  | .nan => .float .nan
  | .infinity negative => .float (.infinite negative)

/-! ## Numbers -/

/-- Some digits in a row. -/
structure DigitRun where
  cells : List Char
  nonempty : cells ≠ []
  digits : ∀ c ∈ cells, isAsciiDigit c = true

structure Power where
  capital : Bool
  sign? : Option Bool
  digits : DigitRun

namespace Power

def signCells : Option Bool → List Char
  | none => []
  | some false => ['+']
  | some true => ['-']

def cells (power : Power) : List Char :=
  (if power.capital then 'E' else 'e') :: (signCells power.sign? ++ power.digits.cells)

def exponent (power : Power) : Int :=
  signed (power.sign?.getD false) (numberOf power.digits.cells)

end Power

/-- A number.  No digit follows a zero that leads it. -/
structure Numeral where
  negative : Bool
  whole : DigitRun
  noLeadingZero : whole.cells.head? = some '0' → whole.cells = ['0']
  fraction? : Option DigitRun
  power? : Option Power

namespace Numeral

def fraction (numeral : Numeral) : List Char :=
  numeral.fraction?.elim [] DigitRun.cells

def tailCells (numeral : Numeral) : List Char :=
  (numeral.fraction?.elim [] fun digits => '.' :: digits.cells) ++
    numeral.power?.elim [] Power.cells

def cells (numeral : Numeral) : List Char :=
  (if numeral.negative then ['-'] else []) ++ (numeral.whole.cells ++ numeral.tailCells)

def IsInteger (numeral : Numeral) : Prop :=
  numeral.fraction? = none ∧ numeral.power? = none

instance (numeral : Numeral) : Decidable numeral.IsInteger :=
  match numeral with
  | ⟨_, _, _, none, none⟩ => .isTrue ⟨rfl, rfl⟩
  | ⟨_, _, _, some _, _⟩ => .isFalse nofun
  | ⟨_, _, _, none, some _⟩ => .isFalse nofun

def value (numeral : Numeral) : Value :=
  if numeral.IsInteger then .int (signed numeral.negative (numberOf numeral.whole.cells))
  else
    .float (decimalNumber numeral.negative numeral.whole.cells numeral.fraction
      (numeral.power?.elim 0 Power.exponent))

/-- A dialect bounds the digits before the point, except for a single zero, and in integers. -/
structure Admitted (dialect : Dialect) (numeral : Numeral) : Prop where
  whole : numeral.whole.cells = ['0'] ∨
    within dialect.wholeLimit numeral.whole.cells.length = true
  integer : numeral.IsInteger → within dialect.integerLimit numeral.whole.cells.length = true

end Numeral

/-! ## Strings -/

structure HexDigit where
  value : Fin 16
  capital : Bool

def HexDigit.char (digit : HexDigit) : Char :=
  if digit.capital then (Nat.digitChar digit.value).toUpper else Nat.digitChar digit.value

/-- Four hexadecimal digits, which denote a code point or half of a surrogate pair. -/
structure HexUnit where
  a : HexDigit
  b : HexDigit
  c : HexDigit
  d : HexDigit

namespace HexUnit

def cells (unit : HexUnit) : List Char :=
  [unit.a.char, unit.b.char, unit.c.char, unit.d.char]

def number (unit : HexUnit) : Nat :=
  ((unit.a.value * 16 + unit.b.value) * 16 + unit.c.value) * 16 + unit.d.value

def point (unit : HexUnit) : CodePoint :=
  if isLeading unit.number || isTrailing unit.number then .surrogate unit.number
  else .scalar (Char.ofNat unit.number)

end HexUnit

def escapeOf? : Char → Option Char
  | '"' => some '"'
  | '\\' => some '\\'
  | '/' => some '/'
  | 'b' => some '\x08'
  | 'f' => some '\x0c'
  | 'n' => some '\n'
  | 'r' => some '\r'
  | 't' => some '\t'
  | _ => none

def StandsAlone (c : Char) : Prop :=
  c ≠ '"' ∧ c ≠ '\\' ∧ 0x20 ≤ c.toNat

inductive Piece where
  | plain (c : Char) (alone : StandsAlone c)
  | short (letter c : Char) (denotes : escapeOf? letter = some c)
  | unicode (unit : HexUnit)

def Piece.cells : Piece → List Char
  | .plain c _ => [c]
  | .short letter _ _ => ['\\', letter]
  | .unicode unit => '\\' :: 'u' :: unit.cells

def contentCells (pieces : List Piece) : List Char :=
  pieces.flatMap Piece.cells

/-- What the content of a string denotes.  Two units that are the halves of a surrogate pair denote
one character. -/
def pointsOf : List Piece → Str
  | [] => []
  | .plain c _ :: rest => .scalar c :: pointsOf rest
  | .short _ c _ :: rest => .scalar c :: pointsOf rest
  | .unicode first :: .unicode second :: rest =>
      if isLeading first.number && isTrailing second.number then
        .scalar (pairChar first.number second.number) :: pointsOf rest
      else first.point :: pointsOf (.unicode second :: rest)
  | .unicode unit :: rest => unit.point :: pointsOf rest

def StringAdmitted (dialect : Dialect) (pieces : List Piece) : Prop :=
  dialect.loneSurrogates = true ∨ (pointsOf pieces).IsText

def quotedCells (pieces : List Piece) : List Char :=
  '"' :: (contentCells pieces ++ ['"'])

/-- The name of a member, and the colon behind it with the gaps around that. -/
structure Label where
  name : List Piece
  after : Gap
  before : Gap

def Label.cells (label : Label) : List Char :=
  quotedCells label.name ++ (label.after.cells ++ ':' :: label.before.cells)

/-! ## Phrases -/

mutual

inductive Phrase where
  | word (word : Word)
  | number (numeral : Numeral)
  | string (pieces : List Piece)
  | emptyArray (inside : Gap)
  | array (before : Gap) (items : ItemList)
  | emptyObject (inside : Gap)
  | object (before : Gap) (members : MemberList)

/-- The items of an array from the first character of one on. -/
inductive ItemList where
  | last (item : Phrase) (after : Gap)
  | more (item : Phrase) (after before : Gap) (others : ItemList)

/-- The members of an object from the first character of one on. -/
inductive MemberList where
  | last (label : Label) (value : Phrase) (after : Gap)
  | more (label : Label) (value : Phrase) (after before : Gap) (others : MemberList)

end

mutual

def Phrase.cells : Phrase → List Char
  | .word word => word.cells
  | .number numeral => numeral.cells
  | .string pieces => quotedCells pieces
  | .emptyArray inside => '[' :: (inside.cells ++ [']'])
  | .array before items => '[' :: (before.cells ++ (items.cells ++ [']']))
  | .emptyObject inside => '\x7b' :: (inside.cells ++ ['\x7d'])
  | .object before members => '\x7b' :: (before.cells ++ (members.cells ++ ['\x7d']))

def ItemList.cells : ItemList → List Char
  | .last item after => item.cells ++ after.cells
  | .more item after before others =>
      item.cells ++ (after.cells ++ ',' :: (before.cells ++ others.cells))

def MemberList.cells : MemberList → List Char
  | .last label value after => label.cells ++ (value.cells ++ after.cells)
  | .more label value after before others =>
      label.cells ++ (value.cells ++ (after.cells ++ ',' :: (before.cells ++ others.cells)))

end

mutual

def Phrase.value : Phrase → Value
  | .word word => word.value
  | .number numeral => numeral.value
  | .string pieces => .str (pointsOf pieces)
  | .emptyArray _ => .arr []
  | .array _ items => .arr items.values
  | .emptyObject _ => .obj []
  | .object _ members => .obj members.values

def ItemList.values : ItemList → List Value
  | .last item _ => [item.value]
  | .more item _ _ others => item.value :: others.values

def MemberList.values : MemberList → List (Str × Value)
  | .last label value _ => [(pointsOf label.name, value.value)]
  | .more label value _ _ others => (pointsOf label.name, value.value) :: others.values

end

theorem Phrase.exists_string_of_value {phrase : Phrase} {s : Str} (value : phrase.value = .str s) :
    ∃ pieces, phrase = .string pieces ∧ pointsOf pieces = s := by
  cases phrase with
  | word word => cases word <;> cases value
  | number numeral =>
      rw [Phrase.value, Numeral.value] at value
      split at value <;> cases value
  | string pieces => exact ⟨pieces, rfl, Value.str.inj value⟩
  | emptyArray inside => cases value
  | array before items => cases value
  | emptyObject inside => cases value
  | object before members => cases value

mutual

/-- How deep containers nest in a phrase, where empty ones do not count. -/
def Phrase.depth : Phrase → Nat
  | .array _ items => items.depth + 1
  | .object _ members => members.depth + 1
  | _ => 0

def ItemList.depth : ItemList → Nat
  | .last item _ => item.depth
  | .more item _ _ others => max item.depth others.depth

def MemberList.depth : MemberList → Nat
  | .last _ value _ => value.depth
  | .more _ value _ _ others => max value.depth others.depth

end

mutual

def Phrase.Admitted (dialect : Dialect) : Phrase → Prop
  | .number numeral => numeral.Admitted dialect
  | .string pieces => StringAdmitted dialect pieces
  | .array _ items => items.Admitted dialect
  | .object _ members => members.Admitted dialect
  | _ => True

def ItemList.Admitted (dialect : Dialect) : ItemList → Prop
  | .last item _ => item.Admitted dialect
  | .more item _ _ others => item.Admitted dialect ∧ others.Admitted dialect

def MemberList.Admitted (dialect : Dialect) : MemberList → Prop
  | .last label value _ => StringAdmitted dialect label.name ∧ value.Admitted dialect
  | .more label value _ _ others =>
      (StringAdmitted dialect label.name ∧ value.Admitted dialect) ∧ others.Admitted dialect

end

structure Sentence where
  before : Gap
  phrase : Phrase
  after : Gap

def Sentence.cells (sentence : Sentence) : List Char :=
  sentence.before.cells ++ (sentence.phrase.cells ++ sentence.after.cells)

end LineMap.Json
