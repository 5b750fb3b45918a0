import LineMap.Number.Binary64
import LineMap.Text.Blank
import LineMap.Text.Digit

/-!
# Numbers written by hand

Two readings of numbers.  The free reading serves the command line: white space around the number,
digits of any script, and single underscores between digits are allowed.  The strict reading serves
fields of structured data: only ASCII digits count, and a whole number may carry a fraction of
zeros.  Neither reads an integer of more than `digitLimit` digits, and none of more is written.
-/

set_option autoImplicit false

namespace LineMap.Number

open LineMap.Text

/-- The greatest count of digits that an integer in text form may have. -/
def digitLimit : Nat := 4300

/-- The refusal of an integer for the count of its digits. -/
structure Overlong where
  digits : Nat
deriving DecidableEq

def Overlong.message (overlong : Overlong) : String :=
  "Exceeds the limit (" ++ toString digitLimit ++
    " digits) for integer string conversion: value has " ++ toString overlong.digits ++
    " digits; use sys.set_int_max_str_digits() to increase the limit"

/-- Whether an integer can be written: it has no more digits than its text may have. -/
def isWritable (n : Int) : Bool :=
  (Nat.toDigits 10 n.natAbs).length ≤ digitLimit

/-- The refusal to write an integer. -/
def unwritableMessage : String :=
  "Exceeds the limit (" ++ toString digitLimit ++
    " digits) for integer string conversion; use sys.set_int_max_str_digits() to increase the limit"

def joinDigits (inClass : Char → Bool) : List Char → Option (List Char)
  | [] => some []
  | c :: rest =>
      if c = '_' then none
      else
        match rest with
        | '_' :: next :: after =>
            if inClass c && inClass next then
              (joinDigits inClass (next :: after)).map (c :: ·)
            else none
        | others => (joinDigits inClass others).map (c :: ·)
termination_by text => text.length

def splitSign : List Char → Bool × List Char
  | '-' :: rest => (true, rest)
  | '+' :: rest => (false, rest)
  | rest => (false, rest)

def signed (negative : Bool) (size : Nat) : Int :=
  if negative then -(size : Int) else size

def plainDigits (text : List Char) : List Char :=
  text.map fun c => ((digitValue? c).map Nat.digitChar).getD c

def readInt? (text : String) : Option Int :=
  let (negative, body) := splitSign (plainDigits (trimBy isWhite text.toList))
  match joinDigits isAsciiDigit body with
  | some digits =>
      if digits ≠ [] && digits.all isAsciiDigit && digits.length ≤ digitLimit then
        some (signed negative (numberOf digits))
      else none
  | none => none

/-- The number with these digits before and after the point, times a power of ten. -/
def decimalNumber (negative : Bool) (whole fraction : List Char) (exponent : Int) : Binary64 :=
  .ofDecimal negative (numberOf (whole ++ fraction)) (exponent - (fraction.length : Int))

def readExponent? : List Char → Option Int
  | [] => some 0
  | mark :: rest =>
      if mark = 'e' || mark = 'E' then
        let (negative, digits) := splitSign rest
        if digits ≠ [] && digits.all isAsciiDigit then some (signed negative (numberOf digits))
        else none
      else none

/-- The fraction part of a number, which may be missing, and what follows it. -/
def splitFraction : List Char → List Char × List Char
  | '.' :: rest => (rest.takeWhile isAsciiDigit, rest.dropWhile isAsciiDigit)
  | rest => ([], rest)

/-- The free reading of a number of double precision; a digit must stand before the exponent. -/
def readNumber? (text : String) : Option Binary64 :=
  match joinDigits isAsciiDigit (plainDigits (trimBy isWhite text.toList)) with
  | none => none
  | some cells =>
      let (negative, body) := splitSign cells
      let word := String.ofList (body.map Char.toLower)
      if word = "inf" || word = "infinity" then some (.infinite negative)
      else if word = "nan" then some .nan
      else
        let whole := body.takeWhile isAsciiDigit
        let (fraction, rest) := splitFraction (body.dropWhile isAsciiDigit)
        if whole = [] && fraction = [] then none
        else (readExponent? rest).map (decimalNumber negative whole fraction)

inductive IntegerDefect where
  | malformed
  | tooLong
deriving DecidableEq

/-- A whole part and a fraction of zeros, of which at least one; without a point all is whole. -/
def splitZeroFraction (text : List Char) : Option (List Char) :=
  match text.dropWhile (· ≠ '.') with
  | [] => some text
  | _ :: zeros =>
      if zeros ≠ [] && zeros.all (· = '0') then some (text.takeWhile (· ≠ '.')) else none

/-- Whether a text begins with more digits than an integer may have, the first of them no zero. -/
def beginsTooLong (text : List Char) : Bool :=
  let body := match text with
    | '-' :: rest => rest
    | rest => rest
  body.head? ≠ some '0' && digitLimit < (body.takeWhile isAsciiDigit).length

/-- What follows a run of zeros, in which underscores may stand.  The last character of the run
stays if nothing or a point follows. -/
def afterZeros (last : Char) : List Char → Option (List Char)
  | [] => some [last]
  | c :: rest =>
      if c = '0' || c = '_' then afterZeros c rest
      else if c = '.' then some (last :: c :: rest)
      else if isAsciiDigit c || c = '-' then some (c :: rest)
      else none

/-- A number without leading zeros.  Zeros before a minus sign are leading zeros too. -/
def significant : List Char → Option (List Char)
  | [] => none
  | c :: rest =>
      if c = '0' then afterZeros '0' rest
      else if isAsciiDigit c || c = '-' then some (c :: rest)
      else none

/-- A number without the white space around it, a plus sign, and leading zeros. -/
def bareNumber (text : List Char) : Option (List Char) :=
  match trimBy isWhite text with
  | '+' :: '-' :: _ => none
  | '+' :: rest => significant rest
  | '-' :: rest => (significant rest).map ('-' :: ·)
  | rest => significant rest

/-- The integer that digits with an optional sign denote, if no needless zero leads them. -/
def canonicalInteger (text : List Char) : Option Int :=
  let (negative, digits) := splitSign text
  if digits ≠ [] && digits.all isAsciiDigit && (digits.head? ≠ some '0' || digits.length = 1) &&
      digits.length ≤ digitLimit then
    some (signed negative (numberOf digits))
  else none

/-- The strict reading of an integer.  A text that begins with too many digits is too long whatever
follows them; any other text is an integer or malformed. -/
def parseInteger (text : List Char) : Except IntegerDefect Int :=
  if beginsTooLong text then .error .tooLong
  else
    let plain := ((bareNumber text).bind splitZeroFraction).bind
      (joinDigits fun c => isAsciiDigit c || c = '-')
    match plain.bind canonicalInteger with
    | some n => .ok n
    | none => .error .malformed

end LineMap.Number
