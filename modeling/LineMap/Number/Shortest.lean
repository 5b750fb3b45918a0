import LineMap.Number.Binary64

/-!
# The fewest digits that read back

For one digit, two digits and so on, the two neighbours of a number on that decimal grid are tried
in exact arithmetic, and the first grid on which one of them rounds back to the number is taken; of
two the nearer, and of two equally near the even one.  Seventeen digits always suffice.  Whole
numbers keep a fraction of one zero, and an exponent is written when the point would stand more
than four places before the first digit or beyond the sixteenth.
-/

set_option autoImplicit false

namespace LineMap.Number

/-- The reals that round to `significand · 2 ^ exponent`, in units of `2 ^ (exponent - 2)`: the two
ends, and whether the ends themselves belong. -/
structure Rounding where
  low : Nat
  centre : Nat
  high : Nat
  closed : Bool

/-- The interval of a positive finite number. Below a power of two the lower half is shorter. -/
def Rounding.of (significand : Nat) (exponent : Int) : Rounding where
  low := 4 * significand -
    (if significand = significandBound / 2 && -1074 < exponent then 1 else 2)
  centre := 4 * significand
  high := 4 * significand + 2
  closed := significand % 2 == 0

structure Scaled where
  digits : Nat
  scale : Int
deriving DecidableEq

/-- The number `place` with `10 ^ (place - 1) ≤ numerator / denominator < 10 ^ place`. -/
def decimalPlace (numerator denominator : Nat) : Int :=
  if denominator ≤ numerator then
    ((Nat.toDigits 10 (numerator / denominator)).length : Nat)
  else
    match (List.range 400).find? fun j => denominator ≤ numerator * Nat.pow 10 j with
    | some j => 1 - (j : Int)
    | none => 0

/-- The decimal on the grid of so many digits that rounds back and is nearest, if there is one. -/
def onGrid (interval : Rounding) (exponent place : Int) (count : Nat) : Option Scaled :=
  let scale := place - (count : Int)
  let (tenUp, tenDown) := Binary64.powerRatio 10 scale
  let (twoUp, twoDown) := Binary64.powerRatio 2 (exponent - 2)
  let unit := tenUp * twoDown
  let measure (quarter : Nat) : Nat := quarter * twoUp * tenDown
  let below := measure interval.centre / unit
  let fits (digits : Nat) : Bool :=
    let point := digits * unit
    if interval.closed then measure interval.low ≤ point && point ≤ measure interval.high
    else measure interval.low < point && point < measure interval.high
  let downward := measure interval.centre - below * unit
  let upward := (below + 1) * unit - measure interval.centre
  let preferBelow := downward < upward || (downward == upward && below % 2 == 0)
  match fits below, fits (below + 1) with
  | true, true => some ⟨if preferBelow then below else below + 1, scale⟩
  | true, false => some ⟨below, scale⟩
  | false, true => some ⟨below + 1, scale⟩
  | false, false => none

def shortest (significand : Nat) (exponent : Int) : Scaled :=
  let (numerator, denominator) := Binary64.magnitude significand exponent
  let place := decimalPlace numerator denominator
  let interval := Rounding.of significand exponent
  match (List.range 17).findSome? fun k => onGrid interval exponent place (k + 1) with
  | some decimal => decimal
  | none => ⟨0, 0⟩

/-- The digits of a positive decimal without trailing zeros, and the place of its point: the value
is `0.digits · 10 ^ point`. -/
def Scaled.significant (decimal : Scaled) : List Char × Int :=
  let digits := Nat.toDigits 10 decimal.digits
  ((digits.reverse.dropWhile (· = '0')).reverse, (digits.length : Int) + decimal.scale)

/-- Writes digits with their point, or with an exponent of at least two digits. -/
def layout (digits : List Char) (point : Int) : List Char :=
  if -4 < point && point ≤ 16 then
    if point ≤ 0 then '0' :: '.' :: List.replicate (-point).toNat '0' ++ digits
    else
      let whole := digits.take point.toNat
      let fraction := digits.drop point.toNat
      whole ++ List.replicate (point.toNat - whole.length) '0' ++
        '.' :: (if fraction.isEmpty then ['0'] else fraction)
  else
    let power := point - 1
    let size := Nat.toDigits 10 power.natAbs
    let mantissa := match digits with
      | first :: [] => [first]
      | first :: rest => first :: '.' :: rest
      | [] => ['0']
    mantissa ++ 'e' :: (if power < 0 then '-' else '+') ::
      List.replicate (2 - size.length) '0' ++ size

def Binary64.text : Binary64 → String
  | .nan => "nan"
  | .infinite negative => if negative then "-inf" else "inf"
  | .finite negative significand exponent =>
      let body :=
        if significand = 0 then ['0', '.', '0']
        else
          let (digits, point) := (shortest significand exponent).significant
          layout digits point
      String.ofList (if negative then '-' :: body else body)

/-- The text of a number with a fixed count of places, a half going to the even neighbour. -/
def Binary64.fixedText (places : Nat) : Binary64 → String
  | .nan => "nan"
  | .infinite negative => if negative then "-inf" else "inf"
  | .finite negative significand exponent =>
      let (numerator, denominator) := Binary64.magnitude significand exponent
      let parts := Nat.pow 10 places
      let scaled := roundQuotient (numerator * parts) denominator
      let fraction := Nat.toDigits 10 (scaled % parts)
      let body := Nat.toDigits 10 (scaled / parts) ++
        '.' :: List.replicate (places - fraction.length) '0' ++ fraction
      String.ofList (if negative then '-' :: body else body)

end LineMap.Number
