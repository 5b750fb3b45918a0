/-!
# Binary floating point numbers of double precision

A finite number is a sign, a significand below `2 ^ 53` and a power of two that is never less than
`2 ^ (-1074)`.  Rational numbers are rounded to the nearest such number in exact arithmetic; of two
that are equally near, the one with the even significand is taken.
-/

set_option autoImplicit false

namespace LineMap.Number

/-- The quotient rounded to the nearest integer, a half to the even neighbour. -/
def roundQuotient (numerator denominator : Nat) : Nat :=
  let quotient := numerator / denominator
  let twice := 2 * (numerator % denominator)
  if twice < denominator then quotient
  else if denominator < twice then quotient + 1
  else quotient + quotient % 2

def significandBound : Nat := Nat.pow 2 53

/-- A number of double precision: `±significand · 2 ^ exponent`, an infinity, or no number. -/
inductive Binary64 where
  | finite (negative : Bool) (significand : Nat) (exponent : Int)
  | infinite (negative : Bool)
  | nan
deriving DecidableEq

namespace Binary64

def powerRatio (base : Nat) (exponent : Int) : Nat × Nat :=
  if 0 ≤ exponent then (base.pow exponent.toNat, 1) else (1, base.pow (-exponent).toNat)

/-- The exponent at which a positive quotient has a significand of fifty-three bits, or the least
exponent if that is greater. -/
def exponentFor (numerator denominator : Nat) : Int :=
  let estimate : Int := (numerator.log2 : Int) - (denominator.log2 : Int) - 53
  let (up, down) := powerRatio 2 estimate
  max (-1074)
    (if numerator * down < significandBound * (denominator * up) then estimate else estimate + 1)

def ofRatio (negative : Bool) (numerator denominator : Nat) : Binary64 :=
  if numerator = 0 then .finite negative 0 (-1074)
  else
    let exponent := exponentFor numerator denominator
    let (up, down) := powerRatio 2 exponent
    let significand := roundQuotient (numerator * down) (denominator * up)
    let (significand, exponent) :=
      if significand = significandBound then (significandBound / 2, exponent + 1)
      else (significand, exponent)
    if 971 < exponent then .infinite negative else .finite negative significand exponent

/-- The nearest number to `digits · 10 ^ exponent`.  Exponents so large or so small that the answer
is an infinity or zero are settled before any power is formed. -/
def ofDecimal (negative : Bool) (digits : Nat) (exponent : Int) : Binary64 :=
  if digits = 0 then .finite negative 0 (-1074)
  else if 400 < exponent then .infinite negative
  else if exponent + (digits.log2 / 3 + 1 : Nat) < -400 then .finite negative 0 (-1074)
  else
    let (up, down) := powerRatio 10 exponent
    ofRatio negative (digits * up) down

def ofInt (n : Int) : Binary64 :=
  ofRatio (n < 0) n.natAbs 1

def magnitude (significand : Nat) (exponent : Int) : Nat × Nat :=
  let (up, down) := powerRatio 2 exponent
  (significand * up, down)

def toInt? : Binary64 → Option Int
  | .finite negative significand exponent =>
      let (numerator, denominator) := magnitude significand exponent
      if numerator % denominator = 0 then
        let size : Int := (numerator / denominator : Nat)
        some (if negative then -size else size)
      else none
  | _ => none

def isFinite : Binary64 → Bool
  | .finite .. => true
  | _ => false

def isZero : Binary64 → Bool
  | .finite _ significand _ => significand == 0
  | _ => false

end Binary64

end LineMap.Number
