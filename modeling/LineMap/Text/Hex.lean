/-!
# Hexadecimal digits

Numbers to base sixteen in lower case, padded with zeros to a least width, and the value of a
hexadecimal digit of either case.
-/

set_option autoImplicit false

namespace LineMap.Text

/-- The number to base sixteen with at least as many digits as the width says. -/
def hexPadded (width value : Nat) : List Char :=
  let digits := Nat.toDigits 16 value
  List.replicate (width - digits.length) '0' ++ digits

def hexValue? (byte : UInt8) : Option Nat :=
  if 48 ≤ byte && byte ≤ 57 then some (byte.toNat - 48)
  else if 97 ≤ byte && byte ≤ 102 then some (byte.toNat - 87)
  else if 65 ≤ byte && byte ≤ 70 then some (byte.toNat - 55)
  else none

end LineMap.Text
