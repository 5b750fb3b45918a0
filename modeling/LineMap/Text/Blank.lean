/-!
# Blank characters

White space in the sense of the Unicode property, and the slightly larger class of blanks, which
also holds the four information separators.  Lines are blank, and words end, by the larger class.
-/

set_option autoImplicit false

namespace LineMap.Text

/-- The characters that carry the Unicode property White_Space. -/
def isWhite (c : Char) : Bool :=
  let n := c.toNat
  (9 ≤ n && n ≤ 13) || n == 0x20 || n == 0x85 || n == 0xA0 || n == 0x1680 ||
    (0x2000 ≤ n && n ≤ 0x200A) || n == 0x2028 || n == 0x2029 || n == 0x202F || n == 0x205F ||
    n == 0x3000

/-- White space, or one of the information separators U+001C to U+001F. -/
def isBlank (c : Char) : Bool :=
  isWhite c || (0x1C ≤ c.toNat && c.toNat ≤ 0x1F)

def trimBy {α : Type} (inClass : α → Bool) (text : List α) : List α :=
  ((text.dropWhile inClass).reverse.dropWhile inClass).reverse

def trim (text : String) : String :=
  String.ofList (trimBy isBlank text.toList)

/-- A line that holds blanks only; the empty line is one. -/
def isBlankLine (line : List Char) : Bool :=
  line.all isBlank

end LineMap.Text
