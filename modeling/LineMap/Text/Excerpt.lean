/-!
# Excerpts of long texts

A text of more than fifty bytes in UTF-8 is shown by its first twenty-five and its last twenty-four
bytes with three dots between them.  A character that a cut would divide is left out.
-/

set_option autoImplicit false

namespace LineMap.Text

/-- The longest beginning that takes no more bytes than allowed. -/
def takeBytes : Nat → List Char → List Char
  | _, [] => []
  | room, c :: rest => if c.utf8Size ≤ room then c :: takeBytes (room - c.utf8Size) rest else []

def excerpt (text : String) : String :=
  if text.utf8ByteSize ≤ 50 then text
  else
    let cells := text.toList
    String.ofList (takeBytes 25 cells) ++ "..." ++
      String.ofList (takeBytes 24 cells.reverse).reverse

end LineMap.Text
