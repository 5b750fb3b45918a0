import LineMap.Text.Hex
import LineMap.Text.Printable

/-!
# Quoted texts

A text between quotes, on one line, with every character that cannot be shown written as an escape.
Apostrophes delimit it, unless it holds an apostrophe and no quotation mark.  The escape of a code
point is as short as its size allows: two, four or eight digits.  Byte sequences are quoted alike,
with every byte outside printable ASCII escaped.
-/

set_option autoImplicit false

namespace LineMap.Text

/-- A code point of a text that may also hold halves of surrogate pairs. -/
inductive CodePoint where
  | scalar (c : Char)
  | surrogate (code : Nat)
deriving DecidableEq

def quoteFor (hasApostrophe hasQuotationMark : Bool) : Char :=
  if hasApostrophe && !hasQuotationMark then '"' else '\''

def escapeCode (code : Nat) : List Char :=
  if code ≤ 0xFF then '\\' :: 'x' :: hexPadded 2 code
  else if code ≤ 0xFFFF then '\\' :: 'u' :: hexPadded 4 code
  else '\\' :: 'U' :: hexPadded 8 code

def quoteChar (mark c : Char) : List Char :=
  if c = mark || c = '\\' then ['\\', c]
  else if c = '\t' then ['\\', 't']
  else if c = '\n' then ['\\', 'n']
  else if c = '\r' then ['\\', 'r']
  else if isPrintable c then [c]
  else escapeCode c.toNat

def CodePoint.quote (mark : Char) : CodePoint → List Char
  | .scalar c => quoteChar mark c
  | .surrogate code => escapeCode code

def quotedPoints (points : List CodePoint) : String :=
  let mark := quoteFor (points.contains (.scalar '\'')) (points.contains (.scalar '"'))
  String.ofList (mark :: points.flatMap (CodePoint.quote mark) ++ [mark])

def quoted (text : String) : String :=
  quotedPoints (text.toList.map .scalar)

def quotedBytes (bytes : List UInt8) : String :=
  let mark := quoteFor (bytes.contains 39) (bytes.contains 34)
  let write (byte : UInt8) : List Char :=
    if byte < 0x80 then quoteChar mark (Char.ofNat byte.toNat) else escapeCode byte.toNat
  String.ofList ('b' :: mark :: bytes.flatMap write ++ [mark])

end LineMap.Text
