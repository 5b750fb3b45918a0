import LineMap.Json.Display

/-!
# JSON text in ASCII

A value on one line, with a space after each comma and colon.  Everything outside printable ASCII is
escaped, a character beyond the first plane as the two halves of its surrogate pair.  Numbers that
JSON lacks are written as `NaN`, `Infinity` and `-Infinity`.
-/

set_option autoImplicit false

namespace LineMap.Json

open LineMap.Text
open LineMap.Number

def unitEscape (unit : Nat) : List Char :=
  '\\' :: 'u' :: hexPadded 4 unit

def asciiChar (c : Char) : List Char :=
  if c = '"' || c = '\\' then ['\\', c]
  else if c = '\n' then ['\\', 'n']
  else if c = '\r' then ['\\', 'r']
  else if c = '\t' then ['\\', 't']
  else if c = '\x0c' then ['\\', 'f']
  else if c = '\x08' then ['\\', 'b']
  else if 0x20 ≤ c.toNat && c.toNat < 0x7F then [c]
  else if c.toNat < 0x10000 then unitEscape c.toNat
  else
    let offset := c.toNat - 0x10000
    unitEscape (0xD800 + offset / 0x400) ++ unitEscape (0xDC00 + offset % 0x400)

def asciiString (s : Str) : String :=
  String.ofList ('"' :: (s.flatMap fun
    | .scalar c => asciiChar c
    | .surrogate code => unitEscape code) ++ ['"'])

def numberText : Binary64 → String
  | .nan => "NaN"
  | .infinite negative => if negative then "-Infinity" else "Infinity"
  | x => x.text

mutual

def Value.asciiOf : Value → String
  | .null => "null"
  | .bool b => if b then "true" else "false"
  | .int n => toString n
  | .float x => numberText x
  | .str s => asciiString s
  | .arr items => "[" ++ listed (Value.asciiOfItems items) ++ "]"
  | .obj members => "\x7b" ++ listed (Value.asciiOfMembers members) ++ "\x7d"

def Value.asciiOfItems : List Value → List String
  | [] => []
  | item :: rest => item.asciiOf :: Value.asciiOfItems rest

def Value.asciiOfMembers : List (Str × Value) → List String
  | [] => []
  | (name, value) :: rest =>
      (asciiString name ++ ": " ++ value.asciiOf) :: Value.asciiOfMembers rest

end

/-- A value as JSON text in ASCII; of members with one name the last counts. -/
def Value.compact (value : Value) : String :=
  value.unique.asciiOf

end LineMap.Json
