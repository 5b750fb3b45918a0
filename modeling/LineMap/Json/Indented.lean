import LineMap.Json.Compact

/-!
# Indented JSON text

A value on several lines, with two spaces for each level.  Only what has to be escaped in a string
is escaped.
-/

set_option autoImplicit false

namespace LineMap.Json

open LineMap.Text

def escapedChar (c : Char) : List Char :=
  if c = '"' || c = '\\' then ['\\', c]
  else if c = '\n' then ['\\', 'n']
  else if c = '\r' then ['\\', 'r']
  else if c = '\t' then ['\\', 't']
  else if c = '\x0c' then ['\\', 'f']
  else if c = '\x08' then ['\\', 'b']
  else if c.toNat < 0x20 then unitEscape c.toNat
  else [c]

def escapedString (s : Str) : String :=
  String.ofList ('"' :: (s.flatMap fun
    | .scalar c => escapedChar c
    | .surrogate code => unitEscape code) ++ ['"'])

def newLine (depth : Nat) : String :=
  String.ofList ('\n' :: List.replicate (2 * depth) ' ')

/-- The parts of a container between its brackets, each on a line of its own. -/
def enclosed (opening closing : String) (depth : Nat) (parts : List String) : String :=
  if parts.isEmpty then opening ++ closing
  else
    opening ++ newLine (depth + 1) ++ String.intercalate ("," ++ newLine (depth + 1)) parts ++
      newLine depth ++ closing

mutual

def Value.indentedAt (depth : Nat) : Value → String
  | .null => "null"
  | .bool b => if b then "true" else "false"
  | .int n => toString n
  | .float x => numberText x
  | .str s => escapedString s
  | .arr items => enclosed "[" "]" depth (Value.indentedItems (depth + 1) items)
  | .obj members =>
      enclosed "\x7b" "\x7d" depth (Value.indentedMembers (depth + 1) members)

def Value.indentedItems (depth : Nat) : List Value → List String
  | [] => []
  | item :: rest => item.indentedAt depth :: Value.indentedItems depth rest

def Value.indentedMembers (depth : Nat) : List (Str × Value) → List String
  | [] => []
  | (name, value) :: rest =>
      (escapedString name ++ ": " ++ value.indentedAt depth) ::
        Value.indentedMembers depth rest

end

def Value.indented (value : Value) : String :=
  value.indentedAt 0

end LineMap.Json
