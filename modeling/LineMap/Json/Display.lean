import LineMap.Json.Value
import LineMap.Number.Literal
import LineMap.Number.Shortest

/-!
# Values as diagnostics show them

Diagnostics show a value in a form of its own: the three constants have capitals, strings are
quoted as texts are, and a name that is repeated in an object is shown once, with its last value.
-/

set_option autoImplicit false

namespace LineMap.Json

open LineMap.Text

def listed (parts : List String) : String :=
  String.intercalate ", " parts

mutual

def Value.display : Value → String
  | .null => "None"
  | .bool b => if b then "True" else "False"
  | .int n => toString n
  | .float x => x.text
  | .str s => quotedPoints s
  | .arr items => "[" ++ listed (Value.displayItems items) ++ "]"
  | .obj members => "\x7b" ++ listed (Value.displayMembers members) ++ "\x7d"

def Value.displayItems : List Value → List String
  | [] => []
  | item :: rest => item.display :: Value.displayItems rest

def Value.displayMembers : List (Str × Value) → List String
  | [] => []
  | (name, value) :: rest =>
      (quotedPoints name ++ ": " ++ value.display) :: Value.displayMembers rest

end

mutual

def Value.isWritable : Value → Bool
  | .int n => Number.isWritable n
  | .arr items => Value.areWritable items
  | .obj members => Value.holdWritable members
  | _ => true

def Value.areWritable : List Value → Bool
  | [] => true
  | item :: rest => item.isWritable && Value.areWritable rest

def Value.holdWritable : List (Str × Value) → Bool
  | [] => true
  | (_, value) :: rest => value.isWritable && Value.holdWritable rest

end

def Value.shown (value : Value) : String :=
  value.unique.display

/-- Whether a diagnostic can show a value. -/
def Value.isShowable (value : Value) : Bool :=
  value.unique.isWritable

/-- A JSON string as plain text; halves of surrogate pairs are written as their escapes. -/
def Str.plain (s : Str) : String :=
  String.ofList (s.flatMap fun
    | .scalar c => [c]
    | .surrogate code => escapeCode code)

@[simp] theorem Str.plain_ofString (text : String) : (Str.ofString text).plain = text := by
  simp [Str.plain, Str.ofString, List.flatMap_map, List.flatMap_singleton']

def Value.plain : Value → String
  | .str s => s.plain
  | other => other.shown

def Value.kindName : Value → String
  | .null => "NoneType"
  | .bool _ => "bool"
  | .int _ => "int"
  | .float _ => "float"
  | .str _ => "str"
  | .arr _ => "list"
  | .obj _ => "dict"

/-- Whether a value says something: no zero, nothing empty, neither null nor false. -/
def Value.isSubstantial : Value → Bool
  | .null => false
  | .bool b => b
  | .int n => n != 0
  | .float x => !x.isZero
  | .str s => !s.isEmpty
  | .arr items => !items.isEmpty
  | .obj members => !members.isEmpty

end LineMap.Json
