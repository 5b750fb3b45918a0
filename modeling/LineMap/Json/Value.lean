import LineMap.Keyed
import LineMap.Number.Binary64
import LineMap.Text.Quoted

/-!
# JSON values

Strings are sequences of code points, because an escape may denote half of a surrogate pair.  An
object keeps its members in the order of the text, repeated names included; where one value per name
is wanted, the last one counts.
-/

set_option autoImplicit false

namespace LineMap.Json

open LineMap.Text
open LineMap.Number

abbrev Str : Type := List CodePoint

def Str.ofString (text : String) : Str :=
  text.toList.map .scalar

/-- The characters of a JSON string that holds no half of a surrogate pair. -/
def Str.chars? : Str → Option (List Char)
  | [] => some []
  | .scalar c :: rest => (Str.chars? rest).map (c :: ·)
  | .surrogate _ :: _ => none

/-- The text of a JSON string that holds no half of a surrogate pair. -/
def Str.toString? (s : Str) : Option String :=
  (Str.chars? s).map String.ofList

theorem Str.chars?_map_scalar (cells : List Char) :
    Str.chars? (cells.map .scalar) = some cells := by
  induction cells with
  | nil => rfl
  | cons c rest inductionHypothesis => simp [Str.chars?, inductionHypothesis]

@[simp] theorem Str.toString?_ofString (text : String) :
    Str.toString? (Str.ofString text) = some text := by
  simp [Str.toString?, Str.ofString, Str.chars?_map_scalar]

theorem Str.ofString_injective {left right : String}
    (same : Str.ofString left = Str.ofString right) : left = right := by
  simpa using congrArg Str.toString? same

inductive Value where
  | null
  | bool (b : Bool)
  | int (n : Int)
  | float (x : Binary64)
  | str (s : Str)
  | arr (items : List Value)
  | obj (members : List (Str × Value))

abbrev Members : Type := List (Str × Value)

namespace Members

def last? (name : Str) : Members → Option Value
  | [] => none
  | (other, value) :: rest =>
      match last? name rest with
      | some later => some later
      | none => if other = name then some value else none

end Members

mutual

/-- The value with one member per name in every object. -/
def Value.unique : Value → Value
  | .arr items => .arr (Value.uniqueItems items)
  | .obj members => .obj (Keyed.latest (Value.uniqueMembers members))
  | other => other

/-- The items of an array, each with one member per name in every object. -/
def Value.uniqueItems : List Value → List Value
  | [] => []
  | item :: rest => item.unique :: Value.uniqueItems rest

/-- The members of an object, each value with one member per name in every object. -/
def Value.uniqueMembers : List (Str × Value) → List (Str × Value)
  | [] => []
  | (name, value) :: rest => (name, value.unique) :: Value.uniqueMembers rest

end

/-- The parts of a value that has any: the items of an array, the code points of a string, and the
names in an object, each of them once. -/
def Value.parts? : Value → Option (List Value)
  | .arr items => some items
  | .str s => some (s.map fun point => .str [point])
  | .obj members => some ((Keyed.latest members).map fun member => .str member.1)
  | _ => none

def Value.text (text : String) : Value :=
  .str (Str.ofString text)

def Value.record (members : List (String × Value)) : Value :=
  .obj (members.map fun member => (Str.ofString member.1, member.2))

end LineMap.Json
