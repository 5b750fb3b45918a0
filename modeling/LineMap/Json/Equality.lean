import LineMap.Json.Value

/-!
# Equality of JSON values

Whether two values are the same can be decided, part by part.  Values of two kinds never are.
-/

set_option autoImplicit false

namespace LineMap.Json

mutual

def Value.decEq : (left right : Value) → Decidable (left = right)
  | .null, .null => .isTrue rfl
  | .bool b, .bool c => decidable_of_iff (b = c) (by simp)
  | .int m, .int n => decidable_of_iff (m = n) (by simp)
  | .float x, .float y => decidable_of_iff (x = y) (by simp)
  | .str s, .str t => decidable_of_iff (s = t) (by simp)
  | .arr items, .arr others =>
      have := Value.decEqItems items others
      decidable_of_iff (items = others) (by simp)
  | .obj members, .obj others =>
      have := Value.decEqMembers members others
      decidable_of_iff (members = others) (by simp)
  | .null, .bool _ | .null, .int _ | .null, .float _
  | .null, .str _ | .null, .arr _ | .null, .obj _
  | .bool _, .null | .bool _, .int _ | .bool _, .float _
  | .bool _, .str _ | .bool _, .arr _ | .bool _, .obj _
  | .int _, .null | .int _, .bool _ | .int _, .float _
  | .int _, .str _ | .int _, .arr _ | .int _, .obj _
  | .float _, .null | .float _, .bool _ | .float _, .int _
  | .float _, .str _ | .float _, .arr _ | .float _, .obj _
  | .str _, .null | .str _, .bool _ | .str _, .int _
  | .str _, .float _ | .str _, .arr _ | .str _, .obj _
  | .arr _, .null | .arr _, .bool _ | .arr _, .int _
  | .arr _, .float _ | .arr _, .str _ | .arr _, .obj _
  | .obj _, .null | .obj _, .bool _ | .obj _, .int _
  | .obj _, .float _ | .obj _, .str _ | .obj _, .arr _ => .isFalse (by simp)

def Value.decEqItems : (left right : List Value) → Decidable (left = right)
  | [], [] => .isTrue rfl
  | first :: rest, other :: others =>
      have := Value.decEq first other
      have := Value.decEqItems rest others
      decidable_of_iff (first = other ∧ rest = others) (by simp)
  | [], _ :: _ | _ :: _, [] => .isFalse (by simp)

def Value.decEqMembers : (left right : List (Str × Value)) → Decidable (left = right)
  | [], [] => .isTrue rfl
  | (name, value) :: rest, (otherName, other) :: others =>
      have := Value.decEq value other
      have := Value.decEqMembers rest others
      decidable_of_iff (name = otherName ∧ value = other ∧ rest = others) (by simp [and_assoc])
  | [], _ :: _ | _ :: _, [] => .isFalse (by simp)

end

instance : DecidableEq Value := Value.decEq

end LineMap.Json
