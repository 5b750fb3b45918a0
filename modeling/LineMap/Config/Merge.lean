import LineMap.Json.Value

/-!
# Merging nested objects

What overrides is laid over a base: objects are merged member by member, and anything else takes the
place of what stood there.
-/

set_option autoImplicit false

namespace LineMap.Json

mutual

/-- The value that results where a value overrides what may stand in the base. -/
def Value.over (base? : Option Value) : Value → Value
  | .obj overrides =>
      match base? with
      | some (.obj members) => .obj (Members.merge members overrides)
      | _ => .obj overrides
  | other => other

def Members.merge (base : List (Str × Value)) : List (Str × Value) → List (Str × Value)
  | [] => base
  | (name, value) :: rest =>
      Members.merge (Keyed.put name (value.over (Members.last? name base)) base) rest

end

@[simp] theorem Members.merge_nil (base : Members) : Members.merge base [] = base := by
  rw [Members.merge]

end LineMap.Json
