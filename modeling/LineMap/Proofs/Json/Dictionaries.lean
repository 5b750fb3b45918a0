import LineMap.Proofs.Keyed
import LineMap.Proofs.Validation.Members

/-!
# Nested dictionaries

A dictionary is an object that names each of its members once, and so do all the objects in it.
What stands in it is found by paths of names.  Every value becomes one when of repeated names the
last is kept.
-/

set_option autoImplicit false

namespace LineMap.Json

/-! ## Members by name -/

namespace Members

variable {members : Members}

theorem last?_eq_lookup_reverse (name : Str) (members : Members) :
    members.last? name = members.reverse.lookup name := by
  induction members with
  | nil => rfl
  | cons member rest inductionHypothesis =>
      rw [last?, List.reverse_cons, List.lookup_append, ← inductionHypothesis, Keyed.lookup_cons,
        List.lookup_nil]
      cases last? name rest with
      | some later => rfl
      | none => simp only [Option.none_or, eq_comm]

theorem last?_eq_lookup (once : (members.map Prod.fst).Nodup) (name : Str) :
    members.last? name = members.lookup name := by
  have reversed : (members.reverse.map Prod.fst).Nodup :=
    ((List.reverse_perm members).map Prod.fst).nodup_iff.mpr once
  rw [last?_eq_lookup_reverse]
  exact Keyed.lookup_eq_of_perm reversed (List.reverse_perm members) name

theorem last?_latest (name : Str) (members : Members) :
    last? name (Keyed.latest members) = members.last? name := by
  rw [last?_eq_lookup (Keyed.nodup_keys_latest members), Keyed.lookup_latest,
    last?_eq_lookup_reverse]

theorem mem_of_mem_latest {member : Str × Value} (present : member ∈ Keyed.latest members) :
    member ∈ members := by
  apply mem_of_last?
  rwa [← last?_latest, last?_eq_lookup (Keyed.nodup_keys_latest members),
    Keyed.lookup_eq_some_iff (Keyed.nodup_keys_latest members)]

theorem last?_eq_some_iff (once : (members.map Prod.fst).Nodup) {name : Str} {part : Value} :
    members.last? name = some part ↔ (name, part) ∈ members := by
  rw [last?_eq_lookup once, Keyed.lookup_eq_some_iff once (name, part)]

theorem last?_eq_none_iff (name : Str) (members : Members) :
    members.last? name = none ↔ name ∉ members.map Prod.fst := by
  rw [last?_eq_lookup_reverse, ← Option.not_isSome_iff_eq_none, Keyed.isSome_lookup_iff,
    List.map_reverse, List.mem_reverse]

/-- Members that are named once each are settled by their names in order and the value of each. -/
theorem ext_last? {others : Members} (once : (members.map Prod.fst).Nodup)
    (names : members.map Prod.fst = others.map Prod.fst)
    (same : ∀ name, members.last? name = others.last? name) : members = others := by
  refine Keyed.ext_lookup once names fun name => ?_
  rw [← last?_eq_lookup once, ← last?_eq_lookup (names ▸ once), same]

end Members

namespace Value

def isObject : Value → Bool
  | .obj _ => true
  | _ => false

theorem isObject_iff {value : Value} : value.isObject = true ↔ ∃ members, value = .obj members := by
  cases value <;> simp [isObject]

/-! ## Paths -/

/-- What stands at a path of names, each of them in the object that the names before it lead to. -/
def at? : List Str → Value → Option Value
  | [], value => some value
  | name :: rest, .obj members => (Members.last? name members).bind fun part => part.at? rest
  | _ :: _, _ => none

@[simp] theorem at?_nil (value : Value) : value.at? [] = some value := by
  cases value <;> rfl

@[simp] theorem at?_cons_obj (name : Str) (rest : List Str) (members : Members) :
    (Value.obj members).at? (name :: rest) = (members.last? name).bind (at? rest) := rfl

@[simp] theorem bind_at?_nil (found? : Option Value) : found?.bind (at? []) = found? := by
  cases found? <;> simp

theorem at?_cons_of_noObject {value : Value} (noObject : value.isObject = false) (name : Str)
    (rest : List Str) : value.at? (name :: rest) = none := by
  cases value with
  | obj members => cases noObject
  | _ => rfl

theorem at?_append (front back : List Str) (value : Value) :
    value.at? (front ++ back) = (value.at? front).bind (at? back) := by
  induction front generalizing value with
  | nil => simp
  | cons name rest inductionHypothesis =>
      cases shape : value.isObject with
      | false => simp [at?_cons_of_noObject shape]
      | true =>
          obtain ⟨members, rfl⟩ := isObject_iff.mp shape
          rw [List.cons_append, at?_cons_obj, at?_cons_obj, Option.bind_assoc]
          exact congrArg _ (funext inductionHypothesis)

/-- At no path that leads somewhere in both values does an object stand in one of them only. -/
def SameShape (value other : Value) : Prop :=
  ∀ path part otherPart, value.at? path = some part → other.at? path = some otherPart →
    part.isObject = otherPart.isObject

def atom? : Value → Option Value
  | .obj _ => none
  | value => some value

theorem atom?_of_noObject {value : Value} (noObject : value.isObject = false) :
    value.atom? = some value := by
  cases value with
  | obj members => cases noObject
  | _ => rfl

theorem isObject_eq_of_atom? {value other : Value} (same : value.atom? = other.atom?) :
    value.isObject = other.isObject := by
  cases value <;> cases other <;> simp_all [atom?, isObject]

theorem eq_of_atom? {value other : Value} (same : value.atom? = other.atom?)
    (noObject : value.isObject = false) : value = other := by
  cases value <;> cases other <;> simp_all [atom?, isObject]

/-- Each path leads to an object in both values, or to one and the same value that is none, or
nowhere in both.  So the order does not matter in which objects name their members. -/
def SameContent (value other : Value) : Prop :=
  ∀ path, (value.at? path).map atom? = (other.at? path).map atom?

namespace SameContent

variable {value other : Value} {path : List Str}

theorem symm (same : value.SameContent other) : other.SameContent value :=
  fun path => (same path).symm

theorem at?_eq_none (same : value.SameContent other) (absent : value.at? path = none) :
    other.at? path = none := by
  rw [← Option.map_eq_none_iff, ← same path, absent, Option.map_none]

theorem exists_at? (same : value.SameContent other) {part : Value}
    (found : value.at? path = some part) :
    ∃ otherPart, other.at? path = some otherPart ∧ otherPart.atom? = part.atom? := by
  have both := same path
  rw [found] at both
  exact Option.map_eq_some_iff.mp both.symm

end SameContent

/-- The order does not matter in which members are named that are named once. -/
theorem sameContent_of_perm {members others : Members} (once : (members.map Prod.fst).Nodup)
    (perm : members.Perm others) : (Value.obj members).SameContent (.obj others) := by
  have othersOnce : (others.map Prod.fst).Nodup := (perm.map Prod.fst).nodup_iff.mp once
  have sameLast : ∀ name, members.last? name = others.last? name := by
    intro name
    rw [Members.last?_eq_lookup once, Members.last?_eq_lookup othersOnce,
      Keyed.lookup_eq_of_perm once perm]
  intro path
  cases path with
  | nil => rfl
  | cons name rest => rw [at?_cons_obj, at?_cons_obj, sameLast]

/-! ## Dictionaries -/

/-- A value in which no object names a member twice, as far as paths lead. -/
inductive NamesOnce : Value → Prop where
  | plain {value : Value} (noObject : value.isObject = false) : value.NamesOnce
  | obj {members : Members} (once : (members.map Prod.fst).Nodup)
      (parts : ∀ member ∈ members, member.2.NamesOnce) : (Value.obj members).NamesOnce

namespace NamesOnce

variable {members : Members}

theorem names (dictionary : (Value.obj members).NamesOnce) : (members.map Prod.fst).Nodup := by
  cases dictionary with
  | plain noObject => cases noObject
  | obj once parts => exact once

theorem part (dictionary : (Value.obj members).NamesOnce) {name : Str} {part : Value}
    (found : members.last? name = some part) : part.NamesOnce := by
  cases dictionary with
  | plain noObject => cases noObject
  | obj once parts => exact parts _ ((Members.last?_eq_some_iff once).mp found)

theorem empty : (Value.obj []).NamesOnce :=
  .obj List.nodup_nil (List.forall_mem_nil _)

end NamesOnce

/-! ## The last of repeated names -/

mutual

theorem namesOnce_unique : ∀ value : Value, value.unique.NamesOnce
  | .obj members =>
      .obj (Keyed.nodup_keys_latest _) fun member present =>
        namesOnce_uniqueMembers members member (Members.mem_of_mem_latest present)
  | .arr _ | .null | .bool _ | .int _ | .float _ | .str _ => .plain rfl

theorem namesOnce_uniqueMembers : ∀ (members : List (Str × Value)),
    ∀ member ∈ uniqueMembers members, member.2.NamesOnce
  | (_, value) :: rest, member, present => by
      rcases List.mem_cons.mp present with rfl | later
      · exact namesOnce_unique value
      · exact namesOnce_uniqueMembers rest member later

end

theorem last?_uniqueMembers (name : Str) (members : Members) :
    Members.last? name (uniqueMembers members) = (members.last? name).map unique := by
  induction members with
  | nil => rfl
  | cons member rest inductionHypothesis =>
      rw [uniqueMembers, Members.last?, Members.last?, inductionHypothesis]
      cases Members.last? name rest with
      | some later => rfl
      | none => by_cases same : member.1 = name <;> simp [same]

/-- What a path leads to is what it led to before, with the last of repeated names in it. -/
theorem at?_unique (path : List Str) (value : Value) :
    value.unique.at? path = (value.at? path).map unique := by
  induction path generalizing value with
  | nil => simp
  | cons name rest inductionHypothesis =>
      cases value with
      | obj members =>
          rw [unique, at?_cons_obj, Members.last?_latest, last?_uniqueMembers, at?_cons_obj]
          cases Members.last? name members with
          | none => rfl
          | some part => exact inductionHypothesis part
      | _ => rfl

end Value

end LineMap.Json
