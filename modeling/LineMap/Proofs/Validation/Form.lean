import LineMap.Proofs.Json.Textual
import LineMap.Proofs.Validation.Members
import Mathlib.Data.List.Forall2

/-!
# Forms of documents

A form says what a document must hold at a place.  It tells which values fit, which leave no doubt
about the members that are meant, and which two differ only in ways that do not matter: in which of
its accepted names a member has, in the order of members, and in members that are not read.  A
reading is governed by a form if it succeeds just on what fits and does not see such differences.
-/

set_option autoImplicit false

namespace LineMap

open LineMap.Json

/-- Values that are the same, unless both are arrays or both are objects. -/
def Json.Value.Alike : Value → Value → Prop
  | .arr _, .arr _ => True
  | .obj _, .obj _ => True
  | value, other => value = other

theorem Json.Value.Alike.cases {value other : Value} (alike : value.Alike other) :
    value = other ∨ (∃ items others, value = .arr items ∧ other = .arr others) ∨
      ∃ members others, value = .obj members ∧ other = .obj others := by
  cases value <;> cases other
  case arr.arr items others => exact .inr (.inl ⟨items, others, rfl, rfl⟩)
  case obj.obj members others => exact .inr (.inr ⟨members, others, rfl, rfl⟩)
  all_goals exact .inl alike

namespace Validation

/-- What a document must hold at a place.  A record has two members, each under one of some
names. -/
inductive Form where
  | integer
  | text
  | list (item : Form)
  | mapping (part : Form)
  | record (names : List String) (first : Form) (others : List String) (second : Form)

namespace Form

def Fits : Form → Value → Prop
  | .integer, value => (Validation.integer value).Succeeds
  | .text, .str _ => True
  | .list item, .arr items => ∀ part ∈ items, item.Fits part
  | .mapping part, .obj members => ∀ member ∈ members, part.Fits member.2
  | .record names first others second, .obj members =>
      Members.Offers names first.Fits members ∧ Members.Offers others second.Fits members
  | _, _ => False

/-- No record holds two members under accepted names of one, be it one name twice or two of them.
Members that are not read may be anything. -/
def Unambiguous : Form → Value → Prop
  | .list item, .arr items => ∀ part ∈ items, item.Unambiguous part
  | .mapping part, .obj members => ∀ member ∈ members, part.Unambiguous member.2
  | .record names first others second, .obj members =>
      (Members.Sole names members ∧
        ∀ member ∈ members, Members.isUnder names member = true → first.Unambiguous member.2) ∧
      Members.Sole others members ∧
        ∀ member ∈ members, Members.isUnder others member = true → second.Unambiguous member.2
  | _, _ => True

instance decidableFits : (form : Form) → DecidablePred form.Fits
  | .integer, value => inferInstanceAs (Decidable (Validation.integer value).Succeeds)
  | .text, value =>
      match value with
      | .str _ => .isTrue trivial
      | .null | .bool _ | .int _ | .float _ | .arr _ | .obj _ => .isFalse id
  | .list item, value =>
      match value with
      | .arr items =>
          have := decidableFits item
          inferInstanceAs (Decidable (∀ part ∈ items, item.Fits part))
      | .null | .bool _ | .int _ | .float _ | .str _ | .obj _ => .isFalse id
  | .mapping part, value =>
      match value with
      | .obj members =>
          have := decidableFits part
          inferInstanceAs (Decidable (∀ member ∈ members, part.Fits member.2))
      | .null | .bool _ | .int _ | .float _ | .str _ | .arr _ => .isFalse id
  | .record names first others second, value =>
      match value with
      | .obj members =>
          have := decidableFits first
          have := decidableFits second
          inferInstanceAs (Decidable (Members.Offers names first.Fits members ∧
            Members.Offers others second.Fits members))
      | .null | .bool _ | .int _ | .float _ | .str _ | .arr _ => .isFalse id

instance decidableUnambiguous : (form : Form) → DecidablePred form.Unambiguous
  | .integer, _ | .text, _ => .isTrue trivial
  | .list item, value =>
      match value with
      | .arr items =>
          have := decidableUnambiguous item
          inferInstanceAs (Decidable (∀ part ∈ items, item.Unambiguous part))
      | .null | .bool _ | .int _ | .float _ | .str _ | .obj _ => .isTrue trivial
  | .mapping part, value =>
      match value with
      | .obj members =>
          have := decidableUnambiguous part
          inferInstanceAs (Decidable (∀ member ∈ members, part.Unambiguous member.2))
      | .null | .bool _ | .int _ | .float _ | .str _ | .arr _ => .isTrue trivial
  | .record names first others second, value =>
      match value with
      | .obj members =>
          have := decidableUnambiguous first
          have := decidableUnambiguous second
          inferInstanceAs (Decidable ((Members.Sole names members ∧ ∀ member ∈ members,
              Members.isUnder names member = true → first.Unambiguous member.2) ∧
            Members.Sole others members ∧ ∀ member ∈ members,
              Members.isUnder others member = true → second.Unambiguous member.2))
      | .null | .bool _ | .int _ | .float _ | .str _ | .arr _ => .isTrue trivial

/-- Two values differ only in accepted names, in the order of members and in members that are not
read. -/
def Variant : Form → Value → Value → Prop
  | .list item, .arr items, .arr variants => List.Forall₂ item.Variant items variants
  | .mapping part, .obj members, .obj others =>
      (∀ name, name ∈ members.map Prod.fst ↔ name ∈ others.map Prod.fst) ∧
        ∀ member ∈ members, ∀ other ∈ others, member.1 = other.1 → part.Variant member.2 other.2
  | .record names first others second, .obj members, .obj variants =>
      Members.Renamed names first.Variant members variants ∧
        Members.Renamed others second.Variant members variants
  | _, value, variant => value.Alike variant

end Form

def recordOf {α β : Type} (name : String) (aliases : List String) (read : Value → Checked α)
    (otherName : String) (otherAliases : List String) (readOther : Value → Checked β)
    (value : Value) : Checked (α × β) :=
  match value with
  | .obj members =>
      (required members name aliases read).both
        (required members otherName otherAliases readOther)
  | _ => Checked.refuse value .notRecord

structure Form.IsClear (form : Form) (value : Value) : Prop where
  textual : value.Textual
  unambiguous : form.Unambiguous value

namespace Form.IsClear

variable {form : Form} {members : Members}

theorem names (clear : form.IsClear (.obj members)) : ∀ member ∈ members, member.1.IsText := by
  cases clear.textual with
  | obj names _ => exact names

theorem item {items : List Value} (clear : (Form.list form).IsClear (.arr items)) {part : Value}
    (member : part ∈ items) : form.IsClear part := by
  cases clear.textual with
  | arr parts => exact ⟨parts part member, clear.unambiguous part member⟩

theorem part (clear : (Form.mapping form).IsClear (.obj members)) {member : Str × Value}
    (present : member ∈ members) : form.IsClear member.2 := by
  cases clear.textual with
  | obj _ parts => exact ⟨parts member present, clear.unambiguous member present⟩

theorem first {names others : List String} {second : Form}
    (clear : (Form.record names form others second).IsClear (.obj members))
    {member : Str × Value} (present : member ∈ members)
    (under : Members.isUnder names member = true) : form.IsClear member.2 := by
  cases clear.textual with
  | obj _ parts => exact ⟨parts member present, clear.unambiguous.1.2 member present under⟩

theorem second {names others : List String} {first : Form}
    (clear : (Form.record names first others form).IsClear (.obj members))
    {member : Str × Value} (present : member ∈ members)
    (under : Members.isUnder others member = true) : form.IsClear member.2 := by
  cases clear.textual with
  | obj _ parts => exact ⟨parts member present, clear.unambiguous.2.2 member present under⟩

end Form.IsClear

/-- A reading follows a form: it succeeds just on what fits, and it does not tell variants
apart. -/
structure Form.Governs {α : Type} (form : Form) (read : Value → Checked α) (Same : α → α → Prop) :
    Prop where
  succeeds_iff : ∀ {value : Value}, form.IsClear value → ((read value).Succeeds ↔ form.Fits value)
  agrees : ∀ {value variant : Value}, form.IsClear value → form.IsClear variant →
    form.Variant value variant → (read value).Agrees Same (read variant)

namespace Form.Governs

variable {α β : Type} {form : Form} {read : Value → Checked α} {Same : α → α → Prop}

theorem map (governs : form.Governs read Same) (f : α → β) {SameImage : β → β → Prop}
    (images : ∀ a b, Same a b → SameImage (f a) (f b)) :
    form.Governs (fun value => (read value).map f) SameImage where
  succeeds_iff := fun clear => (Checked.succeeds_map f).trans (governs.succeeds_iff clear)
  agrees := fun clear otherClear variant =>
    (governs.agrees clear otherClear variant).map images

/-! ## Values without parts -/

theorem agrees_of_alike {value other : Value} (alike : value.Alike other)
    (arrays : ∀ items, ¬(read (.arr items)).Succeeds)
    (objects : ∀ members, ¬(read (.obj members)).Succeeds) :
    (read value).Agrees Eq (read other) := by
  rcases alike.cases with rfl | ⟨items, others, rfl, rfl⟩ | ⟨members, others, rfl, rfl⟩
  · exact .refl _
  · exact Checked.agrees_of_not_succeeds (arrays items) (arrays others)
  · exact Checked.agrees_of_not_succeeds (objects members) (objects others)

theorem integer : Form.integer.Governs Validation.integer Eq where
  succeeds_iff := fun _ => Iff.rfl
  agrees := fun _ _ alike => agrees_of_alike alike nofun nofun

theorem text : Form.text.Governs string Eq where
  succeeds_iff := by
    intro value _
    cases value with
    | str s => exact iff_of_true ⟨s, rfl⟩ trivial
    | _ => exact iff_of_false nofun nofun
  agrees := fun _ _ alike => agrees_of_alike alike nofun nofun

/-! ## Lists -/

theorem succeeds_items (index : Nat) (values : List Value) :
    (items read index values).Succeeds ↔ ∀ value ∈ values, (read value).Succeeds := by
  induction values generalizing index with
  | nil => exact iff_of_true ⟨[], rfl⟩ (List.forall_mem_nil _)
  | cons value rest inductionHypothesis =>
      rw [items, Checked.succeeds_map, Checked.succeeds_both, Checked.succeeds_within,
        inductionHypothesis, List.forall_mem_cons]

theorem agrees_items {Related : Value → Value → Prop} {values variants : List Value}
    (related : List.Forall₂ Related values variants) (index : Nat)
    (agrees : ∀ value ∈ values, ∀ variant ∈ variants, Related value variant →
      (read value).Agrees Same (read variant)) :
    (items read index values).Agrees (List.Forall₂ Same) (items read index variants) := by
  induction related generalizing index with
  | nil => exact .nil
  | cons first _ inductionHypothesis =>
      have head := agrees _ List.mem_cons_self _ List.mem_cons_self first
      have tail := inductionHypothesis (index + 1) fun value member variant variantMember =>
        agrees value (List.mem_cons_of_mem _ member) variant (List.mem_cons_of_mem _ variantMember)
      rw [items, items]
      exact ((head.within (.item index) (.item index)).both tail).map
        fun _ _ same => .cons same.1 same.2

theorem list (governs : form.Governs read Same) (origin : Origin) :
    (Form.list form).Governs (Validation.list origin read) (List.Forall₂ Same) where
  succeeds_iff := by
    intro value clear
    cases value with
    | arr items =>
        have parts : ∀ part ∈ items, ((read part).Succeeds ↔ form.Fits part) :=
          fun part member => governs.succeeds_iff (clear.item member)
        exact (succeeds_items 0 items).trans (forall₂_congr parts)
    | _ => exact iff_of_false nofun nofun
  agrees := by
    intro value other clear otherClear variant
    cases value <;> cases other
    case arr.arr items variants =>
      exact agrees_items variant 0 fun part member otherPart otherMember =>
        governs.agrees (clear.item member) (otherClear.item otherMember)
    all_goals trivial

/-! ## Records -/

theorem record {name otherName : String} {aliases otherAliases : List String} {other : Form}
    {readOther : Value → Checked β} {SameOther : β → β → Prop} (governs : form.Governs read Same)
    (otherGoverns : other.Governs readOther SameOther) :
    (Form.record (name :: aliases) form (otherName :: otherAliases) other).Governs
      (recordOf name aliases read otherName otherAliases readOther)
      (fun a b => Same a.1 b.1 ∧ SameOther a.2 b.2) where
  succeeds_iff := by
    intro value clear
    cases value with
    | obj members =>
        have firstOffers := (succeeds_required clear.unambiguous.1.1 read).trans <|
          Members.offers_congr fun member present under =>
            governs.succeeds_iff (clear.first present under)
        have secondOffers := (succeeds_required clear.unambiguous.2.1 readOther).trans <|
          Members.offers_congr fun member present under =>
            otherGoverns.succeeds_iff (clear.second present under)
        exact Checked.succeeds_both.trans (and_congr firstOffers secondOffers)
    | _ => exact iff_of_false nofun nofun
  agrees := by
    intro value variant clear otherClear related
    cases value <;> cases variant
    case obj.obj members variants =>
      refine (agrees_required clear.unambiguous.1.1 otherClear.unambiguous.1.1 related.1
        fun member present renamed renamedPresent under renamedUnder => ?_).both
        (agrees_required clear.unambiguous.2.1 otherClear.unambiguous.2.1 related.2
        fun member present renamed renamedPresent under renamedUnder => ?_)
      · exact governs.agrees (clear.first present under)
          (otherClear.first renamedPresent renamedUnder)
      · exact otherGoverns.agrees (clear.second present under)
          (otherClear.second renamedPresent renamedUnder)
    all_goals trivial

end Form.Governs

end Validation

end LineMap
