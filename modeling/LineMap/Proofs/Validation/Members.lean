import LineMap.Proofs.Validation.Agreement

/-!
# Members under several names

The member of an object that counts under some names is the last one with the first of these names
that occurs.  Where at most one member has any of the names, it is that member.
-/

set_option autoImplicit false

namespace LineMap

open LineMap.Json

namespace Json.Members

variable {members : Members} {names : List String}

theorem mem_of_last? {name : Str} {part : Value} (found : members.last? name = some part) :
    (name, part) ∈ members := by
  induction members with
  | nil => cases found
  | cons member rest inductionHypothesis =>
      rw [last?] at found
      split at found
      next later =>
        cases found
        exact List.mem_cons_of_mem _ (inductionHypothesis later)
      next =>
        split at found
        next same =>
          cases found
          exact same ▸ List.mem_cons_self
        next => cases found

theorem exists_last? {name : Str} {part : Value} (member : (name, part) ∈ members) :
    ∃ last, members.last? name = some last := by
  induction members with
  | nil => cases member
  | cons first rest inductionHypothesis =>
      rw [last?]
      cases later : last? name rest with
      | some last => exact ⟨last, rfl⟩
      | none =>
          rcases List.mem_cons.mp member with rfl | member
          · exact ⟨part, if_pos rfl⟩
          · obtain ⟨last, found⟩ := inductionHypothesis member
            cases later.symm.trans found

def named? (names : List String) (members : Members) : Option Value :=
  names.findSome? fun name => members.last? (Str.ofString name)

def isUnder (names : List String) (member : Str × Value) : Bool :=
  (names.map Str.ofString).contains member.1

def Offers (names : List String) (Fits : Value → Prop) (members : Members) : Prop :=
  ∃ member ∈ members, isUnder names member = true ∧ Fits member.2

def Renamed (names : List String) (Related : Value → Value → Prop) (members others : Members) :
    Prop :=
  (∃ member ∈ members, ∃ other ∈ others,
      isUnder names member = true ∧ isUnder names other = true ∧ Related member.2 other.2) ∨
    (∀ member ∈ members, isUnder names member = false) ∧
      ∀ other ∈ others, isUnder names other = false

def Sole (names : List String) (members : Members) : Prop :=
  (members.filter (isUnder names)).length ≤ 1

instance (Fits : Value → Prop) [DecidablePred Fits] : Decidable (members.Offers names Fits) :=
  inferInstanceAs (Decidable (∃ member ∈ members, isUnder names member = true ∧ Fits member.2))

instance : Decidable (members.Sole names) :=
  inferInstanceAs (Decidable ((members.filter (isUnder names)).length ≤ 1))

theorem offers_congr {Holds Fits : Value → Prop}
    (same : ∀ member ∈ members, isUnder names member = true →
      (Holds member.2 ↔ Fits member.2)) :
    members.Offers names Holds ↔ members.Offers names Fits :=
  exists_congr fun member => and_congr_right fun present => and_congr_right (same member present)

theorem Sole.eq (sole : members.Sole names) {member other : Str × Value}
    (present : member ∈ members) (otherPresent : other ∈ members)
    (under : isUnder names member = true) (otherUnder : isUnder names other = true) :
    member = other := by
  have mem := List.mem_filter.mpr ⟨present, under⟩
  have otherMem := List.mem_filter.mpr ⟨otherPresent, otherUnder⟩
  obtain ⟨only, same⟩ := List.length_eq_one_iff.mp
    (Nat.le_antisymm sole (List.length_pos_of_mem mem))
  rw [same, List.mem_singleton] at mem otherMem
  rw [mem, otherMem]

theorem isUnder_ofString {name : String} (listed : name ∈ names) (part : Value) :
    isUnder names (Str.ofString name, part) = true := by
  rw [isUnder, List.contains_iff_mem]
  exact List.mem_map_of_mem listed

theorem renamed_of_mem {Related : Value → Value → Prop} {others : Members} {part otherPart : Value}
    (name other : String) (listed : name ∈ names) (otherListed : other ∈ names)
    (present : (Str.ofString name, part) ∈ members)
    (otherPresent : (Str.ofString other, otherPart) ∈ others) (related : Related part otherPart) :
    members.Renamed names Related others :=
  .inl ⟨_, present, _, otherPresent, isUnder_ofString listed part,
    isUnder_ofString otherListed otherPart, related⟩

theorem exists_of_named? {part : Value} (found : members.named? names = some part) :
    ∃ member ∈ members, isUnder names member = true ∧ member.2 = part := by
  obtain ⟨name, listed, last⟩ := List.exists_of_findSome?_eq_some found
  exact ⟨_, mem_of_last? last, isUnder_ofString listed part, rfl⟩

theorem exists_named? {member : Str × Value} (present : member ∈ members)
    (under : isUnder names member = true) : ∃ part, members.named? names = some part := by
  rw [isUnder, List.contains_iff_mem, List.mem_map] at under
  obtain ⟨name, listed, same⟩ := under
  obtain ⟨last, found⟩ := exists_last? present
  rw [← Option.isSome_iff_exists, named?, List.findSome?_isSome_iff]
  exact ⟨name, listed, by rw [same, found, Option.isSome_some]⟩

theorem named?_eq_none (missing : ∀ member ∈ members, isUnder names member = false) :
    members.named? names = none := by
  rw [Option.eq_none_iff_forall_ne_some]
  intro part found
  obtain ⟨member, present, under, -⟩ := exists_of_named? found
  rw [missing member present] at under
  cases under

/-- The only member with any of the names is the one that counts. -/
theorem Sole.named?_eq_some (sole : members.Sole names) {member : Str × Value}
    (present : member ∈ members) (under : isUnder names member = true) :
    members.named? names = some member.2 := by
  obtain ⟨part, found⟩ := exists_named? present under
  obtain ⟨other, otherPresent, otherUnder, rfl⟩ := exists_of_named? found
  rw [found, sole.eq present otherPresent under otherUnder]

end Json.Members

namespace Validation

theorem map_snd_firstNamed (members : Members) (names : List String) :
    (firstNamed members names).map Prod.snd = members.named? names := by
  induction names with
  | nil => rfl
  | cons name others inductionHypothesis =>
      rw [firstNamed, Members.named?, List.findSome?_cons]
      cases members.last? (Str.ofString name) with
      | some part => rfl
      | none => exact inductionHypothesis

section

variable {α : Type} {members : Members} {name : String} {aliases : List String}

theorem exists_required_eq_within {part : Value}
    (found : members.named? (name :: aliases) = some part) (read : Value → Checked α) :
    ∃ step, required members name aliases read = (read part).within step := by
  rw [← map_snd_firstNamed] at found
  obtain ⟨⟨first, counted⟩, firstFound, rfl⟩ := Option.map_eq_some_iff.mp found
  exact ⟨.member first, by rw [required, firstFound]⟩

theorem exists_required_eq_error (missing : members.named? (name :: aliases) = none)
    (read : Value → Checked α) :
    ∃ issues, required members name aliases read = .error issues := by
  rw [← map_snd_firstNamed, Option.map_eq_none_iff] at missing
  exact ⟨_, by rw [required, missing]⟩

theorem required_eq_ok_iff (read : Value → Checked α) (a : α) :
    required members name aliases read = .ok a ↔
      ∃ part, members.named? (name :: aliases) = some part ∧ read part = .ok a := by
  cases found : members.named? (name :: aliases) with
  | none =>
      obtain ⟨issues, refused⟩ := exists_required_eq_error found read
      rw [refused]
      exact iff_of_false nofun nofun
  | some part =>
      obtain ⟨step, within⟩ := exists_required_eq_within found read
      rw [within, Checked.within_eq_ok_iff]
      simp

theorem succeeds_required (sole : members.Sole (name :: aliases)) (read : Value → Checked α) :
    (required members name aliases read).Succeeds ↔
      members.Offers (name :: aliases) fun part => (read part).Succeeds := by
  simp only [Checked.Succeeds, required_eq_ok_iff]
  constructor
  · rintro ⟨a, part, found, success⟩
    obtain ⟨member, present, under, rfl⟩ := Members.exists_of_named? found
    exact ⟨member, present, under, a, success⟩
  · rintro ⟨member, present, under, a, success⟩
    exact ⟨a, member.2, sole.named?_eq_some present under, success⟩

/-- Members that are related by what is read of them are read alike, under whichever names. -/
theorem agrees_required {others : Members} {Related : Value → Value → Prop}
    {Same : α → α → Prop} (sole : members.Sole (name :: aliases))
    (otherSole : others.Sole (name :: aliases))
    (renamed : members.Renamed (name :: aliases) Related others) {read : Value → Checked α}
    (agrees : ∀ member ∈ members, ∀ other ∈ others,
      Members.isUnder (name :: aliases) member = true →
      Members.isUnder (name :: aliases) other = true →
      Related member.2 other.2 → (read member.2).Agrees Same (read other.2)) :
    (required members name aliases read).Agrees Same (required others name aliases read) := by
  rcases renamed with ⟨member, present, other, otherPresent, under, otherUnder, related⟩ |
    ⟨missing, otherMissing⟩
  · obtain ⟨step, within⟩ :=
      exists_required_eq_within (sole.named?_eq_some present under) read
    obtain ⟨otherStep, otherWithin⟩ :=
      exists_required_eq_within (otherSole.named?_eq_some otherPresent otherUnder) read
    rw [within, otherWithin]
    exact (agrees member present other otherPresent under otherUnder related).within step otherStep
  · obtain ⟨issues, refused⟩ :=
      exists_required_eq_error (Members.named?_eq_none missing) read
    obtain ⟨otherIssues, otherRefused⟩ :=
      exists_required_eq_error (Members.named?_eq_none otherMissing) read
    rw [refused, otherRefused]
    trivial

end

end Validation

end LineMap
