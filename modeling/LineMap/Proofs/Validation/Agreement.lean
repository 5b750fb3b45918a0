import LineMap.Validation.Checked

/-!
# Checks that agree

Two checks agree if both give values, and these are related, or neither gives one.
-/

set_option autoImplicit false

namespace LineMap.Validation.Checked

variable {α β γ δ : Type}

def Succeeds (checked : Checked α) : Prop :=
  ∃ a, checked = .ok a

instance (checked : Checked α) : Decidable checked.Succeeds :=
  match checked with
  | .ok a => .isTrue ⟨a, rfl⟩
  | .error _ => .isFalse nofun

def Agrees (Same : α → β → Prop) : Checked α → Checked β → Prop
  | .ok a, .ok b => Same a b
  | .error _, .error _ => True
  | _, _ => False

theorem Agrees.refl (checked : Checked α) : checked.Agrees Eq checked := by
  cases checked
  · trivial
  · rfl

theorem Agrees.symm {left right : Checked α} (agrees : left.Agrees Eq right) :
    right.Agrees Eq left := by
  cases left <;> cases right
  · trivial
  · cases agrees
  · cases agrees
  · exact Eq.symm agrees

theorem Agrees.succeeds_iff {Same : α → β → Prop} {left : Checked α} {right : Checked β}
    (agrees : left.Agrees Same right) : left.Succeeds ↔ right.Succeeds := by
  cases left <;> cases right
  · exact iff_of_false nofun nofun
  · cases agrees
  · cases agrees
  next a b => exact iff_of_true ⟨a, rfl⟩ ⟨b, rfl⟩

theorem Agrees.of_eq_ok {Same : α → β → Prop} {left : Checked α} {right : Checked β} {a : α} {b : β}
    (agrees : left.Agrees Same right) (leftOk : left = .ok a) (rightOk : right = .ok b) :
    Same a b := by
  subst leftOk rightOk
  exact agrees

theorem agrees_of_succeeds_iff {Same : α → β → Prop} {left : Checked α} {right : Checked β}
    (both : left.Succeeds ↔ right.Succeeds)
    (same : ∀ a b, left = .ok a → right = .ok b → Same a b) : left.Agrees Same right := by
  cases left <;> cases right
  · trivial
  next b => cases both.mpr ⟨b, rfl⟩; contradiction
  next a _ => cases both.mp ⟨a, rfl⟩; contradiction
  next a b => exact same a b rfl rfl

theorem agrees_of_not_succeeds {Same : α → β → Prop} {left : Checked α} {right : Checked β}
    (failure : ¬left.Succeeds) (otherFailure : ¬right.Succeeds) : left.Agrees Same right :=
  agrees_of_succeeds_iff (iff_of_false failure otherFailure) fun a _ success =>
    (failure ⟨a, success⟩).elim

theorem succeeds_map {checked : Checked α} (f : α → β) :
    Succeeds (checked.map f) ↔ checked.Succeeds := by
  cases checked
  · exact iff_of_false nofun nofun
  next a => exact iff_of_true ⟨f a, rfl⟩ ⟨a, rfl⟩

theorem succeeds_within {checked : Checked α} (step : Step) :
    (checked.within step).Succeeds ↔ checked.Succeeds := by
  simp only [Succeeds, within_eq_ok_iff]

theorem succeeds_both {left : Checked α} {right : Checked β} :
    (left.both right).Succeeds ↔ left.Succeeds ∧ right.Succeeds := by
  simp only [Succeeds, Prod.exists, both_eq_ok_iff, exists_and_left, exists_and_right]

theorem Agrees.map {Same : α → β → Prop} {SameImage : γ → δ → Prop} {left : Checked α}
    {right : Checked β} {f : α → γ} {g : β → δ} (agrees : left.Agrees Same right)
    (images : ∀ a b, Same a b → SameImage (f a) (g b)) :
    Agrees SameImage (left.map f) (right.map g) := by
  cases left <;> cases right
  · trivial
  · cases agrees
  · cases agrees
  next a b => exact images a b agrees

theorem Agrees.within {Same : α → β → Prop} {left : Checked α} {right : Checked β}
    (agrees : left.Agrees Same right) (step other : Step) :
    (left.within step).Agrees Same (right.within other) := by
  cases left <;> cases right
  · trivial
  · cases agrees
  · cases agrees
  · exact agrees

theorem Agrees.both {Same : α → β → Prop} {SameOther : γ → δ → Prop} {left : Checked α}
    {right : Checked β} {leftOther : Checked γ} {rightOther : Checked δ}
    (agrees : left.Agrees Same right) (others : leftOther.Agrees SameOther rightOther) :
    (left.both leftOther).Agrees (fun a b => Same a.1 b.1 ∧ SameOther a.2 b.2)
      (right.both rightOther) := by
  cases left <;> cases right
  case error.ok | ok.error => cases agrees
  all_goals
    cases leftOther <;> cases rightOther
    case error.ok | ok.error => cases others
  case ok.ok.ok.ok => exact ⟨agrees, others⟩
  all_goals trivial

end LineMap.Validation.Checked
