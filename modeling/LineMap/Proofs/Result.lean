/-!
# Values or causes

When a result that is a value or the cause of a failure is a certain value.
-/

set_option autoImplicit false

namespace LineMap.Result

variable {ε α β : Type}

theorem toOption_eq_some_iff {result : Except ε α} {a : α} :
    result.toOption = some a ↔ result = .ok a := by
  cases result <;> simp [Except.toOption]

theorem isSome_toOption_iff {result : Except ε α} :
    result.toOption.isSome = true ↔ ∃ a, result = .ok a := by
  cases result <;> simp [Except.toOption]

theorem bind_eq_ok_iff {result : Except ε α} {next : α → Except ε β} {b : β} :
    (result >>= next) = .ok b ↔ ∃ a, result = .ok a ∧ next a = .ok b := by
  cases result <;> simp [bind, Except.bind]

theorem map_eq_ok_iff {result : Except ε α} {f : α → β} {b : β} :
    result.map f = .ok b ↔ ∃ a, result = .ok a ∧ f a = b := by
  cases result <;> simp [Except.map]

theorem toOption_map (result : Except ε α) (f : α → β) :
    (result.map f).toOption = result.toOption.map f := by
  cases result <;> rfl

theorem map_eq_error_iff {result : Except ε α} {f : α → β} {cause : ε} :
    result.map f = .error cause ↔ result = .error cause := by
  cases result <;> simp [Except.map]

theorem mapError_eq_ok_iff {δ : Type} {result : Except ε α} {f : ε → δ} {a : α} :
    result.mapError f = .ok a ↔ result = .ok a := by
  cases result with
  | ok found => exact ⟨fun same => Except.ok.inj same ▸ rfl, fun same => Except.ok.inj same ▸ rfl⟩
  | error cause => exact iff_of_false nofun nofun

/-- Steps in order come to a result exactly if each of the items fits, where whether an item fits
does not depend on what came before. -/
theorem exists_foldlM_eq_ok_iff {σ ι : Type} {step : σ → ι → Except ε σ} {Fits : ι → Prop}
    (each : ∀ state item, (∃ next, step state item = .ok next) ↔ Fits item) (items : List ι) :
    ∀ state, (∃ final, items.foldlM step state = .ok final) ↔ ∀ item ∈ items, Fits item := by
  induction items with
  | nil => exact fun state => iff_of_true ⟨state, rfl⟩ (by simp)
  | cons item later inductionHypothesis =>
      intro state
      simp only [List.foldlM_cons, List.forall_mem_cons, ← each state item, bind_eq_ok_iff]
      constructor
      · rintro ⟨final, next, stepped, rest⟩
        exact ⟨⟨next, stepped⟩, (inductionHypothesis next).mp ⟨final, rest⟩⟩
      · rintro ⟨⟨next, stepped⟩, fits⟩
        obtain ⟨final, rest⟩ := (inductionHypothesis next).mpr fits
        exact ⟨final, next, stepped, rest⟩

end LineMap.Result
