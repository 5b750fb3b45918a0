import LineMap.Proofs.Keyed
import LineMap.View.Builtin
import Mathlib.Data.List.Sort
import Mathlib.Data.String.Basic
import Mathlib.Logic.Function.Basic

/-!
# Registries are finite maps

Any number of registries start empty or as the one that comes with the tool, and then views are
added and registries are merged in any order.  Adding refuses a name that is there and merging
overrides it, but either way a name leads to one view, which has that very name, and no name is ever
lost.
-/

set_option autoImplicit false

namespace LineMap.Registry

open LineMap.Diagnostics

/-! ## One registry -/

/-- Each name stands once and leads to a view of that name. -/
structure IsMap (registry : Registry) : Prop where
  once : (registry.views.map Prod.fst).Nodup
  named : ∀ name view, registry.lookup? name = some view → view.name = name

theorem isMap_empty : empty.IsMap :=
  ⟨List.nodup_nil, fun _ _ found => nomatch found⟩

theorem nodup_builtin : (builtin.views.map Prod.fst).Nodup := by
  decide

theorem of_lookup_builtin {name : String} {view : View}
    (found : builtin.lookup? name = some view) :
    view ∈ [View.annotated, View.bytecode, View.ir, View.asm] ∧ view.name = name := by
  have listed := (Keyed.lookup_eq_some_iff nodup_builtin (name, view)).mp found
  obtain ⟨same, member, sameEntry⟩ := List.mem_map.mp listed
  cases sameEntry
  exact ⟨member, rfl⟩

theorem mem_of_lookup_builtin {name : String} {view : View}
    (found : builtin.lookup? name = some view) :
    view ∈ [View.annotated, View.bytecode, View.ir, View.asm] :=
  (of_lookup_builtin found).1

theorem isMap_builtin : builtin.IsMap :=
  ⟨nodup_builtin, fun _ _ found => (of_lookup_builtin found).2⟩

theorem mem_names_iff (registry : Registry) (name : String) :
    name ∈ registry.names ↔ (registry.lookup? name).isSome := by
  rw [names, List.mem_mergeSort, lookup?, Keyed.isSome_lookup_iff]

theorem IsMap.names_increasing {registry : Registry} (isMap : registry.IsMap) :
    registry.names.Pairwise (· < ·) := by
  have distinct : registry.names.Nodup :=
    ((registry.views.map Prod.fst).mergeSort_perm _).nodup_iff.mpr isMap.once
  have sorted : registry.names.Pairwise (· ≤ ·) := List.sortedLE_mergeSort.pairwise
  exact (sorted.and distinct).imp fun below => lt_of_le_of_ne below.1 below.2

/-! ## Adding and merging -/

theorem add_of_mem (registry : Registry) (view : View)
    (taken : view.name ∈ registry.names) :
    registry.add view = .error ⟨view.name⟩ := by
  obtain ⟨other, found⟩ := Option.isSome_iff_exists.mp ((registry.mem_names_iff _).mp taken)
  rw [add, found]

theorem add_of_not_mem (registry : Registry) (view : View)
    (free : view.name ∉ registry.names) :
    registry.add view = .ok ⟨Keyed.put view.name view registry.views⟩ := by
  rw [mem_names_iff, Bool.not_eq_true, Option.isSome_eq_false_iff, Option.isNone_iff_eq_none] at free
  rw [add, free]

theorem lookup_put (registry : Registry) (view : View) (name : String) :
    lookup? ⟨Keyed.put view.name view registry.views⟩ name =
      if name = view.name then some view else registry.lookup? name :=
  Keyed.lookup_put view.name name view registry.views

theorem IsMap.put {registry : Registry} (isMap : registry.IsMap) (view : View) :
    IsMap ⟨Keyed.put view.name view registry.views⟩ := by
  refine ⟨Keyed.nodup_keys_put _ _ isMap.once, fun name other found => ?_⟩
  rw [lookup_put] at found
  split at found
  next same =>
    cases found
    exact same.symm
  next differs => exact isMap.named name other found

theorem names_subset_put (registry : Registry) (view : View) :
    registry.names ⊆ names ⟨Keyed.put view.name view registry.views⟩ := by
  intro name present
  rw [mem_names_iff] at present
  rw [mem_names_iff, lookup_put]
  split
  · rfl
  · exact present

theorem IsMap.lookup_mergeInto {source : Registry} (isMap : source.IsMap) (target : Registry)
    (name : String) :
    (source.mergeInto target).lookup? name = (source.lookup? name).or (target.lookup? name) := by
  have order := Keyed.lookup_eq_of_perm isMap.once source.views.reverse_perm.symm name
  rw [lookup?, lookup?, order]
  exact Keyed.lookup_putAll name source.views target.views

theorem IsMap.mergeInto {source target : Registry} (sourceMap : source.IsMap)
    (targetMap : target.IsMap) : (source.mergeInto target).IsMap := by
  refine ⟨Keyed.nodup_keys_putAll _ targetMap.once, fun name view found => ?_⟩
  rw [sourceMap.lookup_mergeInto, Option.or_eq_some_iff] at found
  obtain overriding | ⟨-, kept⟩ := found
  · exact sourceMap.named name view overriding
  · exact targetMap.named name view kept

theorem IsMap.names_subset_mergeInto {source : Registry} (isMap : source.IsMap)
    (target : Registry) : target.names ⊆ (source.mergeInto target).names := by
  intro name present
  rw [mem_names_iff] at present
  rw [mem_names_iff, isMap.lookup_mergeInto, Option.isSome_or, present, Bool.or_true]

theorem IsMap.mergeInto_of_lookup {source target : Registry} (isMap : source.IsMap)
    (present : ∀ name view, source.lookup? name = some view → target.lookup? name = some view) :
    source.mergeInto target = target := by
  have unchanged : Keyed.putAll source.views target.views = target.views := by
    refine Keyed.putAll_of_lookup fun pair member => ?_
    exact present _ _ ((Keyed.lookup_eq_some_iff isMap.once pair).mpr member)
  rw [Registry.mergeInto, unchanged]

theorem IsMap.mergeInto_self {registry : Registry} (isMap : registry.IsMap) :
    registry.mergeInto registry = registry :=
  isMap.mergeInto_of_lookup fun _ _ found => found

theorem IsMap.mergeInto_mergeInto {source : Registry} (isMap : source.IsMap)
    (target : Registry) :
    source.mergeInto (source.mergeInto target) = source.mergeInto target := by
  refine isMap.mergeInto_of_lookup fun name view found => ?_
  rw [isMap.lookup_mergeInto, found, Option.some_or]

/-! ## Many registries -/

variable {ι : Type}

/-- What is done with registries: a view is put together and added to one, or the views of one are
merged into another. -/
inductive Operation (ι : Type) where
  | add (target : ι) (name description documentation : String)
      (extract : Context → String → Run (Option (List OutputLine)))
  | mergeInto (source target : ι)

def Operation.target : Operation ι → ι
  | .add target .. => target
  | .mergeInto _ target => target

/-- Registries that are empty, or else as the one that comes with the tool. -/
def start (copied : ι → Bool) (index : ι) : Registry :=
  if copied index then builtin else empty

theorem isMap_start (copied : ι → Bool) (index : ι) : (start copied index).IsMap := by
  rw [start]
  split
  · exact isMap_builtin
  · exact isMap_empty

variable [DecidableEq ι]

def step (registries : ι → Registry) : Operation ι → Except NameTaken Unit × (ι → Registry)
  | .add target name description documentation extract =>
      match (registries target).add ⟨name, describe description documentation, extract⟩ with
      | .ok added => (.ok (), Function.update registries target added)
      | .error taken => (.error taken, registries)
  | .mergeInto source target =>
      (.ok (), Function.update registries target
        ((registries source).mergeInto (registries target)))

def after (registries : ι → Registry) (operations : List (Operation ι)) : ι → Registry :=
  operations.foldl (fun registries operation => (step registries operation).2) registries

variable (registries : ι → Registry)

theorem after_append (earlier later : List (Operation ι)) :
    after registries (earlier ++ later) = after (after registries earlier) later :=
  List.foldl_append

theorem step_elsewhere (operation : Operation ι) {other : ι}
    (elsewhere : other ≠ operation.target) :
    (step registries operation).2 other = registries other := by
  cases operation with
  | mergeInto source target => exact Function.update_of_ne elsewhere _ _
  | add target name description documentation extract =>
      rw [step]
      split
      next added taken => exact Function.update_of_ne elsewhere _ _
      next taken refused => rfl

theorem after_elsewhere (operations : List (Operation ι)) {other : ι}
    (elsewhere : ∀ operation ∈ operations, other ≠ operation.target) :
    after registries operations other = registries other := by
  induction operations generalizing registries with
  | nil => rfl
  | cons operation later inductionHypothesis =>
      obtain ⟨first, others⟩ := List.forall_mem_cons.mp elsewhere
      exact (inductionHypothesis _ others).trans (step_elsewhere registries operation first)

theorem step_mergeInto_target (source target : ι) :
    (step registries (.mergeInto source target)).2 target =
      (registries source).mergeInto (registries target) :=
  Function.update_self target _ registries

theorem step_mergeInto_eq_self {source target : ι}
    (unchanged : (registries source).mergeInto (registries target) = registries target) :
    (step registries (.mergeInto source target)).2 = registries := by
  rw [step, unchanged, Function.update_eq_self]

section Additions

variable (target : ι) {name : String} (description documentation : String)
  (extract : Context → String → Run (Option (List OutputLine)))

theorem step_add_of_mem (taken : name ∈ (registries target).names) :
    step registries (.add target name description documentation extract) =
      (.error ⟨name⟩, registries) := by
  have refused := (registries target).add_of_mem
    ⟨name, describe description documentation, extract⟩ taken
  rw [step, refused]

theorem step_add_of_not_mem (free : name ∉ (registries target).names) :
    (step registries (.add target name description documentation extract)).1 = .ok () ∧
      (step registries (.add target name description documentation extract)).2 target =
        ⟨Keyed.put name ⟨name, describe description documentation, extract⟩
          (registries target).views⟩ := by
  have added := (registries target).add_of_not_mem
    ⟨name, describe description documentation, extract⟩ free
  rw [step, added]
  exact ⟨rfl, Function.update_self target _ registries⟩

end Additions

theorem step_cases (operation : Operation ι) (index : ι) :
    (step registries operation).2 index = registries index ∨
      (∃ view : View, (step registries operation).2 index =
        ⟨Keyed.put view.name view (registries index).views⟩) ∨
      ∃ source, (step registries operation).2 index =
        (registries source).mergeInto (registries index) := by
  by_cases here : index = operation.target
  · subst here
    cases operation with
    | mergeInto source target =>
        exact .inr (.inr ⟨source, step_mergeInto_target registries source target⟩)
    | add target name description documentation extract =>
        by_cases taken : name ∈ (registries target).names
        · rw [step_add_of_mem registries target description documentation extract taken]
          exact .inl rfl
        · have added := step_add_of_not_mem registries target description documentation extract taken
          exact .inr (.inl ⟨⟨name, _, extract⟩, added.2⟩)
  · exact .inl (step_elsewhere registries operation here)

variable {registries} (isMap : ∀ index, (registries index).IsMap)
include isMap

theorem isMap_step (operation : Operation ι) (index : ι) :
    ((step registries operation).2 index).IsMap := by
  obtain same | ⟨view, put⟩ | ⟨source, merged⟩ := step_cases registries operation index
  · rw [same]
    exact isMap index
  · rw [put]
    exact (isMap index).put view
  · rw [merged]
    exact (isMap source).mergeInto (isMap index)

theorem isMap_after (operations : List (Operation ι)) (index : ι) :
    (after registries operations index).IsMap := by
  induction operations generalizing registries with
  | nil => exact isMap index
  | cons operation later inductionHypothesis =>
      exact inductionHypothesis (isMap_step isMap operation)

theorem names_subset_step (operation : Operation ι) (index : ι) :
    (registries index).names ⊆ ((step registries operation).2 index).names := by
  obtain same | ⟨view, put⟩ | ⟨source, merged⟩ := step_cases registries operation index
  · rw [same]
    exact List.Subset.refl _
  · rw [put]
    exact names_subset_put (registries index) view
  · rw [merged]
    exact (isMap source).names_subset_mergeInto (registries index)

theorem names_subset_after (operations : List (Operation ι)) (index : ι) :
    (registries index).names ⊆ (after registries operations index).names := by
  induction operations generalizing registries with
  | nil => exact List.Subset.refl _
  | cons operation later inductionHypothesis =>
      have first := names_subset_step isMap operation index
      exact List.Subset.trans first (inductionHypothesis (isMap_step isMap operation))

/-- A merge that is made once more changes nothing, also where a registry is merged into itself. -/
theorem step_mergeInto_again (source target : ι) :
    (step (step registries (.mergeInto source target)).2 (.mergeInto source target)).2 =
      (step registries (.mergeInto source target)).2 := by
  refine step_mergeInto_eq_self _ ?_
  -- If the target is the source, then the second merge has the merged views for its source, too.
  by_cases same : source = target
  · subst same
    exact (isMap_step isMap _ source).mergeInto_self
  · have kept := step_elsewhere registries (.mergeInto source target) same
    rw [kept, step_mergeInto_target]
    exact (isMap source).mergeInto_mergeInto (registries target)

omit isMap

/-- After any operations each registry is a finite map: a view has the name under which it is found,
the names that are found stand in increasing order, and none of them is ever lost.  A view with a
name that is there is refused, and nothing changes; any other is found from then on, and nothing
else changes.  Merging overrides views of the target and changes nothing else, once for all, and
what is done with other registries later does not show in the target. -/
theorem operations_keep_maps (copied : ι → Bool) (operations : List (Operation ι)) :
    let registries := after (start copied) operations
    (∀ index,
      (∀ name view, (registries index).lookup? name = some view → view.name = name) ∧
      (registries index).names.Pairwise (· < ·) ∧
      (∀ name, name ∈ (registries index).names ↔ ((registries index).lookup? name).isSome) ∧
      ∀ later, (registries index).names ⊆
        (after (start copied) (operations ++ later) index).names) ∧
    (∀ target name description documentation extract,
      let added := step registries (.add target name description documentation extract)
      if name ∈ (registries target).names then added = (.error ⟨name⟩, registries)
      else added.1 = .ok () ∧
        (∀ other, (added.2 target).lookup? other =
          if other = name then some ⟨name, describe description documentation, extract⟩
          else (registries target).lookup? other) ∧
        ∀ index, index ≠ target → added.2 index = registries index) ∧
    ∀ source target,
      let merged := (step registries (.mergeInto source target)).2
      (∀ name, (merged target).lookup? name =
        ((registries source).lookup? name).or ((registries target).lookup? name)) ∧
      (∀ index, index ≠ target → merged index = registries index) ∧
      (step merged (.mergeInto source target)).2 = merged ∧
      (source = target → merged = registries) ∧
      ∀ later, (∀ operation ∈ later, target ≠ operation.target) →
        after merged later target = merged target := by
  intro registries
  have isMap : ∀ index, (registries index).IsMap := isMap_after (isMap_start copied) operations
  refine ⟨?maps, ?additions, ?merges⟩
  case maps =>
    intro index
    refine ⟨(isMap index).named, (isMap index).names_increasing,
      (registries index).mem_names_iff, fun later => ?_⟩
    rw [after_append]
    exact names_subset_after isMap later index
  case additions =>
    intro target name description documentation extract added
    split
    next taken => exact step_add_of_mem registries target description documentation extract taken
    next free =>
      obtain ⟨accepted, there⟩ : added.1 = .ok () ∧ added.2 target = _ :=
        step_add_of_not_mem registries target description documentation extract free
      refine ⟨accepted, fun other => ?_, fun index elsewhere => ?_⟩
      · rw [there]
        exact lookup_put (registries target) ⟨name, _, extract⟩ other
      · exact step_elsewhere registries (.add target name _ _ extract) elsewhere
  case merges =>
    intro source target merged
    refine ⟨fun name => ?_, fun index elsewhere => ?_, step_mergeInto_again isMap source target, ?_,
      fun later elsewhere => after_elsewhere merged later elsewhere⟩
    · have there : merged target = _ := step_mergeInto_target registries source target
      rw [there]
      exact (isMap source).lookup_mergeInto (registries target) name
    · exact step_elsewhere registries (.mergeInto source target) elsewhere
    · rintro rfl
      exact step_mergeInto_eq_self registries (isMap source).mergeInto_self

end LineMap.Registry
