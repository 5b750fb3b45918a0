import LineMap.Keyed

/-!
# One value per key

Of pairs with one key the last counts: it is the only one that is left, and nothing else is lost.
-/

set_option autoImplicit false

namespace LineMap.Keyed

variable {κ α : Type} [DecidableEq κ]

theorem keys_put (key : κ) (value : α) (pairs : List (κ × α)) :
    (put key value pairs).map Prod.fst =
      if key ∈ pairs.map Prod.fst then pairs.map Prod.fst else pairs.map Prod.fst ++ [key] := by
  induction pairs with
  | nil => rfl
  | cons pair rest inductionHypothesis =>
      by_cases found : pair.1 = key
      · simp [put, found]
      · have elsewhere : key ∈ pair.1 :: rest.map Prod.fst ↔ key ∈ rest.map Prod.fst := by
          rw [List.mem_cons, or_iff_right (Ne.symm found)]
        simp only [put, if_neg found, List.map_cons, inductionHypothesis, elsewhere]
        split <;> rfl

theorem mem_keys_put (key other : κ) (value : α) (pairs : List (κ × α)) :
    other ∈ (put key value pairs).map Prod.fst ↔ other = key ∨ other ∈ pairs.map Prod.fst := by
  rw [keys_put]
  split
  next present =>
    refine (or_iff_right_of_imp ?_).symm
    rintro rfl
    exact present
  next => rw [List.mem_append, List.mem_singleton, or_comm]

theorem mem_keys_putAll (other : κ) (pairs entries : List (κ × α)) :
    other ∈ (putAll pairs entries).map Prod.fst ↔
      other ∈ pairs.map Prod.fst ∨ other ∈ entries.map Prod.fst := by
  induction pairs generalizing entries with
  | nil => simp [putAll]
  | cons pair rest inductionHypothesis =>
      have later := inductionHypothesis (put pair.1 pair.2 entries)
      rw [mem_keys_put] at later
      simp only [List.map_cons, List.mem_cons, or_assoc]
      exact later.trans or_left_comm

theorem mem_keys_latest (other : κ) (pairs : List (κ × α)) :
    other ∈ (latest pairs).map Prod.fst ↔ other ∈ pairs.map Prod.fst := by
  rw [latest, mem_keys_putAll]
  exact or_iff_left List.not_mem_nil

theorem nodup_keys_put (key : κ) (value : α) {pairs : List (κ × α)}
    (once : (pairs.map Prod.fst).Nodup) : ((put key value pairs).map Prod.fst).Nodup := by
  rw [keys_put]
  split
  next => exact once
  next absent =>
    exact (List.perm_append_singleton key _).nodup_iff.mpr (List.nodup_cons.mpr ⟨absent, once⟩)

theorem nodup_keys_putAll (pairs : List (κ × α)) {entries : List (κ × α)}
    (once : (entries.map Prod.fst).Nodup) : ((putAll pairs entries).map Prod.fst).Nodup := by
  induction pairs generalizing entries with
  | nil => exact once
  | cons pair rest inductionHypothesis =>
      exact inductionHypothesis (nodup_keys_put pair.1 pair.2 once)

theorem nodup_keys_latest (pairs : List (κ × α)) : ((latest pairs).map Prod.fst).Nodup :=
  nodup_keys_putAll pairs List.nodup_nil

section Lookup

variable [BEq κ] [LawfulBEq κ]

theorem lookup_cons (key : κ) (pair : κ × α) (rest : List (κ × α)) :
    (pair :: rest).lookup key = if key = pair.1 then some pair.2 else rest.lookup key := by
  obtain ⟨other, value⟩ := pair
  by_cases same : key = other
  · simp [same]
  · have differs : (key == other) = false := by simp [same]
    rw [List.lookup_cons, differs, if_neg same]

theorem lookup_putAll (key : κ) (pairs entries : List (κ × α)) :
    (putAll pairs entries).lookup key = (pairs.reverse.lookup key).or (entries.lookup key) := by
  induction pairs generalizing entries with
  | nil => rfl
  | cons pair rest inductionHypothesis =>
      have later := inductionHypothesis (put pair.1 pair.2 entries)
      rw [lookup_put] at later
      rw [List.reverse_cons, List.lookup_append, Option.or_assoc]
      refine later.trans (congrArg _ ?_)
      rw [lookup_cons]
      split <;> rfl

omit [DecidableEq κ] in
theorem isSome_lookup_iff (key : κ) (pairs : List (κ × α)) :
    (pairs.lookup key).isSome ↔ key ∈ pairs.map Prod.fst := by
  rw [List.lookup_isSome_iff, List.mem_map]
  exact exists_congr fun pair => and_congr_right fun _ => beq_iff_eq.trans eq_comm

theorem put_of_lookup {key : κ} {value : α} {pairs : List (κ × α)}
    (present : pairs.lookup key = some value) : put key value pairs = pairs := by
  induction pairs with
  | nil => cases present
  | cons pair rest inductionHypothesis =>
      rw [lookup_cons] at present
      by_cases found : key = pair.1
      · rw [if_pos found] at present
        obtain rfl := Option.some.inj present
        rw [put, if_pos found.symm]
      · rw [if_neg found] at present
        rw [put, if_neg (Ne.symm found), inductionHypothesis present]

theorem putAll_of_lookup {pairs entries : List (κ × α)}
    (present : ∀ pair ∈ pairs, entries.lookup pair.1 = some pair.2) :
    putAll pairs entries = entries := by
  induction pairs with
  | nil => rfl
  | cons pair rest inductionHypothesis =>
      obtain ⟨first, later⟩ := List.forall_mem_cons.mp present
      rw [putAll, List.foldl_cons, put_of_lookup first]
      exact inductionHypothesis later

theorem lookup_latest (key : κ) (pairs : List (κ × α)) :
    (latest pairs).lookup key = pairs.reverse.lookup key := by
  rw [latest, lookup_putAll]
  simp

theorem lookup_eq_some_iff {pairs : List (κ × α)} (once : (pairs.map Prod.fst).Nodup)
    (pair : κ × α) : pairs.lookup pair.1 = some pair.2 ↔ pair ∈ pairs := by
  induction pairs with
  | nil => exact iff_of_false nofun List.not_mem_nil
  | cons first rest inductionHypothesis =>
      obtain ⟨firstOnce, restOnce⟩ := List.nodup_cons.mp once
      rw [lookup_cons, List.mem_cons, ← inductionHypothesis restOnce]
      by_cases same : pair.1 = first.1
      · have absent : rest.lookup pair.1 ≠ some pair.2 := by
          rw [Ne, inductionHypothesis restOnce]
          exact fun member => firstOnce (same ▸ List.mem_map_of_mem member)
        rw [if_pos same, Option.some_inj, or_iff_left absent, Prod.ext_iff, eq_comm]
        exact (and_iff_right same).symm
      · rw [if_neg same, or_iff_right fun equal => same (congrArg Prod.fst equal)]

theorem lookup_eq_of_perm {pairs others : List (κ × α)} (once : (pairs.map Prod.fst).Nodup)
    (perm : pairs.Perm others) (key : κ) : pairs.lookup key = others.lookup key := by
  have otherOnce : (others.map Prod.fst).Nodup := (perm.map Prod.fst).nodup_iff.mp once
  refine Option.ext fun value => ?_
  rw [lookup_eq_some_iff once (key, value), lookup_eq_some_iff otherOnce (key, value)]
  exact perm.mem_iff

theorem ext_lookup {pairs others : List (κ × α)} (once : (pairs.map Prod.fst).Nodup)
    (keys : pairs.map Prod.fst = others.map Prod.fst)
    (same : ∀ key, pairs.lookup key = others.lookup key) : pairs = others := by
  induction pairs generalizing others with
  | nil => exact (List.map_eq_nil_iff.mp keys.symm).symm
  | cons pair rest inductionHypothesis =>
      cases others with
      | nil => cases keys
      | cons other later =>
          obtain ⟨pairOnce, restOnce⟩ := List.nodup_cons.mp once
          obtain ⟨firstKey, restKeys⟩ := List.cons.inj keys
          have first : some pair.2 = some other.2 := by
            have found := same pair.1
            rwa [lookup_cons, lookup_cons, if_pos rfl, if_pos firstKey] at found
          rw [Prod.ext firstKey (Option.some.inj first),
            inductionHypothesis restOnce restKeys fun key => ?_]
          by_cases here : key = pair.1
          · -- the first key stands nowhere else, on either side
            have absent : ∀ {list : List (κ × α)}, list.map Prod.fst = rest.map Prod.fst →
                list.lookup key = none := by
              intro list sameKeys
              rw [← Option.not_isSome_iff_eq_none, isSome_lookup_iff, sameKeys, here]
              exact pairOnce
            rw [absent rfl, absent restKeys.symm]
          · have found := same key
            rwa [lookup_cons, lookup_cons, if_neg here,
              if_neg fun equal => here (equal.trans firstKey.symm)] at found

end Lookup

end LineMap.Keyed
