import LineMap.Diagnostics.Setup
import LineMap.Proofs.Diagnostics.Registration
import Mathlib.Data.List.Dedup
import Mathlib.Data.List.Induction
import Mathlib.Data.List.Perm.Basic

/-!
# A setup that prints nothing

The levels are set up at a table that may hold any names with any numbers.  If nothing is printed,
the two levels that are not standard stand between their neighbours, but not always apart from them:
a table may hold one of them with the number of a neighbour, and nothing is printed about that.  The
counters are as many as the levels, and count no two levels together, exactly if they stand apart.
-/

set_option autoImplicit false

namespace LineMap.Diagnostics

/-! ## Numbers -/

namespace LevelCall

def hint : LevelCall :=
  ⟨Level.hint.number, "HINT", Level.info.number, Level.warning.number⟩

def detail : LevelCall :=
  ⟨Level.detail.number, "DETAIL", Level.debug.number, Level.info.number⟩

theorem isBetween_hint : hint.IsBetween := by decide

theorem isBetween_detail : detail.IsBetween := by decide

end LevelCall

namespace Numbering

/-- The levels between the most talkative and the warning one follow each other in some order. -/
def Follows (below : Int → Int → Prop) (numbering : Numbering) : Prop :=
  below (numbering.number .debug) (numbering.number .detail) ∧
    below (numbering.number .detail) (numbering.number .info) ∧
    below (numbering.number .info) (numbering.number .hint) ∧
    below (numbering.number .hint) (numbering.number .warning)

theorem nodup_numbers_iff {numbering : Numbering} (weakly : numbering.Follows (· ≤ ·)) :
    (Level.all.map numbering.number).Nodup ↔ numbering.Follows (· < ·) := by
  unfold Follows number at weakly ⊢
  simp only [Level.all, Level.number, List.map_cons, List.map_nil, List.nodup_cons, List.nodup_nil,
    List.mem_cons, List.not_mem_nil, or_false, not_false_eq_true, and_true] at weakly ⊢
  omega

theorem nodup_numbers_iff_injective (numbering : Numbering) :
    (Level.all.map numbering.number).Nodup ↔ Function.Injective numbering.number := by
  constructor
  · intro distinct level other same
    apply List.inj_on_of_nodup_map distinct
    · exact level.mem_all
    · exact other.mem_all
    · exact same
  · intro injective
    apply List.Nodup.map injective
    decide

/-! ## Counters -/

theorem lookup_countUnder (number other : Int) (counters : List (Int × Nat)) :
    (countUnder number counters).lookup other =
      if other = number then some ((counters.lookup number).getD 0 + 1)
      else counters.lookup other :=
  Keyed.lookup_put number other _ counters

theorem keys_counters (numbering : Numbering) (number : Int) :
    number ∈ numbering.counters.map Prod.fst ↔ number ∈ Level.all.map numbering.number := by
  rw [counters, Keyed.mem_keys_latest, List.map_map]
  rfl

theorem lookup_counters (numbering : Numbering) (level : Level) :
    numbering.counters.lookup (numbering.number level) = some 0 := by
  have key : numbering.number level ∈ numbering.counters.map Prod.fst := by
    rw [keys_counters]
    exact List.mem_map_of_mem level.mem_all
  obtain ⟨count, found⟩ := Option.isSome_iff_exists.mp ((Keyed.isSome_lookup_iff _ _).mpr key)
  have listed := found
  rw [counters, Keyed.lookup_latest, List.lookup_eq_some_iff] at listed
  obtain ⟨front, back, split, -⟩ := listed
  have member : (numbering.number level, count) ∈
      (Level.all.map fun level => (numbering.number level, 0)).reverse := by
    rw [split]
    exact List.mem_append_right front List.mem_cons_self
  obtain ⟨other, -, same⟩ := List.mem_map.mp (List.mem_reverse.mp member)
  rw [found, (Prod.mk.inj same).2]

/-- A level's counter holds how many messages there were of the levels with its number. -/
theorem lookup_countersAfter (numbering : Numbering) (messages : List Level) (level : Level) :
    (numbering.countersAfter messages).lookup (numbering.number level) =
      some (messages.countP fun message => numbering.number message = numbering.number level) := by
  induction messages using List.reverseRecOn generalizing level with
  | nil => exact numbering.lookup_counters level
  | append_singleton messages message inductionHypothesis =>
      have step : numbering.countersAfter (messages ++ [message]) =
          countUnder (numbering.number message) (numbering.countersAfter messages) := by
        rw [countersAfter, List.foldl_append]
        rfl
      rw [step, lookup_countUnder, List.countP_append, List.countP_singleton, inductionHypothesis,
        inductionHypothesis]
      by_cases same : numbering.number level = numbering.number message
      · simp [same]
      · simp [same, Ne.symm same]

/-- There is a counter for each of the levels exactly if they have numbers of their own. -/
theorem length_counters_iff (numbering : Numbering) :
    numbering.counters.length = Level.all.length ↔ (Level.all.map numbering.number).Nodup := by
  have keys : (numbering.counters.map Prod.fst).Perm (Level.all.map numbering.number).dedup := by
    apply (List.perm_ext_iff_of_nodup (Keyed.nodup_keys_latest _) (List.nodup_dedup _)).mpr
    intro number
    rw [List.mem_dedup]
    exact numbering.keys_counters number
  rw [← List.length_map Prod.fst, keys.length_eq, ← List.dedup_eq_self]
  constructor
  · intro same
    apply (List.dedup_sublist _).eq_of_length
    rw [same, List.length_map]
  · intro same
    rw [same, List.length_map]

/-- No messages of two levels are counted together exactly if the levels have numbers of their
own. -/
theorem counts_apart_iff (numbering : Numbering) :
    (∀ messages level, (numbering.countersAfter messages).lookup (numbering.number level) =
      some (messages.count level)) ↔ Function.Injective numbering.number := by
  constructor
  · intro apart level other same
    have counted := numbering.lookup_countersAfter [level] other
    rw [apart [level] other] at counted
    by_contra differs
    simp [same, differs] at counted
  · intro injective messages level
    rw [lookup_countersAfter]
    simp only [injective.eq_iff]
    rfl

end Numbering

/-! ## The setup -/

namespace LevelTable

theorem setUp_eq (table : LevelTable) :
    table.setUp =
      let between := LevelCall.hint.after table
      { numbering? := (LevelCall.hint.answer table).number?.bind fun hint =>
          (LevelCall.detail.answer between).number?.map fun detail => ⟨hint, detail⟩
        printed := LevelCall.hint.printed table ++ LevelCall.detail.printed between
        table := LevelCall.detail.after between } := rfl

/-- A setup that prints nothing gives all levels numbers, in an order in which neighbours may
coincide.  They are all different exactly if the table held neither of the two levels with the
number of a neighbour.  Exactly then there is a counter for each level, and exactly then no messages
of two levels are ever counted together. -/
theorem silent_setup_apart_iff (table : LevelTable) (silent : table.setUp.printed = "") :
    ∃ numbering, table.setUp.numbering? = some numbering ∧
      numbering.Follows (· ≤ ·) ∧
      (numbering.Follows (· < ·) ↔
        table.number? "HINT" ≠ some Level.info.number ∧
        table.number? "HINT" ≠ some Level.warning.number ∧
        table.number? "DETAIL" ≠ some Level.debug.number ∧
        table.number? "DETAIL" ≠ some Level.info.number) ∧
      (numbering.counters.length = Level.all.length ↔ numbering.Follows (· < ·)) ∧
      ((∀ messages level, (numbering.countersAfter messages).lookup (numbering.number level) =
        some (messages.count level)) ↔ numbering.Follows (· < ·)) := by
  rw [setUp_eq] at silent ⊢
  obtain ⟨hintSilent, detailSilent⟩ := String.append_eq_empty_iff.mp silent
  obtain ⟨hint, hintReturned, hintAbove, hintBelow, hintLowest, hintHighest⟩ :=
    LevelCall.returns_of_silent LevelCall.isBetween_hint hintSilent
  obtain ⟨detail, detailReturned, detailAbove, detailBelow, detailLowest, detailHighest⟩ :=
    LevelCall.returns_of_silent LevelCall.isBetween_detail detailSilent
  -- The first call is about another name, so the second finds what the table held.
  have other : LevelCall.detail.name ≠ LevelCall.hint.name := by decide
  rw [LevelCall.number?_after_of_ne LevelCall.hint table other] at detailLowest detailHighest
  have weakly : Numbering.Follows (· ≤ ·) ⟨hint, detail⟩ :=
    ⟨detailAbove, detailBelow, hintAbove, hintBelow⟩
  refine ⟨⟨hint, detail⟩, ?_, weakly, ?_, ?_, ?_⟩
  · simp only [hintReturned, detailReturned, Option.bind_some, Option.map_some]
  · have unequal : Numbering.Follows (· < ·) ⟨hint, detail⟩ ↔
        hint ≠ LevelCall.hint.lower ∧ hint ≠ LevelCall.hint.upper ∧
        detail ≠ LevelCall.detail.lower ∧ detail ≠ LevelCall.detail.upper := by
      unfold Numbering.Follows at weakly ⊢
      simp only [Numbering.number, LevelCall.hint, LevelCall.detail] at weakly ⊢
      omega
    rw [unequal]
    simp only [ne_eq, hintLowest, hintHighest, detailLowest, detailHighest]
    rfl
  · rw [Numbering.length_counters_iff, Numbering.nodup_numbers_iff weakly]
  · rw [Numbering.counts_apart_iff, ← Numbering.nodup_numbers_iff_injective,
      Numbering.nodup_numbers_iff weakly]

/-- With a hint at the number of the informative level nothing is printed, and one counter is
missing. -/
theorem silent_setup_apart_iff_shared :
    (standard.put "HINT" 20).setUp.printed = "" ∧
      ∃ numbering, (standard.put "HINT" 20).setUp.numbering? = some numbering ∧
        ¬numbering.Follows (· < ·) ∧ numbering.counters.length ≠ Level.all.length := by
  have silent : (standard.put "HINT" 20).setUp.printed = "" := by decide
  refine ⟨silent, ?_⟩
  obtain ⟨numbering, returned, -, apart, counters, -⟩ := silent_setup_apart_iff _ silent
  have shared : ¬numbering.Follows (· < ·) := by
    intro strictly
    exact absurd (apart.mp strictly).1 (by decide)
  exact ⟨numbering, returned, shared, counters.not.mpr shared⟩

example : standard.setUp = ⟨some ⟨Level.hint.number, Level.detail.number⟩, "", complete⟩ := by
  decide

end LevelTable

end LineMap.Diagnostics
