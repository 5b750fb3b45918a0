import LineMap.Proofs.Diagnostics.Accounted
import Mathlib.Logic.Basic
import Mathlib.Tactic.ByContra

/-!
# What a failed report leaves behind

A report is made with any number as its level, any details and any keywords, whatever was reported
before.  It does one of four things: it is refused for its form, it fails because the number of its
level cannot be written, it is recorded and counted, or it is recorded under a number for which
nothing is counted, and fails only then.  So it is taken as a whole or not at all, except for the
last case, where a record stays behind if its level reaches the threshold.
-/

set_option autoImplicit false

namespace LineMap.Diagnostics

open LineMap.Json

namespace Journal

theorem counts_extend_none (journal : Journal) (record : Record) :
    (journal.extend [⟨record, none⟩]).counts = journal.counts := by
  funext level
  simp [extend]

theorem extend_of_hidden (journal : Journal) {record : Record}
    (hidden : ¬IsEmitted journal.threshold record.level) :
    journal.extend [⟨record, none⟩] = journal := by
  simp [extend, emittedAt_singleton, hidden]

end Journal

/-! ## One report -/

namespace Draft

/-- What is wrong with a report: an identifier is missing that its level requires, a detail is no
place, or a keyword is not known. -/
def IsRefused (draft : Draft) : Prop :=
  (Level.info.number ≤ draft.level ∧ draft.split.1 = none) ∨
    (∃ detail ∈ draft.split.2.2, detail.isPlace = false) ∨
    ∃ keyword ∈ draft.keywords, keyword.1 ≠ "line" ∧ keyword.1 ≠ "column"

theorem exists_record_iff (draft : Draft) :
    (∃ record, draft.compose = .ok record) ↔ ¬draft.IsRefused := by
  rw [compose_eq]
  by_cases missing : Level.info.number ≤ draft.level ∧ draft.split.1 = none
  · rw [if_pos missing]
    exact iff_of_false nofun (not_not_intro (.inl missing))
  · have placed : (∃ place, draft.place = .ok place) ↔ ¬draft.IsRefused := by
      rw [exists_place_iff, IsRefused]
      simp [missing, or_iff_not_imp_left]
    rw [if_neg missing, ← placed]
    constructor
    · rintro ⟨record, composed⟩
      obtain ⟨place, here, -⟩ := Result.map_eq_ok_iff.mp composed
      exact ⟨place, here⟩
    · rintro ⟨place, here⟩
      rw [here]
      exact ⟨_, rfl⟩

theorem isRefused_of_compose {draft : Draft} {refusal : Refusal}
    (composed : draft.compose = .error refusal) : draft.IsRefused := by
  by_contra fitting
  obtain ⟨record, other⟩ := draft.exists_record_iff.mpr fitting
  rw [composed] at other
  cases other

theorem level_of_compose {draft : Draft} {record : Record}
    (composed : draft.compose = .ok record) : record.level = draft.level := by
  rw [compose_eq] at composed
  split at composed
  case isTrue missing => cases composed
  case isFalse identified =>
    obtain ⟨place, -, rfl⟩ := Result.map_eq_ok_iff.mp composed
    rfl

/-- Whether records of a report's level are emitted at a threshold, under a name that can be
written. -/
def Emits (threshold : Int) (draft : Draft) : Prop :=
  IsEmitted threshold draft.level ∧ Number.isWritable draft.level = true

instance (threshold : Int) (draft : Draft) : Decidable (draft.Emits threshold) :=
  inferInstanceAs (Decidable (_ ∧ _))

/-- What a report answers and which journal it leaves: the same if it is refused or its level cannot
be named, one with a record that is counted, or else one with a record alone. -/
inductive Leaves (draft : Draft) (before : Journal) : Except Fault Unit → Journal → Prop where
  | refused (refusal : Refusal) (composed : draft.compose = .error refusal) :
      Leaves draft before (.error (.refused refusal)) before
  | unnamed (record : Record) (composed : draft.compose = .ok record)
      (unwritable : Number.isWritable draft.level = false) :
      Leaves draft before (.error (.unnamed draft.level)) before
  | counted (record : Record) (level : Level) (composed : draft.compose = .ok record)
      (numbered : draft.level = level.number) :
      Leaves draft before (.ok ()) (before.extend [⟨record, some level⟩])
  | uncounted (record : Record) (composed : draft.compose = .ok record)
      (unknown : ¬draft.IsCounted)
      (named : IsEmitted before.threshold draft.level → Number.isWritable draft.level = true) :
      Leaves draft before (.error (.uncounted draft.level)) (before.extend [⟨record, none⟩])

/-- A level whose number cannot be written is noticed before the record is emitted, and not at all
if it is not. -/
theorem run_log_of_unwritable {record : Record}
    (unwritable : Number.isWritable record.level = false) (journal : Journal) :
    (log record).run journal =
      (if IsEmitted journal.threshold record.level then .error (.unnamed record.level) else .ok (),
        journal) := by
  have noName : ¬Number.isWritable record.level = true := by rw [unwritable]; exact nofun
  by_cases emitted : IsEmitted journal.threshold record.level
  · simp only [log, run_get_bind, if_pos emitted, if_neg noName]
    rfl
  · simp only [log, run_get_bind, if_neg emitted]
    rfl

theorem leaves (draft : Draft) (before : Journal) :
    draft.Leaves before ((Sink.journal.report draft).run before).1
      ((Sink.journal.report draft).run before).2 := by
  rw [Sink.report]
  cases composed : draft.compose with
  | error refusal =>
      rw [Traced.emit_refused composed before, Journal.extend_nil]
      exact .refused refusal composed
  | ok record =>
      have sameLevel := level_of_compose composed
      cases found : Level.ofNumber? draft.level with
      | some level =>
          have numbered := (Level.ofNumber?_eq_some_iff draft.level level).mp found
          have writable : Number.isWritable record.level = true := by
            rw [sameLevel, numbered, Level.isWritable_number]
          rw [Traced.emit composed found writable before]
          exact .counted record level composed numbered
      | none =>
          have unknown : ¬draft.IsCounted := by
            rintro ⟨level, numbered⟩
            rw [numbered, Level.ofNumber?_number] at found
            cases found
          cases writable : Number.isWritable record.level with
          | true =>
              rw [Traced.emit_uncounted composed found writable before]
              exact .uncounted record composed unknown fun _ => sameLevel ▸ writable
          | false =>
              have logged := run_log_of_unwritable writable before
              by_cases emitted : IsEmitted before.threshold record.level
              · rw [if_pos emitted, sameLevel] at logged
                rw [sameLevel] at writable
                simp only [emit, composed, found, run_bind, logged]
                exact .unnamed record composed writable
              · have left := Leaves.uncounted record composed unknown fun reaches =>
                  absurd (sameLevel ▸ reaches) emitted
                rw [before.extend_of_hidden emitted] at left
                rw [if_neg emitted] at logged
                simp only [emit, composed, found, run_bind, logged]
                exact left

theorem compose_of_records {draft : Draft} {record : Record} {before : Journal}
    (added : ((Sink.journal.report draft).run before).2.records = before.records ++ [record]) :
    draft.compose = .ok record := by
  have given {other : Record} {level? : Option Level} (composed : draft.compose = .ok other)
      (added : (before.extend [⟨other, level?⟩]).records = before.records ++ [record]) :
      draft.compose = .ok record := by
    rw [Journal.extend, List.append_cancel_left_eq, List.map_singleton,
      emittedAt_singleton] at added
    split at added
    · cases added
      exact composed
    · cases added
  have left := draft.leaves before
  generalize ((Sink.journal.report draft).run before).1 = answer at left
  generalize ((Sink.journal.report draft).run before).2 = after at left added
  cases left with
  | refused refusal composed => simp at added
  | unnamed other composed unwritable => simp at added
  | counted other level composed numbered => exact given composed added
  | uncounted other composed unknown named => exact given composed added

end Draft

/-! ## All or nothing -/

/-- A report is taken: its record is emitted if its level reaches the threshold, and counted once
under its level. -/
structure Taken (draft : Draft) (before after : Journal) : Prop where
  emitted : ∃ record, draft.compose = .ok record ∧
    after.records = before.records ++ if before.threshold ≤ draft.level then [record] else []
  counted : ∃ level : Level, draft.level = level.number ∧
    ∀ other, after.counts other = before.counts other + if other = level then 1 else 0

theorem taken_of_counted {draft : Draft} {record : Record} {level : Level}
    (composed : draft.compose = .ok record) (numbered : draft.level = level.number)
    (before : Journal) : Taken draft before (before.extend [⟨record, some level⟩]) := by
  have reaches : IsEmitted before.threshold record.level ↔ before.threshold ≤ draft.level := by
    rw [Draft.level_of_compose composed, IsEmitted, numbered, and_iff_right level.number_pos]
  refine ⟨⟨record, composed, ?_⟩, level, numbered, fun other => ?_⟩
  · rw [Journal.extend, List.map_singleton, emittedAt_singleton, if_congr reaches rfl rfl]
  · simp [Journal.extend, eq_comm]

/-- A report at any journal is taken, or it fails and leaves the journal as it was, except if
nothing is wrong with its form and its level is emitted but not counted.  Then it fails behind its
record. -/
theorem report_all_or_nothing_iff (draft : Draft) (before : Journal) :
    let (answer, after) := (Sink.journal.report draft).run before
    (answer = .ok () ∧ Taken draft before after ∨ (∃ fault, answer = .error fault) ∧ after = before ↔
      draft.IsRefused ∨ draft.IsCounted ∨ ¬draft.Emits before.threshold) ∧
    (¬draft.IsRefused → ¬draft.IsCounted → draft.Emits before.threshold →
      answer = .error (.uncounted draft.level) ∧ after.counts = before.counts ∧
      ∃ record, draft.compose = .ok record ∧ after.records = before.records ++ [record]) := by
  have left := draft.leaves before
  generalize (Sink.journal.report draft).run before = ended at left
  obtain ⟨answer, after⟩ := ended
  dsimp only at left ⊢
  cases left with
  | refused refusal composed =>
      have refused := Draft.isRefused_of_compose composed
      refine ⟨iff_of_true (.inr ⟨⟨_, rfl⟩, rfl⟩) (.inl refused), ?_⟩
      intro fitting
      exact absurd refused fitting
  | unnamed record composed unwritable =>
      have silent : ¬draft.Emits before.threshold := by
        rintro ⟨-, writable⟩
        cases unwritable.symm.trans writable
      refine ⟨iff_of_true (.inr ⟨⟨_, rfl⟩, rfl⟩) (.inr (.inr silent)), ?_⟩
      intro _ _ emits
      exact absurd emits silent
  | counted record level composed numbered =>
      have known : draft.IsCounted := ⟨level, numbered⟩
      have taken := taken_of_counted composed numbered before
      refine ⟨iff_of_true (.inl ⟨rfl, taken⟩) (.inr (.inl known)), ?_⟩
      intro _ uncounted
      exact absurd known uncounted
  | uncounted record composed unknown named =>
      have fitting := draft.exists_record_iff.mp ⟨record, composed⟩
      by_cases emitted : IsEmitted before.threshold record.level
      · have added : (before.extend [⟨record, none⟩]).records = before.records ++ [record] := by
          rw [Journal.extend, List.map_singleton, emittedAt_singleton, if_pos emitted]
        have counts := before.counts_extend_none record
        rw [Draft.level_of_compose composed] at emitted
        have emits : draft.Emits before.threshold := ⟨emitted, named emitted⟩
        refine ⟨iff_of_false ?_ ?_, fun _ _ _ => ⟨rfl, counts, record, composed, added⟩⟩
        · rintro (⟨returned, -⟩ | ⟨-, same⟩)
          · cases returned
          · exact absurd (added.symm.trans (congrArg Journal.records same)) (by simp)
        · rintro (refused | known | silent)
          · exact fitting refused
          · exact unknown known
          · exact silent emits
      · rw [before.extend_of_hidden emitted]
        rw [Draft.level_of_compose composed] at emitted
        have silent : ¬draft.Emits before.threshold := fun emits => emitted emits.1
        refine ⟨iff_of_true (.inr ⟨⟨_, rfl⟩, rfl⟩) (.inr (.inr silent)), ?_⟩
        intro _ _ emits
        exact absurd emits silent

/-- A report between two levels fails behind its record, as far as the threshold lets that
through. -/
theorem report_all_or_nothing_iff_between :
    let report : Draft := { level := 35, lead := .text "id", details := [.text "message"] }
    let (answer, after) := (Sink.journal.report report).run (.empty 30)
    let stricter := (Sink.journal.report report).run (.empty 40)
    answer = .error (.uncounted 35) ∧ (∀ level, after.counts level = 0) ∧
      after.records.map Record.text = ["level 35: [id]: message"] ∧
      (∃ fault, stricter.1 = .error fault) ∧ stricter.2 = .empty 40 := by
  intro report
  have fitting : ¬report.IsRefused := report.exists_record_iff.mp ⟨_, rfl⟩
  have unknown : ¬report.IsCounted := by
    rintro ⟨level, numbered⟩
    cases level <;> cases numbered
  obtain ⟨-, behind⟩ := report_all_or_nothing_iff report (.empty 30)
  obtain ⟨refused, counts, -⟩ := behind fitting unknown (by decide)
  obtain ⟨hidden, -⟩ := report_all_or_nothing_iff report (.empty 40)
  obtain ⟨returned, -⟩ | untouched := hidden.mpr (.inr (.inr (by decide)))
  · cases returned
  · exact ⟨refused, congrFun counts, by decide, untouched⟩

end LineMap.Diagnostics
