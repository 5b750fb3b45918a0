import LineMap.Proofs.Diagnostics.Traceable

/-!
# Records that are accounted for

Work that reports at counted levels with texts as scopes leaves records that can all be written, and
counts each of them under its level unless it shows a fault that was caught.  So the counts of a
journal can be read off its records, as far as the threshold lets the records of a level through.
-/

set_option autoImplicit false

namespace LineMap.Diagnostics

open LineMap.Json

/-- Whether a record is one report of a level: it has the level's number and shows no caught
fault. -/
def Record.countsAs (record : Record) (level : Level) : Bool :=
  record.level = level.number && record.trailer?.isNone

/-- A note whose record can be written and is counted under its level. -/
structure Note.IsAccounted (note : Note) : Prop where
  writable : note.record.misfit? = none
  counted : ∀ level, note.counted? = some level ↔ note.record.countsAs level = true

theorem Level.ofNumber?_eq_some_iff (number : Int) (level : Level) :
    Level.ofNumber? number = some level ↔ number = level.number := by
  constructor
  · intro found
    unfold Level.ofNumber? at found
    have fits := List.find?_some found
    exact (of_decide_eq_true fits).symm
  · rintro rfl
    exact Level.ofNumber?_number level

def Draft.IsCounted (draft : Draft) : Prop :=
  ∃ level : Level, draft.level = level.number

/-! ## Scopes that are texts -/

def AreTexts (scopes : List Value) : Prop :=
  ∀ scope ∈ scopes, ∃ s, scope = .str s

def Draft.HasTextScopes (draft : Draft) : Prop :=
  ∃ scopes, draft.scopes = .arr scopes ∧ AreTexts scopes

/-- A sink that puts only texts in front of the scopes of a report. -/
def Sink.IsTextual : Sink → Prop
  | .journal => True
  | .nowhere => True
  | .scoped scopes inner => AreTexts scopes ∧ inner.IsTextual

theorem Sink.IsTextual.scoped {sink : Sink} (textual : sink.IsTextual) (scope : String) :
    (Sink.scoped [.text scope] sink).IsTextual := by
  refine ⟨fun other member => ?_, textual⟩
  obtain rfl := List.mem_singleton.mp member
  exact ⟨_, rfl⟩

theorem Draft.HasTextScopes.under {draft : Draft} (texts : draft.HasTextScopes)
    {outer : List Value} (outerTexts : AreTexts outer) :
    ∃ inside, draft.under outer = .ok inside ∧ inside.level = draft.level ∧
      inside.HasTextScopes := by
  obtain ⟨inner, same, innerTexts⟩ := texts
  have parts : draft.scopes.parts? = some inner := by rw [same, Value.parts?]
  refine ⟨{ draft with scopes := .arr (outer ++ inner) }, by rw [Draft.under, parts], rfl, _,
    rfl, ?_⟩
  exact List.forall_mem_append.mpr ⟨outerTexts, innerTexts⟩

theorem exists_scopeTexts {scopes : List Value} (texts : AreTexts scopes) (position : Nat) :
    ∃ shown, scopeTexts position scopes = .ok shown := by
  induction scopes generalizing position with
  | nil => exact ⟨[], rfl⟩
  | cons first others inductionHypothesis =>
      obtain ⟨⟨s, rfl⟩, othersTexts⟩ := List.forall_mem_cons.mp texts
      obtain ⟨shown, later⟩ := inductionHypothesis othersTexts (position + 1)
      exact ⟨s.plain :: shown, by rw [scopeTexts, later, Except.map]⟩

/-- The record of a report with texts as scopes has the report's level, can be written, and shows no
caught fault. -/
theorem Draft.HasTextScopes.of_compose {draft : Draft} (texts : draft.HasTextScopes)
    {record : Record} (composed : draft.compose = .ok record) :
    record.level = draft.level ∧ record.trailer? = none ∧ record.misfit? = none := by
  obtain ⟨scopes, same, areTexts⟩ := texts
  have substantial : AreTexts (scopes.filter Value.isSubstantial) := fun scope member =>
    areTexts scope (List.mem_filter.mp member).1
  rw [compose_eq] at composed
  split at composed
  · cases composed
  · obtain ⟨place, -, rfl⟩ := Result.map_eq_ok_iff.mp composed
    obtain ⟨shown, fitting⟩ := exists_scopeTexts substantial
      (frontParts place draft.level draft.split.1).length
    refine ⟨rfl, rfl, ?_⟩
    rw [Record.misfit?, Record.shownScopes, Record.front, same, recordScopes, fitting]

/-! ## Work whose records are accounted for -/

variable {α β : Type}

/-- Work comes to an answer, whatever the journal holds, and all its notes are accounted for. -/
def Accounted (work : Run α) : Prop :=
  ∃ answer notes, Traced work answer notes ∧ ∀ note ∈ notes, note.IsAccounted

namespace Accounted

theorem traceable {work : Run α} (accounted : Accounted work) : Traceable work := by
  obtain ⟨answer, notes, traced, -⟩ := accounted
  exact ⟨answer, notes, traced⟩

theorem pure (a : α) : Accounted (pure a : Run α) :=
  ⟨.ok a, [], Traced.pure a, List.forall_mem_nil _⟩

theorem throw (fault : Fault) : Accounted (throw fault : Run α) :=
  ⟨.error fault, [], Traced.throw fault, List.forall_mem_nil _⟩

theorem bind {work : Run α} {next : α → Run β} (first : Accounted work)
    (later : ∀ a, Accounted (next a)) : Accounted (work >>= next) := by
  obtain ⟨answer, notes, traced, accounted⟩ := first
  cases answer with
  | error fault => exact ⟨.error fault, notes, traced.bind_error, accounted⟩
  | ok a =>
      obtain ⟨answer, more, laterTraced, moreAccounted⟩ := later a
      exact ⟨answer, notes ++ more, traced.bind laterTraced,
        List.forall_mem_append.mpr ⟨accounted, moreAccounted⟩⟩

theorem map {work : Run α} (first : Accounted work) (f : α → β) : Accounted (f <$> work) := by
  rw [← bind_pure_comp]
  exact first.bind fun a => .pure (f a)

theorem tryCatch {work : Run α} {handle : Fault → Run α} (first : Accounted work)
    (later : ∀ fault, Accounted (handle fault)) : Accounted (tryCatch work handle) := by
  obtain ⟨answer, notes, traced, accounted⟩ := first
  cases answer with
  | ok a =>
      refine ⟨.ok a, notes, fun journal => ?_, accounted⟩
      rw [run_tryCatch, traced journal]
  | error fault =>
      obtain ⟨answer, more, laterTraced, moreAccounted⟩ := later fault
      refine ⟨answer, notes ++ more, fun journal => ?_,
        List.forall_mem_append.mpr ⟨accounted, moreAccounted⟩⟩
      rw [run_tryCatch, traced journal, Journal.extend_append]
      exact laterTraced (journal.extend notes)

theorem emit {draft : Draft} (counted : draft.IsCounted) (texts : draft.HasTextScopes) :
    Accounted (emit draft) := by
  cases composed : draft.compose with
  | error refusal => exact ⟨_, _, Traced.emit_refused composed, List.forall_mem_nil _⟩
  | ok record =>
      obtain ⟨level, numbered⟩ := counted
      obtain ⟨sameLevel, noTrailer, writable⟩ := texts.of_compose composed
      rw [numbered] at sameLevel
      have found : Level.ofNumber? draft.level = some level := by
        rw [numbered, Level.ofNumber?_number]
      have named : Number.isWritable record.level = true := by
        rw [sameLevel, Level.isWritable_number]
      refine ⟨_, _, Traced.emit composed found named, List.forall_mem_singleton.mpr ?_⟩
      refine ⟨writable, fun other => ?_⟩
      rw [← found, Level.ofNumber?_eq_some_iff, numbered]
      simp [Record.countsAs, sameLevel, noTrailer]

theorem report : ∀ {sink : Sink}, sink.IsTextual → ∀ {draft : Draft}, draft.IsCounted →
    draft.HasTextScopes → Accounted (sink.report draft)
  | .journal, _, _, counted, texts => .emit counted texts
  | .nowhere, _, _, _, _ => .pure ()
  | .scoped scopes inner, textual, draft, counted, texts => by
      obtain ⟨inside, placed, sameLevel, insideTexts⟩ := texts.under textual.1
      rw [Sink.report, placed]
      exact report textual.2 (by rwa [Draft.IsCounted, sameLevel]) insideTexts

theorem reportCaught : ∀ (sink : Sink) (level : Level) (label message : String),
    Accounted (sink.reportCaught level label message)
  | .journal, level, _, _ =>
      ⟨.ok (), _, Traced.log level.isWritable_number, List.forall_mem_singleton.mpr
        ⟨rfl, fun other => by simp [Record.countsAs]⟩⟩
  | .nowhere, _, _, _ => .pure ()
  | .scoped _ inner, level, label, message => reportCaught inner level label message

end Accounted

/-! ## Journals that are exact -/

/-- A journal whose records can be written and whose counts are those of its records, for each level
that reaches the threshold. -/
structure Journal.IsExact (journal : Journal) : Prop where
  writable : ∀ record ∈ journal.records, record.misfit? = none
  counts : ∀ level : Level, journal.threshold ≤ level.number →
    journal.counts level = journal.records.countP fun record => record.countsAs level

theorem Journal.isExact_empty (threshold : Int) : (Journal.empty threshold).IsExact where
  writable := List.forall_mem_nil _
  counts := fun _ _ => rfl

theorem tally_of_isAccounted {notes : List Note} (accounted : ∀ note ∈ notes, note.IsAccounted)
    (level : Level) :
    tally level notes = (notes.map Note.record).countP fun record => record.countsAs level := by
  rw [tally, List.countP_map]
  refine List.countP_congr fun note member => ?_
  simpa using (accounted note member).counted level

theorem Level.debug_le_number (level : Level) : Level.debug.number ≤ level.number := by
  cases level <;> decide

theorem emittedAt_debug {records : List Record}
    (named : ∀ record ∈ records, ∃ level : Level, record.level = level.number) :
    emittedAt Level.debug.number records = records := by
  refine List.filter_eq_self.mpr fun record member => decide_eq_true ?_
  obtain ⟨level, same⟩ := named record member
  rw [same]
  exact ⟨level.number_pos, level.debug_le_number⟩

theorem countP_emittedAt {threshold : Int} {level : Level} (reaches : threshold ≤ level.number)
    (records : List Record) :
    (emittedAt threshold records).countP (fun record => record.countsAs level) =
      records.countP fun record => record.countsAs level := by
  rw [emittedAt, List.countP_filter]
  refine List.countP_congr fun record _ => ?_
  simp only [Record.countsAs, Bool.and_eq_true, decide_eq_true_eq]
  constructor
  · exact And.left
  · rintro ⟨sameLevel, whole⟩
    have emitted : IsEmitted threshold record.level := by
      rw [sameLevel]
      exact ⟨level.number_pos, reaches⟩
    exact ⟨⟨sameLevel, whole⟩, emitted⟩

theorem Journal.IsExact.extend {journal : Journal} (isExact : journal.IsExact) {notes : List Note}
    (accounted : ∀ note ∈ notes, note.IsAccounted) : (journal.extend notes).IsExact where
  writable := by
    refine List.forall_mem_append.mpr ⟨isExact.writable, fun record member => ?_⟩
    obtain ⟨note, listed, rfl⟩ := List.mem_map.mp (List.mem_filter.mp member).1
    exact (accounted note listed).writable
  counts := fun level (reaches : journal.threshold ≤ level.number) => by
    simp only [Journal.extend, List.countP_append]
    rw [isExact.counts level reaches, tally_of_isAccounted accounted, countP_emittedAt reaches]

theorem Journal.IsExact.counts_pos_iff {journal : Journal} (isExact : journal.IsExact)
    {level : Level} (reaches : journal.threshold ≤ level.number) :
    0 < journal.counts level ↔ ∃ record ∈ journal.records, record.countsAs level = true := by
  rw [isExact.counts level reaches, List.countP_pos_iff]

theorem Accounted.isExact_run {work : Run α} (accounted : Accounted work) {before : Journal}
    (isExact : before.IsExact) : (work.run before).2.IsExact := by
  obtain ⟨answer, notes, traced, allAccounted⟩ := accounted
  rw [traced before]
  exact isExact.extend allAccounted

end LineMap.Diagnostics
