import LineMap.Proofs.Diagnostics.Composed

/-!
# What work answers and reports

Work that reports at named levels never depends on what was recorded before, and what it records
comes behind that: it has a trace, which is the answer and the notes that it makes.  The threshold
of the journal decides which records of these notes are emitted, and nothing else.  Traces compose
like the work itself.
-/

set_option autoImplicit false

namespace LineMap.Diagnostics

open LineMap.Json

/-- What one report makes: a record, and the level under which it is counted. -/
structure Note where
  record : Record
  counted? : Option Level

def tally (level : Level) (notes : List Note) : Nat :=
  notes.countP fun note => note.counted? = some level

@[simp] theorem tally_nil (level : Level) : tally level [] = 0 := rfl

@[simp] theorem tally_append (level : Level) (notes more : List Note) :
    tally level (notes ++ more) = tally level notes + tally level more :=
  List.countP_append

@[simp] theorem tally_cons (level : Level) (note : Note) (notes : List Note) :
    tally level (note :: notes) =
      tally level notes + if note.counted? = some level then 1 else 0 := by
  simp [tally, List.countP_cons]

/-- The records that are emitted at a threshold. -/
def emittedAt (threshold : Int) (records : List Record) : List Record :=
  records.filter fun record => IsEmitted threshold record.level

@[simp] theorem emittedAt_nil (threshold : Int) : emittedAt threshold [] = [] := rfl

@[simp] theorem emittedAt_append (threshold : Int) (records more : List Record) :
    emittedAt threshold (records ++ more) =
      emittedAt threshold records ++ emittedAt threshold more :=
  List.filter_append ..

theorem emittedAt_singleton (threshold : Int) (record : Record) :
    emittedAt threshold [record] = if IsEmitted threshold record.level then [record] else [] := by
  simp [emittedAt, List.filter_cons]

namespace Journal

def extend (journal : Journal) (notes : List Note) : Journal where
  threshold := journal.threshold
  records := journal.records ++ emittedAt journal.threshold (notes.map Note.record)
  counts := fun level => journal.counts level + tally level notes

@[simp] theorem extend_nil (journal : Journal) : journal.extend [] = journal := by
  simp [extend]

@[simp] theorem extend_append (journal : Journal) (notes more : List Note) :
    journal.extend (notes ++ more) = (journal.extend notes).extend more := by
  simp [extend, Nat.add_assoc]

theorem count_extend (journal : Journal) (record : Record) (level : Level) :
    (journal.extend [⟨record, none⟩]).count level = journal.extend [⟨record, some level⟩] := by
  simp only [count, extend, List.map_cons, List.map_nil, mk.injEq, true_and]
  funext other
  by_cases same : other = level
  · simp [same]
  · simp [same, Ne.symm same]

end Journal

section

variable {α β : Type}

/-- Work goes on with an answer and stops at a fault; the journal is handed on. -/
theorem run_bind (work : Run α) (next : α → Run β) (journal : Journal) :
    (work >>= next).run journal =
      match work.run journal with
      | (.ok a, after) => (next a).run after
      | (.error fault, after) => (.error fault, after) := by
  simp only [Bind.bind, ExceptT.bind, ExceptT.mk, ExceptT.run, StateT.bind, ExceptT.bindCont]
  obtain ⟨answer, after⟩ := work journal
  cases answer <;> rfl

theorem run_bind_eq_ok {work : Run α} {next : α → Run β} {b : β} {before after : Journal}
    (success : (work >>= next).run before = (.ok b, after)) :
    ∃ a middle, work.run before = (.ok a, middle) ∧ (next a).run middle = (.ok b, after) := by
  rw [run_bind] at success
  split at success
  case h_1 a middle here => exact ⟨a, middle, here, success⟩
  case h_2 => cases success

theorem run_pure_eq_ok {a b : α} {before after : Journal}
    (success : (pure a : Run α).run before = (.ok b, after)) : a = b ∧ before = after := by
  obtain ⟨sameAnswer, sameJournal⟩ := Prod.mk.inj success
  exact ⟨Except.ok.inj sameAnswer, sameJournal⟩

theorem run_map_eq_ok {work : Run α} {f : α → β} {b : β} {before after : Journal}
    (success : (f <$> work).run before = (.ok b, after)) :
    ∃ a, work.run before = (.ok a, after) ∧ f a = b := by
  rw [map_eq_pure_bind] at success
  obtain ⟨a, middle, here, success⟩ := run_bind_eq_ok success
  obtain ⟨same, rfl⟩ := run_pure_eq_ok success
  exact ⟨a, here, same⟩

theorem run_get_bind (next : Journal → Run α) (journal : Journal) :
    (get >>= next).run journal = (next journal).run journal := rfl

/-- Work comes to an answer and makes notes, whatever the journal holds. -/
def Traced (work : Run α) (answer : Except Fault α) (notes : List Note) : Prop :=
  ∀ journal, work.run journal = (answer, journal.extend notes)

namespace Traced

theorem pure (a : α) : Traced (pure a : Run α) (.ok a) [] := by
  intro journal
  rw [Journal.extend_nil]
  rfl

theorem throw (fault : Fault) : Traced (throw fault : Run α) (.error fault) [] := by
  intro journal
  rw [Journal.extend_nil]
  rfl

theorem attempt (result : Except Fault α) : Traced (attempt result) result [] := by
  cases result with
  | ok a => exact Traced.pure a
  | error fault => exact Traced.throw fault

theorem bind {work : Run α} {next : α → Run β} {a : α} {answer : Except Fault β}
    {notes more : List Note} (first : Traced work (.ok a) notes)
    (later : Traced (next a) answer more) : Traced (work >>= next) answer (notes ++ more) := by
  intro journal
  rw [run_bind, first journal, Journal.extend_append]
  exact later (journal.extend notes)

theorem bind_error {work : Run α} {next : α → Run β} {fault : Fault} {notes : List Note}
    (first : Traced work (.error fault) notes) :
    Traced (work >>= next) (.error fault) notes := by
  intro journal
  rw [run_bind, first journal]

theorem eq_of_run {work : Run α} {answer result : Except Fault α} {notes : List Note}
    {before after : Journal} (traced : Traced work answer notes)
    (run : work.run before = (result, after)) :
    result = answer ∧ after = before.extend notes := by
  rw [traced before] at run
  cases run
  exact ⟨rfl, rfl⟩

end Traced

end

/-! ## Reports -/

/-- How a report is headed: its level and, if it has one, its identifier. -/
structure Heading where
  level : Level
  identifier? : Option String
deriving DecidableEq

/-- A note under a heading: its record shows it, and it is counted under its level. -/
structure Note.IsHeaded (note : Note) (heading : Heading) : Prop where
  level : note.record.level = heading.level.number
  identifier : note.record.identifier? = heading.identifier?
  counted : note.counted? = some heading.level

/-- A report that gives a record under a heading.  Only places are added to its text, it has an
identifier where one is required, and its scopes are a list. -/
structure Draft.Announces (draft : Draft) (heading : Heading) : Prop where
  level : draft.level = heading.level.number
  identifier : draft.split.1 = heading.identifier?
  places : ∀ detail ∈ draft.split.2.2, detail.isPlace = true
  noKeywords : draft.keywords = []
  identified : ¬(Level.info.number ≤ draft.level ∧ heading.identifier? = none)
  scopes : ∃ items, draft.scopes = .arr items

namespace Draft

theorem identifier?_text (text : String) : (Detail.text text).identifier? = some text := by
  by_cases empty : text = ""
  · subst empty
    rfl
  · have substantial : (Value.text text).isSubstantial = true := by
      simpa [Value.text, Value.isSubstantial, Str.ofString] using empty
    simp only [Detail.text, Detail.identifier?, Value.text, Value.plain] at substantial ⊢
    rw [if_pos substantial, Str.plain_ofString]

theorem announces_coded (level : Level) (identifier message : String) (details : List Detail)
    (places : ∀ detail ∈ details, detail.isPlace = true) :
    (Draft.coded level identifier message details).Announces ⟨level, some identifier⟩ where
  level := rfl
  identifier := identifier?_text identifier
  places := places
  noKeywords := rfl
  identified := fun missing => nomatch missing.2
  scopes := ⟨[], rfl⟩

theorem announces_bare (level : Level) (identifier message : String) :
    (Draft.coded level identifier message []).Announces ⟨level, some identifier⟩ :=
  announces_coded level identifier message [] (List.forall_mem_nil _)

theorem split_plain (level : Level) (message : String) {details : List Detail}
    (places : ∀ detail ∈ details, detail.isPlace = true) :
    (Draft.plain level message details).split = (none, (Detail.text message).plain, details) := by
  cases details with
  | nil => rfl
  | cons first others =>
      cases first with
      | location given => rfl
      | path path => rfl
      | value value => cases places (.value value) List.mem_cons_self

theorem announces_plain {level : Level} (low : level.number < Level.info.number)
    (message : String) (details : List Detail)
    (places : ∀ detail ∈ details, detail.isPlace = true) :
    (Draft.plain level message details).Announces ⟨level, none⟩ where
  level := rfl
  identifier := congrArg Prod.fst (split_plain level message places)
  places := by rwa [split_plain level message places]
  noKeywords := rfl
  identified := fun missing => absurd missing.1 (Int.not_le.mpr low)
  scopes := ⟨[], rfl⟩

theorem Announces.exists_compose {draft : Draft} {heading : Heading}
    (announces : draft.Announces heading) :
    ∃ record, draft.compose = .ok record ∧ record.level = heading.level.number ∧
      record.identifier? = heading.identifier? := by
  have known : ∀ keyword ∈ draft.keywords, keyword.1 = "line" ∨ keyword.1 = "column" := by
    rw [announces.noKeywords]
    exact List.forall_mem_nil _
  obtain ⟨place, placed⟩ := draft.exists_place_iff.mpr ⟨announces.places, known⟩
  have identified := announces.identified
  rw [← announces.identifier] at identified
  rw [compose_eq, if_neg identified, placed]
  exact ⟨_, rfl, announces.level, announces.identifier⟩

end Draft

theorem Level.number_pos (level : Level) : 0 < level.number := by
  cases level <;> decide

@[simp] theorem Level.isWritable_number (level : Level) :
    Number.isWritable level.number = true := by
  cases level <;> rfl

/-- A record of a level whose number can be written is emitted if it reaches the threshold. -/
theorem Traced.log {record : Record} (writable : Number.isWritable record.level = true) :
    Traced (log record) (.ok ()) [⟨record, none⟩] := by
  intro journal
  have unfolded : (Diagnostics.log record).run journal =
      (.ok (), if IsEmitted journal.threshold record.level then journal.append record
        else journal) := by
    by_cases emitted : IsEmitted journal.threshold record.level
    · rw [if_pos emitted]
      simp only [Diagnostics.log, run_get_bind, if_pos emitted, if_pos writable]
      rfl
    · rw [if_neg emitted]
      simp only [Diagnostics.log, run_get_bind, if_neg emitted]
      rfl
  rw [unfolded, Journal.extend, List.map_singleton, emittedAt_singleton]
  split <;> simp [Journal.append]

theorem Traced.emit {draft : Draft} {record : Record} {level : Level}
    (composed : draft.compose = .ok record) (counted : Level.ofNumber? draft.level = some level)
    (writable : Number.isWritable record.level = true) :
    Traced (emit draft) (.ok ()) [⟨record, some level⟩] := by
  intro journal
  have logged := Traced.log writable journal
  simp only [Diagnostics.emit, composed, counted, run_bind, logged, ← Journal.count_extend]
  rfl

theorem Traced.emit_refused {draft : Draft} {refusal : Refusal}
    (composed : draft.compose = .error refusal) :
    Traced (Diagnostics.emit draft) (.error (.refused refusal)) [] := by
  intro journal
  simp only [Diagnostics.emit, composed, Journal.extend_nil]
  rfl

/-- A report of a level that is not counted leaves its record behind. -/
theorem Traced.emit_uncounted {draft : Draft} {record : Record}
    (composed : draft.compose = .ok record) (uncounted : Level.ofNumber? draft.level = none)
    (writable : Number.isWritable record.level = true) :
    Traced (Diagnostics.emit draft) (.error (.uncounted draft.level)) [⟨record, none⟩] := by
  intro journal
  have logged := Traced.log writable journal
  simp only [Diagnostics.emit, composed, uncounted, run_bind, logged]
  rfl

theorem Traced.emitCaught (level : Level) (label message : String) :
    ∃ record, Traced (emitCaught level label message) (.ok ()) [⟨record, none⟩] :=
  ⟨_, Traced.log level.isWritable_number⟩

/-- A report that gives a record makes one note, which is counted under its level. -/
theorem Traced.announced {draft : Draft} {heading : Heading}
    (announces : draft.Announces heading) :
    ∃ note, Traced (Diagnostics.emit draft) (.ok ()) [note] ∧ note.IsHeaded heading := by
  obtain ⟨record, composed, level, identifier⟩ := announces.exists_compose
  have counted : Level.ofNumber? draft.level = some heading.level := by
    rw [announces.level, Level.ofNumber?_number]
  have writable : Number.isWritable record.level = true := by
    rw [level, Level.isWritable_number]
  exact ⟨⟨record, some heading.level⟩, Traced.emit composed counted writable, level, identifier,
    rfl⟩

/-! ## Reports of one level -/

section

variable {α β : Type}

/-- Work comes to an answer, whatever the journal holds, and makes so many reports of a level. -/
def Reports (level : Level) (work : Run α) (answer : Except Fault α) (count : Nat) : Prop :=
  ∃ notes, Traced work answer notes ∧ tally level notes = count

namespace Reports

variable {level : Level}

theorem pure (a : α) : Reports level (pure a : Run α) (.ok a) 0 :=
  ⟨[], Traced.pure a, rfl⟩

theorem throw (fault : Fault) : Reports level (throw fault : Run α) (.error fault) 0 :=
  ⟨[], Traced.throw fault, rfl⟩

theorem attempt {result answer : Except Fault α} (same : result = answer) :
    Reports level (attempt result) answer 0 :=
  ⟨[], same ▸ Traced.attempt result, rfl⟩

theorem bind {work : Run α} {next : α → Run β} {a : α} {answer : Except Fault β}
    {count more : Nat} (first : Reports level work (.ok a) count)
    (later : Reports level (next a) answer more) :
    Reports level (work >>= next) answer (count + more) := by
  obtain ⟨notes, traced, rfl⟩ := first
  obtain ⟨others, laterTraced, rfl⟩ := later
  exact ⟨notes ++ others, traced.bind laterTraced, tally_append level notes others⟩

theorem bind_error {work : Run α} {next : α → Run β} {fault : Fault} {count : Nat}
    (first : Reports level work (.error fault) count) :
    Reports level (work >>= next) (.error fault) count := by
  obtain ⟨notes, traced, counted⟩ := first
  exact ⟨notes, traced.bind_error, counted⟩

theorem andThen {work : Run Unit} {next : Run β} {answer : Except Fault β} {count more : Nat}
    (first : Reports level work (.ok ()) count) (later : Reports level next answer more) :
    Reports level (work >>= fun _ => next) answer (count + more) :=
  first.bind later

theorem bind_of_silent {work : Run α} {next : α → Run β} {a : α} {answer : Except Fault β}
    {count : Nat} (first : Reports level work (.ok a) 0)
    (later : Reports level (next a) answer count) :
    Reports level (work >>= next) answer count := by
  rw [← Nat.zero_add count]
  exact first.bind later

theorem andThen_of_silent {work : Run Unit} {next : Run β} {answer : Except Fault β}
    {count : Nat} (first : Reports level work (.ok ()) 0)
    (later : Reports level next answer count) :
    Reports level (work >>= fun _ => next) answer count :=
  first.bind_of_silent later

theorem bind_silent {work : Run α} {next : α → Run β} {result : Except Fault α}
    {answer : α → Except Fault β} (first : Reports level work result 0)
    (later : ∀ a, result = .ok a → Reports level (next a) (answer a) 0) :
    Reports level (work >>= next) (result >>= answer) 0 := by
  cases result with
  | ok a => exact first.bind_of_silent (later a rfl)
  | error fault => exact first.bind_error

theorem announced {draft : Draft} {heading : Heading} (announces : draft.Announces heading) :
    Reports level (Sink.journal.report draft) (.ok ()) (if heading.level = level then 1 else 0) := by
  obtain ⟨note, traced, headed⟩ := Traced.announced announces
  exact ⟨[note], traced, by simp [headed.counted]⟩

theorem coded (given : Level) (identifier message : String) (details : List Detail)
    (places : ∀ detail ∈ details, detail.isPlace = true) :
    Reports level (Sink.journal.report (.coded given identifier message details)) (.ok ())
      (if given = level then 1 else 0) :=
  announced (Draft.announces_coded given identifier message details places)

theorem plain {given : Level} (low : given.number < Level.info.number) (message : String)
    (details : List Detail) (places : ∀ detail ∈ details, detail.isPlace = true) :
    Reports level (Sink.journal.report (.plain given message details)) (.ok ())
      (if given = level then 1 else 0) :=
  announced (Draft.announces_plain low message details places)

theorem eq_of_run {work : Run α} {answer result : Except Fault α} {count : Nat}
    {before after : Journal} (reports : Reports level work answer count)
    (run : work.run before = (result, after)) :
    result = answer ∧ after.counts level = before.counts level + count := by
  obtain ⟨notes, traced, rfl⟩ := reports
  obtain ⟨same, rfl⟩ := traced.eq_of_run run
  exact ⟨same, rfl⟩

end Reports

end

end LineMap.Diagnostics
