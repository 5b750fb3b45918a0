import LineMap.Proofs.Diagnostics.Traced

/-!
# Work that finishes and work that ends

Work with a trace comes to an answer that does not depend on the journal, and adds notes behind what
is there, so that it takes back no count.  It finishes if it comes to no fault, and ends if it comes
to one; both are a matter of its steps.
-/

set_option autoImplicit false

namespace LineMap.Diagnostics

variable {α β : Type}

theorem run_tryCatch (work : Run α) (handle : Fault → Run α) (journal : Journal) :
    (tryCatch work handle).run journal =
      match work.run journal with
      | (.ok a, after) => (.ok a, after)
      | (.error fault, after) => (handle fault).run after := by
  simp only [MonadExcept.tryCatch, tryCatchThe, MonadExceptOf.tryCatch, ExceptT.tryCatch,
    ExceptT.mk, ExceptT.run, Bind.bind, StateT.bind]
  obtain ⟨answer, after⟩ := work journal
  cases answer <;> rfl

def Traceable (work : Run α) : Prop :=
  ∃ answer notes, Traced work answer notes

/-! ## Answers -/

/-- What work answers.  Where the work has a trace, no journal changes that. -/
def answer (work : Run α) : Except Fault α :=
  (work.run .empty).1

theorem Traced.answer_eq {work : Run α} {result : Except Fault α} {notes : List Note}
    (traced : Traced work result notes) : answer work = result := by
  rw [answer, traced]

theorem Reports.answer_eq {work : Run α} {level : Level} {result : Except Fault α} {count : Nat}
    (reports : Reports level work result count) : answer work = result := by
  obtain ⟨notes, traced, -⟩ := reports
  exact traced.answer_eq

theorem Traceable.fst_run {work : Run α} (traceable : Traceable work) (journal : Journal) :
    (work.run journal).1 = answer work := by
  obtain ⟨result, notes, traced⟩ := traceable
  rw [traced journal, traced.answer_eq]

theorem Traceable.threshold_run {work : Run α} (traceable : Traceable work) (journal : Journal) :
    (work.run journal).2.threshold = journal.threshold := by
  obtain ⟨result, notes, traced⟩ := traceable
  rw [traced journal]
  rfl

theorem Traceable.counts_run_congr {work : Run α} (traceable : Traceable work)
    {journal other : Journal} (same : journal.counts = other.counts) :
    (work.run journal).2.counts = (work.run other).2.counts := by
  obtain ⟨result, notes, traced⟩ := traceable
  rw [traced journal, traced other]
  simp only [Journal.extend, same]

theorem answer_bind {work : Run α} {next : α → Run β} (later : ∀ a, Traceable (next a)) :
    answer (work >>= next) = answer work >>= fun a => answer (next a) := by
  rw [answer, answer, run_bind]
  obtain ⟨result, after⟩ := work.run .empty
  cases result with
  | error fault => rfl
  | ok a => exact (later a).fst_run after

theorem answer_bind_of_ok {work : Run α} {next : α → Run β} {a : α}
    (first : answer work = .ok a) (later : Traceable (next a)) :
    answer (work >>= next) = answer (next a) := by
  rw [answer] at first
  rw [answer, run_bind]
  cases ran : work.run .empty with
  | mk result after =>
      rw [ran] at first
      cases first
      exact later.fst_run after

theorem answer_tryCatch {work : Run α} {handle : Fault → Run α}
    (later : ∀ fault, Traceable (handle fault)) :
    answer (tryCatch work handle) = tryCatch (answer work) fun fault => answer (handle fault) := by
  rw [answer, answer, run_tryCatch]
  obtain ⟨result, after⟩ := work.run .empty
  cases result with
  | ok a => rfl
  | error fault => exact (later fault).fst_run after

/-! ## Work that finishes -/

/-- Work that comes to an answer and to no fault. -/
def Finishes (work : Run α) : Prop :=
  ∃ a notes, Traced work (.ok a) notes

namespace Finishes

theorem pure (a : α) : Finishes (pure a : Run α) :=
  ⟨a, [], Traced.pure a⟩

theorem bind {work : Run α} {next : α → Run β} (first : Finishes work)
    (later : ∀ a, Finishes (next a)) : Finishes (work >>= next) := by
  obtain ⟨a, notes, traced⟩ := first
  obtain ⟨b, more, laterTraced⟩ := later a
  exact ⟨b, notes ++ more, traced.bind laterTraced⟩

theorem of_reports {work : Run α} {level : Level} {a : α} {count : Nat}
    (reports : Reports level work (.ok a) count) : Finishes work := by
  obtain ⟨notes, traced, -⟩ := reports
  exact ⟨a, notes, traced⟩

theorem announced {draft : Draft} {heading : Heading} (announces : draft.Announces heading) :
    Finishes (Sink.journal.report draft) := by
  obtain ⟨note, traced, -⟩ := Traced.announced announces
  exact ⟨(), [note], traced⟩

theorem coded (level : Level) (identifier message : String) (details : List Detail)
    (places : ∀ detail ∈ details, detail.isPlace = true) :
    Finishes (Sink.journal.report (.coded level identifier message details)) :=
  announced (Draft.announces_coded level identifier message details places)

theorem caught (level : Level) (label message : String) :
    Finishes (Sink.journal.reportCaught level label message) := by
  obtain ⟨record, traced⟩ := Traced.emitCaught level label message
  exact ⟨(), _, traced⟩

theorem tryCatch {work : Run α} {handle : Fault → Run α} (first : Traceable work)
    (later : ∀ fault, Finishes (handle fault)) : Finishes (tryCatch work handle) := by
  obtain ⟨answer, notes, traced⟩ := first
  cases answer with
  | ok a =>
      refine ⟨a, notes, fun journal => ?_⟩
      rw [run_tryCatch, traced journal]
  | error fault =>
      obtain ⟨a, more, laterTraced⟩ := later fault
      refine ⟨a, notes ++ more, fun journal => ?_⟩
      rw [run_tryCatch, traced journal, Journal.extend_append]
      exact laterTraced (journal.extend notes)

end Finishes

/-! ## Work that ends -/

def Ends (work : Run α) : Prop :=
  ∃ fault notes, Traced work (.error fault) notes

namespace Ends

theorem of_reports {work : Run α} {level : Level} {fault : Fault} {count : Nat}
    (reports : Reports level work (.error fault) count) : Ends work := by
  obtain ⟨notes, traced, -⟩ := reports
  exact ⟨fault, notes, traced⟩

theorem bind_first {work : Run α} {next : α → Run β} (first : Ends work) :
    Ends (work >>= next) := by
  obtain ⟨fault, notes, traced⟩ := first
  exact ⟨fault, notes, traced.bind_error⟩

end Ends

theorem Finishes.not_error {work : Run α} (finishes : Finishes work) {before after : Journal}
    {fault : Fault} (run : work.run before = (.error fault, after)) : False := by
  obtain ⟨a, notes, traced⟩ := finishes
  cases (traced.eq_of_run run).1

end LineMap.Diagnostics
