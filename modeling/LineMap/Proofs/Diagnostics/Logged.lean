import LineMap.Proofs.Diagnostics.Traceable
import Mathlib.Data.List.Forall2

/-!
# What work logs

The headings of the reports that a piece of work makes, in order.  A sink that leads to the journal
keeps all reports, under whatever scopes; any other keeps none.
-/

set_option autoImplicit false

namespace LineMap.Diagnostics

open LineMap.Json

/-- Work comes to an answer, whatever the journal holds, and logs reports under these headings. -/
def Logs {α : Type} (work : Run α) (answer : Except Fault α) (headings : List Heading) : Prop :=
  ∃ notes, Traced work answer notes ∧ List.Forall₂ Note.IsHeaded notes headings

def Sink.records : Sink → Bool
  | .journal => true
  | .nowhere => false
  | .scoped _ inner => inner.records

def Sink.kept (sink : Sink) (headings : List Heading) : List Heading :=
  if sink.records then headings else []

theorem Sink.kept_append (sink : Sink) (headings more : List Heading) :
    sink.kept (headings ++ more) = sink.kept headings ++ sink.kept more := by
  cases recording : sink.records <;> simp [kept, recording]

@[simp] theorem Sink.kept_nil (sink : Sink) : sink.kept [] = [] := by
  simp [kept]

@[simp] theorem Sink.kept_scoped (scopes : List Value) (inner : Sink) (headings : List Heading) :
    (Sink.scoped scopes inner).kept headings = inner.kept headings := rfl

namespace Logs

variable {α β : Type}

theorem pure (a : α) : Logs (pure a : Run α) (.ok a) [] :=
  ⟨[], Traced.pure a, .nil⟩

theorem attempt (result : Except Fault α) : Logs (attempt result) result [] :=
  ⟨[], Traced.attempt result, .nil⟩

theorem bind {work : Run α} {next : α → Run β} {a : α} {answer : Except Fault β}
    {headings more : List Heading} (first : Logs work (.ok a) headings)
    (later : Logs (next a) answer more) : Logs (work >>= next) answer (headings ++ more) := by
  obtain ⟨notes, traced, headed⟩ := first
  obtain ⟨others, laterTraced, laterHeaded⟩ := later
  exact ⟨notes ++ others, traced.bind laterTraced, List.rel_append headed laterHeaded⟩

theorem bind_of_silent {work : Run α} {next : α → Run β} {a : α} {answer : Except Fault β}
    {headings : List Heading} (first : Logs work (.ok a) []) (later : Logs (next a) answer headings) :
    Logs (work >>= next) answer headings :=
  first.bind later

theorem bind_pure {work : Run α} {f : α → β} {a : α} {headings : List Heading}
    (first : Logs work (.ok a) headings) :
    Logs (work >>= fun a => Pure.pure (f a)) (.ok (f a)) headings := by
  rw [← List.append_nil headings]
  exact first.bind (.pure (f a))

end Logs

theorem Draft.Announces.under {draft : Draft} {heading : Heading}
    (announces : draft.Announces heading) (outer : List Value) :
    ∃ inside, draft.under outer = .ok inside ∧ inside.Announces heading := by
  obtain ⟨inner, scopes⟩ := announces.scopes
  have parts : draft.scopes.parts? = some inner := by rw [scopes, Value.parts?]
  refine ⟨{ draft with scopes := .arr (outer ++ inner) }, by rw [Draft.under, parts], ?_⟩
  exact { announces with scopes := ⟨_, rfl⟩ }

theorem Logs.report {heading : Heading} : ∀ (sink : Sink) {draft : Draft},
    draft.Announces heading → Logs (sink.report draft) (.ok ()) (sink.kept [heading])
  | .journal, _, announces => by
      obtain ⟨note, traced, headed⟩ := Traced.announced announces
      exact ⟨[note], traced, .cons headed .nil⟩
  | .nowhere, _, _ => .pure ()
  | .scoped scopes inner, _, announces => by
      obtain ⟨inside, placed, insideAnnounces⟩ := announces.under scopes
      rw [Sink.report, placed, Sink.kept_scoped]
      exact Logs.report inner insideAnnounces

theorem tally_of_isHeaded {notes : List Note} {headings : List Heading}
    (headed : List.Forall₂ Note.IsHeaded notes headings) (level : Level) :
    tally level notes = headings.countP fun heading => heading.level = level := by
  induction headed with
  | nil => rfl
  | cons first _ inductionHypothesis =>
      rw [tally_cons, List.countP_cons, inductionHypothesis, first.counted]
      simp

theorem Logs.reports {α : Type} {work : Run α} {answer : Except Fault α} {headings : List Heading}
    (logs : Logs work answer headings) (level : Level) :
    Reports level work answer (headings.countP fun heading => heading.level = level) := by
  obtain ⟨notes, traced, headed⟩ := logs
  exact ⟨notes, traced, tally_of_isHeaded headed level⟩

theorem Logs.eq_of_run {α : Type} {work : Run α} {answer result : Except Fault α}
    {headings : List Heading} {before after : Journal} (logs : Logs work answer headings)
    (run : work.run before = (result, after)) : result = answer := by
  obtain ⟨notes, traced, -⟩ := logs
  exact (traced.eq_of_run run).1

/-- Every journal gets the same records behind its own, in the order of the headings, as far as they
reach its threshold. -/
theorem Logs.exists_logged {α : Type} {work : Run α} {answer : Except Fault α}
    {headings : List Heading} (logs : Logs work answer headings) :
    ∃ logged, (∀ journal, (work.run journal).2.records =
        journal.records ++ emittedAt journal.threshold logged) ∧
      logged.map (fun record => (record.level, record.identifier?)) =
        headings.map fun heading => (heading.level.number, heading.identifier?) := by
  obtain ⟨notes, traced, headed⟩ := logs
  refine ⟨notes.map Note.record, fun journal => by rw [traced journal, Journal.extend], ?_⟩
  clear traced
  induction headed with
  | nil => rfl
  | cons first _ inductionHypothesis =>
      rw [List.map_cons, List.map_cons, List.map_cons, inductionHypothesis, first.level,
        first.identifier]

theorem Logs.finishes {α : Type} {work : Run α} {a : α} {headings : List Heading}
    (logs : Logs work (.ok a) headings) : Finishes work := by
  obtain ⟨notes, traced, -⟩ := logs
  exact ⟨a, notes, traced⟩

theorem Finishes.report (sink : Sink) {draft : Draft} {heading : Heading}
    (announces : draft.Announces heading) : Finishes (sink.report draft) :=
  (Logs.report sink announces).finishes

end LineMap.Diagnostics
