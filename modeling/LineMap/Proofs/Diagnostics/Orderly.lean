import LineMap.Proofs.Diagnostics.Accounted
import LineMap.Proofs.Diagnostics.Logged

/-!
# Work whose reports are taken

Work is orderly if it is put together from answers, faults of the matter that it is about, and
reports that say what they must.  Such work never ends in a fault of a report, and all its records
are accounted for.
-/

set_option autoImplicit false

namespace LineMap.Diagnostics

open LineMap.Json

/-- Whether a fault is one of a report, and not of the matter that the work is about. -/
def Fault.isOfReport : Fault → Bool
  | .refused _ => true
  | .misfit _ => true
  | .unnamed _ => true
  | .uncounted _ => true
  | _ => false

/-- Work that never ends in a fault of a report. -/
def ReportsAccepted {α : Type} (work : Run α) : Prop :=
  ∀ before fault after, work.run before = (.error fault, after) → fault.isOfReport = false

/-- A report that gives a record and has no scopes of its own. -/
structure Draft.IsProper (draft : Draft) : Prop where
  announces : ∃ heading, draft.Announces heading
  unscoped : draft.scopes = .arr []

namespace Draft

theorem isProper_coded (level : Level) (identifier message : String) {details : List Detail}
    (places : ∀ detail ∈ details, detail.isPlace = true) :
    (coded level identifier message details).IsProper :=
  ⟨⟨_, announces_coded level identifier message details places⟩, rfl⟩

theorem isProper_plain {level : Level} (low : level.number < Level.info.number)
    (message : String) {details : List Detail}
    (places : ∀ detail ∈ details, detail.isPlace = true) :
    (plain level message details).IsProper :=
  ⟨⟨_, announces_plain low message details places⟩, rfl⟩

theorem IsProper.isCounted {draft : Draft} (proper : draft.IsProper) : draft.IsCounted := by
  obtain ⟨heading, announces⟩ := proper.announces
  exact ⟨heading.level, announces.level⟩

theorem IsProper.hasTextScopes {draft : Draft} (proper : draft.IsProper) : draft.HasTextScopes :=
  ⟨[], proper.unscoped, List.forall_mem_nil _⟩

end Draft

/-- Work that is put together from answers, faults that are not of a report, reports that are
proper, and the showing of faults that were caught. -/
inductive Orderly : {α : Type} → Run α → Prop where
  | pure {α : Type} (a : α) : Orderly (pure a)
  | throw {α : Type} (fault : Fault) (subject : fault.isOfReport = false) :
      Orderly (throw fault : Run α)
  | report {sink : Sink} {draft : Draft} (textual : sink.IsTextual) (proper : draft.IsProper) :
      Orderly (sink.report draft)
  | reportCaught (sink : Sink) (level : Level) (label message : String) :
      Orderly (sink.reportCaught level label message)
  | bind {α β : Type} {work : Run α} {next : α → Run β} (first : Orderly work)
      (later : ∀ a, Orderly (next a)) : Orderly (work >>= next)
  | tryCatch {α : Type} {work : Run α} {handle : Fault → Run α} (first : Orderly work)
      (later : ∀ fault, Orderly (handle fault)) : Orderly (tryCatch work handle)

theorem Finishes.reportCaught (level : Level) (label message : String) :
    ∀ sink : Sink, Finishes (sink.reportCaught level label message)
  | .journal => .caught level label message
  | .nowhere => .pure ()
  | .scoped _ inner => reportCaught level label message inner

namespace Orderly

variable {α β : Type}

theorem map {work : Run α} (orderly : Orderly work) (f : α → β) : Orderly (f <$> work) := by
  rw [← bind_pure_comp]
  exact orderly.bind fun a => .pure (f a)

theorem attempt {result : Except Fault α}
    (subject : ∀ fault, result = .error fault → fault.isOfReport = false) :
    Orderly (attempt result) := by
  cases result with
  | ok a => exact .pure a
  | error fault => exact .throw fault (subject fault rfl)

theorem attempt_mapError {ε : Type} (result : Except ε α) {f : ε → Fault}
    (subject : ∀ cause, (f cause).isOfReport = false) :
    Orderly (Diagnostics.attempt (result.mapError f)) := by
  refine attempt fun fault failed => ?_
  cases result with
  | ok a => cases failed
  | error cause =>
      cases failed
      exact subject cause

theorem coded {sink : Sink} (textual : sink.IsTextual) (level : Level)
    (identifier message : String) {details : List Detail}
    (places : ∀ detail ∈ details, detail.isPlace = true) :
    Orderly (sink.report (.coded level identifier message details)) :=
  report textual (Draft.isProper_coded level identifier message places)

theorem plain {sink : Sink} (textual : sink.IsTextual) {level : Level}
    (low : level.number < Level.info.number) (message : String) {details : List Detail}
    (places : ∀ detail ∈ details, detail.isPlace = true) :
    Orderly (sink.report (.plain level message details)) :=
  report textual (Draft.isProper_plain low message places)

/-! ## What orderly work is like -/

theorem accounted {work : Run α} (orderly : Orderly work) : Accounted work := by
  induction orderly with
  | pure a => exact .pure a
  | throw fault _ => exact .throw fault
  | report textual proper => exact .report textual proper.isCounted proper.hasTextScopes
  | reportCaught sink level label message => exact .reportCaught sink level label message
  | bind _ _ first later => exact first.bind later
  | tryCatch _ _ first later => exact first.tryCatch later

theorem reportsAccepted {work : Run α} (orderly : Orderly work) : ReportsAccepted work := by
  induction orderly with
  | pure a =>
      intro before fault after ended
      cases ended
  | throw fault subject =>
      intro before other after ended
      cases ended
      exact subject
  | @report sink draft textual proper =>
      intro before fault after ended
      obtain ⟨heading, announces⟩ := proper.announces
      exact ((Finishes.report sink announces).not_error ended).elim
  | reportCaught sink level label message =>
      intro before fault after ended
      exact ((Finishes.reportCaught level label message sink).not_error ended).elim
  | @bind α β work next _ _ first later =>
      intro before fault after ended
      rw [run_bind] at ended
      split at ended
      next a middle here => exact later a middle fault after ended
      next cause middle here =>
        cases ended
        exact first before fault after here
  | @tryCatch α work handle _ _ first later =>
      intro before fault after ended
      rw [run_tryCatch] at ended
      split at ended
      next a middle here => cases ended
      next cause middle here => exact later cause middle fault after ended

end Orderly

end LineMap.Diagnostics
