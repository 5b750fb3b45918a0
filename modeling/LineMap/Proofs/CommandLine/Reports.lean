import LineMap.Proofs.CommandLine.Endings
import LineMap.Proofs.Diagnostics.LogCalls

/-!
# The tool's own reports

What the tool itself reports has an identifier where one is required, and names places and nothing
else.  So no report of its own is refused, under any scopes, on any path that its work can take.
-/

set_option autoImplicit false

namespace LineMap

open LineMap.Diagnostics
open LineMap.Files
open LineMap.Json

theorem Diagnostics.Sink.isTextual_nested (wrappers : List (List Str)) :
    (Sink.nested wrappers).IsTextual := by
  induction wrappers using List.reverseRecOn with
  | nil => trivial
  | append_singleton inner outer inductionHypothesis =>
      rw [Sink.nested_append]
      refine ⟨fun scope member => ?_, inductionHypothesis⟩
      obtain ⟨s, -, rfl⟩ := List.mem_map.mp member
      exact ⟨s, rfl⟩

namespace CommandLine

/-- A fault that ends a whole run is one of its work, or an option was left empty. -/
theorem ending_run_eq_fault {words : List String} {surroundings : Surroundings} {fault : Fault}
    (ended : (run words surroundings).ending = .fault fault) :
    fault = .vacant .level ∨
      ∃ arguments, answer (perform arguments surroundings) = .error fault := by
  unfold run at ended
  split at ended
  next arguments parsed =>
    unfold runWith at ended
    split at ended
    next threshold given =>
      refine .inr ⟨arguments, ?_⟩
      cases answered : answer (perform arguments surroundings) with
      | error cause =>
          rw [runAt_of_fault threshold answered] at ended
          cases ended
          rfl
      | ok completion? =>
          rw [(runAt_of_answer threshold answered).2] at ended
          cases ended
    next left =>
      cases ended
      exact .inl rfl
  all_goals cases ended

/-- Under any scopes, no report of the tool's own is refused: neither while a symbol table or a
configuration is loaded or a value is assigned, nor while a view runs, nor in a whole run.  The work
with a view is listed by itself as well, because a run catches the faults of its view. -/
theorem own_reports_accepted (wrappers : List (List Str)) :
    (∀ document? primary source?,
        ReportsAccepted (SymbolTable.load document? (.nested wrappers) primary source?)) ∧
      (∀ files path primary,
        ReportsAccepted (SymbolTable.loadFile files path (.nested wrappers) primary)) ∧
      (∀ (config : Config) path wording place?,
        ReportsAccepted (config.assign? path wording (.nested wrappers) place?)) ∧
      (∀ files path config,
        ReportsAccepted (Config.loadFile? files path config (.nested wrappers))) ∧
      (∀ surroundings config,
        ReportsAccepted (Config.loadUserFile? surroundings config (.nested wrappers))) ∧
      (∀ name tool config symbols?, ReportsAccepted
        (Registry.builtin.runView name tool ⟨config, symbols?, .nested wrappers⟩)) ∧
      (∀ arguments tool config symbols?, ReportsAccepted
        (runNamedView arguments tool ⟨config, symbols?, .nested wrappers⟩)) ∧
      (∀ arguments surroundings, ReportsAccepted (perform arguments surroundings)) ∧
      ∀ words surroundings fault,
        (run words surroundings).ending = .fault fault → fault.isOfReport = false := by
  have textual := Sink.isTextual_nested wrappers
  refine ⟨?load, ?loadFile, ?assign, ?configFile, ?userFile, ?view, ?namedView, ?perform, ?run⟩
  case load =>
    intro document? primary source?
    exact (SymbolTable.orderly_load textual document? primary source?).reportsAccepted
  case loadFile =>
    intro files path primary
    exact (SymbolTable.orderly_loadFile textual files path primary).reportsAccepted
  case assign =>
    intro config path wording place?
    exact (Config.orderly_assign textual config path wording place?).reportsAccepted
  case configFile =>
    intro files path config
    exact (Config.orderly_loadFile textual files path config).reportsAccepted
  case userFile =>
    intro surroundings config
    exact (Config.orderly_loadUserFile textual surroundings config).reportsAccepted
  case view =>
    intro name tool config symbols?
    exact (Registry.orderly_runView name tool textual).reportsAccepted
  case namedView =>
    intro arguments tool config symbols?
    exact (orderly_runNamedView arguments tool textual).reportsAccepted
  case perform =>
    intro arguments surroundings
    exact (orderly_perform arguments surroundings).reportsAccepted
  case run =>
    intro words surroundings fault ended
    obtain rfl | ⟨arguments, failed⟩ := ending_run_eq_fault ended
    · rfl
    · have accepted := (orderly_perform arguments surroundings).reportsAccepted
      exact accepted .empty fault _ (Prod.ext failed rfl)

end CommandLine

end LineMap
