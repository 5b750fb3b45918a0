import LineMap.Proofs.CommandLine.Accounts
import LineMap.Proofs.View.Writable

/-!
# How a run ends

The view of a run is given no symbol table but one that was loaded, so whatever it shows can be
written in either format.  A run therefore ends in a fault exactly if its work does, and otherwise
with a status that is zero or one.
-/

set_option autoImplicit false

namespace LineMap

open LineMap.Diagnostics

theorem Outcome.exists_text {outcome : Outcome} (nonempty : outcome.lines ≠ [])
    (writable : ∀ line ∈ outcome.lines, line.isWritable = true) :
    ∃ text, outcome.text = .ok text := by
  obtain ⟨⟨width, known⟩, -⟩ := Outcome.exists_width nonempty
  exact ⟨_, by rw [Outcome.text, if_pos (List.all_eq_true.mpr writable), known]⟩

namespace CommandLine

/-! ## What a run has to show -/

section

variable {arguments : Arguments} {surroundings : Surroundings} {before after : Journal}

theorem isWritable_of_readSymbols {config : Config} {symbols? : Option SymbolTable}
    (read : (readSymbols arguments surroundings config .journal).run before =
      (.ok symbols?, after)) : ∀ table ∈ symbols?, table.IsWritable := by
  unfold readSymbols at read
  split at read
  · obtain ⟨rfl, -⟩ := run_pure_eq_ok read
    exact nofun
  · obtain ⟨table, middle, loaded, given⟩ := run_bind_eq_ok read
    obtain ⟨rfl, -⟩ := run_pure_eq_ok given
    rintro _ ⟨⟩
    exact SymbolTable.isWritable_of_loadFile loaded

theorem runView_of_runViewGuarded {tool : ToolRun} {context : Context} {details : List Detail}
    {outcome : Outcome} (guarded : (runViewGuarded arguments tool context details).run before =
      (.ok (some outcome), after)) :
    ∃ name, (Registry.builtin.runView name tool context).run before = (.ok outcome, after) := by
  rw [runViewGuarded, run_tryCatch] at guarded
  split at guarded
  next found middle ran =>
    obtain ⟨shown, viewed, rfl⟩ := run_map_eq_ok ran
    cases guarded
    unfold runNamedView at viewed
    split at viewed
    · cases viewed
    · cases viewed
    next name _ _ => exact ⟨name, viewed⟩
  next fault middle ran =>
    obtain ⟨_, _, -, guarded⟩ := run_bind_eq_ok guarded
    obtain ⟨_, _, -, guarded⟩ := run_bind_eq_ok guarded
    cases (run_pure_eq_ok guarded).1

theorem lines_of_showInput {config : Config} {stdout : String} {completion : Completion}
    (shown : (showInput arguments surroundings config stdout).run before =
      (.ok (some completion), after)) :
    completion.outcome.lines ≠ [] ∧ ∀ line ∈ completion.outcome.lines, line.isWritable = true := by
  obtain ⟨stderr, _, -, shown⟩ := run_bind_eq_ok shown
  obtain ⟨symbols?, _, symbolsRead, shown⟩ := run_bind_eq_ok shown
  obtain ⟨outcome?, _, guarded, shown⟩ := run_bind_eq_ok shown
  obtain ⟨outcome, rfl, rfl⟩ := Option.map_eq_some_iff.mp (run_pure_eq_ok shown).1
  obtain ⟨name, viewed⟩ := runView_of_runViewGuarded guarded
  exact ⟨Registry.lines_ne_nil_of_runView viewed,
    Registry.isWritable_of_runView viewed (isWritable_of_readSymbols symbolsRead)⟩

theorem lines_of_perform {completion : Completion}
    (returned : (perform arguments surroundings).run before = (.ok (some completion), after)) :
    completion.outcome.lines ≠ [] ∧ ∀ line ∈ completion.outcome.lines, line.isWritable = true := by
  obtain ⟨config, _, -, concluded⟩ := run_bind_eq_ok returned
  obtain ⟨text, _, -, concluded⟩ := run_bind_eq_ok concluded
  cases text with
  | error error =>
      obtain ⟨_, _, -, concluded⟩ := run_bind_eq_ok concluded
      cases (run_pure_eq_ok concluded).1
  | ok stdout => exact lines_of_showInput concluded

end

/-! ## The ending -/

variable {arguments : Arguments} {surroundings : Surroundings}

theorem exists_output {completion? : Option Completion}
    (answered : answer (perform arguments surroundings) = .ok completion?) (format : Format) :
    ∃ text, output format (.ok completion?) = .ok text := by
  cases completion? with
  | none => exact ⟨"", rfl⟩
  | some completion =>
      cases format with
      | json => exact ⟨completion.outcome.document, rfl⟩
      | text =>
          obtain ⟨nonempty, writable⟩ := lines_of_perform (Prod.ext answered rfl)
          exact Outcome.exists_text nonempty writable

theorem runAt_of_fault (threshold : Level) {fault : Fault}
    (failed : answer (perform arguments surroundings) = .error fault) :
    (runAt threshold arguments surroundings).ending = .fault fault := by
  rw [runAt_eq_transcript, failed]
  rfl

theorem runAt_of_answer (threshold : Level) {completion? : Option Completion}
    (answered : answer (perform arguments surroundings) = .ok completion?) :
    output arguments.format (.ok completion?) =
        .ok (runAt threshold arguments surroundings).stdout ∧
      (runAt threshold arguments surroundings).ending =
        .exit (exitStatus arguments completion? (journalOf arguments surroundings)) := by
  obtain ⟨text, written⟩ := exists_output answered arguments.format
  rw [runAt_eq_transcript, answered, transcript, written]
  refine ⟨rfl, congrArg Ending.exit ?_⟩
  exact exitStatus_congr arguments (counts_run_perform arguments surroundings threshold)

theorem exitStatus_le_one (arguments : Arguments) (completion? : Option Completion)
    (journal : Journal) : exitStatus arguments completion? journal ≤ 1 := by
  unfold exitStatus
  split
  · exact Nat.le_refl 1
  · split
    · exact Nat.zero_le 1
    · exact Nat.le_refl 1

end CommandLine

end LineMap
