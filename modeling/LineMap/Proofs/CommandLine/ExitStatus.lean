import LineMap.Proofs.CommandLine.Faults
import LineMap.Proofs.View.Degradation

/-!
# The exit status of a run

A run comes to an outcome by stages: the configuration is built, the input is read, what accompanies
it is read, and a view is run.  Each stage answers the same whatever was recorded before it.  The
exit status is zero exactly if the stages come to an outcome that counts as a success, unless errors
matter and one was reported anywhere in the run, shown or not.
-/

set_option autoImplicit false

namespace LineMap.CommandLine

open LineMap.Diagnostics
open LineMap.Files

variable {arguments : Arguments} {surroundings : Surroundings}

/-- The view that the arguments name gives an outcome for the text of the input. -/
structure Shows (arguments : Arguments) (surroundings : Surroundings) (stdout : String)
    (completion : Completion) : Prop where
  tool : ∃ stderr, answer (readStderr arguments surroundings .journal) = .ok stderr ∧
    completion.tool = toolRun arguments stdout stderr
  timed : arguments.execTime? ≠ some .nothing
  view : ∃ name symbols?, arguments.view = .value name ∧
    answer (readSymbols arguments surroundings completion.config .journal) = .ok symbols? ∧
    answer (Registry.builtin.runView name completion.tool
      ⟨completion.config, symbols?, .journal⟩) = .ok completion.outcome

/-- The configuration is built, the input is read and decoded, and the view gives an outcome. -/
structure Produces (arguments : Arguments) (surroundings : Surroundings)
    (completion : Completion) : Prop where
  configured : answer (buildConfig arguments surroundings .journal) = .ok completion.config
  shown : ∃ stdout, inputText arguments surroundings = .ok (.ok stdout) ∧
    Shows arguments surroundings stdout completion

/-! ## What the stages answer -/

theorem answer_runNamedView_eq_ok_iff (tool : ToolRun) (context : Context) (outcome : Outcome) :
    answer (runNamedView arguments tool context) = .ok outcome ↔
      arguments.execTime? ≠ some .nothing ∧ ∃ name, arguments.view = .value name ∧
        answer (Registry.builtin.runView name tool context) = .ok outcome := by
  unfold runNamedView
  split
  next noView =>
    rw [noView]
    exact iff_of_false nofun nofun
  next noTime _ => exact iff_of_false nofun fun viewed => viewed.1 noTime
  next name named timed =>
    rw [named]
    simp [show arguments.execTime? ≠ some .nothing from timed]

theorem answer_runViewGuarded (tool : ToolRun) (config : Config) (symbols? : Option SymbolTable)
    (paths : List Path) :
    answer (runViewGuarded arguments tool ⟨config, symbols?, .journal⟩ (paths.map .path)) =
      .ok (answer (runNamedView arguments tool ⟨config, symbols?, .journal⟩)).toOption := by
  have handled (fault : Fault) : ∃ notes, Traced (do
      Sink.journal.report (.coded .critical "unhandled-exception"
        ("processing halted unexpectedly. an unhandled exception occurred: " ++ fault.shown)
        (paths.map .path))
      Sink.journal.reportCaught .error fault.label fault.message
      return (none : Option Outcome)) (.ok none) notes := by
    obtain ⟨note, reported, -⟩ := Traced.announced (Draft.announces_coded .critical
      "unhandled-exception"
      ("processing halted unexpectedly. an unhandled exception occurred: " ++ fault.shown)
      (paths.map .path) (Detail.isPlace_path paths))
    obtain ⟨record, caught⟩ := Traced.emitCaught .error fault.label fault.message
    exact ⟨_, reported.bind (caught.bind (.pure none))⟩
  have mapped : answer (some <$> runNamedView arguments tool ⟨config, symbols?, .journal⟩) =
      (answer (runNamedView arguments tool ⟨config, symbols?, .journal⟩)).map some := by
    rw [← bind_pure_comp, answer_bind fun a => ⟨_, _, Traced.pure (some a)⟩]
    cases answer (runNamedView arguments tool ⟨config, symbols?, .journal⟩) <;> rfl
  unfold runViewGuarded
  rw [answer_tryCatch fun fault => ⟨_, handled fault⟩, mapped]
  cases answer (runNamedView arguments tool ⟨config, symbols?, .journal⟩) with
  | ok outcome => rfl
  | error fault =>
      obtain ⟨notes, traced⟩ := handled fault
      exact traced.answer_eq

theorem answer_showInput (config : Config) (stdout : String) :
    answer (showInput arguments surroundings config stdout) = (do
      let stderr ← answer (readStderr arguments surroundings .journal)
      let symbols? ← answer (readSymbols arguments surroundings config .journal)
      let tool := toolRun arguments stdout stderr
      return (answer (runNamedView arguments tool ⟨config, symbols?, .journal⟩)).toOption.map
        fun outcome => ⟨config, tool, outcome⟩) := by
  have viewed (stderr : String) (symbols? : Option SymbolTable) : Accounted (do
      let outcome? ← runViewGuarded arguments (toolRun arguments stdout stderr)
        ⟨config, symbols?, .journal⟩ (inputDetails arguments)
      return outcome?.map fun outcome =>
        Completion.mk config (toolRun arguments stdout stderr) outcome) :=
    (orderly_runViewGuarded arguments _ isTextual_journal
      (Detail.isPlace_path _)).accounted.bind fun _ => .pure _
  have accompanied (stderr : String) :=
    (orderly_readSymbols arguments surroundings config).accounted.bind (viewed stderr)
  refine (answer_bind fun stderr => (accompanied stderr).traceable).trans ?_
  refine congrArg _ (funext fun stderr => ?_)
  refine (answer_bind fun symbols? => (viewed stderr symbols?).traceable).trans ?_
  refine congrArg _ (funext fun symbols? => ?_)
  refine (answer_bind fun outcome? => ⟨_, _, Traced.pure _⟩).trans ?_
  rw [inputDetails, answer_runViewGuarded]
  rfl

theorem answer_showInput_eq_some_iff (config : Config) (stdout : String)
    (completion : Completion) :
    answer (showInput arguments surroundings config stdout) = .ok (some completion) ↔
      completion.config = config ∧ Shows arguments surroundings stdout completion := by
  rw [answer_showInput, Result.bind_eq_ok_iff]
  constructor
  · rintro ⟨stderr, stderrRead, rest⟩
    obtain ⟨symbols?, symbolsRead, given⟩ := Result.bind_eq_ok_iff.mp rest
    obtain ⟨outcome, found, rfl⟩ := Option.map_eq_some_iff.mp (Except.ok.inj given)
    obtain ⟨timed, name, named, viewed⟩ :=
      (answer_runNamedView_eq_ok_iff _ _ _).mp (Result.toOption_eq_some_iff.mp found)
    exact ⟨rfl, ⟨stderr, stderrRead, rfl⟩, timed, name, symbols?, named, symbolsRead, viewed⟩
  · obtain ⟨config', tool, outcome⟩ := completion
    rintro ⟨rfl, ⟨stderr, stderrRead, rfl⟩, timed, name, symbols?, named, symbolsRead, viewed⟩
    have found := (answer_runNamedView_eq_ok_iff _ _ _).mpr ⟨timed, name, named, viewed⟩
    refine ⟨stderr, stderrRead, Result.bind_eq_ok_iff.mpr ⟨symbols?, symbolsRead, ?_⟩⟩
    exact congrArg Except.ok (Option.map_eq_some_iff.mpr
      ⟨outcome, Result.toOption_eq_some_iff.mpr found, rfl⟩)

theorem answer_conclude_eq_some_iff (config : Config) (completion : Completion) :
    answer (conclude arguments surroundings config) = .ok (some completion) ↔
      completion.config = config ∧ ∃ stdout, inputText arguments surroundings = .ok (.ok stdout) ∧
        Shows arguments surroundings stdout completion := by
  cases read : inputText arguments surroundings with
  | error fault =>
      obtain ⟨failure, notes, traced⟩ := ends_conclude config read
      rw [traced.answer_eq]
      exact iff_of_false nofun nofun
  | ok text =>
      cases text with
      | error error =>
          rw [(traced_conclude config read).answer_eq]
          exact iff_of_false nofun nofun
      | ok stdout =>
          have readable := (reports_readInput .error arguments surroundings).answer_eq
          rw [read] at readable
          have given : answer (conclude arguments surroundings config) =
              answer (showInput arguments surroundings config stdout) :=
            answer_bind_of_ok readable
              (orderly_showInput arguments surroundings config stdout).accounted.traceable
          rw [given, answer_showInput_eq_some_iff]
          simp

/-- The work of a run answers with an outcome exactly if its stages produce it. -/
theorem answer_perform_eq_some_iff (completion : Completion) :
    answer (perform arguments surroundings) = .ok (some completion) ↔
      Produces arguments surroundings completion := by
  rw [perform, answer_bind fun config =>
    (orderly_conclude arguments surroundings config).accounted.traceable, Result.bind_eq_ok_iff]
  simp only [answer_conclude_eq_some_iff]
  constructor
  · rintro ⟨config, configured, rfl, shown⟩
    exact ⟨configured, shown⟩
  · rintro ⟨configured, shown⟩
    exact ⟨completion.config, configured, rfl, shown⟩

/-! ## What is written and how the run ends -/

def IsRendered (outcome : Outcome) (text : String) : Format → Prop
  | .text => outcome.text = .ok text
  | .json => text = outcome.document

theorem isRendered_of_render {outcome : Outcome} {format : Format} {text : String}
    (rendered : render format outcome = .ok text) : IsRendered outcome text format := by
  cases format with
  | text => exact rendered
  | json => exact (Except.ok.inj rendered).symm

def ReportsError (arguments : Arguments) (surroundings : Surroundings) : Prop :=
  ∃ record ∈ (journalOf arguments surroundings).records,
    record.countsAs .critical = true ∨ record.countsAs .error = true

theorem exitStatus_eq_zero_iff (completion : Completion) :
    exitStatus arguments (some completion) (journalOf arguments surroundings) = 0 ↔
      completion.outcome.succeeded = true ∧
        ¬(arguments.haltOnError = true ∧ ReportsError arguments surroundings) := by
  have counted (level : Level) :
      0 < (journalOf arguments surroundings).counts level ↔
        ∃ record ∈ (journalOf arguments surroundings).records, record.countsAs level = true :=
    (isExact_journalOf arguments surroundings).counts_pos_iff
      (threshold_journalOf arguments surroundings ▸ level.debug_le_number)
  have errors : ReportsError arguments surroundings ↔
      0 < (journalOf arguments surroundings).counts .critical ∨
        0 < (journalOf arguments surroundings).counts .error := by
    rw [counted, counted, ReportsError]
    grind
  rw [errors, exitStatus]
  simp

/-- A run that returns has come to an answer, on which its status and its output depend. -/
theorem exists_answer_of_exit {status : Nat}
    (returned : (runWith arguments surroundings).ending = .exit status) :
    ∃ completion?, answer (perform arguments surroundings) = .ok completion? ∧
      status = exitStatus arguments completion? (journalOf arguments surroundings) ∧
      output arguments.format (.ok completion?) =
        .ok (runWith arguments surroundings).stdout := by
  rw [runWith] at returned ⊢
  cases level : arguments.logLevel with
  | nothing =>
      rw [level] at returned
      cases returned
  | value threshold =>
      rw [level] at returned
      dsimp only at returned ⊢
      cases answered : answer (perform arguments surroundings) with
      | error fault =>
          rw [runAt_of_fault threshold answered] at returned
          cases returned
      | ok completion? =>
          obtain ⟨written, ended⟩ := runAt_of_answer threshold answered
          rw [ended] at returned
          cases returned
          exact ⟨completion?, rfl, rfl, written⟩

/-- How a run that returns ends: with status zero exactly if its stages produce an outcome that
counts as a success and, where errors matter, no error was reported; and with status one otherwise.
It writes the outcome in the format that is asked for, whatever the status, and nothing if there is
none. -/
theorem run_exit_iff (words : List String) (arguments : Arguments) (surroundings : Surroundings)
    (status : Nat) (parsed : parse words = .ok arguments)
    (returned : (run words surroundings).ending = .exit status) :
    (status = 0 ↔ ∃ completion, Produces arguments surroundings completion ∧
      completion.outcome.succeeded = true ∧
      ¬(arguments.haltOnError = true ∧ ReportsError arguments surroundings)) ∧
    (status ≠ 0 → status = 1) ∧
    (∀ completion, Produces arguments surroundings completion →
      IsRendered completion.outcome (run words surroundings).stdout arguments.format) ∧
    ((¬∃ completion, Produces arguments surroundings completion) →
      (run words surroundings).stdout = "") := by
  have started : run words surroundings = runWith arguments surroundings := by
    rw [run, parsed]
  rw [started] at returned ⊢
  obtain ⟨completion?, answered, rfl, written⟩ := exists_answer_of_exit returned
  have produced (completion : Completion) :
      Produces arguments surroundings completion ↔ completion? = some completion := by
    rw [← answer_perform_eq_some_iff, answered, Except.ok.injEq]
  simp only [produced]
  cases completion? with
  | none =>
      refine ⟨iff_of_false Nat.one_ne_zero ?_, fun _ => rfl, ?_,
        fun _ => (Except.ok.inj written).symm⟩
      · rintro ⟨completion, same, -⟩
        cases same
      · intro completion same
        cases same
  | some completion =>
      refine ⟨?_, ?_, ?_, fun none => absurd ⟨completion, rfl⟩ none⟩
      · rw [exitStatus_eq_zero_iff]
        simp
      · intro failed
        have atMost := exitStatus_le_one arguments (some completion)
          (journalOf arguments surroundings)
        omega
      · rintro _ ⟨rfl⟩
        exact isRendered_of_render written

def inputSurroundings : Surroundings where
  files := Tree.fileSystem [⟨["in.txt"], some [97]⟩]
  home := "/root"
  configHome? := none

/-- An assignment that is refused is an error, which makes the run fail although it has output. -/
theorem run_exit_iff_halted :
    let words := ["--halt-on-error", "--set", "bad", "in.txt"]
    let arguments : Arguments :=
      { haltOnError := true, assignments := [.value "bad"], filename := "in.txt" }
    parse words = .ok arguments ∧ (run words inputSurroundings).ending = .exit 1 ∧
      ∃ completion, Produces arguments inputSurroundings completion ∧
        ¬(completion.outcome.succeeded = true ∧ ¬ReportsError arguments inputSurroundings) := by
  intro words arguments
  have parsed : parse words = .ok arguments :=
    Result.toOption_eq_some_iff.mp (by decide +kernel)
  have ending : (run words inputSurroundings).ending = .exit 1 := by rfl
  have shown : (run words inputSurroundings).stdout ≠ "" := by decide +kernel
  obtain ⟨status, -, -, silent⟩ := run_exit_iff words arguments inputSurroundings 1 parsed ending
  refine ⟨parsed, ending, ?_⟩
  obtain ⟨completion, produced⟩ := not_not.mp fun none => shown (silent none)
  refine ⟨completion, produced, fun fine => Nat.one_ne_zero ?_⟩
  exact status.mpr ⟨completion, produced, fine.1, fun halted => fine.2 halted.2⟩

end LineMap.CommandLine
