import LineMap.Outcome.Text
import LineMap.Proofs.Diagnostics.Traced
import LineMap.View.Builtin

/-!
# How a view is used

A run of a view uses it at most once, on all of the tool's output, and not at all if the tool failed
or there is no such view.  To say so, the run is repeated with a list of the uses kept beside it;
this list has no influence on the run.
-/

set_option autoImplicit false

namespace LineMap

open LineMap.Diagnostics

/-- One use of a view: the text that it was given, and the lines that it gave. -/
structure Use where
  text : String
  lines? : Option (List OutputLine)

abbrev Watched (α : Type) : Type := StateT (List Use) Run α

/-- An extraction of which each use is kept. -/
def watch (extract : String → Run (Option (List OutputLine))) (text : String) :
    Watched (Option (List OutputLine)) := do
  let lines? ← extract text
  modify fun uses => uses ++ [⟨text, lines?⟩]
  return lines?

/-- The run of a view with its uses kept.  If there is no such view, there is nothing to keep. -/
def Registry.runWatched (registry : Registry) (name : String) (tool : ToolRun)
    (context : Context) : Watched Outcome :=
  match registry.lookup? name with
  | none => liftM (registry.runView name tool context)
  | some view =>
      let sink := Sink.scoped [.text view.name] context.sink
      assemble tool (watch (view.extract { context with sink }))
        (fun draft => liftM (sink.report draft)) context.config.failureText

/-! ## What watching adds -/

section

variable (report : Draft → Run Unit) (extract : String → Run (Option (List OutputLine)))

theorem run_reportAll_lift (drafts : List Draft) (uses : List Use) :
    (reportAll (fun draft => (liftM (report draft) : Watched Unit)) drafts).run uses =
      (do reportAll report drafts; return ((), uses)) := by
  induction drafts with
  | nil => rfl
  | cons draft others inductionHypothesis =>
      simp [reportAll, inductionHypothesis]

theorem run_watch (text : String) (uses : List Use) :
    (watch extract text).run uses =
      (do let lines? ← extract text; return (lines?, uses ++ [⟨text, lines?⟩])) := by
  simp [watch]

/-- The watched run takes the same steps as the run, and the uses are what it adds. -/
theorem run_assemble_watch (tool : ToolRun) (failureText : String) (uses : List Use) :
    (assemble tool (watch extract) (fun draft => liftM (report draft)) failureText).run uses =
      (do
        reportAll report tool.timeReport
        if tool.failed then
          match tool.failureReports? with
          | none => throw .unwritable
          | some reports => do
              reportAll report reports
              return (.ofLines none false failureText, uses)
        else
          let lines? ← extract tool.stdout
          report (extractionReport lines?)
          return (.ofLines lines? true failureText, uses ++ [⟨tool.stdout, lines?⟩])) := by
  rw [assemble, StateT.run_bind, run_reportAll_lift]
  cases tool.failed with
  | true =>
    cases tool.failureReports? with
    | none =>
      simp only [if_true, bind_assoc, pure_bind]
      rfl
    | some reports => simp [run_reportAll_lift]
  | false => simp [run_watch]

theorem map_fst_assemble_watch (tool : ToolRun) (failureText : String) (uses : List Use) :
    Prod.fst <$>
        (assemble tool (watch extract) (fun draft => liftM (report draft)) failureText).run uses =
      assemble tool extract report failureText := by
  rw [run_assemble_watch, assemble]
  cases tool.failed with
  | true => cases tool.failureReports? <;> simp
  | false => simp

end

/-- Watching a run changes neither what it answers nor what it reports.  An extraction may leave
records of its own, so this holds only because the watched run uses it as often as the run does. -/
theorem Registry.map_fst_runWatched (registry : Registry) (name : String) (tool : ToolRun)
    (context : Context) (uses : List Use) :
    Prod.fst <$> (registry.runWatched name tool context).run uses =
      registry.runView name tool context := by
  rw [runWatched]
  cases found : registry.lookup? name with
  | none => simp
  | some view =>
      simp only [map_fst_assemble_watch, runView, found]

/-! ## What a run that returns has used -/

/-- How the outcome comes about: from what the extraction answered, unless the tool failed. -/
theorem assemble_watch_returned {tool : ToolRun} {extract : String → Run (Option (List OutputLine))}
    {report : Draft → Run Unit} {failureText : String} {uses later : List Use}
    {outcome : Outcome} {before after : Journal}
    (returned : ((assemble tool (watch extract) (fun draft => liftM (report draft))
      failureText).run uses).run before = (.ok (outcome, later), after)) :
    if tool.failed then
      tool.failureReports?.isSome ∧ outcome = .ofLines none false failureText ∧ later = uses
    else ∃ lines? start done, (extract tool.stdout).run start = (.ok lines?, done) ∧
      outcome = .ofLines lines? true failureText ∧ later = uses ++ [⟨tool.stdout, lines?⟩] := by
  rw [run_assemble_watch] at returned
  obtain ⟨_, start, -, returned⟩ := run_bind_eq_ok returned
  cases failed : tool.failed with
  | true =>
      simp only [failed, if_true] at returned ⊢
      cases given : tool.failureReports? with
      | none =>
          rw [given] at returned
          cases returned
      | some reports =>
          rw [given] at returned
          obtain ⟨_, _, -, returned⟩ := run_bind_eq_ok returned
          obtain ⟨same, -⟩ := run_pure_eq_ok returned
          obtain ⟨sameOutcome, sameUses⟩ := Prod.mk.inj same
          exact ⟨rfl, sameOutcome.symm, sameUses.symm⟩
  | false =>
      simp only [failed, Bool.false_eq_true, if_false] at returned ⊢
      obtain ⟨lines?, done, extracted, returned⟩ := run_bind_eq_ok returned
      obtain ⟨_, _, -, returned⟩ := run_bind_eq_ok returned
      obtain ⟨same, -⟩ := run_pure_eq_ok returned
      obtain ⟨sameOutcome, sameUses⟩ := Prod.mk.inj same
      exact ⟨lines?, start, done, extracted, sameOutcome.symm, sameUses.symm⟩

/-- Where a view is not used, it may be any other: only the names of the views matter. -/
theorem Registry.runView_eq_of_unused {left right : Registry} {name : String} {tool : ToolRun}
    (unused : left.lookup? name = none ∨ tool.failed = true) (names : right.names = left.names)
    (viewName : (right.lookup? name).map View.name = (left.lookup? name).map View.name)
    (context : Context) : right.runView name tool context = left.runView name tool context := by
  rw [runView, runView]
  cases found : left.lookup? name with
  | none =>
      rw [found, Option.map_none, Option.map_eq_none_iff] at viewName
      simp only [viewName, names]
  | some view =>
      rw [found, Option.map_some, Option.map_eq_some_iff] at viewName
      obtain ⟨other, otherFound, sameName⟩ := viewName
      have failed : tool.failed = true := unused.resolve_left (by rw [found]; simp)
      simp only [otherFound, sameName, assemble, failed, if_true]

theorem Outcome.ofLines_none (succeeded : Bool) (failureText : String) :
    Outcome.ofLines none succeeded failureText = ⟨failureLines failureText, succeeded⟩ := by
  cases succeeded <;> rfl

theorem Outcome.ofLines_true (lines? : Option (List OutputLine)) (failureText : String) :
    Outcome.ofLines lines? true failureText =
      ⟨if lines?.getD [] = [] then failureLines failureText else lines?.getD [], true⟩ := by
  cases lines? with
  | none => rfl
  | some lines => cases lines <;> rfl

theorem Outcome.exists_width {outcome : Outcome} (nonempty : outcome.lines ≠ []) :
    (∃ width, outcome.gutterWidth? = some width) ∧ outcome.text ≠ .error .noLines := by
  have known : outcome.gutterWidth? ≠ none := by simpa [gutterWidth?] using nonempty
  obtain ⟨width, known⟩ := Option.ne_none_iff_exists'.mp known
  refine ⟨⟨width, known⟩, ?_⟩
  rw [text, known]
  split <;> exact nofun

theorem ToolRun.failed_eq_false_iff {tool : ToolRun} :
    tool.failed = false ↔ tool.exitCode? = some 0 ∧ tool.timedOut = false := by
  simp [failed, and_comm]

theorem Registry.runView_unknown {registry : Registry} {name : String} {tool : ToolRun}
    {context : Context} {before after : Journal} {outcome : Outcome}
    (unknown : registry.lookup? name = none)
    (returned : (registry.runView name tool context).run before = (.ok outcome, after)) :
    outcome = .ofLines none false context.config.failureText := by
  simp only [runView, unknown] at returned
  obtain ⟨_, _, -, returned⟩ := run_bind_eq_ok returned
  exact (run_pure_eq_ok returned).1.symm

/-- Either the run had a view to use on the output of a tool that did not fail, or it used none and
could say why the tool failed. -/
theorem Registry.runWatched_returned {registry : Registry} {name : String} {tool : ToolRun}
    {context : Context} {before after : Journal} {outcome : Outcome} {uses : List Use}
    (returned : ((registry.runWatched name tool context).run []).run before =
      (.ok (outcome, uses), after)) :
    ((registry.lookup? name = none ∨ tool.failed = true) ∧
        (registry.lookup? name ≠ none → tool.failureReports?.isSome) ∧
        outcome = .ofLines none false context.config.failureText ∧ uses = []) ∨
      ∃ view lines? start done, registry.lookup? name = some view ∧ tool.failed = false ∧
        (view.extract { context with sink := .scoped [.text view.name] context.sink }
          tool.stdout).run start = (.ok lines?, done) ∧
        outcome = .ofLines lines? true context.config.failureText ∧
        uses = [⟨tool.stdout, lines?⟩] := by
  rw [runWatched] at returned
  cases found : registry.lookup? name with
  | none =>
      simp only [found, StateT.run_monadLift] at returned
      obtain ⟨_, _, ran, returned⟩ := run_bind_eq_ok returned
      obtain ⟨same, -⟩ := run_pure_eq_ok returned
      obtain ⟨rfl, rfl⟩ := Prod.mk.inj same
      exact .inl ⟨.inl rfl, fun known => absurd rfl known, runView_unknown found ran, rfl⟩
  | some view =>
      simp only [found] at returned
      have result := assemble_watch_returned returned
      cases failed : tool.failed with
      | true =>
          simp only [failed, if_true] at result
          exact .inl ⟨.inr rfl, fun _ => result.1, result.2⟩
      | false =>
          simp only [failed, Bool.false_eq_true, if_false, List.nil_append] at result
          obtain ⟨lines?, start, done, extracted, assembled, used⟩ := result
          exact .inr ⟨view, lines?, start, done, rfl, rfl, extracted, assembled, used⟩

/-- A run of a view that returns has lines to show, so that one of their gutters is the widest.  It
counts as a success exactly if there is such a view and the tool did not fail; then it has used the
view once, on the tool's output, and shows what the view answered, if that is anything.  Otherwise
it has used no view, and would be the same with other views of the same names. -/
theorem Registry.runView_uses (registry : Registry) (name : String) (tool : ToolRun)
    (context : Context) (before after : Journal) (outcome : Outcome)
    (returned : (registry.runView name tool context).run before = (.ok outcome, after)) :
    outcome.lines ≠ [] ∧
      ((∃ width, outcome.gutterWidth? = some width) ∧ outcome.text ≠ .error .noLines) ∧
      (outcome.succeeded = true ↔
        (registry.lookup? name).isSome ∧ tool.exitCode? = some 0 ∧ tool.timedOut = false) ∧
      ∃ uses,
        ((registry.runWatched name tool context).run []).run before =
          (.ok (outcome, uses), after) ∧
        (∀ view, registry.lookup? name = some view → tool.failed = false →
          ∃ lines? start done,
            (view.extract { context with sink := .scoped [.text view.name] context.sink }
              tool.stdout).run start = (.ok lines?, done) ∧
            uses = [⟨tool.stdout, lines?⟩] ∧
            outcome.lines =
              if lines?.getD [] = [] then [⟨context.config.failureText, none⟩]
              else lines?.getD []) ∧
        (registry.lookup? name = none ∨ tool.failed = true →
          uses = [] ∧ outcome.lines = [⟨context.config.failureText, none⟩] ∧
            ∀ other : Registry, other.names = registry.names →
              (other.lookup? name).map View.name = (registry.lookup? name).map View.name →
              other.runView name tool context = registry.runView name tool context) := by
  -- Without the list of uses the watched run is the run, so it returns the same.
  rw [← registry.map_fst_runWatched name tool context []] at returned
  obtain ⟨⟨_, uses⟩, watched, rfl⟩ := run_map_eq_ok returned
  rw [← ToolRun.failed_eq_false_iff]
  obtain ⟨unused, -, rfl, rfl⟩ | ⟨view, lines?, start, done, found, succeeded, extracted, rfl, rfl⟩ :=
    Registry.runWatched_returned watched
  · have nonempty := Outcome.ofLines_ne_nil none false context.config.failureText
    refine ⟨nonempty, Outcome.exists_width nonempty, ?_, [], watched, ?_, ?_⟩
    · rw [Outcome.ofLines_none]
      rcases unused with unknown | failed
      · simp [unknown]
      · simp [failed]
    · intro view found succeeded
      rcases unused with unknown | failed
      · rw [unknown] at found
        cases found
      · rw [failed] at succeeded
        cases succeeded
    · intro _
      refine ⟨rfl, by rw [Outcome.ofLines_none, failureLines], ?_⟩
      intro other names viewName
      exact Registry.runView_eq_of_unused unused names viewName context
  · have nonempty := Outcome.ofLines_ne_nil lines? true context.config.failureText
    refine ⟨nonempty, Outcome.exists_width nonempty, ?_, _, watched, ?_, ?_⟩
    · simp [Outcome.ofLines_true, found, succeeded]
    · intro other again _
      obtain rfl : view = other := Option.some.inj (found.symm.trans again)
      exact ⟨lines?, start, done, extracted, rfl, by rw [Outcome.ofLines_true, failureLines]⟩
    · rintro (unknown | failed)
      · rw [found] at unknown
        cases unknown
      · rw [succeeded] at failed
        cases failed

def View.echo : View where
  name := "echo"
  description := "the output as it is"
  extract := fun _ text => return some [⟨text, none⟩]

theorem Registry.runView_uses_echo :
    (Registry.runView ⟨[("echo", View.echo)]⟩ "echo" { exitCode? := some 0, stdout := "a" }
        ⟨.default, none, .nowhere⟩).run Journal.empty =
      (.ok ⟨[⟨"a", none⟩], true⟩, Journal.empty) ∧
    ∃ lines?,
      ((Registry.runWatched ⟨[("echo", View.echo)]⟩ "echo" { exitCode? := some 0, stdout := "a" }
          ⟨.default, none, .nowhere⟩).run []).run Journal.empty =
        (.ok (⟨[⟨"a", none⟩], true⟩, [⟨"a", lines?⟩]), Journal.empty) := by
  have returned : (Registry.runView ⟨[("echo", View.echo)]⟩ "echo"
      { exitCode? := some 0, stdout := "a" } ⟨.default, none, .nowhere⟩).run Journal.empty =
        (.ok ⟨[⟨"a", none⟩], true⟩, Journal.empty) := rfl
  obtain ⟨-, -, -, uses, watched, used, -⟩ := Registry.runView_uses _ _ _ _ _ _ _ returned
  obtain ⟨lines?, _, _, -, rfl, -⟩ := used View.echo rfl rfl
  exact ⟨returned, lines?, watched⟩

end LineMap
