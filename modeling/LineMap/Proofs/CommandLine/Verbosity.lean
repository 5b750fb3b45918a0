import LineMap.Proofs.CommandLine.Accounts
import LineMap.Proofs.Result

/-!
# Runs at two thresholds

Two journals are related if they count the same and the stricter one keeps those records of the
laxer one that reach its threshold.  Each note leaves two such journals related, so work that is
carried out on both comes to one answer and leaves them related.  So two runs whose arguments differ
in the threshold alone differ in the standard error alone.
-/

set_option autoImplicit false

namespace LineMap

open LineMap.Diagnostics
open LineMap.Files

/-! ## Two journals -/

namespace Diagnostics

theorem emittedAt_emittedAt {strict lax : Int} (laxer : lax ≤ strict) (records : List Record) :
    emittedAt strict (emittedAt lax records) = emittedAt strict records := by
  rw [emittedAt, emittedAt, List.filter_filter]
  refine List.filter_congr fun record _ => ?_
  rw [← Bool.decide_and]
  exact decide_eq_decide.mpr
    ⟨And.left, fun emitted => ⟨emitted, emitted.1, Int.le_trans laxer emitted.2⟩⟩

structure Journal.IsStricter (strict lax : Journal) : Prop where
  laxer : lax.threshold ≤ strict.threshold
  counts : strict.counts = lax.counts
  records : strict.records = emittedAt strict.threshold lax.records

namespace Journal.IsStricter

theorem empty {strict lax : Int} (laxer : lax ≤ strict) :
    (Journal.empty strict).IsStricter (.empty lax) where
  laxer := laxer
  counts := rfl
  records := rfl

/-- One note is emitted in the stricter journal only if it is in the laxer one, and counts in
both. -/
theorem note {strict lax : Journal} (isStricter : strict.IsStricter lax) (note : Note) :
    (strict.extend [note]).IsStricter (lax.extend [note]) where
  laxer := isStricter.laxer
  counts := by simp only [Journal.extend, isStricter.counts]
  records := by
    simp only [Journal.extend, emittedAt_append, ← isStricter.records,
      emittedAt_emittedAt isStricter.laxer]

theorem extend {strict lax : Journal} (isStricter : strict.IsStricter lax) (notes : List Note) :
    (strict.extend notes).IsStricter (lax.extend notes) := by
  induction notes generalizing strict lax with
  | nil => rwa [Journal.extend_nil, Journal.extend_nil]
  | cons first later inductionHypothesis =>
      have both := inductionHypothesis (isStricter.note first)
      rwa [← Journal.extend_append, ← Journal.extend_append] at both

end Journal.IsStricter

/-- Orderly work does the same on two such journals and leaves them so. -/
theorem Orderly.isStricter_run {α : Type} {work : Run α} (orderly : Orderly work)
    {strict lax : Journal} (isStricter : strict.IsStricter lax) :
    (work.run strict).1 = (work.run lax).1 ∧
      (work.run strict).2.IsStricter (work.run lax).2 := by
  obtain ⟨result, notes, traced, -⟩ := orderly.accounted
  rw [traced strict, traced lax]
  exact ⟨rfl, isStricter.extend notes⟩

end Diagnostics

/-! ## Two runs -/

namespace CommandLine

def Arguments.withThreshold (arguments : Arguments) (threshold : Level) : Arguments :=
  { arguments with logLevel := .value threshold }

def journalAt (threshold : Level) (arguments : Arguments) (surroundings : Surroundings) : Journal :=
  ((perform (arguments.withThreshold threshold) surroundings).run (.empty threshold.number)).2

theorem isExact_journalAt (threshold : Level) (arguments : Arguments)
    (surroundings : Surroundings) : (journalAt threshold arguments surroundings).IsExact :=
  (orderly_perform _ _).accounted.isExact_run (Journal.isExact_empty _)

theorem threshold_journalAt (threshold : Level) (arguments : Arguments)
    (surroundings : Surroundings) :
    (journalAt threshold arguments surroundings).threshold = threshold.number :=
  (orderly_perform _ _).accounted.traceable.threshold_run _

/-- The threshold is no part of what a run is asked to do: it stands in the journal only. -/
theorem isStricter_journalAt {strict lax : Level} (laxer : lax.number ≤ strict.number)
    (arguments : Arguments) (surroundings : Surroundings) :
    ((perform (arguments.withThreshold strict) surroundings).run (.empty strict.number)).1 =
        ((perform (arguments.withThreshold lax) surroundings).run (.empty lax.number)).1 ∧
      (journalAt strict arguments surroundings).IsStricter
        (journalAt lax arguments surroundings) :=
  (orderly_perform arguments surroundings).isStricter_run (.empty laxer)

/-- Of two journals with the same counts a run shows the same, but for the records. -/
theorem transcript_congr {arguments other : Arguments} {strict lax : Journal}
    (result : Except Fault (Option Completion)) (sameFormat : arguments.format = other.format)
    (sameHalt : arguments.haltOnError = other.haltOnError) (counts : strict.counts = lax.counts) :
    transcript arguments result strict =
      { transcript other result lax with stderr := written strict.records } := by
  simp only [transcript, exitStatus, sameFormat, sameHalt, counts]

/-- Two runs whose arguments differ in the threshold alone differ in the standard error alone.  Each
writes the records that it emitted, all of which can be written.  Those of the stricter run are
those of the laxer run that reach its threshold, in the same order.  What a level counts is found
among the records that are shown, unless the level stays below the threshold. -/
theorem run_thresholds (words others : List String) (arguments : Arguments)
    (surroundings : Surroundings) (strict lax : Level)
    (strictParsed : parse words = .ok (arguments.withThreshold strict))
    (laxParsed : parse others = .ok (arguments.withThreshold lax))
    (laxer : lax.number ≤ strict.number) :
    let shown := (journalAt lax arguments surroundings).records
    run words surroundings =
        { run others surroundings with stderr := (run words surroundings).stderr } ∧
      (run others surroundings).stderr = written shown ∧
      (run words surroundings).stderr = written (journalAt strict arguments surroundings).records ∧
      (journalAt strict arguments surroundings).records =
        shown.filter (fun record => strict.number ≤ record.level) ∧
      (∀ record ∈ shown, record.misfit? = none) ∧
      ∀ level, lax.number ≤ level.number →
        (run others surroundings).counts level =
          shown.countP fun record => record.countsAs level := by
  intro shown
  obtain ⟨sameAnswer, isStricter⟩ := isStricter_journalAt laxer arguments surroundings
  have isExact := isExact_journalAt lax arguments surroundings
  have laxThreshold := threshold_journalAt lax arguments surroundings
  have strictRun : run words surroundings = transcript (arguments.withThreshold strict)
      ((perform (arguments.withThreshold strict) surroundings).run (.empty strict.number)).1
      (journalAt strict arguments surroundings) := by
    rw [run, strictParsed]
    rfl
  have laxRun : run others surroundings = transcript (arguments.withThreshold lax)
      ((perform (arguments.withThreshold lax) surroundings).run (.empty lax.number)).1
      (journalAt lax arguments surroundings) := by
    rw [run, laxParsed]
    rfl
  rw [strictRun, laxRun, sameAnswer]
  refine ⟨?_, rfl, rfl, ?_, isExact.writable, fun level reaches => ?_⟩
  · exact transcript_congr _ rfl rfl isStricter.counts
  · rw [isStricter.records, threshold_journalAt, emittedAt]
    refine List.filter_congr fun record _ => decide_eq_decide.mpr ⟨And.right, fun reaches => ?_⟩
    exact ⟨Int.lt_of_lt_of_le strict.number_pos reaches, reaches⟩
  · exact isExact.counts level (laxThreshold ▸ reaches)

/-- A refused assignment is written at one threshold and not at the other, and the output is the
same. -/
theorem run_thresholds_refused :
    let words (threshold : Level) := ["--log-level", threshold.name, "--set", "bad", "in.txt"]
    let arguments : Arguments := { assignments := [.value "bad"], filename := "in.txt" }
    let surroundings : Surroundings :=
      { files := Tree.fileSystem [⟨["in.txt"], some [97]⟩], home := "/root", configHome? := none }
    let shown := (journalAt .error arguments surroundings).records
    parse (words .critical) = .ok (arguments.withThreshold .critical) ∧
      parse (words .error) = .ok (arguments.withThreshold .error) ∧
      Level.error.number ≤ Level.critical.number ∧
      (run (words .critical) surroundings).stdout = (run (words .error) surroundings).stdout ∧
      (run (words .error) surroundings).stderr = written shown ∧
      (run (words .critical) surroundings).stderr =
        written (shown.filter fun record => Level.critical.number ≤ record.level) := by
  intro words arguments surroundings shown
  have strictParsed : parse (words .critical) = .ok (arguments.withThreshold .critical) :=
    Result.toOption_eq_some_iff.mp (by decide +kernel)
  have laxParsed : parse (words .error) = .ok (arguments.withThreshold .error) :=
    Result.toOption_eq_some_iff.mp (by decide +kernel)
  have laxer : Level.error.number ≤ Level.critical.number := by decide
  obtain ⟨same, laxShown, strictShown, filtered, -⟩ := run_thresholds _ _ arguments surroundings
    .critical .error strictParsed laxParsed laxer
  refine ⟨strictParsed, laxParsed, laxer, (congrArg Transcript.stdout same :), laxShown, ?_⟩
  rw [strictShown, filtered]

end CommandLine

end LineMap
