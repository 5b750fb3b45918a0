import LineMap.Proofs.Diagnostics.Logged
import LineMap.Proofs.View.Invocation
import LineMap.Proofs.View.Traces
import Mathlib.Data.List.Count
import Mathlib.Data.List.Nodup

/-!
# What a run of a view says of its shortcomings

Where the failure text stands for the output, one report says why; where it does not, there is no
such report.  A view says what it lacked exactly if it lacked it.  Nothing else that a run of a view
reports is graver than information.
-/

set_option autoImplicit false

namespace LineMap

open LineMap.Diagnostics
open LineMap.Listing
open LineMap.Text

/-! ## What a view may lack -/

/-- What one of the views may do without: a symbol table, the marker in a dump, the assembly section
in a transcript. -/
inductive Lack where
  | table
  | marker
  | assembly
deriving DecidableEq

namespace Lack

def all : List Lack :=
  [.table, .marker, .assembly]

def viewName : Lack → String
  | .table => "bytecode"
  | .marker => "ir"
  | .assembly => "asm"

def level : Lack → Level
  | .table => .hint
  | .marker => .warning
  | .assembly => .error

def identifier : Lack → String
  | .table => "no-symbol-table"
  | .marker => "ir-marker-not-found"
  | .assembly => "asm-section-not-found"

/-- No table is at hand, or the search of the extraction itself finds nothing. -/
def Occurs (context : Context) (text : String) : Lack → Prop
  | .table => context.symbols? = none
  | .marker => IrDump.finalText context.config.finalMarker context.config.unitKinds text = none
  | .assembly =>
      AsmSection.bounds? (lineCells text.toList) context.config.startMarker
        context.config.endMarker = none

instance (context : Context) (text : String) (lack : Lack) :
    Decidable (lack.Occurs context text) := by
  cases lack <;> exact inferInstanceAs (Decidable (_ = none))

end Lack

def lacks (name : String) (context : Context) (text : String) : List Lack :=
  Lack.all.filter fun lack => name = lack.viewName ∧ lack.Occurs context text

def Lack.heading (lack : Lack) : Heading :=
  ⟨lack.level, some lack.identifier⟩

/-- The test for the marker is the search for it, made once more. -/
theorem Listing.IrDump.hasMarker_eq (marker : String) (kinds : List String) (text : String) :
    IrDump.hasMarker marker text = (IrDump.finalText marker kinds text).isSome := by
  rw [IrDump.finalText, Option.isSome_map, IrDump.finalCells_isSome]

theorem Listing.AsmSection.extract?_isNone (startMarker endMarker : String) (includeStart : Bool)
    (text : String) :
    (AsmSection.extract? startMarker endMarker includeStart text).isNone =
      (AsmSection.bounds? (lineCells text.toList) startMarker endMarker).isNone := by
  rw [AsmSection.extract?, Option.isNone_map]

theorem View.logs_extract {view : View}
    (listed : view ∈ [View.annotated, View.bytecode, View.ir, View.asm]) (context : Context)
    (text : String) :
    ∃ answer, Logs (view.extract context text) answer
      (context.sink.kept ((lacks view.name context text).map Lack.heading)) := by
  simp only [List.mem_cons, List.not_mem_nil, or_false] at listed
  rcases listed with rfl | rfl | rfl | rfl
  · have none : lacks annotated.name context text = [] := by
      simp [lacks, Lack.all, Lack.viewName, annotated]
    rw [none, List.map_nil, Sink.kept_nil]
    exact ⟨_, .attempt _⟩
  · have one : lacks bytecode.name context text =
        if context.symbols? = none then [.table] else [] := by
      simp [lacks, Lack.all, Lack.viewName, Lack.Occurs, bytecode, List.filter_cons]
    rw [one]
    simp only [bytecode]
    cases context.symbols? with
    | some table =>
        simp only [reduceCtorEq, if_false, List.map_nil, Sink.kept_nil]
        exact ⟨_, .pure _⟩
    | none =>
        exact ⟨_, (Logs.report context.sink (Draft.announces_bare _ _ _)).bind_pure⟩
  · have one : lacks ir.name context text =
        if IrDump.hasMarker context.config.finalMarker text then [] else [.marker] := by
      simp [lacks, Lack.all, Lack.viewName, Lack.Occurs, ir, List.filter_cons,
        IrDump.hasMarker_eq _ context.config.unitKinds text, Option.isSome_iff_ne_none]
    rw [one]
    simp only [ir]
    cases IrDump.hasMarker context.config.finalMarker text with
    | true =>
        rw [if_pos rfl, List.map_nil, Sink.kept_nil]
        exact ⟨_, .pure _⟩
    | false =>
        exact ⟨_, (Logs.report context.sink (Draft.announces_bare _ _ _)).bind_pure⟩
  · have one : lacks asm.name context text =
        if (AsmSection.extract? context.config.startMarker context.config.endMarker
          context.config.includeStart text).isNone then [.assembly] else [] := by
      simp [lacks, Lack.all, Lack.viewName, Lack.Occurs, asm, List.filter_cons,
        AsmSection.extract?_isNone]
    rw [one]
    simp only [asm]
    cases AsmSection.extract? context.config.startMarker context.config.endMarker
        context.config.includeStart text with
    | some lines =>
        simp only [Option.isNone_some, Bool.false_eq_true, if_false, List.map_nil, Sink.kept_nil]
        exact ⟨_, .pure _⟩
    | none =>
        exact ⟨_, (Logs.report context.sink (Draft.announces_bare _ _ _)).bind_pure⟩

/-! ## The headings of a run's reports -/

def ToolRun.timeHeadings (tool : ToolRun) : List Heading :=
  tool.execTime?.toList.map fun _ => ⟨.detail, none⟩

def ToolRun.failureHeadings (tool : ToolRun) : List Heading :=
  ⟨.warning, some (if tool.timedOut then "tool-timed-out" else "tool-failed")⟩ ::
    if (trim tool.stderr).isEmpty then [] else [⟨.info, some "tool-stderr"⟩]

def extractionHeading (lines : List OutputLine) : Heading :=
  if lines = [] then ⟨.warning, some "no-output-lines"⟩ else ⟨.detail, none⟩

/-- The headings of all reports of a run in which the view gave these lines, if it was used. -/
def runHeadings (name : String) (tool : ToolRun) (context : Context) (own : List OutputLine) :
    List Heading :=
  if Registry.builtin.lookup? name = none then [⟨.error, some "unknown-view"⟩]
  else
    tool.timeHeadings ++
      if tool.failed then tool.failureHeadings
      else (lacks name context tool.stdout).map Lack.heading ++ [extractionHeading own]

theorem announces_timeReport (tool : ToolRun) :
    List.Forall₂ Draft.Announces tool.timeReport tool.timeHeadings := by
  have low : Level.detail.number < Level.info.number := by decide
  rw [ToolRun.timeReport, ToolRun.timeHeadings]
  cases tool.execTime? with
  | none => exact .nil
  | some seconds => exact .cons (Draft.announces_plain low _ [] (List.forall_mem_nil _)) .nil

theorem announces_failureReports {tool : ToolRun} {reports : List Draft}
    (given : tool.failureReports? = some reports) :
    List.Forall₂ Draft.Announces reports tool.failureHeadings := by
  obtain ⟨cause, found, rfl⟩ := Option.map_eq_some_iff.mp given
  have announced : cause.Announces
      ⟨.warning, some (if tool.timedOut then "tool-timed-out" else "tool-failed")⟩ := by
    rw [ToolRun.cause?] at found
    split at found
    next timedOut =>
      cases found
      rw [if_pos timedOut]
      exact Draft.announces_bare _ _ _
    next inTime =>
      obtain ⟨code, -, rfl⟩ := Option.map_eq_some_iff.mp found
      rw [if_neg inTime]
      exact Draft.announces_bare _ _ _
  simp only [ToolRun.complaintReport, ToolRun.failureHeadings]
  cases (trim tool.stderr).isEmpty with
  | true => exact .cons announced .nil
  | false => exact .cons announced (.cons (Draft.announces_bare _ _ _) .nil)

theorem announces_extractionReport (lines? : Option (List OutputLine)) :
    (extractionReport lines?).Announces (extractionHeading (lines?.getD [])) := by
  have low : Level.detail.number < Level.info.number := by decide
  match lines? with
  | none => exact Draft.announces_bare _ _ _
  | some [] => exact Draft.announces_bare _ _ _
  | some (first :: rest) => exact Draft.announces_plain low _ [] (List.forall_mem_nil _)

theorem logs_reportAll (sink : Sink) {drafts : List Draft} {headings : List Heading}
    (announce : List.Forall₂ Draft.Announces drafts headings) :
    Logs (reportAll sink.report drafts) (.ok ()) (sink.kept headings) := by
  induction announce with
  | nil =>
      rw [Sink.kept_nil]
      exact .pure ()
  | @cons draft heading others more first _ inductionHypothesis =>
      rw [reportAll, ← List.singleton_append, Sink.kept_append]
      exact (Logs.report sink first).bind inductionHypothesis

namespace Registry

theorem logs_runView_of_unused {name : String} {tool : ToolRun} (context : Context)
    (unused : builtin.lookup? name = none ∨ tool.failed = true)
    (explained : builtin.lookup? name ≠ none → tool.failureReports?.isSome) :
    ∃ answer, Logs (builtin.runView name tool context) answer
      (context.sink.kept (runHeadings name tool context [])) := by
  rw [runView, runHeadings]
  cases found : builtin.lookup? name with
  | none =>
      simp only [if_true]
      exact ⟨_, (Logs.report context.sink (Draft.announces_bare _ _ _)).bind_pure⟩
  | some view =>
      have failed : tool.failed = true := unused.resolve_left (by rw [found]; simp)
      obtain ⟨reports, given⟩ := Option.isSome_iff_exists.mp (explained (by rw [found]; simp))
      have time := logs_reportAll (.scoped [.text view.name] context.sink)
        (announces_timeReport tool)
      have failure := logs_reportAll (.scoped [.text view.name] context.sink)
        (announces_failureReports given)
      simp only [assemble, failed, if_true, reduceCtorEq, if_false, given, Sink.kept_append]
      exact ⟨_, time.bind failure.bind_pure⟩

theorem logs_runView_of_used {name : String} {tool : ToolRun} {context : Context} {view : View}
    {lines? : Option (List OutputLine)} {start done : Journal}
    (found : builtin.lookup? name = some view) (succeeded : tool.failed = false)
    (extracted : (view.extract { context with sink := .scoped [.text view.name] context.sink }
      tool.stdout).run start = (.ok lines?, done)) :
    ∃ answer, Logs (builtin.runView name tool context) answer
      (context.sink.kept (runHeadings name tool context (lines?.getD []))) := by
  obtain ⟨listed, rfl⟩ := of_lookup_builtin found
  obtain ⟨answer, extraction⟩ := View.logs_extract listed
    { context with sink := .scoped [.text view.name] context.sink } tool.stdout
  obtain rfl := extraction.eq_of_run extracted
  have time := logs_reportAll (.scoped [.text view.name] context.sink) (announces_timeReport tool)
  have report := Logs.report (.scoped [.text view.name] context.sink)
    (announces_extractionReport lines?)
  rw [runView, runHeadings]
  simp only [found, assemble, succeeded, Bool.false_eq_true, reduceCtorEq, if_false,
    Sink.kept_append]
  exact ⟨_, time.bind (extraction.bind report.bind_pure)⟩

end Registry

/-! ## The identifiers -/

/-- The identifiers of the reports that say why the failure text stands for the output. -/
def standInCauses : List String :=
  ["unknown-view", "tool-timed-out", "tool-failed", "no-output-lines"]

/-- Why the failure text stands for the output of a run, if it does. -/
def standInCause (name : String) (tool : ToolRun) : String :=
  if Registry.builtin.lookup? name = none then "unknown-view"
  else if tool.timedOut then "tool-timed-out"
  else if tool.failed then "tool-failed"
  else "no-output-lines"

/-- A heading that is no graver than information or has one of the known identifiers. -/
def IsExplained (heading : Heading) : Prop :=
  Level.hint.number ≤ heading.level.number →
    ∃ identifier ∈ standInCauses ++ Lack.all.map Lack.identifier,
      heading.identifier? = some identifier

instance (heading : Heading) : Decidable (IsExplained heading) :=
  inferInstanceAs (Decidable (_ → _))

theorem isExplained_runHeadings (name : String) (tool : ToolRun) (context : Context)
    (own : List OutputLine) :
    ∀ heading ∈ runHeadings name tool context own, IsExplained heading := by
  have time : ∀ heading ∈ tool.timeHeadings, IsExplained heading := by
    intro heading member
    obtain ⟨_, -, rfl⟩ := List.mem_map.mp member
    decide
  have failure : ∀ heading ∈ tool.failureHeadings, IsExplained heading := by
    unfold ToolRun.failureHeadings
    cases tool.timedOut <;> cases (trim tool.stderr).isEmpty <;> decide
  have lacking : ∀ heading ∈ (lacks name context tool.stdout).map Lack.heading,
      IsExplained heading := by
    intro heading member
    obtain ⟨lack, -, rfl⟩ := List.mem_map.mp member
    cases lack <;> decide
  have extraction : IsExplained (extractionHeading own) := by
    unfold extractionHeading
    split <;> decide
  unfold runHeadings
  split
  · decide
  · refine List.forall_mem_append.mpr ⟨time, ?_⟩
    split
    · exact failure
    · exact List.forall_mem_append.mpr ⟨lacking, List.forall_mem_singleton.mpr extraction⟩

/-- What a run reports to lack, which it can only if a view is used. -/
def lacking (name : String) (tool : ToolRun) (context : Context) : List Lack :=
  if tool.failed then [] else lacks name context tool.stdout

theorem lacks_eq_nil_of_unknown {name : String} (unknown : Registry.builtin.lookup? name = none)
    (context : Context) (text : String) : lacks name context text = [] := by
  refine List.filter_eq_nil_iff.mpr fun lack _ holds => ?_
  obtain ⟨rfl, -⟩ := of_decide_eq_true holds
  cases lack <;> cases unknown

/-- The identifiers of a run's reports: what was lacking, why the failure text stands for the
output, if it does, and what the tool itself complained of. -/
theorem identifiers_runHeadings {name : String} {tool : ToolRun} (context : Context)
    {own : List OutputLine}
    (unused : Registry.builtin.lookup? name = none ∨ tool.failed = true → own = []) :
    ∃ complaint ⊆ ["tool-stderr"],
      (runHeadings name tool context own).filterMap Heading.identifier? =
        (lacking name tool context).map Lack.identifier ++
          ((if own = [] then [standInCause name tool] else []) ++ complaint) := by
  have time : tool.timeHeadings.filterMap Heading.identifier? = [] := by
    rw [ToolRun.timeHeadings, List.filterMap_map]
    exact List.filterMap_eq_nil_iff.mpr fun _ _ => rfl
  have lack : ∀ lacks : List Lack,
      (lacks.map Lack.heading).filterMap Heading.identifier? = lacks.map Lack.identifier := by
    intro lacks
    rw [List.filterMap_map]
    exact congrFun List.filterMap_eq_map lacks
  rw [runHeadings, lacking, standInCause]
  by_cases unknown : Registry.builtin.lookup? name = none
  · rw [unused (.inl unknown), lacks_eq_nil_of_unknown unknown]
    exact ⟨[], by simp, by simp [unknown]⟩
  · cases failed : tool.failed with
    | true =>
        rw [unused (.inr failed)]
        refine ⟨if (trim tool.stderr).isEmpty then [] else ["tool-stderr"], by split <;> simp, ?_⟩
        simp only [unknown, if_true, if_false, List.filterMap_append, time,
          ToolRun.failureHeadings, List.map_nil, List.nil_append, List.singleton_append]
        cases (trim tool.stderr).isEmpty <;> rfl
    | false =>
        have inTime : tool.timedOut = false := (ToolRun.failed_eq_false_iff.mp failed).2
        refine ⟨[], by simp, ?_⟩
        by_cases nothing : own = []
        · simp [unknown, time, lack, extractionHeading, nothing, inTime]
        · simp [unknown, time, lack, extractionHeading, nothing]

theorem filter_standInCauses (lacks : List Lack) (causes : List String)
    (known : causes ⊆ standInCauses) {complaint : List String}
    (others : complaint ⊆ ["tool-stderr"]) :
    (lacks.map Lack.identifier ++ (causes ++ complaint)).filter standInCauses.contains =
      causes := by
  have none : (lacks.map Lack.identifier).filter standInCauses.contains = [] := by
    refine List.filter_eq_nil_iff.mpr fun identifier member => ?_
    obtain ⟨lack, -, rfl⟩ := List.mem_map.mp member
    cases lack <;> decide
  have all : causes.filter standInCauses.contains = causes :=
    List.filter_eq_self.mpr fun cause member => List.contains_iff_mem.mpr (known member)
  have noComplaint : complaint.filter standInCauses.contains = [] := by
    refine List.filter_eq_nil_iff.mpr fun identifier member => ?_
    obtain rfl := List.mem_singleton.mp (others member)
    decide
  rw [List.filter_append, List.filter_append, none, all, noComplaint, List.nil_append,
    List.append_nil]

theorem count_identifier (lacks : List Lack) (distinct : lacks.Nodup) {causes : List String}
    (known : causes ⊆ standInCauses) {complaint : List String}
    (others : complaint ⊆ ["tool-stderr"]) (lack : Lack) :
    (lacks.map Lack.identifier ++ (causes ++ complaint)).count lack.identifier =
      if lack ∈ lacks then 1 else 0 := by
  have injective : Function.Injective Lack.identifier := by
    intro left right same
    cases left <;> cases right <;> first | rfl | exact absurd same (by decide)
  have noCause : causes.count lack.identifier = 0 := by
    refine List.count_eq_zero.mpr fun member => ?_
    have listed := known member
    cases lack <;> exact absurd listed (by decide)
  have noComplaint : complaint.count lack.identifier = 0 := by
    refine List.count_eq_zero.mpr fun member => ?_
    have listed := others member
    cases lack <;> exact absurd listed (by decide)
  rw [List.count_append, List.count_append, noCause, noComplaint,
    List.count_map_of_injective lacks Lack.identifier injective, List.Nodup.count distinct,
    Nat.add_zero]

theorem mem_lacking_iff (lack : Lack) (name : String) (tool : ToolRun) (context : Context) :
    lack ∈ lacking name tool context ↔
      tool.failed = false ∧ name = lack.viewName ∧ lack.Occurs context tool.stdout := by
  have listed : lack ∈ Lack.all := by cases lack <;> decide
  cases failed : tool.failed <;> simp [lacking, lacks, failed, listed]

theorem nodup_lacking (name : String) (tool : ToolRun) (context : Context) :
    (lacking name tool context).Nodup := by
  rw [lacking]
  split
  · exact List.nodup_nil
  · exact List.Nodup.filter _ (by decide)

/-- The lines that views gave in a run. -/
def ownLines (uses : List Use) : List OutputLine :=
  uses.flatMap fun use => use.lines?.getD []

theorem ownLines_singleton (text : String) (lines? : Option (List OutputLine)) :
    ownLines [⟨text, lines?⟩] = lines?.getD [] := by
  simp [ownLines]

def identifiers (records : List Record) : List String :=
  records.filterMap Record.identifier?

/-- What a run of a view that returns has shown and how its reports are headed. -/
theorem Registry.runView_returned {name : String} {tool : ToolRun} {context : Context}
    {before after : Journal} {outcome : Outcome}
    (returned : (builtin.runView name tool context).run before = (.ok outcome, after)) :
    ∃ uses, ((builtin.runWatched name tool context).run []).run before =
        (.ok (outcome, uses), after) ∧
      outcome.lines = (if ownLines uses = [] then failureLines context.config.failureText
        else ownLines uses) ∧
      (builtin.lookup? name = none ∨ tool.failed = true → ownLines uses = []) ∧
      ∃ answer, Logs (builtin.runView name tool context) answer
        (context.sink.kept (runHeadings name tool context (ownLines uses))) := by
  have again := returned
  rw [← builtin.map_fst_runWatched name tool context []] at again
  obtain ⟨⟨_, uses⟩, watched, rfl⟩ := run_map_eq_ok again
  refine ⟨uses, watched, ?_⟩
  obtain ⟨unused, explained, rfl, rfl⟩ |
      ⟨view, lines?, start, done, found, succeeded, extracted, rfl, rfl⟩ :=
    runWatched_returned watched
  · have none : ownLines [] = [] := rfl
    rw [none, Outcome.ofLines_none]
    exact ⟨rfl, fun _ => rfl, logs_runView_of_unused context unused explained⟩
  · rw [ownLines_singleton, Outcome.ofLines_true]
    refine ⟨rfl, ?_, logs_runView_of_used found succeeded extracted⟩
    rintro (unknown | failed)
    · cases found.symm.trans unknown
    · cases succeeded.symm.trans failed

/-- A run of a view that returns shows the lines that the view gave, if there are any, and then
makes no report that output is missing.  Otherwise it shows the failure text and makes exactly one
such report, which names the reason.  What a view lacked is reported once if the view was used and
lacked it, and not at all otherwise; and no other report is graver than information.  Every journal
gets the records of these reports, as far as they reach its threshold. -/
theorem Registry.runView_degradation (name : String) (tool : ToolRun) (context : Context)
    (before after : Journal) (outcome : Outcome) (recording : context.sink.records = true)
    (returned : (builtin.runView name tool context).run before = (.ok outcome, after)) :
    ∃ logged uses,
      (∀ journal, ((builtin.runView name tool context).run journal).2.records =
        journal.records ++ emittedAt journal.threshold logged) ∧
      ((builtin.runWatched name tool context).run []).run before =
        (.ok (outcome, uses), after) ∧
      outcome.lines = (if ownLines uses = [] then [⟨context.config.failureText, none⟩]
        else ownLines uses) ∧
      (identifiers logged).filter standInCauses.contains =
        (if ownLines uses = [] then [standInCause name tool] else []) ∧
      (∀ lack : Lack, (identifiers logged).count lack.identifier =
        if tool.failed = false ∧ name = lack.viewName ∧ lack.Occurs context tool.stdout
        then 1 else 0) ∧
      ∀ record ∈ logged, (∃ level : Level, record.level = level.number) ∧
        (Level.hint.number ≤ record.level →
          ∃ identifier ∈ standInCauses ++ Lack.all.map Lack.identifier,
            record.identifier? = some identifier) := by
  obtain ⟨uses, watched, shown, unused, answer, logs⟩ := runView_returned returned
  obtain ⟨logged, recorded, headed⟩ := logs.exists_logged
  rw [Sink.kept, if_pos recording] at headed
  have known : (if ownLines uses = [] then [standInCause name tool] else []) ⊆ standInCauses := by
    unfold standInCause
    split_ifs <;> decide
  obtain ⟨complaint, others, listed⟩ := identifiers_runHeadings context unused
  have written : identifiers logged = (lacking name tool context).map Lack.identifier ++
      ((if ownLines uses = [] then [standInCause name tool] else []) ++ complaint) := by
    rw [← listed, identifiers]
    have seconds := congrArg (List.filterMap Prod.snd) headed
    rw [List.filterMap_map, List.filterMap_map] at seconds
    exact seconds
  refine ⟨logged, uses, recorded, watched, shown, ?_, ?_, ?_⟩
  · rw [written, filter_standInCauses _ _ known others]
  · intro lack
    rw [written, count_identifier _ (nodup_lacking name tool context) known others]
    exact if_congr (mem_lacking_iff lack name tool context) rfl rfl
  · intro record member
    have pair : (record.level, record.identifier?) ∈ (runHeadings name tool context
        (ownLines uses)).map fun heading => (heading.level.number, heading.identifier?) := by
      rw [← headed]
      exact List.mem_map.mpr ⟨record, member, rfl⟩
    obtain ⟨heading, listed, same⟩ := List.mem_map.mp pair
    obtain ⟨sameLevel, sameIdentifier⟩ := Prod.mk.inj same
    rw [← sameLevel, ← sameIdentifier]
    exact ⟨⟨_, rfl⟩, isExplained_runHeadings name tool context (ownLines uses) heading listed⟩

/-- In a transcript whose end marker stands before the start marker there is no section: that is
reported, and that the failure text stands for the output, too. -/
theorem Registry.runView_degradation_transcript :
    Sink.records .journal = true ∧
      ∃ after, (builtin.runView "asm"
          { exitCode? := some 0, stdout := "Finished\n;; ASM: Virtual abstract program\nnoop" }
          ⟨.default, none, .journal⟩).run Journal.empty =
        (.ok ⟨[⟨"<Compilation failed>", none⟩], true⟩, after) ∧
      (identifiers after.records).filter standInCauses.contains = ["no-output-lines"] ∧
      (identifiers after.records).count "asm-section-not-found" = 1 ∧
      (identifiers after.records).count "ir-marker-not-found" = 0 := by
  have returned : ∃ after, (builtin.runView "asm"
      { exitCode? := some 0, stdout := "Finished\n;; ASM: Virtual abstract program\nnoop" }
      ⟨.default, none, .journal⟩).run Journal.empty =
        (.ok ⟨[⟨"<Compilation failed>", none⟩], true⟩, after) :=
    ⟨_, rfl⟩
  obtain ⟨after, returned⟩ := returned
  obtain ⟨logged, uses, recorded, watched, -, causes, lacking, named⟩ :=
    runView_degradation _ _ _ _ _ _ rfl returned
  have used : uses =
      [⟨"Finished\n;; ASM: Virtual abstract program\nnoop", none⟩] := by
    have answer := congrArg Prod.fst watched
    exact (Prod.mk.inj (Except.ok.inj answer)).2.symm
  have all : after.records = logged := by
    have here := recorded Journal.empty
    rw [returned] at here
    exact here.trans (emittedAt_debug fun record member => (named record member).1)
  rw [used] at causes
  refine ⟨rfl, after, returned, ?_, ?_, ?_⟩
  · rw [all]
    exact causes
  · rw [all]
    exact lacking .assembly
  · rw [all]
    exact lacking .marker

end LineMap
