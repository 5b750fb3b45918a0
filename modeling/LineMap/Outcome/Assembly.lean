import LineMap.Diagnostics.Fault
import LineMap.Number.Shortest
import LineMap.Text.Blank

/-!
# Assembling outcomes

The outcome always has a line: if the tool failed, or nothing usable was extracted from its output,
one line with the failure text stands for the output.  Whether the outcome counts as a success
depends on the tool alone.
-/

set_option autoImplicit false

namespace LineMap

open LineMap.Diagnostics
open LineMap.Text

def failureLines (failureText : String) : List OutputLine :=
  [⟨failureText, none⟩]

/-- The outcome of a tool that did or did not succeed, from the lines that were extracted. -/
def Outcome.ofLines (lines? : Option (List OutputLine)) (succeeded : Bool)
    (failureText : String) : Outcome :=
  match succeeded, lines? with
  | true, some (first :: rest) => ⟨first :: rest, true⟩
  | _, _ => ⟨failureLines failureText, succeeded⟩

theorem Outcome.ofLines_ne_nil (lines? : Option (List OutputLine)) (succeeded : Bool)
    (failureText : String) : (Outcome.ofLines lines? succeeded failureText).lines ≠ [] := by
  unfold Outcome.ofLines
  split <;> simp [failureLines]

namespace ToolRun

def timeReport (run : ToolRun) : List Draft :=
  run.execTime?.toList.map fun seconds =>
    .plain .detail ("the tool ran for " ++ seconds.fixedText 3 ++ "s") []

/-- The report of why the tool failed, unless its exit code cannot be written. -/
def cause? (run : ToolRun) : Option Draft :=
  if run.timedOut then
    some (.coded .warning "tool-timed-out" "the tool timed out, no output to show" [])
  else
    run.exitText?.map fun code =>
      .coded .warning "tool-failed" ("the tool exited with code " ++ code ++ ", no output to show") []

def complaintReport (run : ToolRun) : List Draft :=
  let complaint := trim run.stderr
  if complaint.isEmpty then []
  else [.coded .info "tool-stderr" ("the tool's standard error:\n" ++ complaint) []]

def failureReports? (run : ToolRun) : Option (List Draft) :=
  run.cause?.map fun cause => cause :: run.complaintReport

end ToolRun

def extractionReport (lines? : Option (List OutputLine)) : Draft :=
  match lines? with
  | some (first :: rest) =>
      let lines := first :: rest
      .plain .detail
        ("extracted " ++ toString lines.length ++ " line(s), " ++
          toString (lines.countP fun line => line.source?.isSome) ++ " with source locations")
        []
  | _ =>
      .coded .warning "no-output-lines"
        "the tool succeeded but no output lines were extracted" []

def reportAll {m : Type → Type} [Monad m] (report : Draft → m Unit) : List Draft → m Unit
  | [] => pure ()
  | draft :: rest => do
      report draft
      reportAll report rest

/-- Extracts the lines of a tool's output, unless the tool failed, and assembles the outcome. -/
def assemble {m : Type → Type} [Monad m] [MonadExcept Fault m] (run : ToolRun)
    (extract : String → m (Option (List OutputLine))) (report : Draft → m Unit)
    (failureText : String) : m Outcome := do
  reportAll report run.timeReport
  if run.failed then
    match run.failureReports? with
    | none => throw .unwritable
    | some reports => do
        reportAll report reports
        return .ofLines none false failureText
  else
    let lines? ← extract run.stdout
    report (extractionReport lines?)
    return .ofLines lines? true failureText

end LineMap
