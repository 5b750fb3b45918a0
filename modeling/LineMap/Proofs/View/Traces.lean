import LineMap.Proofs.Diagnostics.Orderly
import LineMap.Proofs.View.Registries

/-!
# What a view's run is put together from

The extraction of each view that comes with the tool is orderly, and so is the run of a view by its
name, however many scopes lie above it.
-/

set_option autoImplicit false

namespace LineMap

open LineMap.Diagnostics

theorem orderly_reportAll {sink : Sink} (textual : sink.IsTextual) {drafts : List Draft}
    (proper : ∀ draft ∈ drafts, draft.IsProper) : Orderly (reportAll sink.report drafts) := by
  induction drafts with
  | nil => exact .pure ()
  | cons draft others inductionHypothesis =>
      obtain ⟨first, later⟩ := List.forall_mem_cons.mp proper
      exact (Orderly.report textual first).bind fun _ => inductionHypothesis later

theorem ToolRun.isProper_timeReport (tool : ToolRun) :
    ∀ draft ∈ tool.timeReport, draft.IsProper := by
  intro draft member
  obtain ⟨seconds, -, rfl⟩ := List.mem_map.mp member
  exact Draft.isProper_plain (by decide) _ (List.forall_mem_nil _)

theorem ToolRun.isProper_failureReports {tool : ToolRun} {reports : List Draft}
    (given : tool.failureReports? = some reports) : ∀ draft ∈ reports, draft.IsProper := by
  have bare (level : Level) (identifier message : String) :
      (Draft.coded level identifier message []).IsProper :=
    Draft.isProper_coded _ _ _ (List.forall_mem_nil _)
  obtain ⟨cause, found, rfl⟩ := Option.map_eq_some_iff.mp given
  refine List.forall_mem_cons.mpr ⟨?_, ?_⟩
  · rw [cause?] at found
    split at found
    · cases found
      exact bare _ _ _
    · obtain ⟨code, -, rfl⟩ := Option.map_eq_some_iff.mp found
      exact bare _ _ _
  · rw [complaintReport]
    split
    · exact List.forall_mem_nil _
    · exact List.forall_mem_singleton.mpr (bare _ _ _)

theorem isProper_extractionReport (lines? : Option (List OutputLine)) :
    (extractionReport lines?).IsProper := by
  unfold extractionReport
  split
  · exact Draft.isProper_plain (by decide) _ (List.forall_mem_nil _)
  · exact Draft.isProper_coded _ _ _ (List.forall_mem_nil _)

theorem orderly_assemble (tool : ToolRun) {extract : String → Run (Option (List OutputLine))}
    {sink : Sink} (textual : sink.IsTextual) (extracts : ∀ text, Orderly (extract text))
    (failureText : String) : Orderly (assemble tool extract sink.report failureText) := by
  unfold assemble
  refine (orderly_reportAll textual tool.isProper_timeReport).bind fun _ => ?_
  split
  · cases given : tool.failureReports? with
    | none => exact .throw .unwritable rfl
    | some reports =>
        refine (orderly_reportAll textual (ToolRun.isProper_failureReports given)).bind fun _ => ?_
        exact .pure _
  · refine (extracts tool.stdout).bind fun lines? => ?_
    refine (Orderly.report textual (isProper_extractionReport lines?)).bind fun _ => ?_
    exact .pure _

def View.IsOrderly (view : View) : Prop :=
  ∀ context : Context, context.sink.IsTextual → ∀ text, Orderly (view.extract context text)

namespace View

theorem isOrderly_annotated : annotated.IsOrderly := fun _ _ _ =>
  .attempt_mapError _ fun _ => rfl

theorem isOrderly_bytecode : bytecode.IsOrderly := by
  intro context textual text
  simp only [bytecode]
  split
  · exact .pure _
  · refine (Orderly.coded textual _ _ _ (List.forall_mem_nil _)).bind fun _ => ?_
    exact .pure _

theorem isOrderly_ir : ir.IsOrderly := by
  intro context textual text
  simp only [ir]
  split
  · refine (Orderly.coded textual _ _ _ (List.forall_mem_nil _)).bind fun _ => ?_
    exact .pure _
  · exact .pure _

theorem isOrderly_asm : asm.IsOrderly := by
  intro context textual text
  simp only [asm]
  split
  · refine (Orderly.coded textual _ _ _ (List.forall_mem_nil _)).bind fun _ => ?_
    exact .pure _
  · exact .pure _

end View

namespace Registry

theorem isOrderly_of_lookup {name : String} {view : View}
    (found : builtin.lookup? name = some view) : view.IsOrderly := by
  have member := mem_of_lookup_builtin found
  simp only [List.mem_cons, List.not_mem_nil, or_false] at member
  rcases member with rfl | rfl | rfl | rfl
  · exact View.isOrderly_annotated
  · exact View.isOrderly_bytecode
  · exact View.isOrderly_ir
  · exact View.isOrderly_asm

theorem orderly_runView (name : String) (tool : ToolRun) {context : Context}
    (textual : context.sink.IsTextual) : Orderly (builtin.runView name tool context) := by
  unfold runView
  cases found : builtin.lookup? name with
  | none =>
      refine (Orderly.coded textual _ _ _ (List.forall_mem_nil _)).bind fun _ => ?_
      exact .pure _
  | some view =>
      have inner : (Sink.scoped [.text view.name] context.sink).IsTextual :=
        textual.scoped view.name
      exact orderly_assemble tool inner (isOrderly_of_lookup found _ inner)
        context.config.failureText

end Registry

end LineMap
