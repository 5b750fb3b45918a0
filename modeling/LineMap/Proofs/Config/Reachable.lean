import LineMap.Config.Assign
import LineMap.Config.Load
import LineMap.Proofs.Config.Overlay
import LineMap.Proofs.Diagnostics.Traced

/-!
# Configurations that can be reached

A configuration changes by assignments, by files that are named, and by the user's own file.
However many of these calls are made, with whatever arguments, files and outcome, the configuration
stays valid: each of the three gives valid configurations only, and a call that gives none leaves
what was there.
-/

set_option autoImplicit false

namespace LineMap.Config

open LineMap.Diagnostics
open LineMap.Files
open LineMap.Json
open LineMap.Validation

inductive Call where
  | assign (path : String) (wording : Str) (place? : Option SourceLocation)
  | loadFile (files : FileSystem) (path : Path)
  | loadUserFile (surroundings : Surroundings)

def Call.work (config : Config) (sink : Sink) : Call → Run (Option Config)
  | .assign path wording place? => config.assign? path wording sink place?
  | .loadFile files path => loadFile? files path config sink
  | .loadUserFile surroundings => loadUserFile? surroundings config sink

/-- The configuration and the journal after a call that reports to a sink.  A call that gives no
configuration, or ends in a fault, leaves the configuration as it was. -/
def afterCall (state : Config × Journal) (call : Call × Sink) : Config × Journal :=
  match (call.1.work state.1 call.2).run state.2 with
  | (.ok (some config), after) => (config, after)
  | (_, after) => (state.1, after)

def afterCalls (calls : List (Call × Sink)) (journal : Journal) : Config × Journal :=
  calls.foldl afterCall (default, journal)

/-! ## What the calls give -/

def GivesValid (work : Run (Option Config)) : Prop :=
  ∀ before after config, work.run before = (.ok (some config), after) → config.Valid

namespace GivesValid

theorem none : GivesValid (pure Option.none) := by
  intro before after config gave
  obtain ⟨nothing, -⟩ := run_pure_eq_ok gave
  cases nothing

theorem some {config : Config} (valid : config.Valid) : GivesValid (pure (Option.some config)) := by
  intro before after given gave
  obtain ⟨same, -⟩ := run_pure_eq_ok gave
  cases same
  exact valid

theorem bind {α : Type} {work : Run α} {next : α → Run (Option Config)}
    (later : ∀ a, GivesValid (next a)) : GivesValid (work >>= next) := by
  intro before after config gave
  obtain ⟨a, middle, -, gave⟩ := run_bind_eq_ok gave
  exact later a middle after config gave

end GivesValid

variable {config : Config}

theorem Valid.of_overlay (valid : config.Valid) {document : Payload} {loaded : Config}
    (overlaid : config.overlay document = .ok loaded) : loaded.Valid := by
  rw [overlay_eq valid] at overlaid
  obtain ⟨settings, read, rfl⟩ := Result.map_eq_ok_iff.mp overlaid
  obtain ⟨value, -, made⟩ := Result.bind_eq_ok_iff.mp read
  obtain ⟨-, -, rfl⟩ := (documentSettings_eq_ok_iff .document value settings).mp made
  exact valid.apply fun setting => admits_of_mem_mentioned

theorem Valid.of_assignValue (valid : config.Valid) {path : String} {leaf : Leaf}
    {raw : Value} {assigned : Config}
    (made : config.assignValue path leaf raw = .ok assigned) : assigned.Valid := by
  unfold assignValue at made
  split at made
  next value read =>
    cases made
    exact valid.set (admits_of_readLeaf (Checked.within_eq_ok_iff.mp read))
  next => cases made

theorem givesValid_reportError (sink : Sink) (details : List Detail) (error : AssignError) :
    GivesValid (reportError sink details error) :=
  .bind fun _ => .none

theorem givesValid_reportFileError (sink : Sink) (path : Path) (identifier message : String) :
    GivesValid (reportFileError sink path identifier message) :=
  .bind fun _ => .none

theorem givesValid_assign (valid : config.Valid) (path : String) (wording : Str) (sink : Sink)
    (place? : Option SourceLocation) : GivesValid (config.assign? path wording sink place?) := by
  unfold assign?
  refine .bind fun given? => ?_
  cases given? with
  | none => exact givesValid_reportError sink _ _
  | some given =>
      cases fieldAt path with
      | error error => exact givesValid_reportError sink _ error
      | ok leaf =>
          refine .bind fun _ => ?_
          cases made : config.assignValue path leaf (valueFor leaf wording given) with
          | error error => exact givesValid_reportError sink _ error
          | ok assigned => exact .some (valid.of_assignValue made)

theorem givesValid_loadFile (valid : config.Valid) (files : FileSystem) (path : Path)
    (sink : Sink) : GivesValid (loadFile? files path config sink) := by
  unfold loadFile?
  refine .bind fun _ => .bind fun bytes => ?_
  cases bytes with
  | error error => exact givesValid_reportFileError sink path _ _
  | ok bytes =>
      refine .bind fun text => ?_
      cases overlaid : config.overlay (.text text) with
      | error issues => exact givesValid_reportFileError sink path _ _
      | ok loaded => exact .some (valid.of_overlay overlaid)

theorem givesValid_loadUserFile (valid : config.Valid) (surroundings : Surroundings)
    (sink : Sink) : GivesValid (loadUserFile? surroundings config sink) := by
  unfold loadUserFile?
  refine .bind fun directory? => ?_
  cases directory? with
  | none => exact .none
  | some directory =>
      refine .bind fun found => ?_
      cases found with
      | true => exact givesValid_loadFile valid surroundings.files _ sink
      | false => exact .bind fun _ => .none

theorem Call.givesValid (valid : config.Valid) (sink : Sink) (call : Call) :
    GivesValid (call.work config sink) := by
  cases call with
  | assign path wording place? => exact givesValid_assign valid path wording sink place?
  | loadFile files path => exact givesValid_loadFile valid files path sink
  | loadUserFile surroundings => exact givesValid_loadUserFile valid surroundings sink

/-! ## Sequences of calls -/

theorem valid_afterCall {state : Config × Journal} (valid : state.1.Valid) (call : Call × Sink) :
    (afterCall state call).1.Valid := by
  unfold afterCall
  split
  next given after gave => exact call.1.givesValid valid call.2 state.2 after given gave
  next => exact valid

theorem valid_foldl_afterCall (calls : List (Call × Sink)) {state : Config × Journal}
    (valid : state.1.Valid) : (calls.foldl afterCall state).1.Valid := by
  induction calls generalizing state with
  | nil => exact valid
  | cons call later inductionHypothesis => exact inductionHypothesis (valid_afterCall valid call)

/-- After any calls the markers and the failure text hold something, there is a kind of unit and all
kinds are identifiers, and the primary index is not negative.  Written as a document, the
configuration passes every check and is read back as it is. -/
theorem afterCalls_valid (calls : List (Call × Sink)) (journal : Journal) :
    let config := (afterCalls calls journal).1
    config.finalMarker ≠ "" ∧ config.startMarker ≠ "" ∧ config.endMarker ≠ "" ∧
      config.failureText ≠ "" ∧ config.unitKinds ≠ [] ∧
      (∀ kind ∈ config.unitKinds, Text.isIdentifier kind.toList = true) ∧ 0 ≤ config.primary ∧
      documentSettings .document config.toValue = .ok config.settings := by
  have valid : (afterCalls calls journal).1.Valid := valid_foldl_afterCall calls valid_default
  obtain ⟨kinds, identified⟩ := valid .unitKinds
  exact ⟨valid .finalMarker, valid .startMarker, valid .endMarker, valid .failureText, kinds,
    identified, valid .primary, documentSettings_toValue .document valid⟩

example : (afterCalls [(.assign "asm.end_marker" (.ofString "Done") none, .journal),
    (.assign "asm.end_marker" (.ofString "\"\"") none, .journal)] .empty).1.endMarker = "Done" := by
  decide +kernel

end LineMap.Config
