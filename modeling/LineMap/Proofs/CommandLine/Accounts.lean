import LineMap.CommandLine.Session
import LineMap.Proofs.View.Traces

/-!
# The records of a whole run

From the search for the user's file to the view, every step of a run is orderly.  So none of its
reports is refused, and the journal of a run is exact, whatever the arguments, the environment and
the files are and however the run ends.
-/

set_option autoImplicit false

namespace LineMap

open LineMap.Diagnostics
open LineMap.Files
open LineMap.Validation

/-! ## Files -/

namespace Files

variable (files : FileSystem) (path : Path)

theorem orderly_readFile : Orderly (readFile files path) := by
  unfold readFile
  split
  · exact .throw .nullInPath rfl
  · exact .pure _

theorem orderly_look : Orderly (look files path) := by
  unfold look
  split
  · exact .pure _
  · split
    next => exact .throw (.overlongPath path) rfl
    next => exact .throw (.forbiddenPath path) rfl
    next => exact .pure _

theorem orderly_isDirectory : Orderly (isDirectory files path) :=
  (orderly_look files path).bind fun _ => .pure _

theorem orderly_isFile : Orderly (isFile files path) := by
  refine (orderly_look files path).bind fun node => ?_
  cases node with
  | file content => exact .pure true
  | unreadable => exact .pure true
  | _ => exact .pure false

end Files

/-! ## The configuration -/

namespace Config

/-- A wording that is nested too deep is the only fault of its value. -/
theorem isOfReport_of_wordingValue {wording : Json.Str} {fault : Fault}
    (failed : wordingValue wording = .error fault) : fault.isOfReport = false := by
  unfold wordingValue at failed
  split at failed
  next => cases failed
  next =>
    cases failed
    rfl
  next => split at failed <;> cases failed

theorem isOfReport_of_homeDirectory {home : String} {fault : Fault}
    (failed : homeDirectory home = .error fault) : fault.isOfReport = false := by
  unfold homeDirectory at failed
  dsimp only at failed
  split at failed
  · cases failed
    rfl
  · cases failed

variable {sink : Sink} (textual : sink.IsTextual)
include textual

theorem orderly_reportError {details : List Detail}
    (places : ∀ detail ∈ details, detail.isPlace = true) (error : AssignError) :
    Orderly (reportError sink details error) :=
  (Orderly.coded textual _ _ _ places).bind fun _ => .pure none

theorem orderly_assign (config : Config) (path : String) (wording : Json.Str)
    (place? : Option SourceLocation) : Orderly (config.assign? path wording sink place?) := by
  have places := Detail.isPlace_location place?.toList
  unfold assign?
  refine (Orderly.attempt fun _ => isOfReport_of_wordingValue).bind fun given? => ?_
  cases given? with
  | none => exact orderly_reportError textual places _
  | some given =>
      cases fieldAt path with
      | error error => exact orderly_reportError textual places error
      | ok leaf =>
          refine (Orderly.coded textual _ _ _ places).bind fun _ => ?_
          cases config.assignValue path leaf (valueFor leaf wording given) with
          | error error => exact orderly_reportError textual places error
          | ok assigned => exact .pure (some assigned)

theorem orderly_reportFileError (path : Path) (identifier message : String) :
    Orderly (reportFileError sink path identifier message) :=
  (Orderly.coded textual _ _ _ (Detail.isPlace_path [path])).bind fun _ => .pure none

theorem orderly_loadFile (files : FileSystem) (path : Path) (config : Config) :
    Orderly (loadFile? files path config sink) := by
  unfold loadFile?
  refine (Orderly.coded textual _ _ _ (Detail.isPlace_path [path])).bind fun _ => ?_
  refine (orderly_readFile files path).bind fun bytes => ?_
  cases bytes with
  | error error => exact orderly_reportFileError textual path _ _
  | ok bytes =>
      refine (Orderly.attempt_mapError _ fun _ => rfl).bind fun text => ?_
      cases config.overlay (.text text) with
      | error issues => exact orderly_reportFileError textual path _ _
      | ok loaded => exact .pure (some loaded)

/-- What is tried in the search for the user's file is reported without a place. -/
theorem orderly_detail (message : String) :
    Orderly (sink.report (.plain .detail message [])) :=
  .plain textual (by decide) message (List.forall_mem_nil _)

theorem orderly_existing (files : FileSystem) (directory : Path) :
    Orderly (existing? files sink directory) := by
  unfold existing?
  refine (orderly_isDirectory files directory).bind fun found => ?_
  cases found with
  | true => exact (orderly_detail textual _).bind fun _ => .pure _
  | false => exact (orderly_detail textual _).bind fun _ => .pure _

theorem orderly_userDirectory (surroundings : Surroundings) :
    Orderly (userDirectory? surroundings sink) := by
  unfold userDirectory?
  cases surroundings.configHome?.filter fun configHome => !configHome.isEmpty with
  | none =>
      refine (orderly_detail textual _).bind fun _ => ?_
      refine (Orderly.attempt fun _ => isOfReport_of_homeDirectory).bind fun home => ?_
      exact orderly_existing textual _ _
  | some configHome =>
      refine (orderly_detail textual _).bind fun _ => ?_
      refine (orderly_isDirectory _ _).bind fun found => ?_
      cases found with
      | true => exact orderly_existing textual _ _
      | false =>
          refine (Orderly.coded textual _ _ _ (List.forall_mem_nil _)).bind fun _ => ?_
          exact .pure none

theorem orderly_loadUserFile (surroundings : Surroundings) (config : Config) :
    Orderly (loadUserFile? surroundings config sink) := by
  unfold loadUserFile?
  refine (orderly_userDirectory textual surroundings).bind fun directory? => ?_
  cases directory? with
  | none => exact .pure none
  | some directory =>
      refine (orderly_isFile _ _).bind fun found => ?_
      cases found with
      | true => exact orderly_loadFile textual _ _ config
      | false => exact (orderly_detail textual _).bind fun _ => .pure none

end Config

/-! ## The symbol table -/

namespace SymbolTable

variable {sink : Sink} (textual : sink.IsTextual)
include textual

theorem orderly_load (document? : Option Payload) (primary : Int) (source? : Option Path) :
    Orderly (load document? sink primary source?) := by
  have places := Detail.isPlace_path source?.toList
  unfold load
  dsimp only
  split
  next => exact (Orderly.plain textual (by decide) _ places).bind fun _ => .pure _
  next document present =>
    cases readContent document with
    | ok content => exact (Orderly.plain textual (by decide) _ places).bind fun _ => .pure _
    | error issues =>
        refine Orderly.bind ?_ fun _ => .pure _
        refine (Orderly.coded textual _ _ _ places).bind fun _ => ?_
        exact .plain textual (by decide) _ (List.forall_mem_nil _)

theorem orderly_loadFile (files : FileSystem) (path : Path) (primary : Int) :
    Orderly (loadFile files path sink primary) := by
  unfold loadFile
  refine (orderly_readFile files path).bind fun bytes => ?_
  cases bytes with
  | ok bytes => exact orderly_load textual _ primary _
  | error error =>
      exact (Orderly.coded textual _ _ _ (Detail.isPlace_path [path])).bind fun _ => .pure _

end SymbolTable

/-! ## The run -/

namespace CommandLine

theorem isTextual_journal : Sink.journal.IsTextual := trivial

theorem orderly_loadFiles (files : FileSystem) (given : List (Given String)) (config : Config) :
    Orderly (loadFiles files .journal config given) := by
  induction given generalizing config with
  | nil => exact .pure config
  | cons first later inductionHypothesis =>
      cases first with
      | nothing => exact .throw _ rfl
      | value file =>
          refine (Config.orderly_loadFile isTextual_journal files _ config).bind fun _ => ?_
          exact inductionHypothesis _

theorem orderly_assignWord (config : Config) (word : String) :
    Orderly (assignWord .journal config word) := by
  unfold assignWord
  split
  · exact Config.orderly_assign isTextual_journal config _ _ none
  · refine (Orderly.coded isTextual_journal _ _ _ (List.forall_mem_nil _)).bind fun _ => ?_
    exact .pure none

theorem orderly_assignAll (given : List (Given String)) (config : Config) :
    Orderly (assignAll .journal config given) := by
  induction given generalizing config with
  | nil => exact .pure config
  | cons first later inductionHypothesis =>
      cases first with
      | nothing => exact .throw _ rfl
      | value word => exact (orderly_assignWord config word).bind fun _ => inductionHypothesis _

variable (arguments : Arguments) (surroundings : Surroundings)

theorem orderly_buildConfig : Orderly (buildConfig arguments surroundings .journal) := by
  have named (user? : Option Config) : Orderly (do
      let config ← loadFiles surroundings.files .journal (user?.getD .default)
        arguments.configFiles
      assignAll .journal config arguments.assignments) :=
    (orderly_loadFiles _ _ _).bind fun config => orderly_assignAll _ config
  unfold buildConfig
  dsimp only
  split
  · exact (Orderly.pure none).bind named
  · exact (Config.orderly_loadUserFile isTextual_journal surroundings .default).bind named

theorem orderly_readTextFile (files : FileSystem) (path : Path) :
    Orderly (readTextFile files path) := by
  refine (orderly_readFile files path).bind fun bytes => ?_
  cases bytes with
  | error error => exact .pure _
  | ok bytes => exact .pure _

theorem orderly_readInput : Orderly (readInput arguments surroundings) := by
  unfold readInput
  split
  · split
    · exact .throw .inputDetached rfl
    · exact .pure _
  · exact orderly_readTextFile _ _

theorem orderly_readStderr : Orderly (readStderr arguments surroundings .journal) := by
  unfold readStderr
  cases namedPath? arguments.stderrFile? with
  | none => exact .pure ""
  | some path =>
      refine (orderly_readTextFile _ path).bind fun text => ?_
      cases text with
      | ok text => exact .pure text
      | error error =>
          refine (Orderly.coded isTextual_journal _ _ _ (Detail.isPlace_path [path])).bind ?_
          exact fun _ => .pure ""

theorem orderly_readSymbols (config : Config) :
    Orderly (readSymbols arguments surroundings config .journal) := by
  unfold readSymbols
  cases namedPath? arguments.symbols? with
  | none => exact .pure none
  | some path =>
      exact (SymbolTable.orderly_loadFile isTextual_journal _ path _).bind fun _ => .pure _

theorem orderly_runNamedView (tool : ToolRun) {context : Context}
    (textual : context.sink.IsTextual) : Orderly (runNamedView arguments tool context) := by
  unfold runNamedView
  split
  · exact .throw (.vacant .view) rfl
  · exact .throw (.vacant .seconds) rfl
  · exact Registry.orderly_runView _ tool textual

theorem orderly_runViewGuarded (tool : ToolRun) {context : Context}
    (textual : context.sink.IsTextual) {details : List Detail}
    (places : ∀ detail ∈ details, detail.isPlace = true) :
    Orderly (runViewGuarded arguments tool context details) := by
  unfold runViewGuarded
  refine .tryCatch ((orderly_runNamedView arguments tool textual).map some) fun fault => ?_
  refine (Orderly.coded textual _ _ _ places).bind fun _ => ?_
  refine (Orderly.reportCaught context.sink .error fault.label fault.message).bind fun _ => ?_
  exact .pure none

theorem orderly_showInput (config : Config) (stdout : String) :
    Orderly (showInput arguments surroundings config stdout) := by
  refine (orderly_readStderr arguments surroundings).bind fun stderr => ?_
  refine (orderly_readSymbols arguments surroundings config).bind fun symbols? => ?_
  refine (orderly_runViewGuarded arguments _ isTextual_journal
    (Detail.isPlace_path _)).bind fun outcome? => ?_
  exact .pure _

theorem orderly_conclude (config : Config) :
    Orderly (conclude arguments surroundings config) := by
  refine (orderly_readInput arguments surroundings).bind fun text => ?_
  cases text with
  | error error =>
      refine (Orderly.coded isTextual_journal _ _ _ (Detail.isPlace_path _)).bind fun _ => ?_
      exact .pure none
  | ok stdout => exact orderly_showInput arguments surroundings config stdout

theorem orderly_perform : Orderly (perform arguments surroundings) :=
  (orderly_buildConfig arguments surroundings).bind (orderly_conclude arguments surroundings)

/-! ## The journal of a run -/

/-- The journal that the work of a run leaves behind at the lowest threshold. -/
def journalOf : Journal :=
  ((perform arguments surroundings).run .empty).2

theorem threshold_journalOf :
    (journalOf arguments surroundings).threshold = Level.debug.number :=
  (orderly_perform arguments surroundings).accounted.traceable.threshold_run .empty

theorem isExact_journalOf : (journalOf arguments surroundings).IsExact :=
  (orderly_perform arguments surroundings).accounted.isExact_run (Journal.isExact_empty _)

variable (threshold : Level)

theorem runAt_eq_transcript :
    runAt threshold arguments surroundings =
      transcript arguments (answer (perform arguments surroundings))
        ((perform arguments surroundings).run (.empty threshold.number)).2 := by
  rw [← (orderly_perform arguments surroundings).accounted.traceable.fst_run
    (.empty threshold.number)]
  rfl

theorem counts_run_perform :
    ((perform arguments surroundings).run (.empty threshold.number)).2.counts =
      (journalOf arguments surroundings).counts :=
  (orderly_perform arguments surroundings).accounted.traceable.counts_run_congr rfl

theorem exitStatus_congr {completion? : Option Completion} {journal other : Journal}
    (same : journal.counts = other.counts) :
    exitStatus arguments completion? journal = exitStatus arguments completion? other := by
  unfold exitStatus
  rw [same]

end CommandLine

end LineMap
