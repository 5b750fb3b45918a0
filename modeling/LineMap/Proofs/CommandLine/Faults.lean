import LineMap.Proofs.CommandLine.Endings
import LineMap.Proofs.CommandLine.Precedence
import LineMap.Proofs.SymbolTable.Loading

/-!
# When a run ends in a fault

A run with arguments that are understood exits with status zero or one, unless one of a few things
is the matter with the arguments, the environment or the files.  No view ends the run, because its
faults are caught; what can end it lies in the configuration and in the paths that are read.
-/

set_option autoImplicit false

namespace LineMap.CommandLine

open LineMap.Diagnostics
open LineMap.Files
open LineMap.Json
open LineMap.Text
open LineMap.Validation

/-! ## What ends a run -/

def textAt (files : FileSystem) (path : Path) : Except Fault (Except InputError String) :=
  if path.hasNull then .error .nullInPath
  else .ok (match readBytes files path with
    | .error error => .error (.unreadable error path)
    | .ok bytes => (decodeText bytes).mapError .malformed)

def inputText (arguments : Arguments) (surroundings : Surroundings) :
    Except Fault (Except InputError String) :=
  match inputPath? arguments with
  | none =>
      match surroundings.stdin? with
      | none => .error .inputDetached
      | some stdin => .ok ((stdin.read stdin.bytes).mapError .interrupted)
  | some path => textAt surroundings.files path

theorem reports_readTextFile (level : Level) (files : FileSystem) (path : Path) :
    Reports level (readTextFile files path) (textAt files path) 0 := by
  have opened := Source.reports_readFile level files path
  unfold readTextFile textAt
  by_cases null : path.hasNull = true
  · rw [if_pos null] at opened ⊢
    exact opened.bind_error
  · rw [if_neg null] at opened ⊢
    refine opened.bind_of_silent ?_
    cases readBytes files path with
    | error error => exact .pure _
    | ok bytes => exact .pure _

theorem reports_readInput (level : Level) (arguments : Arguments) (surroundings : Surroundings) :
    Reports level (readInput arguments surroundings) (inputText arguments surroundings) 0 := by
  unfold readInput inputText
  cases inputPath? arguments with
  | none =>
      cases surroundings.stdin? with
      | none => exact .throw .inputDetached
      | some stdin => exact .pure _
  | some path => exact reports_readTextFile level surroundings.files path

variable {arguments : Arguments} {surroundings : Surroundings}

theorem ends_conclude (config : Config) {fault : Fault}
    (unnamed : inputText arguments surroundings = .error fault) :
    Ends (conclude arguments surroundings config) := by
  have read := reports_readInput .error arguments surroundings
  rw [unnamed] at read
  exact (Ends.of_reports read).bind_first

/-- Input that cannot be read is a critical report, and the run has no outcome. -/
theorem traced_conclude (config : Config) {error : InputError}
    (unreadable : inputText arguments surroundings = .ok (.error error)) :
    Reports .critical (conclude arguments surroundings config) (.ok none) 1 := by
  have read := reports_readInput .critical arguments surroundings
  rw [unreadable] at read
  refine read.bind_of_silent ?_
  exact (Reports.coded .critical _ _ _ (Detail.isPlace_path _)).andThen (.pure none)

end LineMap.CommandLine
