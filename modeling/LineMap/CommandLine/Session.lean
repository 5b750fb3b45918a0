import LineMap.CommandLine.Arguments
import LineMap.Config.Assign
import LineMap.Config.Load
import LineMap.Outcome.Document
import LineMap.Outcome.Text
import LineMap.SymbolTable.Load

/-!
# A run of the command line tool

First the configuration is built, then the tool's output is read, then a view is run on it.  The
records that the journal of a run keeps are written to the standard error, and the outcome, if there
is one, to the standard output.
-/

set_option autoImplicit false

namespace LineMap.CommandLine

open LineMap.Diagnostics
open LineMap.Files
open LineMap.Text

/-! ## The configuration -/

/-- A word at its first equals sign, if it has one. -/
def splitAssignment (word : String) : Option (String × String) :=
  match splitEquals word.toList with
  | (path, some wording) => some (String.ofList path, String.ofList wording)
  | (_, none) => none

def loadFiles (files : FileSystem) (sink : Sink) : Config → List (Given String) → Run Config
  | config, [] => pure config
  | _, .nothing :: _ => throw (.vacant .path)
  | config, .value file :: rest => do
      let loaded? ← Config.loadFile? files (.ofString file) config sink
      loadFiles files sink (loaded?.getD config) rest

def assignWord (sink : Sink) (config : Config) (word : String) : Run (Option Config) :=
  match splitAssignment word with
  | some (path, wording) => Config.assign? config path (.ofString wording) sink none
  | none => do
      sink.report (.coded .error "bad-assignment"
        ("didn't perform configuration assignment. expected FIELD=VALUE, got '" ++ word ++ "'")
        [])
      return none

def assignAll (sink : Sink) : Config → List (Given String) → Run Config
  | config, [] => pure config
  | _, .nothing :: _ => throw (.vacant .assignment)
  | config, .value word :: rest => do
      let assigned? ← assignWord sink config word
      assignAll sink (assigned?.getD config) rest

/-- The configuration: the user's file, the files that are named, and then the assignments. -/
def buildConfig (arguments : Arguments) (surroundings : Surroundings) (sink : Sink) :
    Run Config := do
  let start := Config.default
  let user? ←
    if arguments.noDefaultConfig then pure none
    else Config.loadUserFile? surroundings start sink
  let config ← loadFiles surroundings.files sink (user?.getD start) arguments.configFiles
  assignAll sink config arguments.assignments

/-! ## The input -/

inductive InputError where
  | unreadable (error : ReadError) (path : Path)
  | malformed (sequence : Utf8.Malformed)
  | interrupted (words : String)

def InputError.message : InputError → String
  | .unreadable error path => error.message path
  | .malformed sequence => sequence.message
  | .interrupted words => words

def readTextFile (files : FileSystem) (path : Path) : Run (Except InputError String) := do
  match ← readFile files path with
  | .error error => return .error (.unreadable error path)
  | .ok bytes => return (decodeText bytes).mapError .malformed

def inputPath? (arguments : Arguments) : Option Path :=
  if arguments.filename = "-" then none else some (.ofString arguments.filename)

def readInput (arguments : Arguments) (surroundings : Surroundings) :
    Run (Except InputError String) :=
  match inputPath? arguments with
  | none =>
      match surroundings.stdin? with
      | none => throw .inputDetached
      | some stdin => return (stdin.read stdin.bytes).mapError .interrupted
  | some path => readTextFile surroundings.files path

/-- A file that is named by an argument, where the empty name names none. -/
def namedPath? (name? : Option String) : Option Path :=
  (name?.filter fun name => !name.isEmpty).map Path.ofString

def readStderr (arguments : Arguments) (surroundings : Surroundings) (sink : Sink) :
    Run String := do
  match namedPath? arguments.stderrFile? with
  | none => return ""
  | some path =>
      match ← readTextFile surroundings.files path with
      | .ok text => return text
      | .error error =>
          sink.report (.coded .warning "error-reading-stderr"
            ("could not read the tool's standard error, continuing without it: " ++
              error.message)
            [.path path])
          return ""

def readSymbols (arguments : Arguments) (surroundings : Surroundings) (config : Config)
    (sink : Sink) : Run (Option SymbolTable) := do
  match namedPath? arguments.symbols? with
  | none => return none
  | some path =>
      return some (← SymbolTable.loadFile surroundings.files path sink config.primary)

/-! ## The run -/

structure Completion where
  config : Config
  tool : ToolRun
  outcome : Outcome

/-- Runs the view that the arguments name on what the tool left behind.  Neither the view nor the
time that the tool took may have been left empty. -/
def runNamedView (arguments : Arguments) (tool : ToolRun) (context : Context) : Run Outcome :=
  match arguments.view, arguments.execTime? with
  | .nothing, _ => throw (.vacant .view)
  | _, some .nothing => throw (.vacant .seconds)
  | .value name, _ => Registry.builtin.runView name tool context

/-- The outcome of the view, or nothing if a fault ended it, which is then reported. -/
def runViewGuarded (arguments : Arguments) (tool : ToolRun) (context : Context)
    (details : List Detail) : Run (Option Outcome) :=
  tryCatch (some <$> runNamedView arguments tool context) fun fault => do
    context.sink.report (.coded .critical "unhandled-exception"
      ("processing halted unexpectedly. an unhandled exception occurred: " ++ fault.shown)
      details)
    context.sink.reportCaught .error fault.label fault.message
    return none

/-- What the tool left behind, as far as the arguments and the files tell. -/
def toolRun (arguments : Arguments) (stdout stderr : String) : ToolRun where
  exitCode? := arguments.exitCode.toOption
  stdout := stdout
  stderr := stderr
  execTime? := arguments.execTime?.bind Given.toOption
  timedOut := arguments.timedOut

def inputDetails (arguments : Arguments) : List Detail :=
  (inputPath? arguments).toList.map .path

def showInput (arguments : Arguments) (surroundings : Surroundings) (config : Config)
    (stdout : String) : Run (Option Completion) := do
  let stderr ← readStderr arguments surroundings .journal
  let symbols? ← readSymbols arguments surroundings config .journal
  let tool := toolRun arguments stdout stderr
  let outcome? ← runViewGuarded arguments tool ⟨config, symbols?, .journal⟩
    (inputDetails arguments)
  return outcome?.map fun outcome => ⟨config, tool, outcome⟩

def conclude (arguments : Arguments) (surroundings : Surroundings) (config : Config) :
    Run (Option Completion) := do
  match ← readInput arguments surroundings with
  | .error error =>
      Sink.journal.report (.coded .critical "error-reading-input"
        ("could not read input: " ++ error.message) (inputDetails arguments))
      return none
  | .ok stdout => showInput arguments surroundings config stdout

/-- Carries out what the arguments ask for. Without an answer, a critical report says why. -/
def perform (arguments : Arguments) (surroundings : Surroundings) : Run (Option Completion) := do
  let config ← buildConfig arguments surroundings .journal
  conclude arguments surroundings config

/-- What is written to the standard output: the outcome in the form that is asked for. -/
def render (format : Format) (outcome : Outcome) : Except Fault String :=
  match format with
  | .text => outcome.text
  | .json => .ok outcome.document

def exitStatus (arguments : Arguments) (completion? : Option Completion) (journal : Journal) :
    Nat :=
  match completion? with
  | none => 1
  | some completion =>
      if completion.outcome.succeeded &&
          !(arguments.haltOnError &&
            (0 < journal.counts .critical || 0 < journal.counts .error)) then 0
      else 1

inductive Ending where
  | exit (status : Nat)
  | fault (fault : Fault)

structure Transcript where
  stdout : String
  stderr : String
  ending : Ending
  completion? : Option Completion := none
  counts : Level → Nat := fun _ => 0

def written (records : List Record) : String :=
  String.join (records.map fun record => record.fullText ++ "\n")

/-- What goes to the standard output, unless the work or the writing of its outcome ends in a
fault. -/
def output (format : Format) : Except Fault (Option Completion) → Except Fault String
  | .error fault => .error fault
  | .ok none => .ok ""
  | .ok (some completion) => render format completion.outcome

/-- What can be seen of a run whose work came to a result and left a journal. -/
def transcript (arguments : Arguments) (result : Except Fault (Option Completion))
    (journal : Journal) : Transcript :=
  let completion? := result.toOption.join
  let rendered := output arguments.format result
  { stdout := rendered.toOption.getD ""
    stderr := written journal.records
    ending := match rendered with
      | .ok _ => .exit (exitStatus arguments completion? journal)
      | .error fault => .fault fault
    completion?
    counts := journal.counts }

def runAt (threshold : Level) (arguments : Arguments) (surroundings : Surroundings) :
    Transcript :=
  let (result, journal) := (perform arguments surroundings).run (.empty threshold.number)
  transcript arguments result journal

def runWith (arguments : Arguments) (surroundings : Surroundings) : Transcript :=
  match arguments.logLevel with
  | .value threshold => runAt threshold arguments surroundings
  | .nothing => { stdout := "", stderr := "", ending := .fault (.vacant .level) }

/-- All paths that a run may look at. -/
def consulted (arguments : Arguments) (home : String) (configHome? : Option String) : List Path :=
  let bases := match configHome?.filter fun configHome => !configHome.isEmpty with
    | some configHome => [Path.ofString configHome]
    | none => ((Config.homeDirectory home).toOption.map fun path => path.child ".config").toList
  let directories := bases.map fun base => base.child Config.directoryName
  bases ++ directories ++ directories.map (fun directory => directory.child Config.fileName) ++
    (arguments.configFiles.filterMap Given.toOption).map Path.ofString ++
    (inputPath? arguments).toList ++ (namedPath? arguments.stderrFile?).toList ++
    (namedPath? arguments.symbols?).toList

def versionText : String := "asmmap 0.1.0\n"

def helpText : String :=
  "usage: asmmap [options] filename\n\n" ++
    "Normalize compiler/toolchain output into source-mapped lines\n\noptions:\n" ++
    String.join (Flag.all.map fun flag => "  " ++ flag.title ++ "\n")

def run (words : List String) (surroundings : Surroundings) : Transcript :=
  match parse words with
  | .ok arguments => runWith arguments surroundings
  | .error .help => { stdout := helpText, stderr := "", ending := .exit 0 }
  | .error .version => { stdout := versionText, stderr := "", ending := .exit 0 }
  | .error (.mistaken error) =>
      { stdout := "", stderr := "asmmap: error: " ++ error.message ++ "\n", ending := .exit 2 }

end LineMap.CommandLine
