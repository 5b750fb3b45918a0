import LineMap.Diagnostics.Level
import LineMap.Number.Literal
import LineMap.Text.Lines
import LineMap.Text.Quoted
import LineMap.View.Builtin

/-!
# Arguments of the command line

Words are first told apart one by one: options, whose long names may be shortened as long as that is
unambiguous, and plain words.  Then they are taken from left to right.  The first mistake ends the
reading, except that plain words and options without a place are collected and refused at the end.
Two dashes behind the equals sign of an option are dropped, so that the option is left empty.
-/

set_option autoImplicit false

namespace LineMap.CommandLine

open LineMap.Diagnostics
open LineMap.Number
open LineMap.Text

inductive Flag where
  | help
  | version
  | view
  | symbols
  | exitCode
  | timedOut
  | stderr
  | execTime
  | haltOnError
  | noDefaultConfig
  | configFile
  | set
  | format
  | logLevel
deriving DecidableEq

namespace Flag

def all : List Flag :=
  [.help, .version, .view, .symbols, .exitCode, .timedOut, .stderr, .execTime, .haltOnError,
    .noDefaultConfig, .configFile, .set, .format, .logLevel]

def name : Flag → String
  | .help => "--help"
  | .version => "--version"
  | .view => "--view"
  | .symbols => "--symbols"
  | .exitCode => "--exit-code"
  | .timedOut => "--timed-out"
  | .stderr => "--stderr"
  | .execTime => "--exec-time"
  | .haltOnError => "--halt-on-error"
  | .noDefaultConfig => "--no-default-config"
  | .configFile => "--config-file"
  | .set => "--set"
  | .format => "--format"
  | .logLevel => "--log-level"

def title (flag : Flag) : String :=
  if flag = .help then "-h/--help" else flag.name

def takesArgument : Flag → Bool
  | .help => false
  | .version => false
  | .timedOut => false
  | .haltOnError => false
  | .noDefaultConfig => false
  | _ => true

def ofName? (word : String) : Option Flag :=
  if word = "-h" then some .help else all.find? fun flag => flag.name = word

end Flag

inductive Format where
  | text
  | json
deriving DecidableEq

namespace Format

def name : Format → String
  | .text => "text"
  | .json => "json"

def all : List Format := [.text, .json]

end Format

/-- What an option gives: a value, or nothing if it was left empty. -/
inductive Given (α : Type) where
  | value (a : α)
  | nothing
deriving DecidableEq

def Given.toOption {α : Type} : Given α → Option α
  | .value a => some a
  | .nothing => none

structure Arguments where
  view : Given String := .value "annotated"
  symbols? : Option String := none
  exitCode : Given Int := .value 0
  timedOut : Bool := false
  stderrFile? : Option String := none
  execTime? : Option (Given Binary64) := none
  haltOnError : Bool := false
  noDefaultConfig : Bool := false
  configFiles : List (Given String) := []
  assignments : List (Given String) := []
  format : Format := .text
  logLevel : Given Level := .value .warning
  filename : String := ""
deriving DecidableEq

inductive UsageError where
  | missingFilename
  | unrecognized (words : List String)
  | ambiguous (word : String) (candidates : List String)
  | expectedArgument (flag : Flag)
  | ignoredArgument (flag : Flag) (word : String)
  | invalidChoice (flag : Flag) (word : String) (choices : List String)
  | invalidInteger (flag : Flag) (word : String)
  | invalidNumber (flag : Flag) (word : String)

def about (flag : Flag) (complaint : String) : String :=
  "argument " ++ flag.title ++ ": " ++ complaint

def UsageError.message : UsageError → String
  | .missingFilename => "the following arguments are required: filename"
  | .unrecognized words => "unrecognized arguments: " ++ String.intercalate " " words
  | .ambiguous word candidates =>
      "ambiguous option: " ++ word ++ " could match " ++ String.intercalate ", " candidates
  | .expectedArgument flag => about flag "expected one argument"
  | .ignoredArgument flag word => about flag ("ignored explicit argument " ++ quoted word)
  | .invalidChoice flag word choices =>
      about flag
        ("invalid choice: " ++ quoted word ++ " (choose from " ++
          String.intercalate ", " (choices.map quoted) ++ ")")
  | .invalidInteger flag word => about flag ("invalid int value: " ++ quoted word)
  | .invalidNumber flag word => about flag ("invalid float value: " ++ quoted word)

inductive Stop where
  | help
  | version
  | mistaken (error : UsageError)

/-! ## Telling words apart -/

inductive Token where
  | plain (word : String)
  | dashes
  | flag (flag : Flag) (argument? : Option String)
  | helpBundle (letters : List Char)
  | unknown (word : String)

def isNegativeNumber (word : List Char) : Bool :=
  match dropFinalFeed word with
  | '-' :: body =>
      let whole := body.takeWhile isDigit
      match body.dropWhile isDigit with
      | [] => whole ≠ []
      | '.' :: fraction => fraction ≠ [] && fraction.all isDigit
      | _ => false
  | _ => false

/-- A word at its first equals sign: what stands before it, and what follows if there is one. -/
def splitEquals (word : List Char) : List Char × Option (List Char) :=
  let before := word.takeWhile (· ≠ '=')
  match word.dropWhile (· ≠ '=') with
  | [] => (before, none)
  | _ :: after => (before, some after)

def candidates (beginning : List Char) : List Flag :=
  Flag.all.filter fun flag => beginning.isPrefixOf flag.name.toList

/-- Tells what a word with a leading dash is that names no option exactly. -/
def classifyLoose (word : String) : Except UsageError Token :=
  let cells := word.toList
  let (beginning, after?) := splitEquals cells
  let unmatched : Token :=
    if isNegativeNumber cells || cells.contains ' ' then .plain word else .unknown word
  match cells with
  | '-' :: '-' :: _ =>
      match candidates beginning with
      | [] => .ok unmatched
      | [flag] => .ok (.flag flag (after?.map String.ofList))
      | several => .error (.ambiguous word (several.map Flag.name))
  | '-' :: 'h' :: letters => .ok (.helpBundle letters)
  | _ => .ok unmatched

def classify (word : String) : Except UsageError Token :=
  let cells := word.toList
  if cells.head? ≠ some '-' then .ok (.plain word)
  else
    match Flag.ofName? word with
    | some flag => .ok (.flag flag none)
    | none =>
        if cells = ['-'] then .ok (.plain word)
        else
          match splitEquals cells with
          | (['-', 'h'], some after) => .ok (.helpBundle after)
          | (beginning, some after) =>
              match Flag.ofName? (String.ofList beginning) with
              | some flag => .ok (.flag flag (some (String.ofList after)))
              | none => classifyLoose word
          | (_, none) => classifyLoose word

def tokens : List String → Except UsageError (List Token)
  | [] => .ok []
  | word :: rest =>
      if word = "--" then .ok (.dashes :: rest.map .plain)
      else do
        let first ← classify word
        return first :: (← tokens rest)

/-! ## Taking them in order -/

structure Reading where
  arguments : Arguments := {}
  filename? : Option String := none
  unplaced : List String := []

def choose {α : Type} (flag : Flag) (choices : List α) (name : α → String) (word : String) :
    Except Stop α :=
  match choices.find? fun choice => name choice = word with
  | some choice => .ok choice
  | none => .error (.mistaken (.invalidChoice flag word (choices.map name)))

def withArgument (arguments : Arguments) (flag : Flag) (word : String) :
    Except Stop Arguments :=
  match flag with
  | .view => do
      let view ← choose flag Registry.builtin.names id word
      return { arguments with view := .value view }
  | .symbols => .ok { arguments with symbols? := some word }
  | .exitCode =>
      match readInt? word with
      | some exitCode => .ok { arguments with exitCode := .value exitCode }
      | none => .error (.mistaken (.invalidInteger flag word))
  | .stderr => .ok { arguments with stderrFile? := some word }
  | .execTime =>
      match readNumber? word with
      | some seconds => .ok { arguments with execTime? := some (.value seconds) }
      | none => .error (.mistaken (.invalidNumber flag word))
  | .configFile =>
      .ok { arguments with configFiles := arguments.configFiles ++ [.value word] }
  | .set => .ok { arguments with assignments := arguments.assignments ++ [.value word] }
  | .format => do
      let format ← choose flag Format.all Format.name word
      return { arguments with format }
  | .logLevel => do
      let logLevel ← choose flag Level.all Level.name word
      return { arguments with logLevel := .value logLevel }
  | _ => .error (.mistaken (.ignoredArgument flag word))

/-- The arguments after an option that was left empty.  A file that is not given and the form of the
output are as they are without the option. -/
def withNothing (arguments : Arguments) (flag : Flag) : Arguments :=
  match flag with
  | .view => { arguments with view := .nothing }
  | .symbols => { arguments with symbols? := none }
  | .exitCode => { arguments with exitCode := .nothing }
  | .stderr => { arguments with stderrFile? := none }
  | .execTime => { arguments with execTime? := some .nothing }
  | .configFile => { arguments with configFiles := arguments.configFiles ++ [.nothing] }
  | .set => { arguments with assignments := arguments.assignments ++ [.nothing] }
  | .format => { arguments with format := .text }
  | .logLevel => { arguments with logLevel := .nothing }
  | _ => arguments

def withAttached (arguments : Arguments) (flag : Flag) (word : String) : Except Stop Arguments :=
  if flag.takesArgument ∧ word = "--" then .ok (withNothing arguments flag)
  else withArgument arguments flag word

def withoutArgument (arguments : Arguments) (flag : Flag) : Except Stop Arguments :=
  match flag with
  | .help => .error .help
  | .version => .error .version
  | .timedOut => .ok { arguments with timedOut := true }
  | .haltOnError => .ok { arguments with haltOnError := true }
  | .noDefaultConfig => .ok { arguments with noDefaultConfig := true }
  | _ => .error (.mistaken (.expectedArgument flag))

/-- What follows from letters behind the short name of the help option: each that is again this
name stands for it, and any other begins an argument, which the option does not take.  Nothing at
all behind an equals sign is an argument too. -/
def bundleStop (letters : List Char) : Stop :=
  let argument := letters.dropWhile (· = 'h')
  if letters ≠ [] ∧ argument = [] then .help
  else .mistaken (.ignoredArgument .help (String.ofList argument))

def take : Reading → List Token → Except Stop Reading
  | reading, [] => .ok reading
  | reading, .plain word :: rest =>
      match reading.filename? with
      | none =>
          let named := { reading with filename? := some word }
          match rest with
          | .dashes :: others => take named others
          | others => take named others
      | some _ => take { reading with unplaced := reading.unplaced ++ [word] } rest
  | reading, .dashes :: rest =>
      match reading.filename?, rest with
      | none, .plain word :: others => take { reading with filename? := some word } others
      | _, others => take { reading with unplaced := reading.unplaced ++ ["--"] } others
  | reading, .unknown word :: rest =>
      take { reading with unplaced := reading.unplaced ++ [word] } rest
  | _, .helpBundle letters :: _ => .error (bundleStop letters)
  | reading, .flag flag (some word) :: rest =>
      match withAttached reading.arguments flag word with
      | .error stop => .error stop
      | .ok arguments => take { reading with arguments } rest
  | reading, .flag flag none :: rest =>
      if flag.takesArgument then
        match rest with
        | .plain word :: others =>
            match withArgument reading.arguments flag word with
            | .error stop => .error stop
            | .ok arguments => take { reading with arguments } others
        | _ => .error (.mistaken (.expectedArgument flag))
      else
        match withoutArgument reading.arguments flag with
        | .error stop => .error stop
        | .ok arguments => take { reading with arguments } rest

def parse (words : List String) : Except Stop Arguments := do
  let tokens ← (tokens words).mapError .mistaken
  let reading ← take {} tokens
  match reading.filename? with
  | none => .error (.mistaken .missingFilename)
  | some filename =>
      if reading.unplaced.isEmpty then return { reading.arguments with filename }
      else .error (.mistaken (.unrecognized reading.unplaced))

end LineMap.CommandLine
