import LineMap.Config.Document
import LineMap.Files.Input

/-!
# Configuration files

Configuration files are laid over the configuration one after the other.  A file that cannot be read
or is not valid is reported and changes nothing.  The user's own file lies in a directory that the
environment determines.
-/

set_option autoImplicit false

namespace LineMap

open LineMap.Diagnostics
open LineMap.Files
open LineMap.Validation

/-- What surrounds a run: the files, two variables, and the standard input, which may be
detached. -/
structure Surroundings where
  files : FileSystem
  home : String
  configHome? : Option String
  stdin? : Option StandardInput := some { bytes := [] }

namespace Config

def reportFileError (sink : Sink) (path : Path) (identifier message : String) :
    Run (Option Config) := do
  sink.report (.coded .error identifier message [.path path])
  return none

/-- Lays the file at a path over a configuration.  Without a configuration in the answer, an error
was reported. -/
def loadFile? (files : FileSystem) (path : Path) (config : Config) (sink : Sink) :
    Run (Option Config) := do
  sink.report (.coded .info "loading-config-file" "loading configuration file" [.path path])
  match ← readFile files path with
  | .error error =>
      reportFileError sink path "config-file-unreadable"
        ("could not read configuration file: " ++ error.message path)
  | .ok bytes =>
      let text ← attempt ((decodeText bytes).mapError .malformedText)
      match config.overlay (.text text) with
      | .ok loaded => return some loaded
      | .error issues =>
          reportFileError sink path "invalid-config-file"
            ("configuration file was not loaded: " ++ reportText documentName issues)

def directoryName : String := "asmmap"

def fileName : String := "config.json"

def homeDirectory (home : String) : Except Fault Path :=
  let stripped := (home.toList.reverse.dropWhile (· = '/')).reverse
  if stripped.head? = some '~' then .error .homeUnknown
  else .ok (.ofString (if stripped = [] then "/" else String.ofList stripped))

def existing? (files : FileSystem) (sink : Sink) (directory : Path) : Run (Option Path) := do
  if ← isDirectory files directory then
    sink.report (.plain .detail ("using user config dir '" ++ directory.text ++ "'") [])
    return some directory
  else
    sink.report (.plain .detail "no user config dir found" [])
    return none

def userDirectory? (surroundings : Surroundings) (sink : Sink) : Run (Option Path) := do
  match surroundings.configHome?.filter fun configHome => !configHome.isEmpty with
  | some configHome =>
      sink.report (.plain .detail
        ("using user config dir '$XDG_CONFIG_HOME/asmmap' because the XDG_CONFIG_HOME " ++
          "environment variable is set")
        [])
      let base := Path.ofString configHome
      if ← isDirectory surroundings.files base then
        existing? surroundings.files sink (base.child directoryName)
      else
        sink.report (.coded .warning "bad-xdg-config-home"
          ("will not load user config. XDG_CONFIG_HOME environment variable is set to '" ++
            configHome ++ "' but this is not an existing directory")
          [])
        return none
  | none =>
      sink.report (.plain .detail "checking for user config dir at '$HOME/.config/asmmap'" [])
      let home ← attempt (homeDirectory surroundings.home)
      existing? surroundings.files sink ((home.child ".config").child directoryName)

/-- Lays the user's configuration file over a configuration, if there is one. -/
def loadUserFile? (surroundings : Surroundings) (config : Config) (sink : Sink) :
    Run (Option Config) := do
  match ← userDirectory? surroundings sink with
  | none => return none
  | some directory =>
      let path := directory.child fileName
      if ← isFile surroundings.files path then
        loadFile? surroundings.files path config sink
      else
        sink.report (.plain .detail ("user config file '" ++ path.text ++ "' not found") [])
        return none

end Config

end LineMap
