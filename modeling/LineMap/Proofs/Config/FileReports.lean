import LineMap.Config.Load
import LineMap.Proofs.Diagnostics.Logged

/-!
# What loading a file logs

A path with a null character can name no file; any other leads to a text, to nothing that can be
read, or to bytes that are no text.  Loading a text lays it over the configuration; it is announced,
and what is wrong is one error behind that.
-/

set_option autoImplicit false

namespace LineMap.Config

open LineMap.Diagnostics
open LineMap.Files
open LineMap.Validation

/-! ## What stands in a file -/

def HoldsText (files : FileSystem) (path : Path) (text : String) : Prop :=
  path.hasNull = false ∧
    ∃ bytes, readBytes files path = .ok bytes ∧ decodeText bytes = .ok text

/-- A path can name a file, but leads to nothing that can be read. -/
def IsUnreadable (files : FileSystem) (path : Path) : Prop :=
  path.hasNull = false ∧ ∃ error, readBytes files path = .error error

/-- What can be read but holds no text are bytes that no text is encoded in. -/
theorem exists_malformed {files : FileSystem} {path : Path} (noNull : path.hasNull = false)
    (noText : ∀ text, ¬HoldsText files path text) (readable : ¬IsUnreadable files path) :
    ∃ bytes sequence, readBytes files path = .ok bytes ∧ decodeText bytes = .error sequence := by
  cases stored : readBytes files path with
  | error error => exact absurd ⟨noNull, error, stored⟩ readable
  | ok bytes =>
      cases decoded : decodeText bytes with
      | error sequence => exact ⟨bytes, sequence, rfl, decoded⟩
      | ok text => exact absurd ⟨noNull, bytes, stored, decoded⟩ (noText text)

/-! ## What is logged -/

def loading : Heading := ⟨.info, some "loading-config-file"⟩

/-- The heading of the error about a file that cannot be read. -/
def unreadable : Heading := ⟨.error, some "config-file-unreadable"⟩

/-- The heading of the error about a file that is not valid. -/
def invalid : Heading := ⟨.error, some "invalid-config-file"⟩

/-- The headings of the errors about what laying a file over a configuration gives. -/
def complaints : Checked Config → List Heading
  | .ok _ => []
  | .error _ => [invalid]

section

variable {files : FileSystem} {path : Path} {text : String} {config : Config} (sink : Sink)

theorem logs_loading (path : Path) :
    Logs (sink.report (.coded .info "loading-config-file" "loading configuration file"
      [.path path])) (.ok ()) (sink.kept [loading]) :=
  Logs.report sink (Draft.announces_coded .info _ _ _ (Detail.isPlace_path [path]))

theorem logs_reportFileError (path : Path) (identifier message : String) :
    Logs (reportFileError sink path identifier message) (.ok none)
      (sink.kept [⟨.error, some identifier⟩]) :=
  (Logs.report sink
    (Draft.announces_coded .error identifier message _ (Detail.isPlace_path [path]))).bind_pure

theorem logs_readFile (noNull : path.hasNull = false) (files : FileSystem) :
    Logs (readFile files path) (.ok (readBytes files path)) [] := by
  rw [readFile, noNull, if_neg Bool.false_ne_true]
  exact .pure (readBytes files path)

theorem logs_loadFile_of_holdsText (holds : HoldsText files path text) (config : Config) :
    Logs (loadFile? files path config sink) (.ok (config.overlay (.text text)).toOption)
      (sink.kept (loading :: complaints (config.overlay (.text text)))) := by
  obtain ⟨noNull, bytes, stored, decoded⟩ := holds
  have opened := logs_readFile noNull files
  have read := Logs.attempt ((decodeText bytes).mapError Fault.malformedText)
  rw [stored] at opened
  simp only [decoded, Except.mapError] at read
  rw [← List.singleton_append, Sink.kept_append]
  refine (logs_loading sink path).bind (opened.bind_of_silent ?_)
  simp only [decoded, Except.mapError]
  refine read.bind_of_silent ?_
  cases config.overlay (.text text) with
  | ok loaded =>
      rw [complaints, Sink.kept_nil]
      exact .pure (some loaded)
  | error issues => exact logs_reportFileError sink path _ _

theorem logs_loadFile_of_isUnreadable (isUnreadable : IsUnreadable files path) (config : Config) :
    Logs (loadFile? files path config sink) (.ok none) (sink.kept [loading, unreadable]) := by
  obtain ⟨noNull, error, stored⟩ := isUnreadable
  have opened := logs_readFile noNull files
  rw [stored] at opened
  rw [← List.singleton_append, Sink.kept_append]
  exact (logs_loading sink path).bind
    (opened.bind_of_silent (logs_reportFileError sink path _ _))

end

end LineMap.Config
