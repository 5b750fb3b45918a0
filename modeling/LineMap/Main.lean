import LineMap.CommandLine.Session

/-!
# The program

Gathers what a run may look at, carries the run out, and writes what it gives.
-/

set_option autoImplicit false

namespace LineMap.Program

open LineMap.CommandLine
open LineMap.Files

def probe (path : Path) : IO Node := do
  if path.hasNull then return .absent
  match ← (IO.FS.readBinFile path.text).toBaseIO with
  | .ok content => return .file content.toList
  | .error (.inappropriateType _ code _) => return if code = 21 then .directory else .blocked
  | .error (.invalidArgument ..) => return .overlong
  | .error (.permissionDenied ..) => do
      -- What may not be looked up has no real path either.
      match ← (IO.FS.realPath path.text).toBaseIO with
      | .ok _ => return .unreadable
      | .error _ => return .unsearchable
  | .error _ => return .absent

def snapshot (paths : List Path) : IO FileSystem := do
  let nodes ← paths.mapM fun path => do return (path, ← probe path)
  return fun path => (nodes.lookup path).getD .absent

def gather (words : List String) : IO Surroundings := do
  let home := (← IO.getEnv "HOME").getD ""
  let configHome? ← IO.getEnv "XDG_CONFIG_HOME"
  match parse words with
  | .error _ => return { files := fun _ => .absent, home, configHome? }
  | .ok arguments =>
      let files ← snapshot (consulted arguments home configHome?)
      let bytes ←
        if (inputPath? arguments).isNone then do
          pure (← (← IO.getStdin).readBinToEnd).toList
        else pure []
      return { files, home, configHome?, stdin? := some { bytes } }

def finish (transcript : Transcript) : IO UInt32 := do
  let output ← IO.getStdout
  let errors ← IO.getStderr
  errors.putStr transcript.stderr
  output.putStr transcript.stdout
  output.flush
  match transcript.ending with
  | .exit status => return UInt32.ofNat status
  | .fault fault => do
      errors.putStr (fault.label ++ ": " ++ fault.message ++ "\n")
      return 1

end LineMap.Program

def main (words : List String) : IO UInt32 := do
  LineMap.Program.finish (LineMap.CommandLine.run words (← LineMap.Program.gather words))
