import LineMap.Number.Literal

/-!
# Output lines and tool runs

What a tool leaves behind when it has finished, and the form into which its output is brought: a
sequence of display lines, each with the source location it came from if that is known.
-/

set_option autoImplicit false

namespace LineMap

open LineMap.Number

/-- A place in a source file. Lines and columns are counted from one. -/
structure SourceLocation where
  file? : Option String := none
  line? : Option Int := none
  column? : Option Int := none
deriving DecidableEq

structure OutputLine where
  text : String
  source? : Option SourceLocation := none
deriving DecidableEq

structure Outcome where
  lines : List OutputLine
  succeeded : Bool
deriving DecidableEq

/-- What is known of a tool once it has finished.  Its exit code may have been left open. -/
structure ToolRun where
  exitCode? : Option Int
  stdout : String := ""
  stderr : String := ""
  execTime? : Option Binary64 := none
  timedOut : Bool := false
deriving DecidableEq

/-- A tool fails by running out of time or by any exit code but zero. -/
def ToolRun.failed (run : ToolRun) : Bool :=
  run.timedOut || run.exitCode? != some 0

/-- The exit code as text, unless it has too many digits.  One that was left open is an empty
list. -/
def ToolRun.exitText? (run : ToolRun) : Option String :=
  match run.exitCode? with
  | none => some "[]"
  | some code => if isWritable code then some (toString code) else none

def unsourced (texts : List String) : List OutputLine :=
  texts.map fun text => ⟨text, none⟩

end LineMap
