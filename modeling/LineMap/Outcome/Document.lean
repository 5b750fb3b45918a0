import LineMap.Json.Indented
import LineMap.Output

/-!
# Outcomes as JSON documents

The lines with their texts and locations, and whether the tool succeeded.  A member that is not
known is null, and so is the location of a line that has none.
-/

set_option autoImplicit false

namespace LineMap

open LineMap.Json

/-- A value that may be missing, in which case it is null. -/
def orNull {α : Type} (toValue : α → Value) : Option α → Value
  | some a => toValue a
  | none => .null

def SourceLocation.toValue (place : SourceLocation) : Value :=
  .record
    [("file", orNull .text place.file?), ("line", orNull .int place.line?),
     ("column", orNull .int place.column?)]

def OutputLine.toValue (line : OutputLine) : Value :=
  .record [("text", .text line.text), ("source", orNull SourceLocation.toValue line.source?)]

namespace Outcome

def toValue (outcome : Outcome) : Value :=
  .record
    [("lines", .arr (outcome.lines.map OutputLine.toValue)),
     ("succeeded", .bool outcome.succeeded)]

def document (outcome : Outcome) : String :=
  outcome.toValue.indented ++ "\n"

end Outcome

end LineMap
