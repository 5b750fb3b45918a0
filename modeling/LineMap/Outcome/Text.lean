import LineMap.Diagnostics.Fault

/-!
# Outcomes as text

If any line has a source location, all lines have a gutter of one width before them.  A number with
too many digits cannot be written into it.
-/

set_option autoImplicit false

namespace LineMap

open LineMap.Diagnostics
open LineMap.Number

def SourceLocation.numbers (place : SourceLocation) : List Int :=
  place.line?.toList ++ place.column?.toList

/-- A location in the gutter: the file, or a word for it, and what is known of line and column. -/
def SourceLocation.gutter (place : SourceLocation) : String :=
  let file := match place.file? with
    | some name => if name.isEmpty then "<source>" else name
    | none => "<source>"
  String.intercalate ":"
    (file :: place.numbers.map fun number => toString number)

def OutputLine.gutter (line : OutputLine) : String :=
  match line.source? with
  | some place => place.gutter
  | none => ""

def OutputLine.isWritable (line : OutputLine) : Bool :=
  line.source?.all fun place => place.numbers.all Number.isWritable

def padded (width : Nat) (text : String) : String :=
  text ++ String.ofList (List.replicate (width - text.length) ' ')

namespace Outcome

/-- The width of the gutter, unless there are no lines. -/
def gutterWidth? (outcome : Outcome) : Option Nat :=
  (outcome.lines.map fun line => line.gutter.length).max?

def row (width : Nat) (line : OutputLine) : String :=
  if width = 0 then line.text ++ "\n"
  else padded width line.gutter ++ " | " ++ line.text ++ "\n"

/-- The lines as text.  The gutters are written first, and their width is that of the widest. -/
def text (outcome : Outcome) : Except Fault String :=
  if outcome.lines.all OutputLine.isWritable then
    match outcome.gutterWidth? with
    | some width => .ok (String.join (outcome.lines.map (row width)))
    | none => .error .noLines
  else .error .unwritable

end Outcome

end LineMap
