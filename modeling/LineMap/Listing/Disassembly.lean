import LineMap.SymbolTable.Table
import LineMap.Text.Blank
import LineMap.Text.Digit
import LineMap.Text.Lines

/-!
# Disassembled bytecode

A line for an instruction begins with its index and the index of its half word.  The instruction's
index is looked up in the symbol table exactly as it is written.
-/

set_option autoImplicit false

namespace LineMap.Listing.Disassembly

open LineMap.Text

/-- What follows the longest run of a class, which must not be empty. -/
def afterRun? (inClass : Char → Bool) (text : List Char) : Option (List Char) :=
  if (text.takeWhile inClass).isEmpty then none else some (text.dropWhile inClass)

/-- The index of the instruction on a line: two numbers begin the line, with blanks behind each. -/
def indexCells? (line : List Char) : Option (List Char) :=
  let body := line.dropWhile isBlank
  (afterRun? isDigit body).bind fun rest =>
  (afterRun? isBlank rest).bind fun rest =>
  (afterRun? isDigit rest).bind fun rest =>
  (afterRun? isBlank rest).map fun _ => body.takeWhile isDigit

def index? (line : String) : Option String :=
  (indexCells? line.toList).map String.ofList

def mapLine (table : SymbolTable) (line : List Char) : OutputLine :=
  { text := String.ofList line
    source? := (indexCells? line).bind fun index => table.resolve? (String.ofList index) }

/-- The display lines of a disassembly: all lines that are not blank. -/
def mapLines (text : String) (table : SymbolTable) : List OutputLine :=
  ((lineCells text.toList).filter fun line => !isBlankLine line).map (mapLine table)

end LineMap.Listing.Disassembly
