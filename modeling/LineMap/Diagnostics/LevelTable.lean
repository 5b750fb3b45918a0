import LineMap.Diagnostics.Level

/-!
# Tables of level names

A table maps names to numbers and numbers to names.  A level is added under a new name only if its
number lies strictly between two bounds; a name that is known keeps its number, and a warning says
if that lies outside the bounds.
-/

set_option autoImplicit false

namespace LineMap.Diagnostics

/-- Level numbers by name and level names by number; the first entry counts. -/
structure LevelTable where
  numbers : List (String × Int)
  names : List (Int × String)
deriving DecidableEq

/-- The answer to a level: its number, and whether that is unexpected; or a refusal. -/
inductive LevelAnswer where
  | registered (number : Int)
  | known (number : Int) (unexpected : Bool)
  | refused
deriving DecidableEq

def LevelAnswer.number? : LevelAnswer → Option Int
  | .registered number => some number
  | .known number _ => some number
  | .refused => none

namespace LevelTable

def standard : LevelTable where
  numbers :=
    [("CRITICAL", 50), ("FATAL", 50), ("ERROR", 40), ("WARN", 30), ("WARNING", 30), ("INFO", 20),
     ("DEBUG", 10), ("NOTSET", 0)]
  names :=
    [(50, "CRITICAL"), (40, "ERROR"), (30, "WARNING"), (20, "INFO"), (10, "DEBUG"), (0, "NOTSET")]

/-- The number of a name.  The other side of the table has no names among its keys, so it is looked
up on this side only. -/
def number? (table : LevelTable) (name : String) : Option Int :=
  table.numbers.lookup name

def name? (table : LevelTable) (number : Int) : Option String :=
  table.names.lookup number

def put (table : LevelTable) (name : String) (number : Int) : LevelTable where
  numbers := (name, number) :: table.numbers
  names := (number, name) :: table.names

def add (table : LevelTable) (number : Int) (name : String) (lower upper : Int) :
    LevelAnswer × LevelTable :=
  match table.number? name with
  | some existing => (.known existing (existing < lower || upper < existing), table)
  | none =>
      if lower < number ∧ number < upper then (.registered number, table.put name number)
      else (.refused, table)

/-- The standard table with the two levels that stand between the usual ones. -/
def complete : LevelTable :=
  let hint := (standard.add 25 "HINT" 20 30).2
  (hint.add 15 "DETAIL" 10 20).2

def warning (name : String) : String :=
  "warning: asmmap: log level " ++ name ++ " was not configured in expected range\n"

end LevelTable

def LevelAnswer.printed (name : String) : LevelAnswer → String
  | .known _ true => LevelTable.warning name
  | _ => ""

end LineMap.Diagnostics
