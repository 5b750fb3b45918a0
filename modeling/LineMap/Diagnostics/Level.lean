/-!
# Levels of diagnostics

Seven levels, each with a name and a number.  Numbers of other levels may be used as well, but only
the seven are counted.
-/

set_option autoImplicit false

namespace LineMap.Diagnostics

/-- How grave a diagnostic is. -/
inductive Level where
  | critical
  | error
  | warning
  | hint
  | info
  | detail
  | debug
deriving DecidableEq

namespace Level

def all : List Level :=
  [.critical, .error, .warning, .hint, .info, .detail, .debug]

def number : Level → Int
  | .critical => 50
  | .error => 40
  | .warning => 30
  | .hint => 25
  | .info => 20
  | .detail => 15
  | .debug => 10

def name : Level → String
  | .critical => "critical"
  | .error => "error"
  | .warning => "warning"
  | .hint => "hint"
  | .info => "info"
  | .detail => "detail"
  | .debug => "debug"

def ofNumber? (number : Int) : Option Level :=
  all.find? fun level => level.number = number

def ofName? (name : String) : Option Level :=
  all.find? fun level => level.name = name

theorem mem_all (level : Level) : level ∈ all := by
  cases level <;> decide

@[simp] theorem ofNumber?_number (level : Level) : ofNumber? level.number = some level := by
  cases level <;> decide

/-- The name of a number; zero has one although nothing is reported at it. -/
def nameOfNumber (number : Int) : String :=
  match ofNumber? number with
  | some level => level.name
  | none => if number = 0 then "notset" else "level " ++ toString number

end Level

end LineMap.Diagnostics
