import LineMap.Json.Display
import LineMap.Json.Reader
import LineMap.Text.Excerpt

/-!
# Validation reports

A value that does not have the form required of it is described by its issues.  Each names the place
inside the value, the cause, and the offending part.  A report lists them all under a headline.
-/

set_option autoImplicit false

namespace LineMap.Validation

open LineMap.Json
open LineMap.Text

/-- Where a value comes from: a whole document, or a single value typed for one field. -/
inductive Origin where
  | document
  | assignment
deriving DecidableEq

inductive Cause where
  | missing
  | unexpected
  | notRecord
  | notMapping
  | notList (origin : Origin)
  | emptyList
  | notString
  | emptyString
  | loneSurrogate
  | notInteger
  | malformedInteger
  | fractional
  | oversized
  | notFinite
  | negative
  | notBoolean
  | malformedBoolean
  | notIdentifiers
  | invalidJson (defect : Defect) (line column : Nat)
deriving DecidableEq

def Cause.tag : Cause → String
  | .missing => "missing"
  | .unexpected => "extra_forbidden"
  | .notRecord => "model_type"
  | .notMapping => "dict_type"
  | .notList _ => "list_type"
  | .emptyList => "too_short"
  | .notString => "string_type"
  | .emptyString => "string_too_short"
  | .loneSurrogate => "string_unicode"
  | .notInteger => "int_type"
  | .malformedInteger => "int_parsing"
  | .fractional => "int_from_float"
  | .oversized => "int_parsing_size"
  | .notFinite => "finite_number"
  | .negative => "greater_than_equal"
  | .notBoolean => "bool_type"
  | .malformedBoolean => "bool_parsing"
  | .notIdentifiers => "value_error"
  | .invalidJson .. => "json_invalid"

def Cause.message : Cause → String
  | .missing => "Field required"
  | .unexpected => "Extra inputs are not permitted"
  | .notRecord => "Input should be an object"
  | .notMapping => "Input should be an object"
  | .notList .document => "Input should be a valid array"
  | .notList .assignment => "Input should be a valid list"
  | .emptyList => "List should have at least 1 item after validation, not 0"
  | .notString => "Input should be a valid string"
  | .emptyString => "String should have at least 1 character"
  | .loneSurrogate =>
      "Input should be a valid string, unable to parse raw data as a unicode string"
  | .notInteger => "Input should be a valid integer"
  | .malformedInteger => "Input should be a valid integer, unable to parse string as an integer"
  | .fractional => "Input should be a valid integer, got a number with a fractional part"
  | .oversized => "Unable to parse input string as an integer, exceeded maximum size"
  | .notFinite => "Input should be a finite number"
  | .negative => "Input should be greater than or equal to 0"
  | .notBoolean => "Input should be a valid boolean"
  | .malformedBoolean => "Input should be a valid boolean, unable to interpret input"
  | .notIdentifiers => "Value error, unit kinds must be identifiers"
  | .invalidJson defect line column =>
      "Invalid JSON: " ++ defect.message ++ " at line " ++ toString line ++ " column " ++
        toString column

inductive Step where
  | member (name : Str)
  | item (index : Nat)
deriving DecidableEq

/-- A step as text; a name that itself holds a full stop stands between back quotes. -/
def Step.text : Step → String
  | .member name =>
      if name.contains (.scalar '.') then "\x60" ++ name.plain ++ "\x60" else name.plain
  | .item index => toString index

inductive Evidence where
  | value (part : Value)
  | bytes (part : List UInt8)

def Evidence.shown : Evidence → String
  | .value part => part.shown
  | .bytes part => quotedBytes part

def Evidence.kindName : Evidence → String
  | .value part => part.kindName
  | .bytes _ => "bytes"

structure Issue where
  place : List Step
  cause : Cause
  evidence : Evidence

/-- The lines that describe an issue; the place is left out if it is the whole value. -/
def Issue.text (issue : Issue) : String :=
  (if issue.place.isEmpty then ""
   else String.intercalate "." (issue.place.map Step.text) ++ "\n") ++
    "  " ++ issue.cause.message ++ " [type=" ++ issue.cause.tag ++ ", input_value=" ++
    excerpt issue.evidence.shown ++ ", input_type=" ++ issue.evidence.kindName ++ "]"

/-- A headline with the count of issues and what was to be read, and then the issues. -/
def reportText (subject : String) (issues : List Issue) : String :=
  String.intercalate "\n"
    ((toString issues.length ++
        (if issues.length = 1 then " validation error for " else " validation errors for ") ++
        subject) :: issues.map Issue.text)

end LineMap.Validation
