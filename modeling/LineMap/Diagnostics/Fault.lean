import LineMap.Diagnostics.Record
import LineMap.Files.Tree
import LineMap.Json.Reader

/-!
# Faults

Work may end without a result.  A fault says why; it has a class and words, by which it is shown
wherever it ends the work.
-/

set_option autoImplicit false

namespace LineMap.Diagnostics

open LineMap.Files
open LineMap.Json
open LineMap.Number
open LineMap.Text

/-- What an option was to give when an empty list was left in the place of its value. -/
inductive Vacancy where
  | view
  | seconds
  | path
  | assignment
  | level
deriving DecidableEq

namespace Vacancy

def label : Vacancy → String
  | .view => "TypeError"
  | .seconds => "TypeError"
  | .path => "TypeError"
  | .assignment => "AttributeError"
  | .level => "AttributeError"

def message : Vacancy → String
  | .view => "unhashable type: 'list'"
  | .seconds => "unsupported format string passed to list.__format__"
  | .path => "expected str, bytes or os.PathLike object, not list"
  | .assignment => "'list' object has no attribute 'partition'"
  | .level => "'list' object has no attribute 'upper'"

end Vacancy

/-- Why work ends without a result. -/
inductive Fault where
  | refused (refusal : Refusal)
  | misfit (misfit : Misfit)
  | unnamed (level : Int)
  | uncounted (level : Int)
  | overlong (number : Overlong)
  | unwritable
  | noLines
  | malformedText (sequence : Utf8.Malformed)
  | nestedTooDeep (container : Container)
  | nullInPath
  | overlongPath (path : Path)
  | forbiddenPath (path : Path)
  | homeUnknown
  | inputDetached
  | vacant (vacancy : Vacancy)

namespace Fault

def label : Fault → String
  | .refused refusal => refusal.label
  | .misfit _ => "TypeError"
  | .unnamed _ => "ValueError"
  | .uncounted _ => "KeyError"
  | .overlong _ => "ValueError"
  | .unwritable => "ValueError"
  | .noLines => "ValueError"
  | .malformedText _ => "UnicodeDecodeError"
  | .nestedTooDeep _ => "RecursionError"
  | .nullInPath => "ValueError"
  | .overlongPath _ => "OSError"
  | .forbiddenPath _ => "PermissionError"
  | .homeUnknown => "RuntimeError"
  | .inputDetached => "AttributeError"
  | .vacant vacancy => vacancy.label

def message : Fault → String
  | .refused refusal => refusal.message
  | .misfit cause => cause.message
  | .unnamed _ => unwritableMessage
  | .uncounted level => toString level
  | .overlong number => number.message
  | .unwritable => unwritableMessage
  | .noLines => "max() arg is an empty sequence"
  | .malformedText sequence => sequence.message
  | .nestedTooDeep container =>
      "maximum recursion depth exceeded while decoding a JSON " ++
        (match container with
          | .array => "array"
          | .object => "object") ++ " from a unicode string"
  | .nullInPath => "embedded null byte"
  | .overlongPath path => ReadError.overlong.message path
  | .forbiddenPath path => ReadError.forbidden.message path
  | .homeUnknown => "Could not determine home directory."
  | .inputDetached => "'NoneType' object has no attribute 'read'"
  | .vacant vacancy => vacancy.message

def shown (fault : Fault) : String :=
  fault.label ++ "(" ++ quoted fault.message ++ ")"

end Fault

end LineMap.Diagnostics
