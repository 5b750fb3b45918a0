import LineMap.Diagnostics.Level
import LineMap.Files.Path
import LineMap.Json.Display
import LineMap.Output

/-!
# Diagnostic records

A report is made with a text, or an identifier and a text, and with details: places in source files,
paths, and keywords.  Composing it gives a record, unless something about it is not understood.  A
record is written like a compiler's message: place, level, identifier, scopes and text.  Scopes may
be given as anything, but only texts can be written.
-/

set_option autoImplicit false

namespace LineMap.Diagnostics

open LineMap.Files
open LineMap.Json
open LineMap.Text

inductive Detail where
  | location (place : SourceLocation)
  | path (path : Path)
  | value (value : Value)

def Detail.text (text : String) : Detail :=
  .value (.text text)

def Detail.plain : Detail → String
  | .location place =>
      "SourceLocation(file=" ++ place.file?.elim "None" quoted ++
        ", line=" ++ place.line?.elim "None" toString ++
        ", column=" ++ place.column?.elim "None" toString ++ ")"
  | .path given => given.text
  | .value given => given.plain

/-- A detail as an identifier: null is none, and a value that says nothing is an empty one. -/
def Detail.identifier? : Detail → Option String
  | .value .null => none
  | .value given => some (if given.isSubstantial then given.plain else "")
  | other => some other.plain

/-- A report as it is made.  What leads it is an identifier if a text follows it. -/
structure Draft where
  level : Int
  lead : Detail
  details : List Detail
  scopes : Value := .arr []
  keywords : List (String × Value) := []

inductive Misfit where
  | notIterable (value : Value)
  | notList (value : Value)
  | notText (position : Nat) (value : Value)

def Misfit.message : Misfit → String
  | .notIterable value => "'" ++ value.kindName ++ "' object is not iterable"
  | .notList value => "can only concatenate tuple (not \"" ++ value.kindName ++ "\") to tuple"
  | .notText position value =>
      "sequence item " ++ toString position ++ ": expected str instance, " ++ value.kindName ++
        " found"

/-- Why a report is refused.  A refusal shows the value that it is about; where that cannot be
written, another one takes its place. -/
inductive Refusal where
  | identifierRequired
  | strangeDetail (value : Value)
  | strangeKeyword (name : String) (value : Value)
  | unwritable

namespace Refusal

def label : Refusal → String
  | .unwritable => "ValueError"
  | _ => "AssertionError"

def message : Refusal → String
  | .identifierRequired => "message_id is required for logging at 'info' level and above"
  | .strangeDetail value => "unrecognised type-dispatched extra log argument " ++ value.shown
  | .strangeKeyword name value =>
      "unrecognised keyword extra log argument " ++ name ++ " = " ++ value.shown
  | .unwritable => Number.unwritableMessage

def about (value : Value) (refusal : Refusal) : Refusal :=
  if value.isShowable then refusal else .unwritable

end Refusal

/-- The source place of a record. Keywords may give anything as its line or column. -/
structure Place where
  file? : Option String := none
  line? : Option Value := none
  column? : Option Value := none

/-- A record.  It keeps the scopes of its report as they were given; where they do not fit, it
cannot be written. -/
structure Record where
  level : Int
  identifier? : Option String
  message : String
  place : Place
  scopes : Value := .arr []
  trailer? : Option String := none

namespace Draft

def plain (level : Level) (message : String) (details : List Detail) : Draft :=
  { level := level.number, lead := .text message, details }

def coded (level : Level) (identifier message : String) (details : List Detail) : Draft :=
  { level := level.number, lead := .text identifier, details := .text message :: details }

/-- Prepends scopes.  The report's own scopes become a list, if they have parts. -/
def under (outer : List Value) (draft : Draft) : Except Misfit Draft :=
  match draft.scopes.parts? with
  | some inner => .ok { draft with scopes := .arr (outer ++ inner) }
  | none => .error (.notIterable draft.scopes)

end Draft

namespace Place

/-- The place after one more detail: a location replaces all of it, a path only the file. -/
def withDetail (place : Place) : Detail → Except Refusal Place
  | .location given => .ok ⟨given.file?, given.line?.map .int, given.column?.map .int⟩
  | .path path => .ok { place with file? := some path.text }
  | .value value => .error (Refusal.about value (.strangeDetail value))

/-- The value of a keyword, where null stands for no value. -/
def keywordValue? : Value → Option Value
  | .null => none
  | other => some other

def withKeyword (place : Place) (keyword : String × Value) : Except Refusal Place :=
  let (name, value) := keyword
  if name = "line" then .ok { place with line? := keywordValue? value }
  else if name = "column" then .ok { place with column? := keywordValue? value }
  else .error (Refusal.about value (.strangeKeyword name value))

/-- A line or a column as text, unless it is missing or says nothing. -/
def numberText (value? : Option Value) : String :=
  match value? with
  | some value => if value.isSubstantial then value.plain else ""
  | none => ""

/-- The place as text: file, line and column, as far as they say something. -/
def text (place : Place) : String :=
  let file := place.file?.getD ""
  let shownFile :=
    if (place.line?.isSome || place.column?.isSome) && file.isEmpty then "<source>" else file
  String.intercalate ":"
    ([shownFile, numberText place.line?, numberText place.column?].filter fun part =>
      !part.isEmpty)

end Place

def Draft.split (draft : Draft) : Option String × String × List Detail :=
  match draft.details with
  | .value (.str message) :: rest => (draft.lead.identifier?, message.plain, rest)
  | details => (none, draft.lead.plain, details)

def filled (parts : List String) : List String :=
  parts.filter fun part => !part.isEmpty

/-- The identifier between brackets; an empty one is not shown. -/
def bracketed : Option String → String
  | none => ""
  | some identifier => if identifier.isEmpty then "" else "[" ++ identifier ++ "]"

def frontParts (place : Place) (level : Int) (identifier? : Option String) : List String :=
  filled [place.text, Level.nameOfNumber level, bracketed identifier?]

/-- The texts of scopes, of which the first stands at a position in the record. -/
def scopeTexts : Nat → List Value → Except Misfit (List String)
  | _, [] => .ok []
  | position, .str scope :: rest => (scopeTexts (position + 1) rest).map (scope.plain :: ·)
  | position, other :: _ => .error (.notText position other)

/-- The scopes of a record behind so many parts.  Null stands for none, and values that say nothing
are left out. -/
def recordScopes (position : Nat) : Value → Except Misfit (List String)
  | .arr items => scopeTexts position (items.filter Value.isSubstantial)
  | .null => .ok []
  | other => .error (.notList other)

def Draft.compose (draft : Draft) : Except Refusal Record := do
  let (identifier?, message, details) := draft.split
  if Level.info.number ≤ draft.level ∧ identifier? = none then .error .identifierRequired
  else
    let place ← details.foldlM Place.withDetail {}
    let place ← draft.keywords.foldlM Place.withKeyword place
    return { level := draft.level, identifier?, message, place, scopes := draft.scopes }

namespace Record

def front (record : Record) : List String :=
  frontParts record.place record.level record.identifier?

def shownScopes (record : Record) : Except Misfit (List String) :=
  recordScopes record.front.length record.scopes

def misfit? (record : Record) : Option Misfit :=
  match record.shownScopes with
  | .ok _ => none
  | .error misfit => some misfit

/-- The record on its line. Empty parts are left out, and without a text a colon ends the line. -/
def text (record : Record) : String :=
  let parts := record.front ++ filled (record.shownScopes.toOption.getD [])
  String.intercalate ": " (parts ++ filled [record.message]) ++
    (if record.message.isEmpty then ":" else "")

/-- The record and, on a line of its own, what is appended to it. -/
def fullText (record : Record) : String :=
  match record.trailer? with
  | some trailer => record.text ++ "\n" ++ trailer
  | none => record.text

end Record

end LineMap.Diagnostics
