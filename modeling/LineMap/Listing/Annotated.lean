import LineMap.Number.Literal
import LineMap.Output
import LineMap.Text.Digit
import LineMap.Text.Lines

/-!
# Annotated listings

A bytecode listing in which annotation lines name the source line of the instructions that follow.
The annotated line is carried over plain lines until the next annotation; a frame header or an empty
line ends it.  The format names no file that could be trusted, so the locations have a line only.
-/

set_option autoImplicit false

namespace LineMap.Listing.Annotated

open LineMap.Number
open LineMap.Text

inductive LineKind where
  | frame
  | marking
  | blank
  | plain
deriving DecidableEq

def LineKind.name : LineKind → String
  | .frame => "frame"
  | .marking => "annotation"
  | .blank => "blank"
  | .plain => "plain"

def LineKind.ofName? (name : String) : Option LineKind :=
  [LineKind.frame, .marking, .blank, .plain].find? fun kind => kind.name = name

def after? (opening text : List Char) : Option (List Char) :=
  if opening.isPrefixOf text then some (text.drop opening.length) else none

def isFrameHeader (line : List Char) : Bool :=
  match after? "  Frame_".toList line with
  | some rest =>
      !(rest.takeWhile isDigit).isEmpty && rest.dropWhile isDigit == " :".toList
  | none => false

/-- The digits of an annotation: they follow the first colon after the file name and end the
line. -/
def markedDigits? (line : List Char) : Option (List Char) :=
  match after? "     annotation: ".toList line with
  | some rest =>
      let digits := (rest.dropWhile (· ≠ ':')).drop 1
      if digits ≠ [] ∧ digits.all isDigit then some digits else none
  | none => none

/-- The kind of a line and, for annotations, the source line that it names. -/
def classify (line : List Char) : Except Overlong (LineKind × Option Int) :=
  let body := dropFinalFeed line
  if isFrameHeader body then .ok (.frame, none)
  else
    match markedDigits? body with
    | some digits =>
        if digits.length ≤ digitLimit then .ok (.marking, some (numberOf digits : Nat))
        else .error ⟨digits.length⟩
    | none => .ok (if line = [] then .blank else .plain, none)

def carry (known : Option Int) : LineKind → Option Int → Option Int
  | .frame, _ => none
  | .blank, _ => none
  | .marking, annotated => annotated
  | .plain, _ => known

def locate (known : Option Int) : Option SourceLocation :=
  known.map fun line => ⟨none, some line, none⟩

structure Classified where
  text : List Char
  kind : LineKind
  annotated : Option Int

def follow : Option Int → List Classified → List OutputLine
  | _, [] => []
  | known, line :: rest =>
      let next := carry known line.kind line.annotated
      ⟨String.ofList line.text, locate next⟩ :: follow next rest

def classifyAll : List (List Char) → Except Overlong (List Classified)
  | [] => .ok []
  | line :: rest => do
      let (kind, annotated) ← classify line
      return ⟨line, kind, annotated⟩ :: (← classifyAll rest)

/-- The display lines of a listing: all its lines, empty ones included. -/
def parse (text : String) : Except Overlong (List OutputLine) :=
  (classifyAll (lineCells text.toList)).map (follow none)

end LineMap.Listing.Annotated
