import LineMap.Output
import LineMap.Text.Blank
import LineMap.Text.Lines
import LineMap.Text.Search

/-!
# Dumps of an intermediate representation

A dump holds a program once for every pass, each copy behind a banner.  Wanted is the top-level unit
after the last banner: it begins with the keyword of its kind and an opening brace, and ends at the
first closing brace that begins a line.  Braces are not counted.
-/

set_option autoImplicit false

namespace LineMap.Listing.IrDump

open LineMap.Text

/-- A keyword at the beginning of a text, blanks and an opening brace; and what follows them. -/
def opening? (text kind : List Char) : Option (List Char × List Char) :=
  if kind.isPrefixOf text then
    let after := text.drop kind.length
    match after.dropWhile isBlank with
    | '\x7b' :: rest => some (kind ++ after.takeWhile isBlank ++ ['\x7b'], rest)
    | _ => none
  else none

/-- The first opening of a unit; where several kinds fit, the one that is listed first. -/
def firstOpening (kinds : List (List Char)) : List Char → Option (List Char × List Char)
  | [] => none
  | c :: rest =>
      match kinds.findSome? (opening? (c :: rest)) with
      | some found => some found
      | none => firstOpening kinds rest

/-- The text through the first closing brace that stands directly behind a line feed. -/
def throughClosing : List Char → Option (List Char)
  | [] => none
  | c :: rest =>
      if c = '\n' ∧ rest.head? = some '\x7d' then some ['\n', '\x7d']
      else (throughClosing rest).map (c :: ·)

/-- The first unit of a text, or all of the text if no unit is closed.  If nothing closes the first
unit, nothing closes a later one either. -/
def unitOrAll (kinds : List (List Char)) (text : List Char) : List Char :=
  match firstOpening kinds text with
  | some (opening, rest) =>
      match throughClosing rest with
      | some body => opening ++ body
      | none => text
  | none => text

def keywords (kinds : List String) : List (List Char) :=
  if kinds.isEmpty then [[]] else kinds.map String.toList

/-- The final unit, from what follows the line of the last marker; none if there is no marker. -/
def finalCells (marker : String) (kinds : List String) (text : List Char) :
    Option (List Char) :=
  (lastOccurrence marker.toList text).map fun found =>
    unitOrAll (keywords kinds) (afterFirstFeed found)

def finalText (marker : String) (kinds : List String) (text : String) : Option String :=
  (finalCells marker kinds text.toList).map String.ofList

def hasMarker (marker text : String) : Bool :=
  occursIn marker.toList text.toList

/-- The display lines of the final unit, or of the whole dump if there is no marker. -/
def finalLines (marker : String) (kinds : List String) (text : String) : List OutputLine :=
  unsourced
    ((lineCells ((finalCells marker kinds text.toList).getD text.toList)).map String.ofList)

theorem finalCells_isSome (marker : String) (kinds : List String) (text : String) :
    (finalCells marker kinds text.toList).isSome = hasMarker marker text := by
  simp [finalCells, hasMarker, lastOccurrence_isSome]

end LineMap.Listing.IrDump
