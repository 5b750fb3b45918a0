import LineMap.Output
import LineMap.Text.Blank
import LineMap.Text.Lines
import LineMap.Text.Search

/-!
# The assembly section of a build transcript

The section lies behind the first line that holds the start marker and before the first later line
that holds the end marker, or the end of the transcript.  A transcript whose only end markers stand
at or before the start has no section.
-/

set_option autoImplicit false

namespace LineMap.Listing.AsmSection

open LineMap.Text

/-- The index of the line with the start marker, and that of the line at which the section ends. -/
structure Bounds where
  start : Nat
  stop : Nat
deriving DecidableEq

def holds (marker : String) (line : List Char) : Bool :=
  occursIn marker.toList line

def bounds? (lines : List (List Char)) (startMarker endMarker : String) : Option Bounds :=
  match lines.findIdx? (holds startMarker) with
  | none => none
  | some start =>
      match (lines.drop (start + 1)).findIdx? (holds endMarker) with
      | some offset => some ⟨start, start + 1 + offset⟩
      | none =>
          if (lines.take (start + 1)).any (holds endMarker) then none
          else some ⟨start, lines.length⟩

def between {α : Type} (first stop : Nat) (lines : List α) : List α :=
  (lines.take stop).drop first

def extract? (startMarker endMarker : String) (includeStart : Bool) (text : String) :
    Option (List OutputLine) :=
  let lines := lineCells text.toList
  (bounds? lines startMarker endMarker).map fun bounds =>
    let first := if includeStart then bounds.start else bounds.start + 1
    unsourced
      (((between first bounds.stop lines).filter fun line => !isBlankLine line).map
        String.ofList)

end LineMap.Listing.AsmSection
