import LineMap.Diagnostics.LevelTable
import LineMap.Keyed

/-!
# Setting up the levels

Two levels are added to a table in which there may be more than the standard names, those two among
them.  From then on the two have the numbers under which they were registered or found.  Messages
are counted by number, so levels that share a number share a counter.
-/

set_option autoImplicit false

namespace LineMap.Diagnostics

structure Numbering where
  hint : Int
  detail : Int
deriving DecidableEq

/-- What setting up the levels comes to: numbers, unless a level is refused, what is printed, and
the table that is left. -/
structure Setup where
  numbering? : Option Numbering
  printed : String
  table : LevelTable
deriving DecidableEq

/-- Adds the level between the informative and the warning ones, and then the level below it. -/
def LevelTable.setUp (table : LevelTable) : Setup :=
  let (hint, between) :=
    table.add Level.hint.number "HINT" Level.info.number Level.warning.number
  let (detail, final) :=
    between.add Level.detail.number "DETAIL" Level.debug.number Level.info.number
  { numbering? := hint.number?.bind fun hint => detail.number?.map fun detail => ⟨hint, detail⟩
    printed := hint.printed "HINT" ++ detail.printed "DETAIL"
    table := final }

def countUnder (number : Int) (counters : List (Int × Nat)) : List (Int × Nat) :=
  Keyed.put number ((counters.lookup number).getD 0 + 1) counters

namespace Numbering

def number (numbering : Numbering) : Level → Int
  | .hint => numbering.hint
  | .detail => numbering.detail
  | standard => standard.number

def counters (numbering : Numbering) : List (Int × Nat) :=
  Keyed.latest (Level.all.map fun level => (numbering.number level, 0))

def countersAfter (numbering : Numbering) (messages : List Level) : List (Int × Nat) :=
  messages.foldl (fun counters level => countUnder (numbering.number level) counters)
    numbering.counters

end Numbering

end LineMap.Diagnostics
