import LineMap.Keyed
import LineMap.SymbolTable.Table
import LineMap.Validation.Checked

/-!
# Symbol tables as JSON documents

A document is an object with the list of files and the entries by instruction index.  Several names
are accepted for some members, and of those that are present the first in a fixed order counts.
Other members are ignored.  Either the whole document is valid or nothing is taken from it.
-/

set_option autoImplicit false

namespace LineMap.SymbolTable

open LineMap.Json
open LineMap.Validation

structure Content where
  paths : List String
  entries : List (String × SymbolEntry)

def positionOf (value : Value) : Checked Position :=
  match value with
  | .obj members =>
      ((required members "line" [] integer).both
        (required members "column" ["col"] integer)).map fun (line, column) => ⟨line, column⟩
  | _ => Checked.refuse value .notRecord

def rangeOf (value : Value) : Checked (Position × Position) :=
  match value with
  | .obj members =>
      (required members "start" [] positionOf).both (required members "end" [] positionOf)
  | _ => Checked.refuse value .notRecord

def entryOf (value : Value) : Checked SymbolEntry :=
  match value with
  | .obj members =>
      ((required members "pathIndex" ["path_index", "path"] integer).both
        (required members "range" [] rangeOf)).map
          fun (pathIndex, first, last) => ⟨pathIndex, first, last⟩
  | _ => Checked.refuse value .notRecord

def entryPairs : Members → Checked (List (String × SymbolEntry))
  | [] => .ok []
  | (name, value) :: rest =>
      (((entryOf value).within (.member name)).both (entryPairs rest)).map
        fun (read, others) => (name.plain, read) :: others

/-- Reads the entries by their keys; of several with one key the last counts. -/
def entriesOf (value : Value) : Checked (List (String × SymbolEntry)) :=
  match value with
  | .obj members => (entryPairs members).map Keyed.latest
  | _ => Checked.refuse value .notMapping

def pathsOf (value : Value) : Checked (List String) :=
  (list .document string value).map fun names => names.map Str.plain

def contentOf (value : Value) : Checked Content :=
  match value with
  | .obj members =>
      ((required members "paths" [] pathsOf).both
        (required members "entries" ["map"] entriesOf)).map
          fun (paths, entries) => ⟨paths, entries⟩
  | _ => Checked.refuse value .notRecord

def readContent (payload : Payload) : Checked Content :=
  payload.json.bind contentOf

def documentName : String := "SymbolTablePayload"

end LineMap.SymbolTable
