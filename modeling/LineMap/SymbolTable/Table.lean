import LineMap.Output

/-!
# Symbol tables

A symbol table says from which range of which file each instruction came.  Only one file, the
primary source, is ever shown; instructions from the others stay without a location.
-/

set_option autoImplicit false

namespace LineMap

structure Position where
  line : Int
  column : Int
deriving DecidableEq

/-- What a symbol table knows of an instruction: the index of the file, and the range in it. -/
structure SymbolEntry where
  pathIndex : Int
  first : Position
  last : Position
deriving DecidableEq

/-- The files, the entries by instruction index, and the index of the primary source. -/
structure SymbolTable where
  paths : List String
  entries : List (String × SymbolEntry)
  primary : Int
deriving DecidableEq

namespace SymbolTable

def empty (primary : Int) : SymbolTable :=
  ⟨[], [], primary⟩

def isEmpty (table : SymbolTable) : Bool :=
  table.entries.isEmpty

def entry? (table : SymbolTable) (index : String) : Option SymbolEntry :=
  table.entries.lookup index

def path? (table : SymbolTable) (index : Int) : Option String :=
  if 0 ≤ index then table.paths[index.toNat]? else none

/-- Where an instruction comes from, if that is in the primary source. -/
def resolve? (table : SymbolTable) (index : String) : Option SourceLocation :=
  match table.entry? index with
  | none => none
  | some entry =>
      if entry.pathIndex = table.primary then
        (table.path? entry.pathIndex).map fun path =>
          ⟨some path, some entry.first.line, some entry.first.column⟩
      else none

end SymbolTable

end LineMap
