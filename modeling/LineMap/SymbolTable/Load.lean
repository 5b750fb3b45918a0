import LineMap.Files.Input
import LineMap.SymbolTable.Document

/-!
# Loading symbol tables

A table that is missing or cannot be decoded is reported and counts as empty, so that display lines
are at worst without locations.
-/

set_option autoImplicit false

namespace LineMap.SymbolTable

open LineMap.Diagnostics
open LineMap.Files
open LineMap.Validation

def ofContent (content : Content) (primary : Int) : SymbolTable :=
  ⟨content.paths, content.entries, primary⟩

/-- Reports why a document is no symbol table: the first issue at once, all of them for
debugging. -/
def reportIssues (sink : Sink) (issues : List Issue) (details : List Detail) : Run Unit := do
  sink.report (.coded .warning "malformed-symbol-table"
    ("ignoring symbol table, it could not be decoded: " ++ toString issues.length ++
      " error(s), first: " ++ (issues.head?.map fun issue => issue.cause.message).getD "")
    details)
  sink.report (.plain .debug (reportText documentName issues) [])

/-- The table in a document, which may have come from a file. -/
def load (document? : Option Payload) (sink : Sink) (primary : Int) (source? : Option Path) :
    Run SymbolTable := do
  let details := source?.toList.map .path
  match document?.filter fun document => !document.isEmpty with
  | none =>
      sink.report (.plain .detail "no symbol information available" details)
      return .empty primary
  | some document =>
      match readContent document with
      | .error issues =>
          reportIssues sink issues details
          return .empty primary
      | .ok content =>
          sink.report (.plain .detail
            ("loaded symbol table with " ++ toString content.entries.length ++ " entries over " ++
              toString content.paths.length ++ " path(s)")
            details)
          return ofContent content primary

def loadFile (files : FileSystem) (path : Path) (sink : Sink) (primary : Int) :
    Run SymbolTable := do
  match ← readFile files path with
  | .ok bytes => load (some (.bytes bytes)) sink primary (some path)
  | .error error =>
      sink.report (.coded .warning "symbol-table-unreadable"
        ("ignoring symbol table, the file could not be read: " ++ error.message path)
        [.path path])
      return .empty primary

end LineMap.SymbolTable
