import LineMap.Diagnostics.Journal
import LineMap.Files.Tree
import LineMap.Text.Lines

/-!
# Reading files in the course of work

A path with a null character ends the work of reading it; that a file cannot be read is for the
reader of the file to report.  The question what stands at a path has an answer unless the path is
too long or may not be searched.  Text files are UTF-8, and each of their line endings counts as a
line feed.
-/

set_option autoImplicit false

namespace LineMap.Files

open LineMap.Diagnostics
open LineMap.Text

def readFile (files : FileSystem) (path : Path) : Run (Except ReadError (List UInt8)) :=
  if path.hasNull then throw .nullInPath else pure (readBytes files path)

/-- What stands at a path.  Nothing can stand where a null character leads. -/
def look (files : FileSystem) (path : Path) : Run Node :=
  if path.hasNull then pure .absent
  else
    match files path with
    | .overlong => throw (.overlongPath path)
    | .unsearchable => throw (.forbiddenPath path)
    | node => pure node

def isDirectory (files : FileSystem) (path : Path) : Run Bool := do
  return (← look files path) == .directory

def isFile (files : FileSystem) (path : Path) : Run Bool := do
  match ← look files path with
  | .file _ => return true
  | .unreadable => return true
  | _ => return false

def decodeText (bytes : List UInt8) : Except Utf8.Malformed String :=
  (Utf8.decode bytes).map fun cells => String.ofList (universalBreaks cells)

/-- The standard input: its bytes, and what comes of reading them as they are to be decoded here,
which is a text or the words that say why there is none. -/
structure StandardInput where
  bytes : List UInt8
  read : List UInt8 → Except String String :=
    fun bytes => (decodeText bytes).mapError Utf8.Malformed.message

end LineMap.Files
