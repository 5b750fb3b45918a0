import LineMap.Files.Path
import LineMap.Text.Quoted

/-!
# Files

What stands at a path, and trees of files in which paths are walked part by part.  A walk cannot
pass through a file, and a part that leads upwards does so from a directory that exists.  Names and
paths have lengths that they cannot exceed.
-/

set_option autoImplicit false

namespace LineMap.Files

open LineMap.Text

/-- What stands at a path.  A path is blocked if it leads through a file, overlong if it or a name
that it leads to is too long to be looked up, and unsearchable if it leads through a directory in
which nothing may be looked up.  A file that may not be read is unreadable. -/
inductive Node where
  | absent
  | blocked
  | overlong
  | unsearchable
  | directory
  | unreadable
  | file (content : List UInt8)
deriving DecidableEq

inductive ReadError where
  | absent
  | blocked
  | overlong
  | directory
  | forbidden
deriving DecidableEq

def ReadError.words : ReadError → String
  | .absent => "[Errno 2] No such file or directory"
  | .blocked => "[Errno 20] Not a directory"
  | .overlong => "[Errno 36] File name too long"
  | .directory => "[Errno 21] Is a directory"
  | .forbidden => "[Errno 13] Permission denied"

def ReadError.message (error : ReadError) (path : Path) : String :=
  error.words ++ ": " ++ quoted path.text

abbrev FileSystem : Type := Path → Node

def readBytes (files : FileSystem) (path : Path) : Except ReadError (List UInt8) :=
  match files path with
  | .file content => .ok content
  | .absent => .error .absent
  | .blocked => .error .blocked
  | .overlong => .error .overlong
  | .directory => .error .directory
  | .unsearchable => .error .forbidden
  | .unreadable => .error .forbidden

/-- An entry of a tree: the place of a directory or of a file with its content. -/
structure Entry where
  place : List String
  content? : Option (List UInt8)
deriving DecidableEq

/-- A tree of files around a working directory.  Of two entries with one place the later counts. -/
abbrev Tree : Type := List Entry

namespace Tree

/-- What stands at a place. A place with something inside it is a directory. -/
def nodeAt (tree : Tree) (place : List String) : Node :=
  match tree.reverse.find? fun entry => entry.place = place with
  | some ⟨_, some content⟩ => .file content
  | some ⟨_, none⟩ => .directory
  | none =>
      if place = [] ∨ tree.any fun entry => place.isPrefixOf entry.place then .directory
      else .absent

def nameLimit : Nat := 255

/-- The number of bytes from which on a path is too long. -/
def pathBound : Nat := 4096

/-- Walks from a directory, which is nothing if it lies outside the tree. -/
def walk (tree : Tree) : Option (List String) → List String → Node
  | _, [] => .directory
  | here?, part :: rest =>
      if part = ".." then
        walk tree (here?.bind fun here => if here = [] then none else some here.dropLast) rest
      else if nameLimit < part.utf8ByteSize then .overlong
      else
        match here? with
        | none => .absent
        | some here =>
            match tree.nodeAt (here ++ [part]) with
            | .directory => walk tree (some (here ++ [part])) rest
            | .file content => if rest = [] then .file content else .blocked
            | other => other

/-- The files of a tree; nothing but the root is known of absolute paths. -/
def fileSystem (tree : Tree) : FileSystem := fun path =>
  if pathBound ≤ path.text.utf8ByteSize then .overlong
  else
    match path.anchor with
    | .working => tree.walk (some []) path.parts
    | _ => tree.walk none path.parts

end Tree

end LineMap.Files
