import LineMap.Text.Lines

/-!
# Paths

A path is kept in a normal form: empty parts and parts that stand for the same directory are
dropped, parts that lead upwards stay.  Exactly two slashes at the beginning are kept as two.
-/

set_option autoImplicit false

namespace LineMap.Files

open LineMap.Text

/-- Where a path begins: at the working directory or at one of the two roots. -/
inductive Anchor where
  | working
  | root
  | doubleRoot
deriving DecidableEq

def Anchor.text : Anchor → String
  | .working => ""
  | .root => "/"
  | .doubleRoot => "//"

structure Path where
  anchor : Anchor
  parts : List String
deriving DecidableEq

namespace Path

def anchorOf (text : List Char) : Anchor :=
  match (text.takeWhile (· = '/')).length with
  | 0 => .working
  | 2 => .doubleRoot
  | _ => .root

def ofString (text : String) : Path where
  anchor := anchorOf text.toList
  parts := ((splitAtChar '/' text.toList).filter fun part => part ≠ [] ∧ part ≠ ['.']).map
    String.ofList

def text (path : Path) : String :=
  if path.anchor = .working ∧ path.parts = [] then "."
  else path.anchor.text ++ String.intercalate "/" path.parts

def child (path : Path) (name : String) : Path :=
  { path with parts := path.parts ++ [name] }

/-- Whether a part of the path holds a null character, which no file system takes. -/
def hasNull (path : Path) : Bool :=
  path.parts.any fun part => part.toList.contains '\x00'

end Path

end LineMap.Files
