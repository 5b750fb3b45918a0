import LineMap.Config.Basic
import LineMap.Diagnostics.Journal
import LineMap.Keyed
import LineMap.SymbolTable.Table
import LineMap.Text.Blank

/-!
# Views and their registries

A view is a named way of turning a tool's output into display lines.  A registry holds one view per
name.
-/

set_option autoImplicit false

namespace LineMap

open LineMap.Diagnostics
open LineMap.Text

structure Context where
  config : Config
  symbols? : Option SymbolTable
  sink : Sink

structure View where
  name : String
  description : String
  extract : Context → String → Run (Option (List OutputLine))

structure NameTaken where
  name : String
deriving DecidableEq

def NameTaken.message (taken : NameTaken) : String :=
  "a view named '" ++ taken.name ++ "' is already registered"

structure Registry where
  views : List (String × View)

namespace Registry

def empty : Registry := ⟨[]⟩

def lookup? (registry : Registry) (name : String) : Option View :=
  registry.views.lookup name

def add (registry : Registry) (view : View) : Except NameTaken Registry :=
  match registry.lookup? view.name with
  | some _ => .error ⟨view.name⟩
  | none => .ok ⟨Keyed.put view.name view registry.views⟩

/-- The other registry with all views of this one, which take the place of those of the same
name. -/
def mergeInto (registry other : Registry) : Registry :=
  ⟨Keyed.putAll registry.views other.views⟩

def names (registry : Registry) : List String :=
  (registry.views.map Prod.fst).mergeSort fun left right => left ≤ right

/-- The description of a view: the one that is given, or else what its documentation says. -/
def describe (description documentation : String) : String :=
  if description.isEmpty then trim documentation else description

end Registry

end LineMap
