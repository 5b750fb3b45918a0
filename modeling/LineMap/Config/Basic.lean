/-!
# The configuration

Seven fields in four sections hold the textual conventions of the tools whose output is read.  A
field is a leaf with a type of its own; getting and setting go by leaf.
-/

set_option autoImplicit false

namespace LineMap

inductive Group where
  | ir
  | asm
  | symbols
  | output
deriving DecidableEq

inductive Leaf where
  | finalMarker
  | unitKinds
  | startMarker
  | endMarker
  | includeStart
  | primary
  | failureText
deriving DecidableEq

namespace Group

def all : List Group :=
  [.ir, .asm, .symbols, .output]

def name : Group → String
  | .ir => "ir"
  | .asm => "asm"
  | .symbols => "symbols"
  | .output => "output"

def subject : Group → String
  | .ir => "IrConfiguration"
  | .asm => "AsmConfiguration"
  | .symbols => "SymbolsConfiguration"
  | .output => "OutputConfiguration"

def leaves : Group → List Leaf
  | .ir => [.finalMarker, .unitKinds]
  | .asm => [.startMarker, .endMarker, .includeStart]
  | .symbols => [.primary]
  | .output => [.failureText]

end Group

namespace Leaf

def all : List Leaf :=
  Group.all.flatMap Group.leaves

def group : Leaf → Group
  | .finalMarker => .ir
  | .unitKinds => .ir
  | .startMarker => .asm
  | .endMarker => .asm
  | .includeStart => .asm
  | .primary => .symbols
  | .failureText => .output

def name : Leaf → String
  | .finalMarker => "final_marker"
  | .unitKinds => "unit_kinds"
  | .startMarker => "start_marker"
  | .endMarker => "end_marker"
  | .includeStart => "include_start_marker"
  | .primary => "primary_path_index"
  | .failureText => "failure_text"

abbrev Carrier : Leaf → Type
  | .finalMarker => String
  | .unitKinds => List String
  | .startMarker => String
  | .endMarker => String
  | .includeStart => Bool
  | .primary => Int
  | .failureText => String

def holdsText : Leaf → Bool
  | .finalMarker => true
  | .unitKinds => false
  | .startMarker => true
  | .endMarker => true
  | .includeStart => false
  | .primary => false
  | .failureText => true

theorem mem_leaves_iff (leaf : Leaf) (group : Group) :
    leaf ∈ group.leaves ↔ leaf.group = group := by
  cases leaf <;> cases group <;> decide

theorem mem_all (leaf : Leaf) : leaf ∈ all := by
  cases leaf <;> decide

end Leaf

structure Config where
  finalMarker : String := "// IR: Final"
  unitKinds : List String := ["script", "library", "contract", "predicate"]
  startMarker : String := ";; ASM: Virtual abstract program"
  endMarker : String := "Finished"
  includeStart : Bool := false
  primary : Int := 1
  failureText : String := "<Compilation failed>"
deriving DecidableEq

namespace Config

def default : Config := {}

def get (config : Config) : (leaf : Leaf) → leaf.Carrier
  | .finalMarker => config.finalMarker
  | .unitKinds => config.unitKinds
  | .startMarker => config.startMarker
  | .endMarker => config.endMarker
  | .includeStart => config.includeStart
  | .primary => config.primary
  | .failureText => config.failureText

def set (config : Config) : (leaf : Leaf) → leaf.Carrier → Config
  | .finalMarker, marker => { config with finalMarker := marker }
  | .unitKinds, kinds => { config with unitKinds := kinds }
  | .startMarker, marker => { config with startMarker := marker }
  | .endMarker, marker => { config with endMarker := marker }
  | .includeStart, included => { config with includeStart := included }
  | .primary, index => { config with primary := index }
  | .failureText, text => { config with failureText := text }

@[simp] theorem get_set_self (config : Config) (leaf : Leaf) (value : leaf.Carrier) :
    (config.set leaf value).get leaf = value := by
  cases leaf <;> rfl

theorem get_set_of_ne (config : Config) {leaf other : Leaf} (distinct : other ≠ leaf)
    (value : leaf.Carrier) : (config.set leaf value).get other = config.get other := by
  cases leaf <;> cases other <;> simp_all [get, set]

theorem ext_get {left right : Config} (same : ∀ leaf, left.get leaf = right.get leaf) :
    left = right := by
  cases left
  cases right
  simp only [Config.mk.injEq]
  exact ⟨same .finalMarker, same .unitKinds, same .startMarker, same .endMarker,
    same .includeStart, same .primary, same .failureText⟩

end Config

structure Setting where
  leaf : Leaf
  value : leaf.Carrier

namespace Config

def settings (config : Config) : List Setting :=
  Leaf.all.map fun leaf => ⟨leaf, config.get leaf⟩

def ofSettings (settings : List Setting) : Config :=
  settings.foldl (fun config setting => config.set setting.leaf setting.value) default

@[simp] theorem ofSettings_settings (config : Config) :
    ofSettings config.settings = config := by
  simp [ofSettings, settings, Leaf.all, Group.all, Group.leaves, get, set]

end Config

end LineMap
