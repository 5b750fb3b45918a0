import LineMap.Config.Basic
import LineMap.Config.Merge
import LineMap.Validation.Checked

/-!
# Configurations as JSON documents

A document is an object with an object for each section, and all of it may be left out.  Names that
are not known are refused.  A document sets the fields that it mentions; laid over a configuration,
it leaves the others as they are.
-/

set_option autoImplicit false

namespace LineMap.Config

open LineMap.Json
open LineMap.Validation

def readLeaf (origin : Origin) : (leaf : Leaf) → Value → Checked leaf.Carrier
  | .finalMarker => nonemptyText
  | .unitKinds => identifiers origin
  | .startMarker => nonemptyText
  | .endMarker => nonemptyText
  | .includeStart => boolean
  | .primary => natural
  | .failureText => nonemptyText

def leafValue : (leaf : Leaf) → leaf.Carrier → Value
  | .finalMarker, marker => .text marker
  | .unitKinds, kinds => .arr (kinds.map Value.text)
  | .startMarker, marker => .text marker
  | .endMarker, marker => .text marker
  | .includeStart, included => .bool included
  | .primary, index => .int index
  | .failureText, text => .text text

/-- The setting that a section makes for a field, if it mentions it. -/
def leafSetting (origin : Origin) (members : Members) (leaf : Leaf) : Checked (List Setting) :=
  (optional members leaf.name (readLeaf origin leaf)).map fun value? =>
    value?.toList.map fun value => ⟨leaf, value⟩

def groupSettings (origin : Origin) (group : Group) (value : Value) : Checked (List Setting) :=
  match value with
  | .obj members =>
      Checked.concat
        (group.leaves.map (leafSetting origin members) ++
          [(onlyKnown (group.leaves.map Leaf.name) members).map fun _ => []])
  | _ => Checked.refuse value .notRecord

def documentSettings (origin : Origin) (value : Value) : Checked (List Setting) :=
  match value with
  | .obj members =>
      Checked.concat
        ((Group.all.map fun group =>
            (optional members group.name (groupSettings origin group)).map fun settings? =>
              settings?.getD []) ++
          [(onlyKnown (Group.all.map Group.name) members).map fun _ => []])
  | _ => Checked.refuse value .notRecord

def groupMembers (settings : List Setting) (group : Group) : Members :=
  (settings.filter fun setting => setting.leaf.group = group).map fun setting =>
    (Str.ofString setting.leaf.name, leafValue setting.leaf setting.value)

def documentMembers (settings : List Setting) : Members :=
  Group.all.map fun group => (Str.ofString group.name, .obj (groupMembers settings group))

def toValue (config : Config) : Value :=
  .obj (documentMembers config.settings)

/-- Lays a document over a configuration.  The document is read on its own first, so that issues
are about what stands in it; then what it sets is merged in and the whole is read again. -/
def overlay (config : Config) (document : Payload) : Checked Config := do
  let value ← document.json
  let settings ← documentSettings .document value
  let merged := Members.merge (documentMembers config.settings) (documentMembers settings)
  let complete ← documentSettings .assignment (.obj merged)
  return ofSettings complete

def documentName : String := "RootConfiguration"

end LineMap.Config
