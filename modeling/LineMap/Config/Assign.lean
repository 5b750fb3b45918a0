import LineMap.Config.Document
import LineMap.Diagnostics.Journal
import LineMap.Json.Compact

/-!
# Assigning single fields

A field is named by its section and its name with a full stop between.  The value is JSON, or a bare
word that counts as a text.  A field that holds a text takes any other JSON value by its wording.
-/

set_option autoImplicit false

namespace LineMap.Config

open LineMap.Diagnostics
open LineMap.Json
open LineMap.Text
open LineMap.Validation

inductive AssignError where
  | notJson (wording : Str)
  | unknownComponent (path component : String)
  | unknownField (path : String)
  | notField (path : String)
  | invalid (path : String) (value : Value) (subject : String) (issues : List Issue)

def AssignError.identifier : AssignError → String
  | .notJson _ => "config-value-json-parse-error"
  | .unknownComponent .. => "unknown-field-component"
  | .unknownField _ => "unknown-field"
  | .notField _ => "not-a-leaf-field"
  | .invalid .. => "invalid-field-assignment"

def AssignError.message : AssignError → String
  | .notJson wording => "could not parse configuration value '" ++ wording.plain ++ "' as JSON"
  | .unknownComponent path component =>
      "didn't perform configuration assignment. unknown configuration field '" ++ path ++
        "', component '" ++ component ++ "' does not exist"
  | .unknownField path =>
      "didn't assign configuration field. unknown configuration field '" ++ path ++ "'"
  | .notField path =>
      "didn't assign configuration field. '" ++ path ++
        "' is a configuration section, not a field"
  | .invalid path value subject issues =>
      "could not assign configuration value '" ++ value.compact ++ "' to field '" ++ path ++
        "': " ++ reportText subject issues

/-- Whether a code point is blank; half of a surrogate pair is not. -/
def isBlankPoint : CodePoint → Bool
  | .scalar c => isBlank c
  | .surrogate _ => false

def wordingValue (wording : Str) : Except Fault (Option Value) :=
  match readText typedDialect (Utf8.encodePoints wording) with
  | .ok value => .ok (some value)
  | .error ⟨.tooDeep container, _⟩ => .error (.nestedTooDeep container)
  | .error _ =>
      match trimBy isBlankPoint wording with
      | [] => .ok none
      | first :: _ =>
          .ok (if (Str.ofString "[\x7b\"").contains first then none else some (.str wording))

inductive TreeNode where
  | root
  | group (inside : Group)
  | leaf (inside : Leaf)

def TreeNode.child? : TreeNode → String → Option TreeNode
  | .root, name => (Group.all.find? fun entry => entry.name = name).map .group
  | .group inside, name => (inside.leaves.find? fun entry => entry.name = name).map .leaf
  | .leaf _, _ => none

/-- Follows the components of a path; the error is about the component that does not exist. -/
def descend (path : String) (node : TreeNode) : List String → Except AssignError TreeNode
  | [] => .ok node
  | component :: rest =>
      match node.child? component with
      | some next => descend path next rest
      | none =>
          .error (if rest = [] then .unknownField path else .unknownComponent path component)

def fieldAt (path : String) : Except AssignError Leaf :=
  match descend path .root ((splitAtChar '.' (trim path).toList).map String.ofList) with
  | .ok (.leaf leaf) => .ok leaf
  | .ok (.group _) => .error (.notField path)
  | .ok .root => .error (.unknownField path)
  | .error error => .error error

/-- The value that a field is to take: a text takes the wording of whatever is no string. -/
def valueFor (leaf : Leaf) (wording : Str) (value : Value) : Value :=
  match leaf.holdsText, value with
  | true, .str s => .str s
  | true, _ => .str wording
  | false, other => other

def assignValue (config : Config) (path : String) (leaf : Leaf) (value : Value) :
    Except AssignError Config :=
  match (readLeaf .assignment leaf value).within (.member (Str.ofString leaf.name)) with
  | .ok read => .ok (config.set leaf read)
  | .error issues => .error (.invalid path value leaf.group.subject issues)

def reportError (sink : Sink) (details : List Detail) (error : AssignError) :
    Run (Option Config) := do
  sink.report (.coded .error error.identifier error.message details)
  return none

/-- Assigns a value by its wording to the field at a path.  Without a configuration in the answer,
an error was reported. -/
def assign? (config : Config) (path : String) (wording : Str) (sink : Sink)
    (place? : Option SourceLocation) : Run (Option Config) := do
  let details := place?.toList.map .location
  match ← attempt (wordingValue wording) with
  | none => reportError sink details (.notJson wording)
  | some given =>
      match fieldAt path with
      | .error error => reportError sink details error
      | .ok leaf =>
          let value := valueFor leaf wording given
          sink.report (.coded .detail "set-field"
            ("setting configuration field: " ++ path ++ " = " ++ value.compact) details)
          match config.assignValue path leaf value with
          | .error error => reportError sink details error
          | .ok assigned => return some assigned

end LineMap.Config
