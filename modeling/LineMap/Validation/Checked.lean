import LineMap.Text.Identifier
import LineMap.Validation.Issue

/-!
# Checked values

A check either gives a value or the list of all issues found.  Numbers, truth values and texts are
read leniently: a number may be written as a string, a truth value as a word or as zero or one.
-/

set_option autoImplicit false

namespace LineMap.Validation

open LineMap.Json
open LineMap.Number
open LineMap.Text

abbrev Checked (α : Type) : Type := Except (List Issue) α

namespace Checked

def refuse {α : Type} (value : Value) (cause : Cause) : Checked α :=
  .error [⟨[], cause, .value value⟩]

def within {α : Type} (step : Step) : Checked α → Checked α
  | .ok a => .ok a
  | .error issues => .error (issues.map fun issue => { issue with place := step :: issue.place })

def both {α β : Type} : Checked α → Checked β → Checked (α × β)
  | .ok a, .ok b => .ok (a, b)
  | .ok _, .error issues => .error issues
  | .error issues, .ok _ => .error issues
  | .error issues, .error others => .error (issues ++ others)

theorem both_eq_ok_iff {α β : Type} {left : Checked α} {right : Checked β} {a : α} {b : β} :
    left.both right = .ok (a, b) ↔ left = .ok a ∧ right = .ok b := by
  cases left <;> cases right <;> simp [both]

@[simp] theorem within_eq_ok_iff {α : Type} {step : Step} {checked : Checked α} {a : α} :
    checked.within step = .ok a ↔ checked = .ok a := by
  cases checked <;> simp [within]

def concat {α : Type} : List (Checked (List α)) → Checked (List α)
  | [] => .ok []
  | first :: rest => (first.both (concat rest)).map fun pair => pair.1 ++ pair.2

end Checked

open Checked

/-- The bound of signed numbers of sixty-four bits. -/
def wordBound : Int := Nat.pow 2 63

/-- The whole number that a floating-point number is, if it lies strictly between the bounds. -/
def wordOf? (x : Binary64) : Option Int :=
  x.toInt?.filter fun n => -wordBound < n && n < wordBound

def integer (value : Value) : Checked Int :=
  match value with
  | .int n => .ok n
  | .bool b => .ok (if b then 1 else 0)
  | .float x =>
      if x.isFinite then
        match x.toInt? with
        | some _ =>
            match wordOf? x with
            | some n => .ok n
            | none => refuse value .oversized
        | none => refuse value .fractional
      else refuse value .notFinite
  | .str s =>
      match s.chars? with
      | none => refuse value .loneSurrogate
      | some cells =>
          match parseInteger cells with
          | .ok n => .ok n
          | .error .malformed => refuse value .malformedInteger
          | .error .tooLong => refuse value .oversized
  | _ => refuse value .notInteger

def natural (value : Value) : Checked Int :=
  match integer value with
  | .ok n => if 0 ≤ n then .ok n else refuse value .negative
  | .error issues => .error issues

def trueWords : List String := ["1", "on", "t", "true", "y", "yes"]

def falseWords : List String := ["0", "off", "f", "false", "n", "no"]

def booleanOfInt (value : Value) (n : Int) : Checked Bool :=
  if n = 0 then .ok false
  else if n = 1 then .ok true
  else refuse value .malformedBoolean

/-- Reads a truth value.  A number of more than sixty-four bits is not even mistaken for one. -/
def boolean (value : Value) : Checked Bool :=
  match value with
  | .bool b => .ok b
  | .int n =>
      if -wordBound ≤ n ∧ n < wordBound then booleanOfInt value n else refuse value .notBoolean
  | .float x =>
      match wordOf? x with
      | some n => booleanOfInt value n
      | none => refuse value .notBoolean
  | .str s =>
      match s.chars? with
      | none => refuse value .loneSurrogate
      | some cells =>
          let word := String.ofList (cells.map Char.toLower)
          if trueWords.contains word then .ok true
          else if falseWords.contains word then .ok false
          else refuse value .malformedBoolean
  | _ => refuse value .notBoolean

def nonemptyText (value : Value) : Checked String :=
  match value with
  | .str s =>
      match s.toString? with
      | none => refuse value .loneSurrogate
      | some text => if text = "" then refuse value .emptyString else .ok text
  | _ => refuse value .notString

def string (value : Value) : Checked Str :=
  match value with
  | .str s => .ok s
  | _ => refuse value .notString

/-- Reads every item of a list, whose index is given, by the same reading. -/
def items {α : Type} (read : Value → Checked α) : Nat → List Value → Checked (List α)
  | _, [] => .ok []
  | index, value :: rest =>
      ((read value).within (.item index) |>.both (items read (index + 1) rest)).map
        fun pair => pair.1 :: pair.2

def list {α : Type} (origin : Origin) (read : Value → Checked α) (value : Value) :
    Checked (List α) :=
  match value with
  | .arr values => items read 0 values
  | _ => refuse value (.notList origin)

def identifier? (s : Str) : Option String :=
  match s.toString? with
  | some text => if isIdentifier text.toList then some text else none
  | none => none

/-- Reads a list of identifiers that is not empty.  Only a list that is otherwise valid is searched
for strings that are no identifiers. -/
def identifiers (origin : Origin) (value : Value) : Checked (List String) :=
  match list origin string value with
  | .error issues => .error issues
  | .ok [] => refuse value .emptyList
  | .ok names =>
      match names.mapM identifier? with
      | some kinds => .ok kinds
      | none => refuse value .notIdentifiers

/-- The first of some names under which an object has a value, with the last value it has there. -/
def firstNamed (members : Members) : List String → Option (Str × Value)
  | [] => none
  | name :: others =>
      match Members.last? (Str.ofString name) members with
      | some value => some (Str.ofString name, value)
      | none => firstNamed members others

/-- Reads the member that an object must have under one of some names. -/
def required {α : Type} (members : Members) (name : String) (aliases : List String)
    (read : Value → Checked α) : Checked α :=
  match firstNamed members (name :: aliases) with
  | some (found, value) => (read value).within (.member found)
  | none => .error [⟨[.member (Str.ofString name)], .missing, .value (.obj members)⟩]

def optional {α : Type} (members : Members) (name : String) (read : Value → Checked α) :
    Checked (Option α) :=
  match Members.last? (Str.ofString name) members with
  | some value => ((read value).within (.member (Str.ofString name))).map some
  | none => .ok none

/-- Refuses every member whose name is not among the known ones; a name that is repeated is refused
once, with its last value. -/
def onlyKnown (known : List String) (members : Members) : Checked Unit :=
  let unknown :=
    (Keyed.latest members).filter fun member => !(known.map Str.ofString).contains member.1
  if unknown.isEmpty then .ok ()
  else .error (unknown.map fun member => ⟨[.member member.1], .unexpected, .value member.2⟩)

inductive Payload where
  | text (content : String)
  | bytes (content : List UInt8)

namespace Payload

/-- The bytes of a document; a text counts as UTF-8. -/
def toBytes : Payload → List UInt8
  | .text content => Utf8.encode content.toList
  | .bytes content => content

def isEmpty : Payload → Bool
  | .text content => content.isEmpty
  | .bytes content => content.isEmpty

def evidence : Payload → Evidence
  | .text content => .value (.text content)
  | .bytes content => .bytes content

def json (payload : Payload) : Checked Value :=
  let bytes := payload.toBytes
  match readText fileDialect bytes with
  | .ok value => .ok value
  | .error failure =>
      let (line, column) := place bytes failure.index
      .error [⟨[], .invalidJson failure.defect line column, payload.evidence⟩]

end Payload

end LineMap.Validation
