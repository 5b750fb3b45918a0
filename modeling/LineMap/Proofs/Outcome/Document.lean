import LineMap.Outcome.Document
import LineMap.Proofs.Config.Mentions
import LineMap.Proofs.Json.Indented
import LineMap.Proofs.Validation.Members

/-!
# Outcomes read back from their documents

The document of an outcome is one JSON value, and a line feed.  Whoever reads the value back gets
all the lines with their texts and locations, and whether the tool succeeded.
-/

set_option autoImplicit false

namespace LineMap

open LineMap.Json

/-! ## Reading an outcome from a value -/

namespace Json.Value

def text? : Value → Option String
  | .str s => s.toString?
  | _ => none

def int? : Value → Option Int
  | .int n => some n
  | _ => none

def bool? : Value → Option Bool
  | .bool b => some b
  | _ => none

def items? : Value → Option (List Value)
  | .arr items => some items
  | _ => none

/-- What a value stands for where null stands for nothing. -/
def unlessNull? {α : Type} (read : Value → Option α) : Value → Option (Option α)
  | .null => some none
  | value => (read value).map some

@[simp] theorem text?_text (text : String) : (Value.text text).text? = some text := by
  rw [Value.text, text?, Str.toString?_ofString]

@[simp] theorem int?_int (n : Int) : (Value.int n).int? = some n := rfl

@[simp] theorem bool?_bool (b : Bool) : (Value.bool b).bool? = some b := rfl

@[simp] theorem items?_arr (items : List Value) : (Value.arr items).items? = some items := rfl

end Json.Value

section Nullable

variable {α : Type} {toValue : α → Value} {read : Value → Option α}

/-- A value that may be missing is read back, if no value is written as null. -/
theorem unlessNull?_orNull (back : ∀ a, read (toValue a) = some a)
    (known : ∀ a, toValue a ≠ .null) (value? : Option α) :
    (orNull toValue value?).unlessNull? read = some value? := by
  cases value? with
  | none => rfl
  | some a =>
      have present : Value.unlessNull? read (toValue a) = (read (toValue a)).map some := by
        rw [Value.unlessNull?]
        exact known a
      rw [orNull, present, back]
      rfl

end Nullable

def SourceLocation.ofValue? (value : Value) : Option SourceLocation := do
  let file? ← (← value.member? "file").unlessNull? Value.text?
  let line? ← (← value.member? "line").unlessNull? Value.int?
  let column? ← (← value.member? "column").unlessNull? Value.int?
  return ⟨file?, line?, column?⟩

def OutputLine.ofValue? (value : Value) : Option OutputLine := do
  let text ← (← value.member? "text").text?
  let source? ← (← value.member? "source").unlessNull? SourceLocation.ofValue?
  return ⟨text, source?⟩

def Outcome.ofValue? (value : Value) : Option Outcome := do
  let items ← (← value.member? "lines").items?
  let lines ← items.mapM OutputLine.ofValue?
  let succeeded ← (← value.member? "succeeded").bool?
  return ⟨lines, succeeded⟩

/-! ## Values denote what they were made of -/

/-- A record in which no name stands twice has each of its members under its name. -/
theorem member?_record {members : List (String × Value)} (once : (members.map Prod.fst).Nodup)
    {name : String} {value : Value} (listed : (name, value) ∈ members) :
    (Value.record members).member? name = some value := by
  rw [Value.record, Value.member?_obj]
  induction members with
  | nil => cases listed
  | cons first others inductionHypothesis =>
      obtain ⟨notLater, othersOnce⟩ := List.nodup_cons.mp once
      rw [List.map_cons, Members.last?]
      rcases List.mem_cons.mp listed with rfl | later
      · have noLater : Members.last? (Str.ofString name)
            (others.map fun member => (Str.ofString member.1, member.2)) = none := by
          rw [Option.eq_none_iff_forall_ne_some]
          intro other found
          obtain ⟨member, listed, same⟩ := List.mem_map.mp (Members.mem_of_last? found)
          have sameName := Str.ofString_injective (Prod.mk.inj same).1
          exact notLater (List.mem_map.mpr ⟨member, listed, sameName⟩)
        rw [noLater]
        exact if_pos rfl
      · rw [inductionHypothesis othersOnce later]

theorem SourceLocation.ofValue?_toValue (place : SourceLocation) :
    ofValue? place.toValue = some place := by
  have file : place.toValue.member? "file" = some (orNull .text place.file?) :=
    member?_record (by simp) (by simp)
  have line : place.toValue.member? "line" = some (orNull .int place.line?) :=
    member?_record (by simp) (by simp)
  have column : place.toValue.member? "column" = some (orNull .int place.column?) :=
    member?_record (by simp) (by simp)
  simp only [ofValue?, file, line, column, Option.bind_eq_bind, Option.bind_some,
    unlessNull?_orNull Value.text?_text nofun, unlessNull?_orNull Value.int?_int nofun]
  rfl

theorem OutputLine.ofValue?_toValue (line : OutputLine) : ofValue? line.toValue = some line := by
  have text : line.toValue.member? "text" = some (.text line.text) :=
    member?_record (by simp) (by simp)
  have source : line.toValue.member? "source" =
      some (orNull SourceLocation.toValue line.source?) := member?_record (by simp) (by simp)
  simp only [ofValue?, text, source, Option.bind_eq_bind, Option.bind_some, Value.text?_text,
    unlessNull?_orNull SourceLocation.ofValue?_toValue nofun]
  rfl

theorem Outcome.ofValue?_toValue (outcome : Outcome) : ofValue? outcome.toValue = some outcome := by
  have lines : outcome.toValue.member? "lines" =
      some (.arr (outcome.lines.map OutputLine.toValue)) := member?_record (by simp) (by simp)
  have succeeded : outcome.toValue.member? "succeeded" = some (.bool outcome.succeeded) :=
    member?_record (by simp) (by simp)
  have each : (outcome.lines.map OutputLine.toValue).mapM OutputLine.ofValue? =
      some outcome.lines := by
    induction outcome.lines with
    | nil => rfl
    | cons line others inductionHypothesis =>
        rw [List.map_cons, List.mapM_cons, OutputLine.ofValue?_toValue, inductionHypothesis]
        rfl
  simp only [ofValue?, lines, succeeded, Option.bind_eq_bind, Option.bind_some, Value.items?_arr,
    Value.bool?_bool, each]
  rfl

/-! ## The values of outcomes are legible -/

section Legible

variable {dialect : Dialect} {allowance : Nat}

theorem Json.Value.Legible.text (text : String) :
    Value.Legible dialect allowance (.text text) :=
  .str (Str.isText_map_scalar text.toList)

theorem Json.Value.Legible.record {members : List (String × Value)}
    (parts : ∀ member ∈ members, Value.Legible dialect allowance member.2) :
    Value.Legible dialect (allowance + 1) (.record members) := by
  refine .obj ?_ ?_
  · intro member listed
    obtain ⟨named, -, rfl⟩ := List.mem_map.mp listed
    exact Str.isText_map_scalar named.1.toList
  · intro member listed
    obtain ⟨named, namedListed, rfl⟩ := List.mem_map.mp listed
    exact parts named namedListed

theorem Json.Value.Legible.orNull {α : Type} {toValue : α → Value}
    (legible : ∀ a, Value.Legible dialect allowance (toValue a)) (value? : Option α) :
    Value.Legible dialect allowance (orNull toValue value?) := by
  cases value? with
  | none => exact .null
  | some a => exact legible a

variable (unlimited : ∀ count, dialect.AdmitsDigits count)
include unlimited

theorem SourceLocation.toValue_legible (place : SourceLocation) :
    Value.Legible dialect (allowance + 1) place.toValue := by
  have numbers : ∀ n : Int, Value.Legible dialect allowance (.int n) := fun _ =>
    .int (unlimited _)
  refine .record ?_
  simp only [List.forall_mem_cons, List.not_mem_nil, false_imp_iff, implies_true, and_true]
  exact ⟨.orNull .text _, .orNull numbers _, .orNull numbers _⟩

theorem OutputLine.toValue_legible (line : OutputLine) :
    Value.Legible dialect (allowance + 2) line.toValue := by
  refine .record ?_
  simp only [List.forall_mem_cons, List.not_mem_nil, false_imp_iff, implies_true, and_true]
  exact ⟨.text _, .orNull (SourceLocation.toValue_legible unlimited) _⟩

theorem Outcome.toValue_legible (outcome : Outcome) :
    Value.Legible dialect (allowance + 4) outcome.toValue := by
  refine .record ?_
  simp only [List.forall_mem_cons, List.not_mem_nil, false_imp_iff, implies_true, and_true]
  refine ⟨.arr ?_, .bool _⟩
  intro item listed
  obtain ⟨line, -, rfl⟩ := List.mem_map.mp listed
  exact OutputLine.toValue_legible unlimited line

end Legible

/-! ## Documents -/

namespace Outcome

/-- A dialect that sets no limits to numbers, and lets containers nest at least as deep as they do
in a document. -/
def documentDialect (spare : Nat) (loneSurrogates : Bool) : Dialect :=
  ⟨spare + 4, none, none, loneSurrogates⟩

variable (outcome : Outcome) (spare : Nat) (loneSurrogates : Bool)

theorem exists_indented_eq : ∃ front, outcome.toValue.indented = front ++ "\x7d" :=
  ⟨_, rfl⟩

/-- The value of an outcome is read back from its text, also with a gap behind it. -/
theorem readText_toValue (gap : Gap) :
    readText (documentDialect spare loneSurrogates)
        (bytesOf outcome.toValue.indented ++ gap.bytes) = .ok outcome.toValue :=
  readText_indented (outcome.toValue_legible fun _ => ⟨rfl, rfl⟩) gap

theorem readText_body :
    readText (documentDialect spare loneSurrogates) (bytesOf outcome.toValue.indented) =
      .ok outcome.toValue := by
  have read := outcome.readText_toValue spare loneSurrogates .empty
  have nothing : Gap.empty.bytes = [] := rfl
  rw [nothing, List.append_nil] at read
  exact read

theorem readText_document :
    readText (documentDialect spare loneSurrogates) (bytesOf outcome.document) =
      .ok outcome.toValue := by
  rw [document, bytesOf_append]
  exact outcome.readText_toValue spare loneSurrogates ⟨['\n'], List.forall_mem_singleton.mpr rfl⟩

theorem document_injective : Function.Injective document := by
  intro left right same
  have leftRead := left.readText_document 0 false
  rw [same, right.readText_document] at leftRead
  have sameValue : right.toValue = left.toValue := Except.ok.inj leftRead
  have decoded := left.ofValue?_toValue
  rw [← sameValue, right.ofValue?_toValue] at decoded
  exact (Option.some.inj decoded).symm

/-- A document is one JSON value that ends with its brace, and one line feed.  Both the value alone
and the whole document are read as a value that denotes the outcome; so outcomes with the same
document are the same. -/
theorem document_decodes :
    (∀ outcome : Outcome, ∃ body front : String,
      outcome.document = body ++ "\n" ∧ body = front ++ "\x7d" ∧
        ∀ spare loneSurrogates, ∃ value,
          readText (documentDialect spare loneSurrogates) (bytesOf body) = .ok value ∧
          readText (documentDialect spare loneSurrogates) (bytesOf outcome.document) =
            .ok value ∧
          ofValue? value = some outcome) ∧
      Function.Injective document := by
  refine ⟨?_, document_injective⟩
  intro outcome
  obtain ⟨front, ends⟩ := outcome.exists_indented_eq
  refine ⟨outcome.toValue.indented, front, rfl, ends, ?_⟩
  intro spare loneSurrogates
  exact ⟨outcome.toValue, outcome.readText_body spare loneSurrogates,
    outcome.readText_document spare loneSurrogates, outcome.ofValue?_toValue⟩

end Outcome

end LineMap
