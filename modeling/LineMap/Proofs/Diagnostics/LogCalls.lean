import LineMap.Proofs.Diagnostics.Traced
import Mathlib.Data.List.Forall2
import Mathlib.Data.List.Induction

/-!
# Sequences of calls

A call is made with a string, further arguments and keywords, at a sink that lies under any number
of scopes.  It is refused for its own form only, whatever was called before, and a refused call
leaves nothing behind.  So after any calls the counts are the numbers of the calls that were taken,
and the records are those of them that reach the threshold, in their order.
-/

set_option autoImplicit false

namespace LineMap.Diagnostics

open LineMap.Json

/-- A sink that leads to the journal through scopes, the innermost first. -/
def Sink.nested (wrappers : List (List Str)) : Sink :=
  wrappers.foldl (fun inner scopes => .scoped (scopes.map .str) inner) .journal

/-! ## Calls -/

def Detail.strange? : Detail → Option Value
  | .value given => some given
  | _ => none

/-- The names that a keyword of a call cannot have beside its scopes, because they are taken. -/
def reservedNames : List String :=
  ["scopes", "self", "level", "msg_id_or_msg"]

/-- A call at a sink under scopes.  Of its keywords the scopes are texts; the others may be any. -/
structure LogCall where
  level : Level
  lead : Str
  arguments : List Detail := []
  scopes? : Option (List Str) := none
  keywords : List (String × Value) := []
  wrappers : List (List Str) := []
  named : ∀ keyword ∈ keywords, keyword.1 ∉ reservedNames := by simp

namespace LogCall

/-- What leads a call is its identifier if a string follows, and its message otherwise. -/
def identifier? (call : LogCall) : Option Str :=
  match call.arguments with
  | .value (.str _) :: _ => some call.lead
  | _ => none

def message (call : LogCall) : Str :=
  match call.arguments with
  | .value (.str message) :: _ => message
  | _ => call.lead

def extras (call : LogCall) : List Detail :=
  match call.arguments with
  | .value (.str _) :: extras => extras
  | extras => extras

/-- All scopes of a call: those that it passes, the innermost first, and then its own. -/
def scopes (call : LogCall) : List Str :=
  call.wrappers.flatten ++ call.scopes?.getD []

def draft (call : LogCall) : Draft where
  level := call.level.number
  lead := .value (.str call.lead)
  details := call.arguments
  scopes := .arr ((call.scopes?.getD []).map .str)
  keywords := call.keywords

def work (call : LogCall) : Run Unit :=
  (Sink.nested call.wrappers).report call.draft

/-- What is wrong with a call: an identifier is missing that its level requires, something that is
no place stands behind the message, or a keyword is not known. -/
def IsRefused (call : LogCall) : Prop :=
  (Level.info.number ≤ call.level.number ∧ call.identifier? = none) ∨
    (∃ detail ∈ call.extras, detail.isPlace = false) ∨
    ∃ keyword ∈ call.keywords, keyword.1 ≠ "line" ∧ keyword.1 ≠ "column"

instance (call : LogCall) : Decidable call.IsRefused :=
  inferInstanceAs (Decidable (_ ∨ _ ∨ _))

/-- What is not understood in a call: what stands behind the message and is no place, and then the
values of the keywords that are not known. -/
def strangers (call : LogCall) : List Value :=
  call.extras.filterMap Detail.strange? ++
    (call.keywords.filter fun keyword => keyword.1 ≠ "line" ∧ keyword.1 ≠ "column").map Prod.snd

/-- A call that lacks no identifier is refused for the first thing that is not understood, and the
refusal shows it. -/
def RefusesShown (call : LogCall) : Prop :=
  (Level.info.number ≤ call.level.number ∧ call.identifier? = none) ∨
    ∀ value ∈ call.strangers.head?, value.isShowable = true

instance (call : LogCall) : Decidable call.RefusesShown :=
  inferInstanceAs (Decidable (_ ∨ _))

structure Leaves (call : LogCall) (record : Record) : Prop where
  level : record.level = call.level.number
  identifier : record.identifier? = call.identifier?.map Str.plain
  message : record.message = call.message.plain
  place : call.draft.place = .ok record.place
  scopes : record.scopes = .arr (call.scopes.map .str)
  whole : record.trailer? = none

end LogCall

def afterLogCalls (threshold : Int) (calls : List LogCall) : Journal :=
  calls.foldl (fun journal call => (call.work.run journal).2) (.empty threshold)

/-! ## One call -/

theorem Sink.nested_append (inner : List (List Str)) (outer : List Str) :
    nested (inner ++ [outer]) = .scoped (outer.map .str) (nested inner) := by
  rw [nested, List.foldl_append]
  rfl

theorem Sink.report_nested (wrappers : List (List Str)) {draft : Draft} {own : List Value}
    (scopes : draft.scopes = .arr own) :
    (Sink.nested wrappers).report draft =
      emit { draft with scopes := .arr (wrappers.flatten.map .str ++ own) } := by
  induction wrappers using List.reverseRecOn generalizing draft own with
  | nil =>
      rw [List.flatten_nil, List.map_nil, List.nil_append, ← scopes]
      rfl
  | append_singleton inner outer inductionHypothesis =>
      have parts : draft.scopes.parts? = some own := by rw [scopes, Value.parts?]
      rw [nested_append, Sink.report, Draft.under, parts]
      refine (inductionHypothesis rfl).trans ?_
      simp

theorem Refusal.label_about {value : Value} {refusal : Refusal}
    (asserts : refusal.label = "AssertionError") :
    (Refusal.about value refusal).label =
      if value.isShowable then "AssertionError" else "ValueError" := by
  rw [Refusal.about]
  split
  · exact asserts
  · rfl

namespace Place

/-- Details add up to a place, or fail at the first of them that is none. -/
theorem foldlM_withDetail_cases (details : List Detail) (place : Place) :
    (∃ next, details.foldlM withDetail place = .ok next ∧
        details.filterMap Detail.strange? = []) ∨
      ∃ value others, details.filterMap Detail.strange? = value :: others ∧
        details.foldlM withDetail place = .error (.about value (.strangeDetail value)) := by
  induction details generalizing place with
  | nil => exact .inl ⟨place, rfl, rfl⟩
  | cons detail later inductionHypothesis =>
      cases detail with
      | location given =>
          rw [List.foldlM_cons, List.filterMap_cons_none rfl]
          exact inductionHypothesis _
      | path path =>
          rw [List.foldlM_cons, List.filterMap_cons_none rfl]
          exact inductionHypothesis _
      | value value => exact .inr ⟨value, _, List.filterMap_cons_some rfl, rfl⟩

/-- Keywords add up to a place, or fail at the first of them that is not known. -/
theorem foldlM_withKeyword_cases (keywords : List (String × Value)) (place : Place) :
    (∃ next, keywords.foldlM withKeyword place = .ok next ∧
        (keywords.filter fun keyword => keyword.1 ≠ "line" ∧ keyword.1 ≠ "column") = []) ∨
      ∃ name value others,
        (keywords.filter fun keyword => keyword.1 ≠ "line" ∧ keyword.1 ≠ "column") =
          (name, value) :: others ∧
        keywords.foldlM withKeyword place = .error (.about value (.strangeKeyword name value)) := by
  induction keywords generalizing place with
  | nil => exact .inl ⟨place, rfl, rfl⟩
  | cons keyword later inductionHypothesis =>
      obtain ⟨name, value⟩ := keyword
      rw [List.foldlM_cons, withKeyword]
      by_cases line : name = "line"
      · rw [if_pos line, List.filter_cons_of_neg (by simp [line])]
        exact inductionHypothesis _
      · by_cases column : name = "column"
        · rw [if_neg line, if_pos column, List.filter_cons_of_neg (by simp [column])]
          exact inductionHypothesis _
        · rw [if_neg line, if_neg column, List.filter_cons_of_pos (by simp [line, column])]
          exact .inr ⟨name, value, _, rfl, rfl⟩

end Place

namespace LogCall

theorem split_draft (call : LogCall) :
    call.draft.split = (call.identifier?.map Str.plain, call.message.plain, call.extras) := by
  have lead : (Detail.value (.str call.lead)).identifier? = some call.lead.plain := by
    cases call.lead with
    | nil => rfl
    | cons point others => rfl
  unfold Draft.split identifier? message extras draft
  cases call.arguments with
  | nil => rfl
  | cons first others =>
      cases first with
      | location given => rfl
      | path path => rfl
      | value value =>
          cases value with
          | str s => simp only [lead, Option.map_some]
          | _ => rfl

theorem work_eq (call : LogCall) :
    call.work = emit { call.draft with scopes := .arr (call.scopes.map .str) } := by
  rw [work, Sink.report_nested call.wrappers rfl, scopes, List.map_append]

/-- A call is taken exactly if its place can be told and no identifier is missing. -/
theorem isRefused_iff (call : LogCall) :
    call.IsRefused ↔ (Level.info.number ≤ call.level.number ∧ call.identifier? = none) ∨
      ¬∃ place, call.draft.place = .ok place := by
  have split := call.split_draft
  rw [Draft.exists_place_iff, split, IsRefused]
  simp only [draft, not_and_or, not_forall, not_or, exists_prop, Bool.not_eq_true]

theorem compose_scoped (call : LogCall) :
    { call.draft with scopes := .arr (call.scopes.map .str) }.compose =
      if Level.info.number ≤ call.level.number ∧ call.identifier? = none then
        .error .identifierRequired
      else call.draft.place.map fun place =>
        { level := call.level.number, identifier? := call.identifier?.map Str.plain,
          message := call.message.plain, place, scopes := .arr (call.scopes.map .str) } := by
  have split : { call.draft with scopes := .arr (call.scopes.map .str) }.split =
      (call.identifier?.map Str.plain, call.message.plain, call.extras) := call.split_draft
  rw [Draft.compose_eq, split]
  simp only [Option.map_eq_none_iff]
  rfl

theorem exists_compose_of_isRefused {call : LogCall} (refused : call.IsRefused) :
    ∃ refusal, { call.draft with scopes := .arr (call.scopes.map .str) }.compose =
      .error refusal := by
  rw [compose_scoped]
  by_cases missing : Level.info.number ≤ call.level.number ∧ call.identifier? = none
  · exact ⟨_, if_pos missing⟩
  · have nowhere := (call.isRefused_iff.mp refused).resolve_left missing
    rw [if_neg missing]
    cases placed : call.draft.place with
    | error refusal => exact ⟨refusal, rfl⟩
    | ok place => exact absurd ⟨place, placed⟩ nowhere

/-- Where no identifier is missing, the first stranger is what a call is refused for. -/
theorem label_of_place {call : LogCall} {refusal : Refusal}
    (refused : call.draft.place = .error refusal) :
    ∃ value, call.strangers.head? = some value ∧
      refusal.label = if value.isShowable then "AssertionError" else "ValueError" := by
  have split := call.split_draft
  rw [Draft.place, split] at refused
  obtain ⟨place, located, none⟩ | ⟨value, others, first, failed⟩ :=
    Place.foldlM_withDetail_cases call.extras {}
  · obtain ⟨next, keyed, -⟩ | ⟨name, value, others, first, failed⟩ :=
      Place.foldlM_withKeyword_cases call.keywords place
    · simp only [located, draft, bind, Except.bind, keyed] at refused
      cases refused
    · simp only [located, draft, bind, Except.bind, failed] at refused
      cases refused
      exact ⟨value, by rw [strangers, none, first]; rfl, Refusal.label_about rfl⟩
  · simp only [failed, bind, Except.bind] at refused
    cases refused
    exact ⟨value, by rw [strangers, first]; rfl, Refusal.label_about rfl⟩

/-- A refusal is an assertion that fails, unless it is about something that cannot be shown. -/
theorem label_of_compose {call : LogCall} {refusal : Refusal}
    (composed : { call.draft with scopes := .arr (call.scopes.map .str) }.compose =
      .error refusal) :
    (call.RefusesShown → refusal.label = "AssertionError") ∧
      (¬call.RefusesShown → refusal.label = "ValueError") := by
  rw [compose_scoped] at composed
  by_cases missing : Level.info.number ≤ call.level.number ∧ call.identifier? = none
  · rw [if_pos missing] at composed
    cases composed
    exact ⟨fun _ => rfl, fun unshown => absurd (.inl missing) unshown⟩
  · rw [if_neg missing, Result.map_eq_error_iff] at composed
    obtain ⟨value, first, label⟩ := label_of_place composed
    have shown : call.RefusesShown ↔ value.isShowable = true := by
      simp [RefusesShown, missing, first]
    rw [shown, label]
    exact ⟨fun showable => if_pos showable, fun unshown => if_neg unshown⟩

theorem traced_of_isRefused {call : LogCall} (refused : call.IsRefused) :
    ∃ refusal, Traced call.work (.error (.refused refusal)) [] ∧
      (call.RefusesShown → refusal.label = "AssertionError") ∧
      (¬call.RefusesShown → refusal.label = "ValueError") := by
  obtain ⟨refusal, composed⟩ := exists_compose_of_isRefused refused
  rw [work_eq]
  exact ⟨refusal, .emit_refused composed, label_of_compose composed⟩

theorem traced_of_not_isRefused {call : LogCall} (taken : ¬call.IsRefused) :
    ∃ record, call.Leaves record ∧ Traced call.work (.ok ()) [⟨record, some call.level⟩] := by
  rw [isRefused_iff, not_or, not_not] at taken
  obtain ⟨identified, place, placed⟩ := taken
  have composed := call.compose_scoped
  rw [if_neg identified, placed] at composed
  rw [work_eq]
  refine ⟨_, ?_, Traced.emit composed (Level.ofNumber?_number call.level)
    call.level.isWritable_number⟩
  exact ⟨rfl, rfl, rfl, placed, rfl, rfl⟩

end LogCall

/-! ## Sequences of calls -/

theorem afterLogCalls_append (threshold : Int) (calls : List LogCall) (call : LogCall) :
    afterLogCalls threshold (calls ++ [call]) =
      (call.work.run (afterLogCalls threshold calls)).2 := by
  rw [afterLogCalls, List.foldl_append]
  rfl

/-- One more call adds its record if it is taken and reaches the threshold. -/
theorem LogCall.run_work {call : LogCall} (before : Journal) :
    (call.work.run before).2.threshold = before.threshold ∧
      (∃ records, (call.work.run before).2.records = before.records ++ records ∧
        List.Forall₂ LogCall.Leaves
          ([call].filter fun call => ¬call.IsRefused ∧ before.threshold ≤ call.level.number)
          records) ∧
      ∀ level, (call.work.run before).2.counts level =
        before.counts level + [call].countP fun call => ¬call.IsRefused ∧ call.level = level := by
  by_cases refused : call.IsRefused
  · obtain ⟨refusal, traced, -⟩ := traced_of_isRefused refused
    rw [traced, Journal.extend_nil]
    exact ⟨rfl, ⟨[], by simp, by simp [refused]⟩, fun level => by simp [refused]⟩
  · obtain ⟨record, leaves, traced⟩ := traced_of_not_isRefused refused
    rw [traced]
    refine ⟨rfl, ⟨emittedAt before.threshold [record], rfl, ?_⟩, fun level => ?_⟩
    · have reaches : IsEmitted before.threshold record.level ↔
          before.threshold ≤ call.level.number := by
        rw [leaves.level, IsEmitted, and_iff_right call.level.number_pos]
      rw [emittedAt_singleton, if_congr reaches rfl rfl]
      by_cases reaching : before.threshold ≤ call.level.number
      · simpa [refused, reaching] using leaves
      · simp [reaching]
    · simp [refused, Journal.extend, List.countP_singleton]

theorem afterLogCalls_records (threshold : Int) (calls : List LogCall) :
    (afterLogCalls threshold calls).threshold = threshold ∧
      List.Forall₂ LogCall.Leaves
        (calls.filter fun call => ¬call.IsRefused ∧ threshold ≤ call.level.number)
        (afterLogCalls threshold calls).records := by
  induction calls using List.reverseRecOn with
  | nil => exact ⟨rfl, .nil⟩
  | append_singleton calls call inductionHypothesis =>
      obtain ⟨same, earlier⟩ := inductionHypothesis
      obtain ⟨kept, ⟨records, added, leave⟩, -⟩ :=
        call.run_work (afterLogCalls threshold calls)
      rw [same] at kept leave
      rw [afterLogCalls_append, List.filter_append, added]
      exact ⟨kept, List.rel_append earlier leave⟩

theorem afterLogCalls_counts (threshold : Int) (calls : List LogCall) (level : Level) :
    (afterLogCalls threshold calls).counts level =
      calls.countP fun call => ¬call.IsRefused ∧ call.level = level := by
  induction calls using List.reverseRecOn with
  | nil => rfl
  | append_singleton calls call inductionHypothesis =>
      obtain ⟨-, -, counted⟩ := call.run_work (afterLogCalls threshold calls)
      rw [afterLogCalls_append, counted, inductionHypothesis, List.countP_append]

/-- A call is refused exactly for its form, and then it leaves the journal as it was.  The refusal
is an assertion that fails, unless it would have to show a value that cannot be shown.  Each count
is the number of calls of its level that were taken, at every threshold.  The records are, in order,
those of the calls that were taken and reach the threshold, and each has the scopes that its call
passed, the innermost first, and then the scopes of the call. -/
theorem logCalls_recorded_exactly (threshold : Int) (calls : List LogCall) :
    (∀ (call : LogCall) (before : Journal),
        ((∃ fault, (call.work.run before).1 = .error fault) ↔ call.IsRefused) ∧
        (call.RefusesShown →
          ((∃ fault, (call.work.run before).1 = .error fault ∧ fault.label = "AssertionError") ↔
            call.IsRefused)) ∧
        ∀ fault, (call.work.run before).1 = .error fault →
          (call.work.run before).2 = before ∧
            fault.label = if call.RefusesShown then "AssertionError" else "ValueError") ∧
      (∀ level, (afterLogCalls threshold calls).counts level =
        calls.countP fun call => ¬call.IsRefused ∧ call.level = level) ∧
      List.Forall₂ LogCall.Leaves
        (calls.filter fun call => ¬call.IsRefused ∧ threshold ≤ call.level.number)
        (afterLogCalls threshold calls).records := by
  refine ⟨fun call before => ?_, afterLogCalls_counts threshold calls,
    (afterLogCalls_records threshold calls).2⟩
  by_cases refused : call.IsRefused
  · obtain ⟨refusal, traced, asserts, cannot⟩ := LogCall.traced_of_isRefused refused
    rw [traced before, Journal.extend_nil]
    refine ⟨iff_of_true ⟨_, rfl⟩ refused, fun shown => ?_, ?_⟩
    · exact iff_of_true ⟨_, rfl, asserts shown⟩ refused
    · rintro _ ⟨rfl⟩
      refine ⟨rfl, ?_⟩
      split
      next shown => exact asserts shown
      next unshown => exact cannot unshown
  · obtain ⟨record, -, traced⟩ := LogCall.traced_of_not_isRefused refused
    rw [traced before]
    exact ⟨iff_of_false nofun refused, fun _ => iff_of_false nofun refused, nofun⟩

example : ((afterLogCalls 20
    [{ level := .warning, lead := .ofString "no identifier" },
      { level := .error, lead := .ofString "broken", arguments := [.value (.text "it broke")],
        wrappers := [[.ofString "inner"], [.ofString "outer"]] }]).records).map Record.text =
    ["error: [broken]: inner: outer: it broke"] := by decide

end LineMap.Diagnostics
