import LineMap.Proofs.Config.Reachable
import LineMap.Proofs.Diagnostics.Logged
import LineMap.Proofs.Text.Lines

/-!
# What a single assignment does

An assignment is decided by its path and the wording of its value alone: it ends in a fault, is
refused for an error, or makes one setting.  The configuration that it is made on has no say in
this; it only receives the setting.  A refusal is one report of an error.
-/

set_option autoImplicit false

namespace LineMap

open LineMap.Diagnostics
open LineMap.Json
open LineMap.Text
open LineMap.Validation

/-! ## The paths of fields -/

/-- The path of a field: its section and its name with a full stop between. -/
def Leaf.path (leaf : Leaf) : String :=
  leaf.group.name ++ "." ++ leaf.name

example : Leaf.all.map Leaf.path =
    ["ir.final_marker", "ir.unit_kinds", "asm.start_marker", "asm.end_marker",
      "asm.include_start_marker", "symbols.primary_path_index", "output.failure_text"] := by
  decide

def Leaf.components (leaf : Leaf) : List (List Char) :=
  [leaf.group.name.toList, leaf.name.toList]

theorem Leaf.components_without_stop (leaf : Leaf) :
    ∀ component ∈ leaf.components, '.' ∉ component := by
  cases leaf <;> decide

theorem Leaf.components_without_empty (leaf : Leaf) : [] ∉ leaf.components := by
  cases leaf <;> decide

theorem Leaf.trim_path (leaf : Leaf) : trim leaf.path = leaf.path := by
  cases leaf <;> decide

theorem Leaf.path_ne_group_name (leaf : Leaf) (group : Group) : leaf.path ≠ group.name := by
  cases leaf <;> cases group <;> decide

theorem Leaf.path_injective {leaf other : Leaf} (same : leaf.path = other.path) :
    leaf = other := by
  revert same
  cases leaf <;> cases other <;> decide

theorem Leaf.toList_path (leaf : Leaf) :
    leaf.path.toList = ['.'].intercalate leaf.components := by
  simp [Leaf.path, Leaf.components, List.intercalate_cons_cons]

namespace Config

def componentsOf (path : String) : List (List Char) :=
  splitAtChar '.' (trim path).toList

theorem componentsOf_eq_iff (path : String) (leaf : Leaf) :
    componentsOf path = leaf.components ↔ trim path = leaf.path := by
  rw [componentsOf, splitAtChar_eq_splitOn, ← String.toList_inj, Leaf.toList_path]
  constructor
  · intro cut
    rw [← cut, List.intercalate_splitOn]
  · intro whole
    rw [whole]
    exact List.splitOn_intercalate '.' leaf.components_without_stop (by simp [Leaf.components])

namespace TreeNode

theorem child?_top_eq_some {name : String} {node : TreeNode}
    (found : root.child? name = some node) :
    ∃ inside, node = .group inside ∧ inside.name = name := by
  obtain ⟨inside, entry, rfl⟩ := Option.map_eq_some_iff.mp found
  exact ⟨inside, rfl, by simpa using List.find?_some entry⟩

theorem child?_group_eq_some {inside : Group} {name : String} {node : TreeNode}
    (found : (group inside).child? name = some node) :
    ∃ leaf, node = .leaf leaf ∧ leaf.group = inside ∧ leaf.name = name := by
  obtain ⟨leaf, entry, rfl⟩ := Option.map_eq_some_iff.mp found
  have member := (Leaf.mem_leaves_iff leaf inside).mp (List.mem_of_find?_eq_some entry)
  exact ⟨leaf, rfl, member, by simpa using List.find?_some entry⟩

end TreeNode

/-- A field lies two steps below the root, and nothing lies below a field. -/
theorem descend_top_eq_leaf {path : String} {components : List String} {leaf : Leaf}
    (found : descend path .root components = .ok (.leaf leaf)) :
    components = [leaf.group.name, leaf.name] := by
  match components with
  | [] => cases found
  | [first] =>
      rw [descend] at found
      split at found
      · rename_i node step
        obtain ⟨inside, rfl, -⟩ := TreeNode.child?_top_eq_some step
        cases found
      · cases found
  | first :: second :: rest =>
      rw [descend] at found
      split at found
      · rename_i node step
        obtain ⟨inside, rfl, rfl⟩ := TreeNode.child?_top_eq_some step
        rw [descend] at found
        split at found
        · rename_i lower lowerStep
          obtain ⟨reached, rfl, rfl, rfl⟩ := TreeNode.child?_group_eq_some lowerStep
          cases rest with
          | nil =>
              cases found
              rfl
          | cons third others => cases found
        · cases found
      · cases found

theorem descend_components (path : String) (leaf : Leaf) :
    descend path .root [leaf.group.name, leaf.name] = .ok (.leaf leaf) := by
  cases leaf <;> rfl

/-- A path leads to a field if, without the blanks around it, it is the path of that field. -/
theorem fieldAt_eq_ok_iff (path : String) (leaf : Leaf) :
    fieldAt path = .ok leaf ↔ trim path = leaf.path := by
  rw [← componentsOf_eq_iff, componentsOf]
  constructor
  · intro found
    unfold fieldAt at found
    split at found
    case h_1 reached descended =>
      cases found
      have components := congrArg (List.map String.toList) (descend_top_eq_leaf descended)
      simpa [List.map_map, Function.comp_def, Leaf.components] using components
    all_goals cases found
  · intro cut
    rw [fieldAt, cut]
    simp [Leaf.components, descend_components]

theorem descend_eq_error {path : String} {components : List String} {error : AssignError} :
    ∀ node, descend path node components = .error error →
      error = .unknownField path ∨ ∃ component, error = .unknownComponent path component := by
  induction components with
  | nil => intro node failed; cases failed
  | cons first rest inductionHypothesis =>
      intro node failed
      rw [descend] at failed
      split at failed
      · exact inductionHypothesis _ failed
      · split at failed <;> cases failed
        · exact .inl rfl
        · exact .inr ⟨first, rfl⟩

theorem fieldAt_eq_error {path : String} {error : AssignError}
    (failed : fieldAt path = .error error) :
    error = .notField path ∨ error = .unknownField path ∨
      ∃ component, error = .unknownComponent path component := by
  unfold fieldAt at failed
  split at failed
  case h_1 => cases failed
  case h_2 =>
    cases failed
    exact .inl rfl
  case h_3 =>
    cases failed
    exact .inr (.inl rfl)
  case h_4 reached descended =>
    cases failed
    exact .inr (descend_eq_error _ descended)

/-! ## The decision about an assignment -/

/-- The setting of a field to a value, if the field takes the value. -/
def settingFor (path : String) (leaf : Leaf) (raw : Value) : Except AssignError Setting :=
  match (readLeaf .assignment leaf raw).within (.member (Str.ofString leaf.name)) with
  | .ok read => .ok ⟨leaf, read⟩
  | .error issues => .error (.invalid path raw leaf.group.subject issues)

/-- What an assignment comes to, on whatever configuration: a fault, an error or a setting. -/
def decision (path : String) (wording : Str) : Except Fault (Except AssignError Setting) :=
  (wordingValue wording).map fun given? =>
    match given? with
    | none => .error (.notJson wording)
    | some given => do
        let leaf ← fieldAt path
        settingFor path leaf (valueFor leaf wording given)

def headingsOf : Except Fault (Except AssignError Setting) → List Heading
  | .error _ => []
  | .ok (.ok _) => [⟨.detail, some "set-field"⟩]
  | .ok (.error (.invalid path value subject issues)) =>
      [⟨.detail, some "set-field"⟩,
        ⟨.error, some (AssignError.invalid path value subject issues).identifier⟩]
  | .ok (.error error) => [⟨.error, some error.identifier⟩]

def decided (config : Config) (result : Except AssignError Setting) : Option Config :=
  result.toOption.map fun setting => config.set setting.leaf setting.value

theorem isPlace_of_mem_location {place? : Option SourceLocation} :
    ∀ detail ∈ place?.toList.map Detail.location, detail.isPlace = true := by
  intro detail member
  obtain ⟨place, -, rfl⟩ := List.mem_map.mp member
  rfl

section Reports

variable (config : Config) (path : String) (wording : Str) (sink : Sink)
  (place? : Option SourceLocation)

theorem logs_reportError (error : AssignError) :
    Logs (reportError sink (place?.toList.map .location) error) (.ok none)
      (sink.kept [⟨.error, some error.identifier⟩]) := by
  rw [← List.append_nil (sink.kept _)]
  exact (Logs.report sink (Draft.announces_coded .error _ _ _ isPlace_of_mem_location)).bind
    (.pure none)

theorem logs_assignValue (message : String) (leaf : Leaf) (raw : Value) :
    Logs
      (do
        sink.report (.coded .detail "set-field" message (place?.toList.map .location))
        match config.assignValue path leaf raw with
        | .error error => reportError sink (place?.toList.map .location) error
        | .ok assigned => return some assigned)
      (.ok (config.decided (settingFor path leaf raw)))
      (sink.kept (headingsOf (.ok (settingFor path leaf raw)))) := by
  have announced := Logs.report sink (Draft.announces_coded .detail "set-field" message
    (place?.toList.map .location) isPlace_of_mem_location)
  unfold assignValue settingFor
  cases (readLeaf .assignment leaf raw).within (.member (Str.ofString leaf.name)) with
  | ok read =>
      rw [← List.append_nil (sink.kept _)]
      exact announced.bind (.pure _)
  | error issues =>
      have refused := logs_reportError sink place? (.invalid path raw leaf.group.subject issues)
      have both := sink.kept_append [⟨.detail, some "set-field"⟩]
        [⟨.error, some (AssignError.invalid path raw leaf.group.subject issues).identifier⟩]
      exact (congrArg (Logs _ _) both).mpr (announced.bind refused)

/-- An assignment makes the setting that was decided, if any, and reports the decision. -/
theorem logs_assign :
    Logs (config.assign? path wording sink place?)
      ((decision path wording).map config.decided)
      (sink.kept (headingsOf (decision path wording))) := by
  unfold assign? decision
  cases wordingValue wording with
  | error fault => exact ⟨[], (Traced.attempt _).bind_error, by simp [headingsOf, Except.map]⟩
  | ok given? =>
      rw [← List.nil_append (sink.kept _)]
      refine (Logs.attempt _).bind ?_
      cases given? with
      | none => exact logs_reportError sink place? (.notJson wording)
      | some given =>
          simp only [Except.map]
          cases found : fieldAt path with
          | error error =>
              have announced : headingsOf (.ok (.error error)) =
                  [⟨.error, some error.identifier⟩] := by
                obtain rfl | rfl | ⟨component, rfl⟩ := fieldAt_eq_error found <;> rfl
              have reported := logs_reportError sink place? error
              rw [← announced] at reported
              exact reported
          | ok leaf => exact logs_assignValue config path sink place? _ leaf _

end Reports

/-! ## One field or nothing -/

def errorsOf (headings : List Heading) : List (Option String) :=
  (headings.filter fun heading => heading.level = .error).map Heading.identifier?

theorem errorsOf_refused (error : AssignError) :
    errorsOf (headingsOf (.ok (.error error))) = [some error.identifier] := by
  cases error <;> rfl

theorem settingFor_eq_ok_iff {path : String} {leaf : Leaf} {raw : Value} {setting : Setting} :
    settingFor path leaf raw = .ok setting ↔
      ∃ value, readLeaf .assignment leaf raw = .ok value ∧ (⟨leaf, value⟩ : Setting) = setting := by
  rw [settingFor]
  cases read : readLeaf .assignment leaf raw <;> simp [Checked.within]

/-- A setting is made if the wording gives a value, the path leads to a field, and the field takes
the value. -/
theorem decision_eq_setting_iff {path : String} {wording : Str} {setting : Setting} :
    decision path wording = .ok (.ok setting) ↔
      ∃ given leaf value, wordingValue wording = .ok (some given) ∧ trim path = leaf.path ∧
        readLeaf .assignment leaf (valueFor leaf wording given) = .ok value ∧
        (⟨leaf, value⟩ : Setting) = setting := by
  rw [decision, Result.map_eq_ok_iff]
  constructor
  · rintro ⟨given?, worded, made⟩
    cases given? with
    | none => cases made
    | some given =>
        obtain ⟨leaf, found, made⟩ := Result.bind_eq_ok_iff.mp made
        obtain ⟨value, read, same⟩ := settingFor_eq_ok_iff.mp made
        exact ⟨given, leaf, value, worded, (fieldAt_eq_ok_iff path leaf).mp found, read, same⟩
  · rintro ⟨given, leaf, value, worded, named, read, same⟩
    refine ⟨some given, worded, Result.bind_eq_ok_iff.mpr ⟨leaf, ?_, ?_⟩⟩
    · exact (fieldAt_eq_ok_iff path leaf).mpr named
    · exact settingFor_eq_ok_iff.mpr ⟨value, read, same⟩

/-- Only a value that is nested too deep ends an assignment in a fault. -/
theorem decision_eq_fault {path : String} {wording : Str} {fault : Fault}
    (ended : decision path wording = .error fault) :
    ∃ container, fault = .nestedTooDeep container := by
  have worded := Result.map_eq_error_iff.mp ended
  unfold wordingValue at worded
  split at worded
  · cases worded
  · cases worded
    exact ⟨_, rfl⟩
  · split at worded <;> cases worded

theorem answer_assign (config : Config) (path : String) (wording : Str) (sink : Sink)
    (place? : Option SourceLocation) :
    answer (config.assign? path wording sink place?) =
      (decision path wording).map config.decided := by
  obtain ⟨notes, traced, -⟩ := logs_assign config path wording sink place?
  exact traced.answer_eq

theorem afterCall_assign (config : Config) (journal : Journal) (path : String) (wording : Str)
    (sink : Sink) (place? : Option SourceLocation) :
    (afterCall (config, journal) (.assign path wording place?, sink)).1 =
      match decision path wording with
      | .ok (.ok setting) => config.set setting.leaf setting.value
      | _ => config := by
  obtain ⟨notes, traced, -⟩ := logs_assign config path wording sink place?
  rw [afterCall, Call.work, traced journal]
  cases decision path wording with
  | error fault => rfl
  | ok result => cases result <;> rfl

/-- An assignment sets the one field that its path names, or changes nothing and reports one error,
or changes nothing and ends in a fault.  Which of these it does is the same on all
configurations. -/
theorem assign_sets_one_field_or_nothing (config : Config) (journal : Journal)
    (path : String) (wording : Str) (sink : Sink) (place? : Option SourceLocation) :
    let after := (afterCall (config, journal) (.assign path wording place?, sink)).1
    ∃ result headings,
      Logs (config.assign? path wording sink place?) result (sink.kept headings) ∧
      (match result with
        | .ok (some assigned) =>
            after = assigned ∧ errorsOf headings = [] ∧
              ∃ leaf, trim path = leaf.path ∧
                ∀ other, other ≠ leaf → after.get other = config.get other
        | .ok none =>
            after = config ∧
              ∃ identifier ∈ ["config-value-json-parse-error", "unknown-field-component",
                "unknown-field", "not-a-leaf-field", "invalid-field-assignment"],
                errorsOf headings = [some identifier]
        | .error fault =>
            after = config ∧ headings = [] ∧ ∃ container, fault = .nestedTooDeep container) ∧
      (∀ (other : Config) (otherSink : Sink),
        (answer (other.assign? path wording otherSink place?)).map Option.isSome =
          result.map Option.isSome) ∧
      ([] ∈ componentsOf path ∨ (componentsOf path).length ≠ 2 ∨
          (∃ group : Group, trim path = group.name) →
        ∀ assigned, result ≠ .ok (some assigned)) := by
  intro after
  have changed : after = _ := afterCall_assign config journal path wording sink place?
  refine ⟨(decision path wording).map config.decided, headingsOf (decision path wording),
    logs_assign config path wording sink place?, ?_, ?_, ?_⟩
  · cases settled : decision path wording with
    | error fault =>
        rw [settled] at changed
        exact ⟨changed, rfl, decision_eq_fault settled⟩
    | ok result =>
        rw [settled] at changed
        cases result with
        | error error =>
            refine ⟨changed, error.identifier, ?_, errorsOf_refused error⟩
            cases error <;> simp [AssignError.identifier]
        | ok setting =>
            obtain ⟨given, leaf, value, -, named, -, rfl⟩ := decision_eq_setting_iff.mp settled
            refine ⟨changed, rfl, leaf, named, fun other distinct => ?_⟩
            rw [changed]
            exact config.get_set_of_ne distinct value
  · intro other otherSink
    rw [answer_assign]
    cases decision path wording with
    | error fault => rfl
    | ok result => cases result <;> rfl
  · intro strange assigned success
    obtain ⟨result, settled, made⟩ := Result.map_eq_ok_iff.mp success
    obtain ⟨setting, reached, -⟩ := Option.map_eq_some_iff.mp made
    rw [Result.toOption_eq_some_iff.mp reached] at settled
    obtain ⟨given, leaf, value, -, named, -, -⟩ := decision_eq_setting_iff.mp settled
    have parts : componentsOf path = leaf.components := (componentsOf_eq_iff path leaf).mpr named
    rcases strange with empty | many | ⟨group, sectionName⟩
    · exact leaf.components_without_empty (parts ▸ empty)
    · exact many (congrArg List.length parts)
    · exact leaf.path_ne_group_name group (named.symm.trans sectionName)

end Config

end LineMap
