import LineMap.Proofs.Listing.CarryForward
import LineMap.Proofs.Number.Writable
import LineMap.Proofs.View.Degradation

/-!
# When a view does not return

The views that come with the tool return on every output, with two exceptions.  An annotation whose
line number has too many digits ends the view for annotated listings in a fault.  An exit code with
too many digits cannot be reported, which ends every view in a fault.
-/

set_option autoImplicit false

namespace LineMap

open LineMap.Diagnostics
open LineMap.Listing
open LineMap.Number
open LineMap.Text

/-! ## Annotated listings -/

namespace Listing.Annotated

/-- The first line that cannot be classified ends the classification, and nothing else does. -/
theorem classifyAll_eq_error {lines : List (List Char)} {overlong : Overlong}
    (failed : classifyAll lines = .error overlong) :
    ∃ line ∈ lines, classify line = .error overlong := by
  induction lines with
  | nil => cases failed
  | cons line rest inductionHypothesis =>
      rw [classifyAll] at failed
      cases first : classify line with
      | error cause =>
          rw [first] at failed
          cases failed
          exact ⟨line, List.mem_cons_self, first⟩
      | ok found =>
          rw [first] at failed
          cases later : classifyAll rest with
          | error cause =>
              rw [later] at failed
              cases failed
              obtain ⟨other, member, refused⟩ := inductionHypothesis later
              exact ⟨other, List.mem_cons_of_mem line member, refused⟩
          | ok others =>
              rw [later] at failed
              cases failed

theorem classify_of_classifyAll_eq_ok {lines : List (List Char)} {items : List Classified}
    (success : classifyAll lines = .ok items) :
    ∀ line ∈ lines, ∃ found, classify line = .ok found := by
  induction lines generalizing items with
  | nil => exact nofun
  | cons line rest inductionHypothesis =>
      obtain ⟨kind, annotated, others, first, later, -⟩ := classifyAll_cons_eq_ok success
      exact List.forall_mem_cons.mpr ⟨⟨_, first⟩, inductionHypothesis later⟩

theorem isOverlong_of_parse_eq_error {text : String} {overlong : Overlong}
    (failed : parse text = .error overlong) :
    ∃ line ∈ lineCells text.toList, IsOverlong line overlong := by
  obtain ⟨line, member, refused⟩ := classifyAll_eq_error (Result.map_eq_error_iff.mp failed)
  have noFeed := feed_notMem_lineCells text.toList line member
  exact ⟨line, member, (classify_eq_error_iff noFeed overlong).mp refused⟩

theorem not_isOverlong_of_parse_eq_ok {text : String} {lines : List OutputLine}
    (success : parse text = .ok lines) :
    ∀ line ∈ lineCells text.toList, ∀ overlong, ¬IsOverlong line overlong := by
  obtain ⟨items, classified, -⟩ := Result.map_eq_ok_iff.mp success
  intro line member overlong long
  have noFeed := feed_notMem_lineCells text.toList line member
  obtain ⟨found, first⟩ := classify_of_classifyAll_eq_ok classified line member
  cases first.symm.trans ((classify_eq_error_iff noFeed overlong).mpr long)

end Listing.Annotated

/-! ## Exit codes -/

def ToolRun.HasOverlongCode (tool : ToolRun) : Prop :=
  tool.timedOut = false ∧ ∃ code, tool.exitCode? = some code ∧ isWritable code = false

theorem ToolRun.HasOverlongCode.failed {tool : ToolRun} (overlong : tool.HasOverlongCode) :
    tool.failed = true := by
  obtain ⟨-, code, known, long⟩ := overlong
  have nonzero : code ≠ 0 := by
    rintro rfl
    exact absurd long (by decide)
  simp [ToolRun.failed, known, nonzero]

/-- The failure of a tool can be reported unless its exit code is too long. -/
theorem ToolRun.failureReports?_eq_none_iff (tool : ToolRun) :
    tool.failureReports? = none ↔ tool.HasOverlongCode := by
  rw [failureReports?, Option.map_eq_none_iff, cause?, HasOverlongCode]
  cases timedOut : tool.timedOut with
  | true => simp
  | false =>
      rw [if_neg (by simp), Option.map_eq_none_iff, exitText?]
      cases known : tool.exitCode? with
      | none => simp
      | some code => cases writable : isWritable code <;> simp [writable]

/-! ## The run of a view -/

theorem View.finishes_extract {view : View} (listed : view ∈ [View.bytecode, View.ir, View.asm])
    (context : Context) (text : String) : Finishes (view.extract context text) := by
  have reported : ∀ (level : Level) (identifier message : String)
      (lines? : Option (List OutputLine)),
      Finishes (do context.sink.report (.coded level identifier message []); return lines?) :=
    fun level identifier message lines? =>
      (Finishes.report context.sink
        (Draft.announces_bare level identifier message)).bind fun _ => .pure lines?
  simp only [List.mem_cons, List.not_mem_nil, or_false] at listed
  rcases listed with rfl | rfl | rfl
  · simp only [bytecode]
    split
    · exact .pure _
    · exact reported _ _ _ _
  · simp only [ir]
    split
    · exact reported _ _ _ _
    · exact .pure _
  · simp only [asm]
    split
    · exact reported _ _ _ _
    · exact .pure _

section

variable (tool : ToolRun) (sink : Sink) (failureText : String)
  {extract : String → Run (Option (List OutputLine))}

theorem finishes_assemble (short : ¬tool.HasOverlongCode)
    (extracts : tool.failed = false → Finishes (extract tool.stdout)) :
    Finishes (assemble tool extract sink.report failureText) := by
  have time := (logs_reportAll sink (announces_timeReport tool)).finishes
  unfold assemble
  refine time.bind fun _ => ?_
  cases failed : tool.failed with
  | true =>
      cases given : tool.failureReports? with
      | none => exact absurd ((tool.failureReports?_eq_none_iff).mp given) short
      | some reports =>
          have failure := (logs_reportAll sink (announces_failureReports given)).finishes
          exact failure.bind fun _ => .pure _
  | false =>
      refine (extracts failed).bind fun lines? => ?_
      exact (Finishes.report sink (announces_extractionReport lines?)).bind fun _ => .pure _

theorem assemble_unwritable (overlong : tool.HasOverlongCode) :
    ∃ notes, Traced (assemble tool extract sink.report failureText) (.error .unwritable) notes := by
  obtain ⟨notes, time, -⟩ := logs_reportAll sink (announces_timeReport tool)
  rw [assemble, overlong.failed, (tool.failureReports?_eq_none_iff).mpr overlong]
  exact ⟨notes ++ [], time.bind (.throw .unwritable)⟩

theorem assemble_fault (succeeded : tool.failed = false) {fault : Fault}
    (extracts : Traced (extract tool.stdout) (.error fault) []) :
    ∃ notes, Traced (assemble tool extract sink.report failureText) (.error fault) notes := by
  obtain ⟨notes, time, -⟩ := logs_reportAll sink (announces_timeReport tool)
  rw [assemble, succeeded]
  exact ⟨notes ++ [], time.bind extracts.bind_error⟩

end

namespace Registry

theorem finishes_runView_of_ne {name : String} (other : name ≠ "annotated") {tool : ToolRun}
    (short : builtin.lookup? name ≠ none → ¬tool.HasOverlongCode) (context : Context) :
    Finishes (builtin.runView name tool context) := by
  unfold runView
  cases found : builtin.lookup? name with
  | none =>
      refine (Finishes.report context.sink (Draft.announces_bare _ _ _)).bind ?_
      exact fun _ => .pure _
  | some view =>
      obtain ⟨listed, rfl⟩ := of_lookup_builtin found
      have rest : view ∈ [View.bytecode, View.ir, View.asm] :=
        (List.mem_cons.mp listed).resolve_left (by rintro rfl; exact other rfl)
      exact finishes_assemble tool _ _ (short (by rw [found]; nofun)) fun _ =>
        View.finishes_extract rest _ tool.stdout

theorem runView_annotated (tool : ToolRun) (context : Context) :
    builtin.runView "annotated" tool context =
      assemble tool (fun text => attempt (((Annotated.parse text).map some).mapError .overlong))
        (Sink.scoped [.text "annotated"] context.sink).report context.config.failureText := rfl

theorem finishes_runView_annotated {tool : ToolRun} (short : ¬tool.HasOverlongCode)
    (context : Context)
    (read : tool.failed = false → ∃ lines, Annotated.parse tool.stdout = .ok lines) :
    Finishes (builtin.runView "annotated" tool context) := by
  rw [runView_annotated]
  refine finishes_assemble tool _ _ short fun succeeded => ?_
  obtain ⟨lines, parsed⟩ := read succeeded
  simp only [parsed]
  exact .pure (some lines)

theorem traced_runView_annotated {tool : ToolRun} (context : Context)
    (succeeded : tool.failed = false) {overlong : Overlong}
    (refused : Annotated.parse tool.stdout = .error overlong) :
    ∃ notes, Traced (builtin.runView "annotated" tool context)
      (.error (.overlong overlong)) notes := by
  rw [runView_annotated]
  refine assemble_fault tool _ _ succeeded ?_
  simp only [refused]
  exact .throw (.overlong overlong)

theorem traced_runView_unwritable {name : String} {tool : ToolRun} (context : Context)
    (known : builtin.lookup? name ≠ none) (overlong : tool.HasOverlongCode) :
    ∃ notes, Traced (builtin.runView name tool context) (.error .unwritable) notes := by
  rw [runView]
  cases found : builtin.lookup? name with
  | none => exact absurd found known
  | some view => exact assemble_unwritable tool _ _ overlong

/-- Whatever a tool left behind, a run of a view returns with two exceptions: the view is for
annotated listings, the tool did not fail, and an annotation in its output has too many digits; or
the view is known and the exit code of the tool, which did not run out of time, has too many digits.
A fault says which of the two it was, and in the first case the count of such an annotation's
digits. -/
theorem runView_returns_iff (name : String) (tool : ToolRun) (context : Context)
    (before : Journal) :
    ((∃ outcome after, (builtin.runView name tool context).run before = (.ok outcome, after)) ↔
        ¬(name = "annotated" ∧ tool.failed = false ∧
          ∃ line ∈ lineCells tool.stdout.toList, ∃ overlong,
            Annotated.IsOverlong line overlong) ∧
        ¬(builtin.lookup? name ≠ none ∧ tool.HasOverlongCode)) ∧
      ∀ fault after, (builtin.runView name tool context).run before = (.error fault, after) →
        (name = "annotated" ∧ tool.failed = false ∧
          ∃ line ∈ lineCells tool.stdout.toList, ∃ overlong,
            Annotated.IsOverlong line overlong ∧ fault = .overlong overlong) ∨
        (builtin.lookup? name ≠ none ∧ tool.HasOverlongCode ∧ fault = .unwritable) := by
  by_cases refused : name = "annotated" ∧ tool.failed = false ∧
      ∃ overlong, Annotated.parse tool.stdout = .error overlong
  · obtain ⟨rfl, succeeded, overlong, refused⟩ := refused
    obtain ⟨notes, traced⟩ := traced_runView_annotated context succeeded refused
    obtain ⟨line, member, long⟩ := Annotated.isOverlong_of_parse_eq_error refused
    refine ⟨iff_of_false ?_ fun both => both.1 ⟨rfl, succeeded, line, member, overlong, long⟩, ?_⟩
    · rintro ⟨outcome, after, run⟩
      cases (traced.eq_of_run run).1
    · intro fault after run
      exact .inl
        ⟨rfl, succeeded, line, member, overlong, long, Except.error.inj (traced.eq_of_run run).1⟩
  by_cases unwritable : builtin.lookup? name ≠ none ∧ tool.HasOverlongCode
  · obtain ⟨notes, traced⟩ := traced_runView_unwritable context unwritable.1 unwritable.2
    refine ⟨iff_of_false ?_ fun both => both.2 unwritable, ?_⟩
    · rintro ⟨outcome, after, run⟩
      cases (traced.eq_of_run run).1
    · intro fault after run
      exact .inr ⟨unwritable.1, unwritable.2, Except.error.inj (traced.eq_of_run run).1⟩
  · have short : name = "annotated" → tool.failed = false →
        ∃ lines, Annotated.parse tool.stdout = .ok lines := by
      intro annotated succeeded
      cases parsed : Annotated.parse tool.stdout with
      | ok lines => exact ⟨lines, rfl⟩
      | error overlong => exact absurd ⟨annotated, succeeded, overlong, parsed⟩ refused
    have writable : builtin.lookup? name ≠ none → ¬tool.HasOverlongCode :=
      not_and.mp unwritable
    have finishes : Finishes (builtin.runView name tool context) := by
      by_cases annotated : name = "annotated"
      · subst annotated
        exact finishes_runView_annotated (writable nofun) context (short rfl)
      · exact finishes_runView_of_ne annotated writable context
    refine ⟨iff_of_true ?_ ⟨?_, unwritable⟩, fun fault after run => (finishes.not_error run).elim⟩
    · obtain ⟨outcome, notes, traced⟩ := finishes
      exact ⟨outcome, before.extend notes, traced before⟩
    · rintro ⟨annotated, succeeded, line, member, overlong, long⟩
      obtain ⟨lines, parsed⟩ := short annotated succeeded
      exact Annotated.not_isOverlong_of_parse_eq_ok parsed line member overlong long

end Registry

namespace Listing.Annotated

def ones (count : Nat) : List Char :=
  "     annotation: ".toList ++ (['f'] ++ ':' :: List.replicate count '1')

theorem isOverlong_ones {count : Nat} (long : digitLimit < count) :
    IsOverlong (ones count) ⟨count⟩ := by
  have filled : List.replicate count '1' ≠ [] := by
    rw [Ne, List.replicate_eq_nil_iff]
    omega
  have digits : ∀ c ∈ List.replicate count '1', isDigit c = true := by
    intro c member
    rw [List.eq_of_mem_replicate member]
    decide
  refine ⟨List.replicate count '1', ⟨['f'], by decide, filled, digits, rfl⟩, ?_, ?_⟩
  · rwa [List.length_replicate]
  · rw [List.length_replicate]

theorem lineCells_ones (count : Nat) : lineCells (ones count) = [ones count] := by
  have opening : ("     annotation: ".toList.all fun c => c ≠ '\n' ∧ c ≠ '\r') = true := by decide
  simp only [List.all_eq_true, decide_eq_true_eq] at opening
  have unbroken : ∀ c ∈ ones count, c ≠ '\n' ∧ c ≠ '\r' := by
    intro c member
    rcases List.mem_append.mp member with member | member
    · exact opening c member
    · rcases List.mem_append.mp member with member | member
      · rw [List.mem_singleton.mp member]
        decide
      · rcases List.mem_cons.mp member with rfl | member
        · decide
        · rw [List.eq_of_mem_replicate member]
          decide
  have alone := lineCells_append (ones count) (fun member => (unbroken _ member).1 rfl)
    (fun member => (unbroken _ member).2 rfl) lineCells_nil
  rwa [List.append_nil] at alone

end Listing.Annotated

theorem isWritable_limit : isWritable (10 ^ digitLimit) = false := by
  have ten : (10 : Int).natAbs = 10 := rfl
  rw [← Bool.not_eq_true, isWritable_iff, Int.natAbs_pow, ten]
  exact Nat.lt_irrefl _

/-- An annotation whose number has one digit too many, and an exit code that does. -/
theorem Registry.runView_returns_iff_overlong :
    (∃ after, (builtin.runView "annotated"
        { exitCode? := some 0, stdout := String.ofList (Annotated.ones 4301) }
        ⟨.default, none, .journal⟩).run Journal.empty =
      (.error (.overlong ⟨4301⟩), after)) ∧
    ∃ after, (builtin.runView "asm" { exitCode? := some (10 ^ digitLimit) }
        ⟨.default, none, .journal⟩).run Journal.empty =
      (.error .unwritable, after) := by
  constructor
  · have noFeed : '\n' ∉ Annotated.ones 4301 :=
      feed_notMem_lineCells _ _ (by rw [Annotated.lineCells_ones]; exact List.mem_singleton_self _)
    have long : Annotated.IsOverlong (Annotated.ones 4301) ⟨4301⟩ :=
      Annotated.isOverlong_ones (by decide)
    obtain ⟨returns, faults⟩ := runView_returns_iff "annotated"
      { exitCode? := some 0, stdout := String.ofList (Annotated.ones 4301) }
      ⟨.default, none, .journal⟩ Journal.empty
    simp only [String.toList_ofList, Annotated.lineCells_ones, List.mem_singleton,
      exists_eq_left] at returns faults
    cases run : (builtin.runView "annotated"
        { exitCode? := some 0, stdout := String.ofList (Annotated.ones 4301) }
        ⟨.default, none, .journal⟩).run Journal.empty with
    | mk answer after =>
        cases answer with
        | ok outcome =>
            exact absurd ⟨trivial, rfl, _, long⟩ (returns.mp ⟨outcome, after, run⟩).1
        | error fault =>
            obtain ⟨-, -, overlong, found, rfl⟩ | ⟨-, code, -⟩ := faults fault after run
            · rw [← Annotated.classify_eq_error_iff noFeed] at long found
              obtain rfl := Except.error.inj (found.symm.trans long)
              exact ⟨after, rfl⟩
            · cases code.failed
  · have code : ToolRun.HasOverlongCode { exitCode? := some (10 ^ digitLimit) } :=
      ⟨rfl, _, rfl, isWritable_limit⟩
    obtain ⟨returns, faults⟩ := runView_returns_iff "asm" { exitCode? := some (10 ^ digitLimit) }
      ⟨.default, none, .journal⟩ Journal.empty
    cases run : (builtin.runView "asm" { exitCode? := some (10 ^ digitLimit) }
        ⟨.default, none, .journal⟩).run Journal.empty with
    | mk answer after =>
        cases answer with
        | ok outcome => exact absurd ⟨nofun, code⟩ (returns.mp ⟨outcome, after, run⟩).2
        | error fault =>
            obtain ⟨other, -⟩ | ⟨-, -, rfl⟩ := faults fault after run
            · exact absurd other (by decide)
            · exact ⟨after, rfl⟩

end LineMap
