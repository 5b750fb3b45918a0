import LineMap.Diagnostics.LevelTable
import LineMap.Proofs.Keyed

/-!
# Levels are registered for good

Calls with any names, numbers and bounds are made at a table, one after the other.  What a call does
is one of three things, and none of them takes a number from a name that has one.  So whatever a
call returned for a name, every later call with that name returns it again.
-/

set_option autoImplicit false

namespace LineMap.Diagnostics

namespace LevelTable

theorem number?_put (table : LevelTable) (name other : String) (number : Int) :
    (table.put name number).number? other =
      if other = name then some number else table.number? other :=
  Keyed.lookup_cons other (name, number) table.numbers

/-- Every name of one table has its number in the other. -/
def Keeps (before after : LevelTable) : Prop :=
  ∀ name number, before.number? name = some number → after.number? name = some number

theorem Keeps.refl (table : LevelTable) : table.Keeps table := by
  intro name number known
  exact known

theorem Keeps.trans {first second third : LevelTable} (earlier : first.Keeps second)
    (later : second.Keeps third) : first.Keeps third := by
  intro name number known
  apply later
  apply earlier
  exact known

theorem warning_ne_empty (name : String) : warning name ≠ "" := by
  intro empty
  obtain ⟨-, ending⟩ := String.append_eq_empty_iff.mp empty
  exact absurd ending (by decide)

theorem keeps_put {table : LevelTable} {name : String} (fresh : table.number? name = none)
    (number : Int) : table.Keeps (table.put name number) := by
  intro other known found
  have differs : other ≠ name := by
    intro same
    rw [same, fresh] at found
    cases found
  rw [number?_put, if_neg differs]
  exact found

end LevelTable

/-! ## One call -/

/-- A call that asks for a level: the number that it is to have if its name is new, and the bounds
between which it is expected. -/
structure LevelCall where
  number : Int
  name : String
  lower : Int
  upper : Int

@[simp] theorem LevelAnswer.printed_known (name : String) (number : Int) (unexpected : Bool) :
    (known number unexpected).printed name =
      if unexpected then LevelTable.warning name else "" := by
  cases unexpected <;> rfl

namespace LevelCall

def answer (call : LevelCall) (table : LevelTable) : LevelAnswer :=
  (table.add call.number call.name call.lower call.upper).1

def after (call : LevelCall) (table : LevelTable) : LevelTable :=
  (table.add call.number call.name call.lower call.upper).2

def printed (call : LevelCall) (table : LevelTable) : String :=
  (call.answer table).printed call.name

def IsBetween (call : LevelCall) : Prop :=
  call.lower < call.number ∧ call.number < call.upper

instance (call : LevelCall) : Decidable call.IsBetween :=
  inferInstanceAs (Decidable (_ ∧ _))

/-- What a call may do at a table: find its name, register it, or refuse to. -/
inductive Does (call : LevelCall) (table : LevelTable) : LevelAnswer → LevelTable → Prop where
  | finds (number : Int) (known : table.number? call.name = some number) :
      Does call table (.known number (number < call.lower || call.upper < number)) table
  | registers (fresh : table.number? call.name = none) (between : call.IsBetween) :
      Does call table (.registered call.number) (table.put call.name call.number)
  | refuses (fresh : table.number? call.name = none) (outside : ¬call.IsBetween) :
      Does call table .refused table

theorem does (call : LevelCall) (table : LevelTable) :
    call.Does table (call.answer table) (call.after table) := by
  unfold answer after LevelTable.add
  cases found : table.number? call.name with
  | some number => exact .finds number found
  | none =>
      by_cases between : call.IsBetween
      · have admitted : call.lower < call.number ∧ call.number < call.upper := between
        simp only [if_pos admitted]
        exact .registers found between
      · have excluded : ¬(call.lower < call.number ∧ call.number < call.upper) := between
        simp only [if_neg excluded]
        exact .refuses found between

theorem keeps (call : LevelCall) (table : LevelTable) : table.Keeps (call.after table) := by
  have done := call.does table
  generalize call.answer table = answer, call.after table = after at done
  cases done with
  | finds number known => exact .refl table
  | registers fresh between => exact LevelTable.keeps_put fresh call.number
  | refuses fresh outside => exact .refl table

theorem answer_eq_refused_iff (call : LevelCall) (table : LevelTable) :
    call.answer table = .refused ↔ table.number? call.name = none ∧ ¬call.IsBetween := by
  have done := call.does table
  generalize call.answer table = answer, call.after table = after at done
  cases done with
  | finds number known => simp [known]
  | registers fresh between => simp [between]
  | refuses fresh outside => simp [fresh, outside]

theorem after_of_refused {call : LevelCall} {table : LevelTable}
    (refused : call.answer table = .refused) : call.after table = table := by
  have done := call.does table
  rw [refused] at done
  generalize call.after table = after at done
  cases done
  rfl

theorem number?_after {call : LevelCall} {table : LevelTable} {number : Int}
    (returned : (call.answer table).number? = some number) :
    (call.after table).number? call.name = some number := by
  have done := call.does table
  generalize call.answer table = answer, call.after table = after at done returned
  cases done with
  | finds found known =>
      cases returned
      exact known
  | registers fresh between =>
      cases returned
      rw [LevelTable.number?_put, if_pos rfl]
  | refuses fresh outside => cases returned

/-- A call with a name that is known returns the number of the name, leaves the table as it is, and
prints a warning where that number lies outside the bounds. -/
theorem of_known {call : LevelCall} {table : LevelTable} {number : Int}
    (known : table.number? call.name = some number) :
    (call.answer table).number? = some number ∧ call.after table = table ∧
      call.printed table =
        if number < call.lower ∨ call.upper < number then LevelTable.warning call.name else "" := by
  have done := call.does table
  unfold printed
  generalize call.answer table = answer, call.after table = after at done
  cases done with
  | finds found here =>
      obtain rfl := Option.some.inj (known.symm.trans here)
      exact ⟨rfl, rfl, by simp⟩
  | registers fresh between =>
      rw [fresh] at known
      cases known
  | refuses fresh outside =>
      rw [fresh] at known
      cases known

theorem number?_after_of_ne (call : LevelCall) (table : LevelTable) {other : String}
    (differs : other ≠ call.name) : (call.after table).number? other = table.number? other := by
  have done := call.does table
  generalize call.answer table = answer, call.after table = after at done
  cases done with
  | finds number known => rfl
  | registers fresh between => rw [LevelTable.number?_put, if_neg differs]
  | refuses fresh outside => rfl

/-- A call that prints nothing, and is not refused for its bounds, returns a number that lies
between them.  It is one of the bounds only where the name was known with that number before. -/
theorem returns_of_silent {call : LevelCall} {table : LevelTable} (between : call.IsBetween)
    (silent : call.printed table = "") :
    ∃ number, (call.answer table).number? = some number ∧
      call.lower ≤ number ∧ number ≤ call.upper ∧
      (number = call.lower ↔ table.number? call.name = some call.lower) ∧
      (number = call.upper ↔ table.number? call.name = some call.upper) := by
  cases found : table.number? call.name with
  | some number =>
      obtain ⟨returned, -, printed⟩ := of_known found
      rw [silent] at printed
      have inside : ¬(number < call.lower ∨ call.upper < number) := by
        intro outside
        rw [if_pos outside] at printed
        exact LevelTable.warning_ne_empty call.name printed.symm
      refine ⟨number, returned, by omega, by omega, ?_, ?_⟩
      · rw [Option.some_inj]
      · rw [Option.some_inj]
  | none =>
      have done := call.does table
      generalize call.answer table = answer, call.after table = after at done
      obtain ⟨above, below⟩ := between
      cases done with
      | finds number known =>
          rw [found] at known
          cases known
      | registers fresh between =>
          refine ⟨call.number, rfl, by omega, by omega, ?_, ?_⟩
          · exact iff_of_false (by omega) nofun
          · exact iff_of_false (by omega) nofun
      | refuses fresh outside => exact absurd ⟨above, below⟩ outside

end LevelCall

/-! ## Sequences of calls -/

namespace LevelTable

def afterCalls (table : LevelTable) (calls : List LevelCall) : LevelTable :=
  calls.foldl (fun table call => call.after table) table

theorem keeps_afterCalls (table : LevelTable) (calls : List LevelCall) :
    table.Keeps (table.afterCalls calls) := by
  induction calls generalizing table with
  | nil => exact .refl table
  | cons call later inductionHypothesis =>
      apply Keeps.trans (call.keeps table)
      exact inductionHypothesis (call.after table)

/-- After any calls at the table that has all the levels: every name keeps its number, and a call
returns the number that its name has from then on, so every later call with the name returns it too.
A call is refused exactly if its name is new and its number does not lie strictly between the
bounds, and then the table stays.  It also stays where the name is known, and exactly where the
number of the name lies outside the bounds, the warning is printed. -/
theorem registrations_stable (calls later : List LevelCall) :
    let table := complete.afterCalls calls
    table.Keeps (table.afterCalls later) ∧
      ∀ call : LevelCall,
        (∀ number, (call.answer table).number? = some number →
          (call.after table).number? call.name = some number ∧
          ∀ again : LevelCall, again.name = call.name →
            (again.answer ((call.after table).afterCalls later)).number? = some number) ∧
        (call.answer table = .refused ↔ table.number? call.name = none ∧ ¬call.IsBetween) ∧
        (call.answer table = .refused → call.after table = table) ∧
        ∀ number, table.number? call.name = some number →
          call.after table = table ∧
          call.printed table =
            if number < call.lower ∨ call.upper < number then warning call.name else "" := by
  intro table
  refine ⟨table.keeps_afterCalls later, ?_⟩
  intro call
  refine ⟨?_, call.answer_eq_refused_iff table, LevelCall.after_of_refused, ?_⟩
  · intro number returned
    have named := LevelCall.number?_after returned
    refine ⟨named, ?_⟩
    intro again same
    have kept := (call.after table).keeps_afterCalls later call.name number named
    rw [← same] at kept
    exact (LevelCall.of_known kept).1
  · intro number known
    exact (LevelCall.of_known known).2

/-- A second name for a number leaves the first name known, although the number leads to the second
name only. -/
example :
    let table := complete.afterCalls [⟨21, "NOTE", 20, 30⟩, ⟨21, "NOTICE", 20, 30⟩]
    table.number? "NOTE" = some 21 ∧ table.name? 21 = some "NOTICE" := by decide

end LevelTable

end LineMap.Diagnostics
