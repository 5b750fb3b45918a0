import LineMap.Diagnostics.Fault

/-!
# Journals

A journal has a threshold, which decides for each record as it comes whether it is emitted; reports
are counted whether or not their records are.  Work that reports may also end in a fault; what was
emitted and counted until then stays.
-/

set_option autoImplicit false

namespace LineMap.Diagnostics

open LineMap.Json

/-- Whether records of a level are emitted at a threshold.  At zero and below none are. -/
def IsEmitted (threshold level : Int) : Prop :=
  0 < level ∧ threshold ≤ level

instance (threshold level : Int) : Decidable (IsEmitted threshold level) :=
  inferInstanceAs (Decidable (_ ∧ _))

/-- The records that were emitted, in order, and how many reports there were of each level. -/
structure Journal where
  threshold : Int
  records : List Record
  counts : Level → Nat

namespace Journal

def empty (threshold : Int := Level.debug.number) : Journal :=
  ⟨threshold, [], fun _ => 0⟩

def append (journal : Journal) (record : Record) : Journal :=
  { journal with records := journal.records ++ [record] }

def count (journal : Journal) (level : Level) : Journal :=
  { journal with
    counts := fun other =>
      if other = level then journal.counts other + 1 else journal.counts other }

/-- Why the records cannot all be written: what is wrong with the first that cannot. -/
def misfit? (journal : Journal) : Option Misfit :=
  journal.records.findSome? Record.misfit?

end Journal

/-- Work that may report and may end in a fault. -/
abbrev Run (α : Type) : Type := ExceptT Fault (StateM Journal) α

/-- Emits a record, if its level reaches the threshold.  The name of the level may have to be made
of its number. -/
def log (record : Record) : Run Unit := do
  let journal ← get
  if IsEmitted journal.threshold record.level then
    if Number.isWritable record.level then set (journal.append record)
    else throw (.unnamed record.level)

/-- Logs a report and counts it.  A level that is not counted is noticed after the record. -/
def emit (draft : Draft) : Run Unit := do
  match draft.compose with
  | .error refusal => throw (.refused refusal)
  | .ok record =>
      log record
      match Level.ofNumber? draft.level with
      | some level => modify fun journal => journal.count level
      | none => throw (.uncounted draft.level)

/-- Logs a caught fault at a level, without counting it. -/
def emitCaught (level : Level) (label message : String) : Run Unit :=
  log
    { level := level.number, identifier? := none, message, place := {},
      trailer? := some (label ++ ": " ++ message) }

/-- Where reports go: into the journal, nowhere, or on to another sink under further scopes. -/
inductive Sink where
  | journal
  | nowhere
  | scoped (scopes : List Value) (inner : Sink)

namespace Sink

def report : Sink → Draft → Run Unit
  | .journal, draft => emit draft
  | .nowhere, _ => pure ()
  | .scoped scopes inner, draft =>
      match draft.under scopes with
      | .ok inside => inner.report inside
      | .error misfit => throw (.misfit misfit)

def reportCaught : Sink → Level → String → String → Run Unit
  | .journal, level, label, message => emitCaught level label message
  | .nowhere, _, _, _ => pure ()
  | .scoped _ inner, level, label, message => inner.reportCaught level label message

end Sink

def attempt {α : Type} : Except Fault α → Run α
  | .ok a => pure a
  | .error fault => throw fault

end LineMap.Diagnostics
