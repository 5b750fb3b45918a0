import LineMap.Proofs.Diagnostics.Logged
import LineMap.SymbolTable.Load

/-!
# What loading a symbol table logs

Loading never comes to a fault.  A document that cannot be read is warned of once, with all its
issues for debugging; anything else is worth a detail only.
-/

set_option autoImplicit false

namespace LineMap.SymbolTable

open LineMap.Diagnostics
open LineMap.Files
open LineMap.Validation

/-- How the warning of a document that is no symbol table is headed. -/
def malformed : Heading := ⟨.warning, some "malformed-symbol-table"⟩

section

variable (sink : Sink) (primary : Int) (source? : Option Path)

theorem logs_reportIssues (issues : List Issue) :
    Logs (reportIssues sink issues (source?.toList.map .path)) (.ok ())
      (sink.kept [malformed, ⟨.debug, none⟩]) := by
  rw [← List.singleton_append, Sink.kept_append]
  exact (Logs.report sink (Draft.announces_coded .warning _ _ _ (Detail.isPlace_path _))).bind
    (Logs.report sink (Draft.announces_plain (by decide) _ [] (List.forall_mem_nil _)))

theorem logs_load_absent {document? : Option Payload}
    (absent : (document?.filter fun document => !document.isEmpty) = none) :
    Logs (load document? sink primary source?) (.ok (.empty primary))
      (sink.kept [⟨.detail, none⟩]) := by
  rw [load, absent]
  exact (Logs.report sink
    (Draft.announces_plain (by decide) _ _ (Detail.isPlace_path _))).bind_pure

section

variable {document? : Option Payload} {document : Payload}

theorem logs_load_invalid
    (present : (document?.filter fun document => !document.isEmpty) = some document)
    {issues : List Issue} (read : readContent document = .error issues) :
    Logs (load document? sink primary source?) (.ok (.empty primary))
      (sink.kept [malformed, ⟨.debug, none⟩]) := by
  rw [load, present]
  simp only [read]
  exact (logs_reportIssues sink source? issues).bind_pure

theorem logs_load_valid
    (present : (document?.filter fun document => !document.isEmpty) = some document)
    {content : Content} (read : readContent document = .ok content) :
    Logs (load document? sink primary source?) (.ok (ofContent content primary))
      (sink.kept [⟨.detail, none⟩]) := by
  rw [load, present]
  simp only [read]
  exact (Logs.report sink
    (Draft.announces_plain (by decide) _ _ (Detail.isPlace_path _))).bind_pure

end

end

end LineMap.SymbolTable
