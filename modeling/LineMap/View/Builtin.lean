import LineMap.Listing.Annotated
import LineMap.Listing.AsmSection
import LineMap.Listing.Disassembly
import LineMap.Listing.IrDump
import LineMap.Outcome.Assembly
import LineMap.View.Registry

/-!
# The views that come with the tool

One view for each kind of output, and the run of a view by its name.
-/

set_option autoImplicit false

namespace LineMap

open LineMap.Diagnostics
open LineMap.Listing

namespace View

def annotated : View where
  name := "annotated"
  description := "annotation-style bytecode listing, mapped to source lines"
  extract := fun _ text => attempt (((Annotated.parse text).map some).mapError .overlong)

def bytecode : View where
  name := "bytecode"
  description := "bytecode disassembly, mapped through the symbol table"
  extract := fun context text => do
    match context.symbols? with
    | some table => return some (Disassembly.mapLines text table)
    | none =>
        context.sink.report (.coded .hint "no-symbol-table"
          "no symbol table supplied, bytecode lines will not be mapped to source" [])
        return some (Disassembly.mapLines text (.empty context.config.primary))

def ir : View where
  name := "ir"
  description := "final block of an intermediate representation dump"
  extract := fun context text => do
    let config := context.config
    if !IrDump.hasMarker config.finalMarker text then
      context.sink.report (.coded .warning "ir-marker-not-found"
        ("IR marker '" ++ config.finalMarker ++ "' not found, showing the whole dump") [])
    return some (IrDump.finalLines config.finalMarker config.unitKinds text)

def asm : View where
  name := "asm"
  description := "assembly section of a build transcript"
  extract := fun context text => do
    let config := context.config
    let found? :=
      AsmSection.extract? config.startMarker config.endMarker config.includeStart text
    if found?.isNone then
      context.sink.report (.coded .error "asm-section-not-found"
        ("could not locate the assembly section between '" ++ config.startMarker ++ "' and '" ++
          config.endMarker ++ "'") [])
    return found?

end View

namespace Registry

def builtin : Registry :=
  ⟨[View.annotated, View.bytecode, View.ir, View.asm].map fun view => (view.name, view)⟩

def runView (registry : Registry) (name : String) (run : ToolRun) (context : Context) :
    Run Outcome := do
  let failureText := context.config.failureText
  match registry.lookup? name with
  | none =>
      context.sink.report (.coded .error "unknown-view"
        ("unknown view '" ++ name ++ "'. available views: " ++
          String.intercalate ", " registry.names) [])
      return .ofLines none false failureText
  | some view =>
      let sink := Sink.scoped [.text view.name] context.sink
      assemble run (view.extract { context with sink }) sink.report failureText

end Registry

end LineMap
