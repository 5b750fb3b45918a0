import LineMap.CommandLine.Arguments
import LineMap.CommandLine.Session
import LineMap.Config.Assign
import LineMap.Config.Basic
import LineMap.Config.Document
import LineMap.Config.Load
import LineMap.Config.Merge
import LineMap.Diagnostics.Fault
import LineMap.Diagnostics.Journal
import LineMap.Diagnostics.Level
import LineMap.Diagnostics.LevelTable
import LineMap.Diagnostics.Record
import LineMap.Diagnostics.Setup
import LineMap.Files.Input
import LineMap.Files.Path
import LineMap.Files.Tree
import LineMap.Json.Compact
import LineMap.Json.Display
import LineMap.Json.Equality
import LineMap.Json.Indented
import LineMap.Json.Reader
import LineMap.Json.Value
import LineMap.Keyed
import LineMap.Listing.Annotated
import LineMap.Listing.AsmSection
import LineMap.Listing.Disassembly
import LineMap.Listing.IrDump
import LineMap.Main
import LineMap.Number.Binary64
import LineMap.Number.Literal
import LineMap.Number.Shortest
import LineMap.Outcome.Assembly
import LineMap.Outcome.Document
import LineMap.Outcome.Text
import LineMap.Output
import LineMap.Proofs.CommandLine.Accounts
import LineMap.Proofs.CommandLine.Endings
import LineMap.Proofs.CommandLine.ExitStatus
import LineMap.Proofs.CommandLine.Faults
import LineMap.Proofs.CommandLine.MergedFiles
import LineMap.Proofs.CommandLine.Options
import LineMap.Proofs.CommandLine.Precedence
import LineMap.Proofs.CommandLine.Reports
import LineMap.Proofs.CommandLine.Sources
import LineMap.Proofs.CommandLine.UserFile
import LineMap.Proofs.CommandLine.Verbosity
import LineMap.Proofs.Config.Assignment
import LineMap.Proofs.Config.FileAgreement
import LineMap.Proofs.Config.FileReports
import LineMap.Proofs.Config.Layers
import LineMap.Proofs.Config.Loading
import LineMap.Proofs.Config.Mentions
import LineMap.Proofs.Config.Overlay
import LineMap.Proofs.Config.Reachable
import LineMap.Proofs.Config.TextFields
import LineMap.Proofs.Config.Validity
import LineMap.Proofs.Config.Wordings
import LineMap.Proofs.Diagnostics.Accounted
import LineMap.Proofs.Diagnostics.Composed
import LineMap.Proofs.Diagnostics.Leftovers
import LineMap.Proofs.Diagnostics.LogCalls
import LineMap.Proofs.Diagnostics.Logged
import LineMap.Proofs.Diagnostics.Orderly
import LineMap.Proofs.Diagnostics.Places
import LineMap.Proofs.Diagnostics.Registration
import LineMap.Proofs.Diagnostics.SilentSetup
import LineMap.Proofs.Diagnostics.Traceable
import LineMap.Proofs.Diagnostics.Traced
import LineMap.Proofs.Json.Acceptance
import LineMap.Proofs.Json.Derivation
import LineMap.Proofs.Json.Dictionaries
import LineMap.Proofs.Json.Escapes
import LineMap.Proofs.Json.Indented
import LineMap.Proofs.Json.Merging
import LineMap.Proofs.Json.Numerals
import LineMap.Proofs.Json.Phrase
import LineMap.Proofs.Json.RawHalves
import LineMap.Proofs.Json.Strings
import LineMap.Proofs.Json.Textual
import LineMap.Proofs.Json.Tokens
import LineMap.Proofs.Json.Variations
import LineMap.Proofs.Keyed
import LineMap.Proofs.Listing.AnnotatedLines
import LineMap.Proofs.Listing.CarryForward
import LineMap.Proofs.Listing.Composition
import LineMap.Proofs.Listing.DumpBreaks
import LineMap.Proofs.Listing.FinalPart
import LineMap.Proofs.Listing.FinalUnit
import LineMap.Proofs.Listing.InstructionPrefix
import LineMap.Proofs.Listing.LineGrammar
import LineMap.Proofs.Listing.MarkerLine
import LineMap.Proofs.Listing.PrimarySource
import LineMap.Proofs.Listing.Rejoined
import LineMap.Proofs.Listing.SectionBounds
import LineMap.Proofs.Listing.SectionLines
import LineMap.Proofs.Listing.UnitKinds
import LineMap.Proofs.Number.Writable
import LineMap.Proofs.Outcome.Document
import LineMap.Proofs.Outcome.Gutter
import LineMap.Proofs.Result
import LineMap.Proofs.SymbolTable.AllOrNothing
import LineMap.Proofs.SymbolTable.Content
import LineMap.Proofs.SymbolTable.Loading
import LineMap.Proofs.SymbolTable.Writable
import LineMap.Proofs.Text.Breaks
import LineMap.Proofs.Text.Digits
import LineMap.Proofs.Text.HalfPairs
import LineMap.Proofs.Text.Lines
import LineMap.Proofs.Text.Pattern
import LineMap.Proofs.Text.Search
import LineMap.Proofs.Text.Splitting
import LineMap.Proofs.Text.Utf8
import LineMap.Proofs.Validation.Agreement
import LineMap.Proofs.Validation.Form
import LineMap.Proofs.Validation.Members
import LineMap.Proofs.Validation.Plain
import LineMap.Proofs.View.Degradation
import LineMap.Proofs.View.DisplayLines
import LineMap.Proofs.View.Invocation
import LineMap.Proofs.View.LineEndings
import LineMap.Proofs.View.Overlong
import LineMap.Proofs.View.Registries
import LineMap.Proofs.View.Rendering
import LineMap.Proofs.View.Traces
import LineMap.Proofs.View.Writable
import LineMap.SymbolTable.Document
import LineMap.SymbolTable.Load
import LineMap.SymbolTable.Table
import LineMap.Text.Blank
import LineMap.Text.Digit
import LineMap.Text.Excerpt
import LineMap.Text.Hex
import LineMap.Text.Identifier
import LineMap.Text.Lines
import LineMap.Text.Printable
import LineMap.Text.Quoted
import LineMap.Text.Search
import LineMap.Text.Utf8
import LineMap.Validation.Checked
import LineMap.Validation.Issue
import LineMap.View.Builtin
import LineMap.View.Registry
