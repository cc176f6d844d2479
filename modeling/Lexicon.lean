import Lexicon.Artifact.Header
import Lexicon.Artifact.Listing
import Lexicon.Artifact.Literal
import Lexicon.Artifact.Pair
import Lexicon.Artifact.Sink
import Lexicon.Artifact.Source
import Lexicon.Bounded
import Lexicon.CommandLine.Basic
import Lexicon.CommandLine.Conform
import Lexicon.CommandLine.Fuzz
import Lexicon.CommandLine.Generate
import Lexicon.CommandLine.Progress
import Lexicon.Conformance.Case
import Lexicon.Conformance.Check
import Lexicon.Conformance.Escape
import Lexicon.Conformance.Executable
import Lexicon.Conformance.Exit
import Lexicon.Conformance.ExitForm
import Lexicon.Conformance.Manifest
import Lexicon.Conformance.ManifestFile
import Lexicon.Conformance.Output
import Lexicon.Conformance.Report
import Lexicon.Conformance.Run
import Lexicon.FileTree.Basic
import Lexicon.FileTree.Disk
import Lexicon.FileTree.OsError
import Lexicon.FileTree.Path
import Lexicon.Generation
import Lexicon.Json.Decode
import Lexicon.Json.Fault
import Lexicon.Json.Literal
import Lexicon.Json.Number
import Lexicon.Json.Printer
import Lexicon.Json.Reading
import Lexicon.Json.Token
import Lexicon.Json.Value
import Lexicon.Log.Filter
import Lexicon.Log.Message
import Lexicon.Main
import Lexicon.Pattern.Automaton
import Lexicon.Pattern.Basic
import Lexicon.Pattern.Draft
import Lexicon.Pattern.LiteralTree
import Lexicon.Pattern.Match
import Lexicon.Pattern.Normal
import Lexicon.Pattern.Property
import Lexicon.Pattern.Reader
import Lexicon.Proofs.Table.FirstFault
import Lexicon.Proofs.Table.Layout
import Lexicon.Proofs.Table.Numbering
import Lexicon.Proofs.Token.Name
import Lexicon.Random.KeyStream
import Lexicon.Random.Source
import Lexicon.Random.Table
import Lexicon.Settings.Number
import Lexicon.Settings.Options
import Lexicon.Settings.Variables
import Lexicon.Shell.Action
import Lexicon.Shell.Arithmetic
import Lexicon.Shell.Command
import Lexicon.Shell.Condition
import Lexicon.Shell.Expansion
import Lexicon.Shell.Field
import Lexicon.Shell.Format
import Lexicon.Shell.Glob
import Lexicon.Shell.Image
import Lexicon.Shell.Numeral
import Lexicon.Shell.Process
import Lexicon.Shell.Raw
import Lexicon.Shell.Reader
import Lexicon.Shell.Run
import Lexicon.Shell.Signal
import Lexicon.Shell.Special
import Lexicon.Shell.State
import Lexicon.Shell.Token
import Lexicon.Shell.Tool.Basic
import Lexicon.Shell.Tool.Edit
import Lexicon.Shell.Tool.Expression
import Lexicon.Shell.Tool.Files
import Lexicon.Shell.Tool.Lines
import Lexicon.Shell.Tool.Search
import Lexicon.Shell.Tool.Words
import Lexicon.Shell.Tools
import Lexicon.Stop
import Lexicon.Table.Audit
import Lexicon.Table.Basic
import Lexicon.Table.Builtin
import Lexicon.Table.Compiled
import Lexicon.Table.Edit
import Lexicon.Table.Layout
import Lexicon.Table.Numbering
import Lexicon.Table.SchemaError
import Lexicon.Table.Validation
import Lexicon.Text.ByteRanges
import Lexicon.Text.Bytes
import Lexicon.Text.CodeRanges
import Lexicon.Text.Fixed
import Lexicon.Text.Hex
import Lexicon.Text.Quoted
import Lexicon.Text.RangeTable
import Lexicon.Text.Replace
import Lexicon.Text.Shortest
import Lexicon.Text.Unicode.Age
import Lexicon.Text.Unicode.CaseFold
import Lexicon.Text.Unicode.Category
import Lexicon.Text.Unicode.Display
import Lexicon.Text.Unicode.Listed
import Lexicon.Text.Unicode.Property
import Lexicon.Text.Unicode.Script
import Lexicon.Text.Unicode.Segmentation
import Lexicon.Token.Category
import Lexicon.Token.Definition
import Lexicon.Token.Payload
import Lexicon.Proofs.Table.Acceptance
import Lexicon.Proofs.Table.Audit
import Lexicon.Proofs.Table.Compilation
import Lexicon.Proofs.Text.Lines
import Lexicon.Proofs.Text.Numerals
import Lexicon.Proofs.Artifact.HeaderText
import Lexicon.Proofs.Artifact.SourceText
import Lexicon.Proofs.Artifact.Agreement
import Lexicon.Proofs.FileTree.Location
import Lexicon.Proofs.FileTree.Staging
import Lexicon.Proofs.FileTree.Writing
import Lexicon.Proofs.Table.AuditedLayout
import Lexicon.Proofs.Artifact.DefinedNames
import Lexicon.Proofs.Generation.Preparation
import Lexicon.Proofs.FileTree.Ancestors
import Lexicon.Proofs.FileTree.Replacement
import Lexicon.Proofs.Generation.Run
import Lexicon.Proofs.Artifact.LiteralBody
import Lexicon.Proofs.Artifact.SourceContent
import Lexicon.Proofs.Conformance.Run
import Lexicon.Proofs.Table.AuditedNames
import Lexicon.Proofs.Conformance.EscapeSequence
import Lexicon.Proofs.Pattern.Bytewise
import Lexicon.Proofs.Pattern.Preference
import Lexicon.Proofs.Conformance.EscapePattern
import Lexicon.Proofs.Artifact.ListingText
import Lexicon.Proofs.CommandLine.Fuzz
import Lexicon.Proofs.Conformance.Output
import Lexicon.Proofs.Conformance.Manifest
import Lexicon.Proofs.Table.Lookup
import Lexicon.Proofs.Conformance.EscapeResidue
import Lexicon.Proofs.Conformance.NormalOutput
import Lexicon.Proofs.Text.SixBitGroups
import Lexicon.Proofs.Conformance.TextOutput
import Lexicon.Proofs.Text.Occurrences
import Lexicon.Proofs.Conformance.Placeholders
import Lexicon.Proofs.Table.RepeatedNames
import Lexicon.Proofs.Artifact.Sink
import Lexicon.Proofs.Conformance.Decoration
import Lexicon.Proofs.Conformance.Seam
import Lexicon.Proofs.Conformance.Exit
import Lexicon.Proofs.Table.AuditSteps
import Lexicon.Proofs.Artifact.Printing
import Lexicon.Proofs.Artifact.Writers
import Lexicon.Proofs.Generation.WideNames
