import Pseudocode.Command.Arguments
import Pseudocode.Command.Launch
import Pseudocode.Command.Relay
import Pseudocode.Command.Run
import Pseudocode.Conversion
import Pseudocode.Host.Fault
import Pseudocode.Host.Files
import Pseudocode.Host.Path
import Pseudocode.Java.Emission
import Pseudocode.Java.Program
import Pseudocode.Java.Source
import Pseudocode.Json.Reader
import Pseudocode.Json.Value
import Pseudocode.Outline.Basic
import Pseudocode.Outline.Field
import Pseudocode.Outline.Header
import Pseudocode.Outline.Listing
import Pseudocode.Outline.Scan
import Pseudocode.Outline.Signature
import Pseudocode.Pattern.Basic
import Pseudocode.Pattern.Bracket
import Pseudocode.Pattern.CharSet
import Pseudocode.Pattern.Escape
import Pseudocode.Pattern.Flags
import Pseudocode.Pattern.Property
import Pseudocode.Pattern.Reader
import Pseudocode.Pattern.Search
import Pseudocode.Proofs.Acceptance
import Pseudocode.Proofs.Backtracking
import Pseudocode.Proofs.Balance
import Pseudocode.Proofs.BlockLines
import Pseudocode.Proofs.BlockRules
import Pseudocode.Proofs.Blocks
import Pseudocode.Proofs.BracketText
import Pseudocode.Proofs.Building
import Pseudocode.Proofs.BuiltinWords
import Pseudocode.Proofs.ClassGrammar
import Pseudocode.Proofs.ClassLog
import Pseudocode.Proofs.ClosingWords
import Pseudocode.Proofs.Declarations
import Pseudocode.Proofs.DirectoryPaths
import Pseudocode.Proofs.Edit
import Pseudocode.Proofs.Emission
import Pseudocode.Proofs.Enclosed
import Pseudocode.Proofs.FieldBlock
import Pseudocode.Proofs.Fitting
import Pseudocode.Proofs.FloatRounding
import Pseudocode.Proofs.FloatText
import Pseudocode.Proofs.Growth
import Pseudocode.Proofs.HeaderGrammar
import Pseudocode.Proofs.HeaderText
import Pseudocode.Proofs.Headerless
import Pseudocode.Proofs.HostChanges
import Pseudocode.Proofs.JsonText
import Pseudocode.Proofs.Keyword
import Pseudocode.Proofs.KeywordBytes
import Pseudocode.Proofs.KeywordLines
import Pseudocode.Proofs.Layout
import Pseudocode.Proofs.LineCount
import Pseudocode.Proofs.LineFeeds
import Pseudocode.Proofs.LineKind
import Pseudocode.Proofs.ListingText
import Pseudocode.Proofs.Marker
import Pseudocode.Proofs.Mentions
import Pseudocode.Proofs.Merge
import Pseudocode.Proofs.OnLines
import Pseudocode.Proofs.OpenMethod
import Pseudocode.Proofs.OutputLines
import Pseudocode.Proofs.Parentheses
import Pseudocode.Proofs.PatternText
import Pseudocode.Proofs.Phrases
import Pseudocode.Proofs.Pieces
import Pseudocode.Proofs.Precedence
import Pseudocode.Proofs.Procedural
import Pseudocode.Proofs.Provenance
import Pseudocode.Proofs.Relay
import Pseudocode.Proofs.Results
import Pseudocode.Proofs.ScanInvariant
import Pseudocode.Proofs.ScanLog
import Pseudocode.Proofs.ScannerScope
import Pseudocode.Proofs.ScriptRuns
import Pseudocode.Proofs.Sections
import Pseudocode.Proofs.SessionChannels
import Pseudocode.Proofs.SessionCommands
import Pseudocode.Proofs.SettingLayers
import Pseudocode.Proofs.SettingsTable
import Pseudocode.Proofs.SlotCuts
import Pseudocode.Proofs.Slots
import Pseudocode.Proofs.SourceLines
import Pseudocode.Proofs.Spelling
import Pseudocode.Proofs.Startup
import Pseudocode.Proofs.StatementEnd
import Pseudocode.Proofs.StatementText
import Pseudocode.Proofs.Threads
import Pseudocode.Proofs.TypeWord
import Pseudocode.Proofs.Units
import Pseudocode.Proofs.Utf8
import Pseudocode.Proofs.WholeLine
import Pseudocode.Proofs.WordForms
import Pseudocode.Proofs.WrittenSemicolon
import Pseudocode.Rule.Basic
import Pseudocode.Rule.Document
import Pseudocode.Rule.JsonDocument
import Pseudocode.Rule.Standard
import Pseudocode.Rule.Template
import Pseudocode.Rule.YamlDocument
import Pseudocode.Settings.Basic
import Pseudocode.Settings.Key
import Pseudocode.Shell.Arithmetic
import Pseudocode.Shell.Builtin
import Pseudocode.Shell.Executable
import Pseudocode.Shell.Expansion
import Pseudocode.Shell.Glob
import Pseudocode.Shell.Grammar
import Pseudocode.Shell.Printing
import Pseudocode.Shell.Run
import Pseudocode.Shell.Session
import Pseudocode.Shell.Start
import Pseudocode.Shell.Test
import Pseudocode.Shell.Utility
import Pseudocode.Shell.Word
import Pseudocode.Statement.Convert
import Pseudocode.Statement.Keyword
import Pseudocode.Text.Ascii
import Pseudocode.Text.Basic
import Pseudocode.Text.Case
import Pseudocode.Text.Ranges
import Pseudocode.Text.Table.Alphabetic
import Pseudocode.Text.Table.CaseIgnorable
import Pseudocode.Text.Table.Cased
import Pseudocode.Text.Table.Category
import Pseudocode.Text.Table.Fold
import Pseudocode.Text.Table.Lower
import Pseudocode.Text.Table.Mark
import Pseudocode.Text.Table.Numeral
import Pseudocode.Text.Table.Script
import Pseudocode.Text.Utf8
import Pseudocode.Text.WhiteSpace
import Pseudocode.Text.Word
import Pseudocode.Toml.Float
import Pseudocode.Toml.Reader
import Pseudocode.Toml.Scalar
import Pseudocode.Toml.Table
import Pseudocode.Yaml.Cursor
import Pseudocode.Yaml.Node
import Pseudocode.Yaml.Scalar
import Pseudocode.Yaml.Scanner
import Pseudocode.Yaml.Token
