import Telemetry.CommandLine.Execution
import Telemetry.CommandLine.Given
import Telemetry.CommandLine.Parameter
import Telemetry.CommandLine.Reader
import Telemetry.Condition.Environment
import Telemetry.Condition.Evaluation
import Telemetry.Condition.Lexer
import Telemetry.Condition.Node
import Telemetry.Condition.Parser
import Telemetry.Condition.Program
import Telemetry.Condition.Snapshot
import Telemetry.Condition.Syntax
import Telemetry.Condition.Token
import Telemetry.Condition.Typing
import Telemetry.Condition.Value
import Telemetry.Decimal.Basic
import Telemetry.Decimal.Binary
import Telemetry.Decimal.Layout
import Telemetry.Decimal.Reader
import Telemetry.Decimal.Shortest
import Telemetry.Files.Basic
import Telemetry.Files.Path
import Telemetry.Json.Number
import Telemetry.Json.Syntax
import Telemetry.Json.Value
import Telemetry.Json.Writer
import Telemetry.KeyMap
import Telemetry.Main
import Telemetry.Message.Basic
import Telemetry.Message.Codec
import Telemetry.Message.FieldValue
import Telemetry.Message.Json
import Telemetry.Message.LineProtocol
import Telemetry.Message.Listing
import Telemetry.Pattern.Basic
import Telemetry.Pattern.CharSet
import Telemetry.Pattern.Engine
import Telemetry.Pattern.Meaning
import Telemetry.Pattern.Reader
import Telemetry.Pattern.Syntax
import Telemetry.Processor.Basic
import Telemetry.Processor.Metrics
import Telemetry.Proofs.Condition.Coherence
import Telemetry.Proofs.Condition.Constants
import Telemetry.Proofs.Condition.ConstantsGiven
import Telemetry.Proofs.Condition.Cursor
import Telemetry.Proofs.Condition.CursorAgrees
import Telemetry.Proofs.Condition.CursorSafety
import Telemetry.Proofs.Condition.Derivation
import Telemetry.Proofs.Condition.Disjunction
import Telemetry.Proofs.Condition.Equality
import Telemetry.Proofs.Condition.ExactIntegers
import Telemetry.Proofs.Condition.Faults
import Telemetry.Proofs.Condition.Grammar
import Telemetry.Proofs.Condition.GrammarCompleteness
import Telemetry.Proofs.Condition.GrammarSoundness
import Telemetry.Proofs.Condition.Height
import Telemetry.Proofs.Condition.Kinds
import Telemetry.Proofs.Condition.Levels
import Telemetry.Proofs.Condition.Lexing
import Telemetry.Proofs.Condition.NumberLiterals
import Telemetry.Proofs.Condition.Offsets
import Telemetry.Proofs.Condition.Operands
import Telemetry.Proofs.Condition.Partition
import Telemetry.Proofs.Condition.Positions
import Telemetry.Proofs.Condition.Printer
import Telemetry.Proofs.Condition.Reading
import Telemetry.Proofs.Condition.Reference
import Telemetry.Proofs.Condition.Resolution
import Telemetry.Proofs.Condition.RoundTrip
import Telemetry.Proofs.Condition.Safety
import Telemetry.Proofs.Condition.Sanitizing
import Telemetry.Proofs.Condition.Scanner
import Telemetry.Proofs.Condition.ScannerAgrees
import Telemetry.Proofs.Condition.Slices
import Telemetry.Proofs.Condition.Spelling
import Telemetry.Proofs.Condition.Tallest
import Telemetry.Proofs.Condition.TypeSoundness
import Telemetry.Proofs.Decimal.Nearest
import Telemetry.Proofs.Decimal.NotANumber
import Telemetry.Proofs.Decimal.Overflow
import Telemetry.Proofs.Decimal.Packing
import Telemetry.Proofs.Decimal.Positional
import Telemetry.Proofs.Decimal.ReadBack
import Telemetry.Proofs.Decimal.Rounding
import Telemetry.Proofs.Distinct
import Telemetry.Proofs.Fallible
import Telemetry.Proofs.Json.Codec
import Telemetry.Proofs.Json.NumberTexts
import Telemetry.Proofs.Json.ReadBack
import Telemetry.Proofs.Json.StringTexts
import Telemetry.Proofs.KeyMap
import Telemetry.Proofs.Message.JsonRoundTrip
import Telemetry.Proofs.Message.LineFeeds
import Telemetry.Proofs.Message.LineReading
import Telemetry.Proofs.Message.LineRoundTrip
import Telemetry.Proofs.Processor.Calls
import Telemetry.Proofs.Processor.Counting
import Telemetry.Proofs.Processor.Lending
import Telemetry.Proofs.Rules.Blame
import Telemetry.Proofs.Rules.Changes
import Telemetry.Proofs.Rules.Commands
import Telemetry.Proofs.Rules.Configuring
import Telemetry.Proofs.Rules.Cumulative
import Telemetry.Proofs.Rules.Documents
import Telemetry.Proofs.Rules.Drops
import Telemetry.Proofs.Rules.Entries
import Telemetry.Proofs.Rules.Failure
import Telemetry.Proofs.Rules.Frame
import Telemetry.Proofs.Rules.History
import Telemetry.Proofs.Rules.Independence
import Telemetry.Proofs.Rules.Membership
import Telemetry.Proofs.Rules.MovingBack
import Telemetry.Proofs.Rules.Normalizing
import Telemetry.Proofs.Rules.Reachability
import Telemetry.Proofs.Rules.Reapplying
import Telemetry.Proofs.Rules.Registry
import Telemetry.Proofs.Rules.Repetition
import Telemetry.Proofs.Rules.Rescaling
import Telemetry.Proofs.Rules.Reserved
import Telemetry.Proofs.Rules.Sanitized
import Telemetry.Proofs.Rules.StageRules
import Telemetry.Proofs.Run.Accounting
import Telemetry.Proofs.Run.VisitingOrder
import Telemetry.Proofs.Settings.Loading
import Telemetry.Proofs.Settling
import Telemetry.Proofs.Text.Digits
import Telemetry.Proofs.Text.Integers
import Telemetry.Proofs.Text.Lines
import Telemetry.Proofs.Text.Trimming
import Telemetry.Proofs.Units.Compatibility
import Telemetry.Proofs.Units.Conversions
import Telemetry.Proofs.Units.Grammar
import Telemetry.Proofs.Units.Spelling
import Telemetry.Proofs.Units.Splitting
import Telemetry.Report.Basic
import Telemetry.Report.Rules
import Telemetry.Report.Run
import Telemetry.Report.Settings
import Telemetry.Report.Units
import Telemetry.Rules.Application
import Telemetry.Rules.Config
import Telemetry.Rules.Configure
import Telemetry.Rules.File
import Telemetry.Rules.Rule
import Telemetry.Rules.Rulebook
import Telemetry.Rules.Stage
import Telemetry.Run.Basic
import Telemetry.Settings.Basic
import Telemetry.Settings.Document
import Telemetry.Text.Blank
import Telemetry.Text.Case
import Telemetry.Text.CaseTable
import Telemetry.Text.Category
import Telemetry.Text.CategoryTable
import Telemetry.Text.CharRanges
import Telemetry.Text.Digits
import Telemetry.Text.Hex
import Telemetry.Text.Hidden
import Telemetry.Text.Infix
import Telemetry.Text.Quoted
import Telemetry.Text.Script
import Telemetry.Text.ScriptTable
import Telemetry.Text.Utf8
import Telemetry.Timestamp.Basic
import Telemetry.Timestamp.Calendar
import Telemetry.Timestamp.Reader
import Telemetry.Timestamp.Writer
import Telemetry.Toml.Reader
import Telemetry.Toml.Scalar
import Telemetry.Toml.Value
import Telemetry.Toml.Writer
import Telemetry.Units.Conversion
import Telemetry.Units.Measure
import Telemetry.Units.Prefix
import Telemetry.Units.UnitOfMeasure
import Telemetry.Word
import Telemetry.Yaml.Cursor
import Telemetry.Yaml.Node
import Telemetry.Yaml.Reader
import Telemetry.Yaml.Scalar
import Telemetry.Yaml.Token
