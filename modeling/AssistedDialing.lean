import AssistedDialing.Binary64.Basic
import AssistedDialing.Binary64.Shortest
import AssistedDialing.CommandLine.Arguments
import AssistedDialing.CommandLine.Call
import AssistedDialing.CommandLine.Command
import AssistedDialing.CommandLine.Failure
import AssistedDialing.CommandLine.Request
import AssistedDialing.Country.Code
import AssistedDialing.Country.Location
import AssistedDialing.Country.Table
import AssistedDialing.Decimal
import AssistedDialing.Dialled.Candidate
import AssistedDialing.Dialled.Character
import AssistedDialing.Dialled.Error
import AssistedDialing.Dialled.Extension
import AssistedDialing.Dialled.Keypad
import AssistedDialing.Dialled.Link
import AssistedDialing.Dialled.Parse
import AssistedDialing.Dialled.Prefix
import AssistedDialing.Dialled.Validity
import AssistedDialing.Dialled.Viable
import AssistedDialing.DigitLimit
import AssistedDialing.Eligibility.Checker
import AssistedDialing.Eligibility.Reason
import AssistedDialing.Eligibility.Run
import AssistedDialing.Eligibility.Verdict
import AssistedDialing.Emergency.Classifier
import AssistedDialing.Emergency.Separators
import AssistedDialing.EnvironmentFile.Statement
import AssistedDialing.EnvironmentFile.Variables
import AssistedDialing.Host
import AssistedDialing.Json.Basic
import AssistedDialing.Json.Reader
import AssistedDialing.Json.Writer
import AssistedDialing.Log.Entry
import AssistedDialing.Log.Exception
import AssistedDialing.Log.Level
import AssistedDialing.Log.Line
import AssistedDialing.Log.Record
import AssistedDialing.Log.Root
import AssistedDialing.Log.Template
import AssistedDialing.Main
import AssistedDialing.NumberingPlan.Africa
import AssistedDialing.NumberingPlan.Asia
import AssistedDialing.NumberingPlan.Australasia
import AssistedDialing.NumberingPlan.Basic
import AssistedDialing.NumberingPlan.BritishIsles
import AssistedDialing.NumberingPlan.Europe
import AssistedDialing.NumberingPlan.LatinAmerica
import AssistedDialing.NumberingPlan.NorthAmerica
import AssistedDialing.NumberingPlan.Pattern
import AssistedDialing.NumberingPlan.World
import AssistedDialing.Path
import AssistedDialing.PhoneNumber.Basic
import AssistedDialing.PhoneNumber.Source
import AssistedDialing.Proofs.CountryIdentity
import AssistedDialing.Proofs.Preconditions
import AssistedDialing.Proofs.RunLaws
import AssistedDialing.Proofs.UpperCase
import AssistedDialing.Report
import AssistedDialing.Rounding
import AssistedDialing.Settings.Basic
import AssistedDialing.Settings.Configuration
import AssistedDialing.Settings.Field
import AssistedDialing.Settings.Input
import AssistedDialing.Settings.ItemList
import AssistedDialing.Settings.Load
import AssistedDialing.Settings.Validation
import AssistedDialing.Text.Base64
import AssistedDialing.Text.Blank
import AssistedDialing.Text.CaseRun
import AssistedDialing.Text.Digit
import AssistedDialing.Text.Hexadecimal
import AssistedDialing.Text.Lines
import AssistedDialing.Text.Lower
import AssistedDialing.Text.LowerTable
import AssistedDialing.Text.Quoted
import AssistedDialing.Text.Search
import AssistedDialing.Text.Separated
import AssistedDialing.Text.Similarity
import AssistedDialing.Text.Span
import AssistedDialing.Text.Style
import AssistedDialing.Text.UnprintableTable
import AssistedDialing.Text.Upper
import AssistedDialing.Text.UpperTable
import AssistedDialing.Text.Utf8
import AssistedDialing.Text.Word
import AssistedDialing.Text.WordTable
import AssistedDialing.Time.Date
import AssistedDialing.Time.Instant
import AssistedDialing.Value.Basic
import AssistedDialing.Value.Display
import AssistedDialing.Yaml.BlockText
import AssistedDialing.Yaml.Character
import AssistedDialing.Yaml.Content
import AssistedDialing.Yaml.Cursor
import AssistedDialing.Yaml.Directive
import AssistedDialing.Yaml.Document
import AssistedDialing.Yaml.Evaluation
import AssistedDialing.Yaml.Failure
import AssistedDialing.Yaml.KeySet
import AssistedDialing.Yaml.Lexer
import AssistedDialing.Yaml.Node
import AssistedDialing.Yaml.Number
import AssistedDialing.Yaml.PlainText
import AssistedDialing.Yaml.QuotedText
import AssistedDialing.Yaml.Resolution
import AssistedDialing.Yaml.Tag
import AssistedDialing.Yaml.Timestamp
import AssistedDialing.Yaml.Token
import AssistedDialing.Proofs.EmergencyCalls
import AssistedDialing.Proofs.Layout
import AssistedDialing.Proofs.LayoutVerdict
import AssistedDialing.Proofs.DialledDigits
import AssistedDialing.Proofs.Scripts
import AssistedDialing.Proofs.Setup
import AssistedDialing.Proofs.CallingCodeOrigin
import AssistedDialing.Proofs.ParserContract
import AssistedDialing.Proofs.InternationalForm
import AssistedDialing.Proofs.JsonReading
import AssistedDialing.Proofs.JsonIndented
import AssistedDialing.Proofs.JsonPrinting
import AssistedDialing.Proofs.LogFields
import AssistedDialing.Proofs.RecordTime
import AssistedDialing.Proofs.LogLine
import AssistedDialing.Proofs.LoggingRun
import AssistedDialing.Proofs.References
import AssistedDialing.Proofs.Roaming
import AssistedDialing.Proofs.Precedence
import AssistedDialing.Proofs.CommaLists
import AssistedDialing.Proofs.CountrySources
import AssistedDialing.Proofs.CountryTable
import AssistedDialing.Proofs.DecisionLog
import AssistedDialing.Proofs.LetterCodes
import AssistedDialing.Proofs.OneSetting
import AssistedDialing.Proofs.ConfiguredLists
import AssistedDialing.Proofs.FlowListTokens
import AssistedDialing.Proofs.FlowListNodes
import AssistedDialing.Proofs.FlowListValue
import AssistedDialing.Proofs.PlainWords
import AssistedDialing.Proofs.ListSources
import AssistedDialing.Proofs.CommandOutput
import AssistedDialing.Proofs.CountryLists
import AssistedDialing.Proofs.MoreNumbers
import AssistedDialing.Proofs.WiderTables
import AssistedDialing.Proofs.SpelledNumbers
import AssistedDialing.Proofs.ListedCountries
import AssistedDialing.Proofs.Stripping
import AssistedDialing.Proofs.NormalCodes
import AssistedDialing.Proofs.ItemLists
import AssistedDialing.Proofs.TextOrder
import AssistedDialing.Proofs.Calendar
import AssistedDialing.Proofs.TimestampOrder
import AssistedDialing.Proofs.HalfEven
import AssistedDialing.Proofs.BinaryRounding
import AssistedDialing.Proofs.BinaryArithmetic
import AssistedDialing.Proofs.Microseconds
import AssistedDialing.Proofs.SortedTimestamps
