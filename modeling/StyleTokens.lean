import StyleTokens.Cache.Basic
import StyleTokens.Cache.Envelope
import StyleTokens.Cache.FileStore
import StyleTokens.Cache.Key
import StyleTokens.Cache.MemoryStore
import StyleTokens.Cache.RedisStore
import StyleTokens.Cache.Request
import StyleTokens.Cache.Store
import StyleTokens.ClassName.Basic
import StyleTokens.ClassName.Responsive
import StyleTokens.CommandLine.Arguments
import StyleTokens.CommandLine.Caching
import StyleTokens.CommandLine.Command
import StyleTokens.CommandLine.Conformance
import StyleTokens.CommandLine.Program
import StyleTokens.CommandLine.Session
import StyleTokens.CommandLine.Stylesheets
import StyleTokens.Conformance.Case
import StyleTokens.Conformance.Corpus
import StyleTokens.Conformance.Preview
import StyleTokens.Conformance.Report
import StyleTokens.Dialogue
import StyleTokens.Digest.Sha256
import StyleTokens.Effect
import StyleTokens.Fault
import StyleTokens.Files.Path
import StyleTokens.Files.Problem
import StyleTokens.Files.Request
import StyleTokens.Files.Tree
import StyleTokens.Json.Canonical
import StyleTokens.Json.Parser
import StyleTokens.Json.Printer
import StyleTokens.Json.Writable
import StyleTokens.Keyed
import StyleTokens.Log.Line
import StyleTokens.Log.Record
import StyleTokens.Log.System
import StyleTokens.Main
import StyleTokens.Noted
import StyleTokens.Number.Basic
import StyleTokens.Number.Binary64
import StyleTokens.Number.Decimal
import StyleTokens.Number.Reading
import StyleTokens.Number.Rounded
import StyleTokens.Number.Shortest
import StyleTokens.Number.StyleText
import StyleTokens.Preset.Basic
import StyleTokens.Preset.Declaration
import StyleTokens.Preset.Label
import StyleTokens.Preset.Property
import StyleTokens.Preset.Source
import StyleTokens.Preset.Stylesheet
import StyleTokens.Proofs.Cache.Action
import StyleTokens.Proofs.Cache.Encounter
import StyleTokens.Proofs.Cache.EntryFile
import StyleTokens.Proofs.Cache.Envelope
import StyleTokens.Proofs.Cache.FileStore
import StyleTokens.Proofs.Cache.Forgetting
import StyleTokens.Proofs.Cache.Generation
import StyleTokens.Proofs.Cache.Glob
import StyleTokens.Proofs.Cache.History
import StyleTokens.Proofs.Cache.Inputs
import StyleTokens.Proofs.Cache.Key
import StyleTokens.Proofs.Cache.MemoryStore
import StyleTokens.Proofs.Cache.Opening
import StyleTokens.Proofs.Cache.Race
import StyleTokens.Proofs.Cache.RedisStore
import StyleTokens.Proofs.Cache.Scope
import StyleTokens.Proofs.Cache.Sheets
import StyleTokens.Proofs.Cache.SourceChange
import StyleTokens.Proofs.Cache.Stopping
import StyleTokens.Proofs.Cache.Writers
import StyleTokens.Proofs.ClassName.Appending
import StyleTokens.Proofs.ClassName.Arrangement
import StyleTokens.Proofs.ClassName.Distinct
import StyleTokens.Proofs.ClassName.Order
import StyleTokens.Proofs.ClassName.Responsive
import StyleTokens.Proofs.ClassName.Spacing
import StyleTokens.Proofs.ClassName.Stop
import StyleTokens.Proofs.ClassName.Unique
import StyleTokens.Proofs.ClassName.Words
import StyleTokens.Proofs.CommandLine.SourceCheck
import StyleTokens.Proofs.Conformance.Accounting
import StyleTokens.Proofs.Conformance.Agreement
import StyleTokens.Proofs.Conformance.Preview
import StyleTokens.Proofs.Conformance.Wording
import StyleTokens.Proofs.Dialogue
import StyleTokens.Proofs.Digest.Sha256
import StyleTokens.Proofs.Endless
import StyleTokens.Proofs.Files.Descent
import StyleTokens.Proofs.Files.Directory
import StyleTokens.Proofs.Files.Failing
import StyleTokens.Proofs.Files.Location
import StyleTokens.Proofs.Json.Canonical
import StyleTokens.Proofs.Json.Number
import StyleTokens.Proofs.Json.Printable
import StyleTokens.Proofs.Json.Refusal
import StyleTokens.Proofs.Json.Reordering
import StyleTokens.Proofs.Json.Rewritten
import StyleTokens.Proofs.Json.RoundTrip
import StyleTokens.Proofs.Json.Text
import StyleTokens.Proofs.Keyed
import StyleTokens.Proofs.Log.Loggers
import StyleTokens.Proofs.Log.Record
import StyleTokens.Proofs.Number.Binary64
import StyleTokens.Proofs.Number.Decimal
import StyleTokens.Proofs.Number.Digits
import StyleTokens.Proofs.Number.Nearest
import StyleTokens.Proofs.Number.Numeral
import StyleTokens.Proofs.Number.Range
import StyleTokens.Proofs.Number.ReadBack
import StyleTokens.Proofs.Number.RelativeError
import StyleTokens.Proofs.Number.Shortest
import StyleTokens.Proofs.Number.Shown
import StyleTokens.Proofs.Number.Significant
import StyleTokens.Proofs.Number.StyleText
import StyleTokens.Proofs.Number.Sum
import StyleTokens.Proofs.Outcome
import StyleTokens.Proofs.Preset.BlankWord
import StyleTokens.Proofs.Preset.Comment
import StyleTokens.Proofs.Preset.Failing
import StyleTokens.Proofs.Preset.Grouping
import StyleTokens.Proofs.Preset.Label
import StyleTokens.Proofs.Preset.LetterSpacing
import StyleTokens.Proofs.Preset.Loading
import StyleTokens.Proofs.Preset.Markup
import StyleTokens.Proofs.Preset.Merging
import StyleTokens.Proofs.Preset.ReadBack
import StyleTokens.Proofs.Preset.Reading
import StyleTokens.Proofs.Render.Client
import StyleTokens.Proofs.Render.SharedStore
import StyleTokens.Proofs.Settings.Verdict
import StyleTokens.Proofs.Text.Case
import StyleTokens.Proofs.Text.Hex
import StyleTokens.Proofs.Text.Markup
import StyleTokens.Proofs.Text.Utf8
import StyleTokens.Proofs.Text.Words
import StyleTokens.Proofs.Token.Edge
import StyleTokens.Proofs.Token.Meaning
import StyleTokens.Proofs.Token.Reading
import StyleTokens.Proofs.Utility.Cascade
import StyleTokens.Proofs.Utility.Correspondence
import StyleTokens.Proofs.Utility.Outline
import StyleTokens.Proofs.Utility.Reading
import StyleTokens.Proofs.Utility.Scale
import StyleTokens.Proofs.Utility.Section
import StyleTokens.Proofs.Utility.Selector
import StyleTokens.Proofs.Value.Doubles
import StyleTokens.Proofs.Value.Entries
import StyleTokens.Proofs.World
import StyleTokens.Record
import StyleTokens.Render.Context
import StyleTokens.Render.Page
import StyleTokens.Render.Script
import StyleTokens.Settings.Basic
import StyleTokens.Settings.Manifest
import StyleTokens.Terminal.CellTable
import StyleTokens.Terminal.Datum
import StyleTokens.Terminal.EmojiWords
import StyleTokens.Terminal.Lexeme
import StyleTokens.Terminal.Phrase
import StyleTokens.Terminal.Style
import StyleTokens.Terminal.Table
import StyleTokens.Terminal.Tags
import StyleTokens.Terminal.Width
import StyleTokens.Terminal.Wrap
import StyleTokens.Text.Blank
import StyleTokens.Text.Case
import StyleTokens.Text.CaseTable
import StyleTokens.Text.Character
import StyleTokens.Text.Hex
import StyleTokens.Text.Lines
import StyleTokens.Text.Markup
import StyleTokens.Text.PrintableTable
import StyleTokens.Text.Quoted
import StyleTokens.Text.Template
import StyleTokens.Text.Utf8
import StyleTokens.Text.WordTable
import StyleTokens.Time.Calendar
import StyleTokens.Time.Moment
import StyleTokens.Token.Entry
import StyleTokens.Token.Record
import StyleTokens.Token.Side
import StyleTokens.Toml.Parser
import StyleTokens.Toml.Table
import StyleTokens.Utility.Scale
import StyleTokens.Utility.Sheet
import StyleTokens.Value.Basic
import StyleTokens.Value.Display
import StyleTokens.Value.Fill
import StyleTokens.Value.Items
import StyleTokens.Value.Refusal
import StyleTokens.Value.Written
import StyleTokens.World
import StyleTokens.Yaml.Cursor
import StyleTokens.Yaml.Document
import StyleTokens.Yaml.Node
import StyleTokens.Yaml.Quoted
import StyleTokens.Yaml.Scalar
import StyleTokens.Proofs.Conformance.Wording
