import Redaction.Engine.Cache
import Redaction.Engine.Handle
import Redaction.Engine.Pool
import Redaction.Engine.Trace
import Redaction.Event
import Redaction.Fields
import Redaction.FileTree
import Redaction.Json.Basic
import Redaction.Json.Reader
import Redaction.Json.Text
import Redaction.Log
import Redaction.Log.Handling
import Redaction.Number.Binary64
import Redaction.Number.Decimal
import Redaction.Pattern.Basic
import Redaction.Pattern.CharTest
import Redaction.Pattern.Fault
import Redaction.Pattern.Matcher
import Redaction.Pattern.Node
import Redaction.Pattern.Parser
import Redaction.Pattern.Reader
import Redaction.Pattern.Syntax
import Redaction.Percent.Directive
import Redaction.Percent.Fault
import Redaction.Percent.Format
import Redaction.Playground
import Redaction.Policy.Complaint
import Redaction.Policy.Document
import Redaction.Policy.Error
import Redaction.Policy.Loader
import Redaction.Policy.Reader
import Redaction.Policy.Rule
import Redaction.Proofs.Effects
import Redaction.Proofs.Engine.Grouping
import Redaction.Proofs.Engine.Mirror
import Redaction.Proofs.Engine.Reference
import Redaction.Proofs.Policy.Checks
import Redaction.Proofs.Session.Actions
import Redaction.Proofs.Session.ContextCaches
import Redaction.Proofs.Session.Registries
import Redaction.Record.Basic
import Redaction.Record.Filter
import Redaction.Record.Layout
import Redaction.Record.Raised
import Redaction.Service
import Redaction.Service.Delivery
import Redaction.Session
import Redaction.Settings.Basic
import Redaction.Settings.EnvFile
import Redaction.Template
import Redaction.Text.Blank
import Redaction.Text.Case
import Redaction.Text.CharacterName
import Redaction.Text.CharacterName.Letters
import Redaction.Text.CharacterName.Pictographs
import Redaction.Text.CharacterName.Run
import Redaction.Text.CharacterName.Symbols
import Redaction.Text.Digit
import Redaction.Text.Identifier
import Redaction.Text.Integer
import Redaction.Text.Letter
import Redaction.Text.Lines
import Redaction.Text.Printable
import Redaction.Text.Quoted
import Redaction.Text.Ranges
import Redaction.Text.Substring
import Redaction.Text.Utf8
import Redaction.Value
import Redaction.Value.Json
import Redaction.Value.Kind
import Redaction.Value.Text
import Redaction.Proofs.Policy.Outcome
import Redaction.Proofs.Pattern.Matches
import Redaction.Proofs.Pattern.Reach
import Redaction.Proofs.Template.References
import Redaction.Proofs.Template.Substitution
import Redaction.Proofs.Engine.Totality
import Redaction.Proofs.Engine.Applications
import Redaction.Proofs.Session.Accounting
import Redaction.Proofs.Engine.ContextRedaction
import Redaction.Proofs.Record.FilterChain
import Redaction.Proofs.Service.Actions
import Redaction.Proofs.Service.SharedEngine
import Redaction.Proofs.Pattern.Reading
import Redaction.Proofs.Pattern.Limits
import Redaction.Proofs.Pattern.LimitsShown
import Redaction.Proofs.Template.Refusals
import Redaction.Proofs.Policy.Limits
import Redaction.Proofs.Engine.Composition
import Redaction.Proofs.Text.Utf8
import Redaction.Proofs.Policy.Routes
import Redaction.Proofs.Log.Handling
import Redaction.Proofs.Log.Feedback
import Redaction.Proofs.Json.Reading
import Redaction.Proofs.Json.Lists
import Redaction.Proofs.Json.Numbers
import Redaction.Proofs.Json.Decimals
import Redaction.Proofs.Json.Values
import Redaction.Proofs.Record.StructuredLine
import Redaction.Proofs.Log.Lines
import Redaction.Proofs.Engine.AuditTrail
import Redaction.Proofs.Engine.Secrecy
import Redaction.Proofs.Service.Filters
import Redaction.Proofs.Service.FilterCalls
import Redaction.Proofs.Service.LazyEngine
import Redaction.Proofs.Engine.StableGrouping
import Redaction.Proofs.Engine.Untouched
import Redaction.Proofs.Session.LastingCaches
import Redaction.Proofs.Json.PrintableAscii
import Redaction.Proofs.Record.StructuredFields
import Redaction.Proofs.FileTree
import Redaction.Proofs.Policy.LoadTrail
import Redaction.Proofs.Text.Joined
import Redaction.Proofs.Json.Obstacles
import Redaction.Proofs.Policy.Unreadable
import Redaction.Proofs.Record.Hindrances
import Redaction.Proofs.Playground
import Redaction.Proofs.Engine.Undescribed
import Redaction.Proofs.Policy.Spellings
import Redaction.Proofs.Log.LevelNames
import Redaction.Proofs.Service.Snags
import Redaction.Proofs.Service.StartUp
import Redaction.Proofs.Service.SelfWaiting
