import TemplateCatalog.Catalog.Snapshot
import TemplateCatalog.Catalog.Survey
import TemplateCatalog.Catalog.Version
import TemplateCatalog.CommandLine.Console
import TemplateCatalog.CommandLine.Grammar
import TemplateCatalog.CommandLine.Invocation
import TemplateCatalog.CommandLine.Program
import TemplateCatalog.CommandLine.Rendering
import TemplateCatalog.CommandLine.Transcript
import TemplateCatalog.Decimal.Double
import TemplateCatalog.Decimal.Layout
import TemplateCatalog.Decimal.Number
import TemplateCatalog.Decimal.Numeral
import TemplateCatalog.Decimal.Shortest
import TemplateCatalog.Decoding.Mistake
import TemplateCatalog.Decoding.Record
import TemplateCatalog.Diagnostic
import TemplateCatalog.Dictionary
import TemplateCatalog.Disk.Entry
import TemplateCatalog.Disk.Error
import TemplateCatalog.Disk.Inquiry
import TemplateCatalog.Disk.Leaves
import TemplateCatalog.Disk.Location
import TemplateCatalog.Disk.Tree
import TemplateCatalog.Failure
import TemplateCatalog.Failure.Explanation
import TemplateCatalog.Git.Command
import TemplateCatalog.Git.Program
import TemplateCatalog.Git.Repository
import TemplateCatalog.Git.Script
import TemplateCatalog.Interaction
import TemplateCatalog.Json.Printer
import TemplateCatalog.Json.Reader
import TemplateCatalog.Json.Value
import TemplateCatalog.Log
import TemplateCatalog.Machine
import TemplateCatalog.Main
import TemplateCatalog.Procedure
import TemplateCatalog.Proofs.Catalog.Accounting
import TemplateCatalog.Proofs.Catalog.Advertised
import TemplateCatalog.Proofs.Catalog.Confinement
import TemplateCatalog.Proofs.Catalog.Consistency
import TemplateCatalog.Proofs.Catalog.Containment
import TemplateCatalog.Proofs.Catalog.Determinacy
import TemplateCatalog.Proofs.Catalog.Inheritance
import TemplateCatalog.Proofs.Catalog.Lookup
import TemplateCatalog.Proofs.Catalog.Repetition
import TemplateCatalog.Proofs.Catalog.Sharing
import TemplateCatalog.Proofs.Catalog.Vanishing
import TemplateCatalog.Proofs.Catalog.Verdict
import TemplateCatalog.Proofs.Catalog.WellFormed
import TemplateCatalog.Proofs.CommandLine.Console
import TemplateCatalog.Proofs.CommandLine.Flags
import TemplateCatalog.Proofs.CommandLine.Layering
import TemplateCatalog.Proofs.CommandLine.Showing
import TemplateCatalog.Proofs.Decoding.Fieldwise
import TemplateCatalog.Proofs.Decoding.Record
import TemplateCatalog.Proofs.Decoding.RoundTrip
import TemplateCatalog.Proofs.Dictionary
import TemplateCatalog.Proofs.Disk.Coherence
import TemplateCatalog.Proofs.Disk.Reading
import TemplateCatalog.Proofs.Failure.Advice
import TemplateCatalog.Proofs.Failure.Explained
import TemplateCatalog.Proofs.Git.Report
import TemplateCatalog.Proofs.Interaction
import TemplateCatalog.Proofs.Procedure
import TemplateCatalog.Proofs.Refresh.Abandonment
import TemplateCatalog.Proofs.Refresh.Pace
import TemplateCatalog.Proofs.Refresh.Polling
import TemplateCatalog.Proofs.Refresh.Precedence
import TemplateCatalog.Proofs.Refresh.Rehearsed
import TemplateCatalog.Proofs.Refresh.Resilience
import TemplateCatalog.Proofs.Refresh.Retention
import TemplateCatalog.Proofs.Refresh.Settling
import TemplateCatalog.Proofs.Refresh.SingleFlight
import TemplateCatalog.Proofs.Refresh.Surroundings
import TemplateCatalog.Proofs.Refresh.Turn
import TemplateCatalog.Proofs.Run
import TemplateCatalog.Proofs.Service.Coursed
import TemplateCatalog.Proofs.Service.Presence
import TemplateCatalog.Proofs.Service.Startup
import TemplateCatalog.Proofs.Template.Adoption
import TemplateCatalog.Proofs.Template.Complaint
import TemplateCatalog.Proofs.Template.Configuration
import TemplateCatalog.Proofs.Template.Formless
import TemplateCatalog.Proofs.Template.Manifest
import TemplateCatalog.Proofs.Template.Questionnaire
import TemplateCatalog.Proofs.Template.Selection
import TemplateCatalog.Proofs.Template.Wording
import TemplateCatalog.Proofs.Text.Utf8
import TemplateCatalog.Proofs.Toml.Document
import TemplateCatalog.Proofs.Yaml.Blank
import TemplateCatalog.Proofs.Yaml.Entries
import TemplateCatalog.Refresh.Gate
import TemplateCatalog.Refresh.Poll
import TemplateCatalog.Refresh.Rehearsal
import TemplateCatalog.Refresh.Schedule
import TemplateCatalog.Refresh.Source
import TemplateCatalog.Service
import TemplateCatalog.Settings
import TemplateCatalog.Template.Config
import TemplateCatalog.Template.Contents
import TemplateCatalog.Template.Listing
import TemplateCatalog.Template.Part
import TemplateCatalog.Template.Question
import TemplateCatalog.Template.Summary
import TemplateCatalog.Text.Blank
import TemplateCatalog.Text.Quoted
import TemplateCatalog.Text.Unprintable
import TemplateCatalog.Text.Utf8
import TemplateCatalog.Toml.Item
import TemplateCatalog.Toml.Literal
import TemplateCatalog.Toml.Reader
import TemplateCatalog.Yaml.Decode
import TemplateCatalog.Yaml.Event
import TemplateCatalog.Yaml.Fault
import TemplateCatalog.Yaml.Node
import TemplateCatalog.Yaml.Position
import TemplateCatalog.Yaml.Scalar
import TemplateCatalog.Yaml.Token
import TemplateCatalog.Yaml.Token.Lexer
import TemplateCatalog.Yaml.Token.Scalar
import TemplateCatalog.Yaml.Value
