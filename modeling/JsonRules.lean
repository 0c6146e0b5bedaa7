import JsonRules.Cancellation
import JsonRules.Comparison
import JsonRules.Connective
import JsonRules.Double.Basic
import JsonRules.Double.Shortest
import JsonRules.Engine
import JsonRules.Except
import JsonRules.Json.Basic
import JsonRules.Json.Decode
import JsonRules.Json.Document
import JsonRules.Json.Members
import JsonRules.Json.Number
import JsonRules.Json.Order
import JsonRules.Json.Reader
import JsonRules.Json.TextFault
import JsonRules.Json.Writer
import JsonRules.Outcome.Basic
import JsonRules.Outcome.Run
import JsonRules.Pattern.Basic
import JsonRules.Pattern.Boundary
import JsonRules.Pattern.Bracket
import JsonRules.Pattern.CharClass
import JsonRules.Pattern.Cursor
import JsonRules.Pattern.Escape
import JsonRules.Pattern.Fault
import JsonRules.Pattern.Footprint
import JsonRules.Pattern.Nesting
import JsonRules.Pattern.Reader
import JsonRules.Pattern.Regex
import JsonRules.Pattern.Shape
import JsonRules.Pattern.Span
import JsonRules.Pattern.Tree
import JsonRules.Profile.Fault
import JsonRules.Profile.Service
import JsonRules.Profile.Store
import JsonRules.Proofs.Double.Rounding
import JsonRules.Proofs.Engine.Cancellation
import JsonRules.Proofs.Engine.Details
import JsonRules.Proofs.Engine.Echo
import JsonRules.Proofs.Engine.ErrorCount
import JsonRules.Proofs.Engine.Explanation
import JsonRules.Proofs.Engine.Grouping
import JsonRules.Proofs.Engine.PresencePolicy
import JsonRules.Proofs.Engine.Registration
import JsonRules.Proofs.Engine.Spelling
import JsonRules.Proofs.Json.Coherence
import JsonRules.Proofs.Json.Equality
import JsonRules.Proofs.Json.Exactness
import JsonRules.Proofs.Json.RecordForm
import JsonRules.Proofs.Json.Symmetry
import JsonRules.Proofs.Json.Transitivity
import JsonRules.Proofs.Outcome.Alignment
import JsonRules.Proofs.Outcome.Asking
import JsonRules.Proofs.Outcome.Explanation
import JsonRules.Proofs.Outcome.Formula
import JsonRules.Proofs.Outcome.Interruption
import JsonRules.Proofs.Outcome.Monotone
import JsonRules.Proofs.Outcome.Negation
import JsonRules.Proofs.Outcome.Run
import JsonRules.Proofs.Outcome.Schedule
import JsonRules.Proofs.Outcome.Trace
import JsonRules.Proofs.Outcome.Tree
import JsonRules.Proofs.Pattern.Anchoring
import JsonRules.Proofs.Pattern.Closing.Basic
import JsonRules.Proofs.Pattern.Closing.Bracket
import JsonRules.Proofs.Pattern.Closing.Escape
import JsonRules.Proofs.Pattern.Closing.Group
import JsonRules.Proofs.Pattern.Closing.Parts
import JsonRules.Proofs.Pattern.Matching
import JsonRules.Proofs.Profile.Interleaving
import JsonRules.Proofs.Profile.NamePattern
import JsonRules.Proofs.Profile.Outages
import JsonRules.Proofs.Profile.Refetch
import JsonRules.Proofs.Profile.Requests
import JsonRules.Proofs.Profile.Store
import JsonRules.Proofs.Profile.StoredRules
import JsonRules.Proofs.Report.Checks
import JsonRules.Proofs.Report.DetailForm
import JsonRules.Proofs.Report.Marks
import JsonRules.Proofs.Rule.Document
import JsonRules.Proofs.Rule.FirstFault
import JsonRules.Proofs.Rule.Head
import JsonRules.Proofs.Rule.HeadFault
import JsonRules.Proofs.Rule.NamedCommands
import JsonRules.Proofs.Rule.Reading
import JsonRules.Proofs.Rule.RelatedCommands
import JsonRules.Proofs.Rule.Spelling
import JsonRules.Proofs.Rule.WellFormed
import JsonRules.Proofs.Selector.Branches
import JsonRules.Proofs.Selector.ChildPath
import JsonRules.Proofs.Selector.Expansion
import JsonRules.Proofs.Selector.FaultPlace
import JsonRules.Proofs.Selector.Grammar
import JsonRules.Proofs.Selector.Reading
import JsonRules.Proofs.Selector.Rendering
import JsonRules.Proofs.Settings.Fields
import JsonRules.Proofs.Settings.FileTable
import JsonRules.Proofs.Settings.Layers
import JsonRules.Proofs.Settings.Merge
import JsonRules.Proofs.Settings.Variables
import JsonRules.Proofs.Test.Arguments
import JsonRules.Proofs.Test.Presence
import JsonRules.Report
import JsonRules.Rule.Basic
import JsonRules.Rule.Fault
import JsonRules.Rule.Reader
import JsonRules.Rule.Text
import JsonRules.Selector.Basic
import JsonRules.Selector.Locate
import JsonRules.Selector.Reader
import JsonRules.Settings.Basic
import JsonRules.Settings.Environment
import JsonRules.Settings.Layers
import JsonRules.Settings.Numeral
import JsonRules.Settings.Quoted
import JsonRules.Settings.Toml.Moment
import JsonRules.Settings.Toml.Reader
import JsonRules.Settings.Toml.Table
import JsonRules.Settings.Toml.Value
import JsonRules.Settings.Value
import JsonRules.Test.Basic
import JsonRules.Test.Command
import JsonRules.Test.Kind
import JsonRules.Text.Blank
import JsonRules.Text.CaseFold
import JsonRules.Text.Digits
import JsonRules.Text.Escaped
import JsonRules.Text.Name
import JsonRules.Text.Printable
import JsonRules.Text.Property.Age
import JsonRules.Text.Property.Basic
import JsonRules.Text.Property.Category
import JsonRules.Text.Property.Query
import JsonRules.Text.Property.Script
import JsonRules.Text.Property.ScriptUse
import JsonRules.Text.Property.Segment
import JsonRules.Text.Property.Trait
import JsonRules.Text.Ranges
import JsonRules.Text.Utf8
import JsonRules.Text.Word
