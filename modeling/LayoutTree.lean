import LayoutTree.Build.Attachment
import LayoutTree.Build.Builder
import LayoutTree.Build.Forest
import LayoutTree.Build.Progress
import LayoutTree.Build.Properties
import LayoutTree.Build.Report
import LayoutTree.Build.Settings
import LayoutTree.Build.Setup
import LayoutTree.Build.Types
import LayoutTree.Command.Arguments
import LayoutTree.Command.Document
import LayoutTree.Command.Reference
import LayoutTree.Command.Run
import LayoutTree.Command.Suggestion
import LayoutTree.Conversion.Converter
import LayoutTree.Conversion.Engine
import LayoutTree.Conversion.Failure
import LayoutTree.Conversion.Record
import LayoutTree.Conversion.Structural
import LayoutTree.Conversion.Target
import LayoutTree.Data
import LayoutTree.Data.Step
import LayoutTree.Diagnostic.Context
import LayoutTree.Diagnostic.Log
import LayoutTree.Files.Path
import LayoutTree.Files.Store
import LayoutTree.Json.Reader
import LayoutTree.Json.Writer
import LayoutTree.Layout.Defaults
import LayoutTree.Layout.Descriptor
import LayoutTree.Layout.Document
import LayoutTree.Layout.Format
import LayoutTree.Layout.Fragment
import LayoutTree.Layout.JsonFormat
import LayoutTree.Layout.Outline
import LayoutTree.Layout.Source
import LayoutTree.Layout.TextFormat
import LayoutTree.Layout.XmlFormat
import LayoutTree.Layout.YamlFormat
import LayoutTree.Main
import LayoutTree.Node.Binding
import LayoutTree.Node.Class
import LayoutTree.Node.Node
import LayoutTree.Node.Widget
import LayoutTree.Number.Decimal
import LayoutTree.Number.Double
import LayoutTree.Number.Read
import LayoutTree.Number.Shortest
import LayoutTree.Number.Style
import LayoutTree.Plugin.Manager
import LayoutTree.Plugin.Plugin
import LayoutTree.Proofs.Build.Mirror
import LayoutTree.Proofs.Layout.Nesting
import LayoutTree.Proofs.Plugin.Lifecycle
import LayoutTree.Property.Setter
import LayoutTree.Property.Validation
import LayoutTree.Property.Validator
import LayoutTree.Registry.Chain
import LayoutTree.Registry.Module
import LayoutTree.Registry.Registry
import LayoutTree.Registry.Types
import LayoutTree.Text.Alphanumeric
import LayoutTree.Text.Blank
import LayoutTree.Text.Case
import LayoutTree.Text.CaseTable
import LayoutTree.Text.CasedTable
import LayoutTree.Text.CodeSet
import LayoutTree.Text.Digit
import LayoutTree.Text.Pattern
import LayoutTree.Text.Printable
import LayoutTree.Text.Quoted
import LayoutTree.Text.Search
import LayoutTree.Text.Symbol
import LayoutTree.Value.Brush
import LayoutTree.Value.Color
import LayoutTree.Value.Enumeration
import LayoutTree.Value.Measure
import LayoutTree.Value.Moment
import LayoutTree.Value.Value
import LayoutTree.Xml.DocumentType
import LayoutTree.Xml.Element
import LayoutTree.Xml.NameTable
import LayoutTree.Xml.Reader
import LayoutTree.Xml.Token
import LayoutTree.Yaml.Implicit
import LayoutTree.Yaml.Node
import LayoutTree.Yaml.Position
import LayoutTree.Yaml.Problem
import LayoutTree.Yaml.Reader
import LayoutTree.Yaml.Scalar
import LayoutTree.Yaml.Token
import LayoutTree.Yaml.Writer
import LayoutTree.Proofs.Conversion.Calls
import LayoutTree.Proofs.Plugin.Restoration
import LayoutTree.Proofs.Build.Waiting
import LayoutTree.Proofs.Layout.Plan
import LayoutTree.Proofs.Layout.Written
import LayoutTree.Proofs.Layout.Forms
import LayoutTree.Proofs.Build.Results
import LayoutTree.Proofs.Layout.Recovery
import LayoutTree.Proofs.Layout.Chains
import LayoutTree.Proofs.Layout.Inclusion
import LayoutTree.Proofs.Layout.NodeLine
import LayoutTree.Proofs.Layout.Placing
import LayoutTree.Proofs.Layout.Printing
import LayoutTree.Proofs.Layout.Transparency
import LayoutTree.Proofs.Number.Reading
import LayoutTree.Proofs.Text.Folding
import LayoutTree.Proofs.Node.Named
import LayoutTree.Proofs.Node.Accessor
import LayoutTree.Proofs.Property.Entries
import LayoutTree.Proofs.Property.Bounds
import LayoutTree.Proofs.Build.Stopping
import LayoutTree.Proofs.Build.Cancelling
import LayoutTree.Proofs.Build.Guarding
import LayoutTree.Proofs.Build.Balance
import LayoutTree.Proofs.Conversion.Admission
import LayoutTree.Proofs.Layout.Undocumented
import LayoutTree.Proofs.Conversion.Undocumented
import LayoutTree.Proofs.Property.Framing
import LayoutTree.Proofs.Property.Ranges
import LayoutTree.Proofs.Build.Discovery
import LayoutTree.Proofs.Layout.Overriding
import LayoutTree.Proofs.Layout.Ordered
import LayoutTree.Proofs.Layout.Leftover
import LayoutTree.Proofs.Files.Matching
import LayoutTree.Proofs.Files.Naming
import LayoutTree.Proofs.Layout.Guarding
import LayoutTree.Proofs.Layout.Silence
import LayoutTree.Proofs.Layout.Comments
import LayoutTree.Proofs.Layout.Refusal
import LayoutTree.Proofs.Layout.Surviving
import LayoutTree.Proofs.Layout.Journal
import LayoutTree.Proofs.Layout.Locating
import LayoutTree.Proofs.Xml.Route
import LayoutTree.Proofs.Xml.LocalName
import LayoutTree.Proofs.Xml.Named
import LayoutTree.Proofs.Data.Path
import LayoutTree.Proofs.Layout.Levels
import LayoutTree.Proofs.Layout.LiveControls
import LayoutTree.Proofs.Layout.Pruning
import LayoutTree.Proofs.Layout.Namespaces
import LayoutTree.Proofs.Layout.Schema
import LayoutTree.Proofs.Layout.Emptying
import LayoutTree.Proofs.Layout.Excerpt
import LayoutTree.Proofs.Plugin.Unloading
import LayoutTree.Proofs.Plugin.EntryPoints
import LayoutTree.Proofs.Build.Overlooking
import LayoutTree.Proofs.Property.Spellings
import LayoutTree.Proofs.Layout.Unnamed
import LayoutTree.Proofs.Json.ReadBack
import LayoutTree.Proofs.Conversion.RawText
import LayoutTree.Proofs.Conversion.Members
import LayoutTree.Proofs.Number.Rounding
import LayoutTree.Proofs.Text.Trim
import LayoutTree.Proofs.Value.Color
import LayoutTree.Proofs.Conversion.Gradient
