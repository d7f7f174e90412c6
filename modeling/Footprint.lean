import Footprint.Access
import Footprint.Cancellation
import Footprint.Catalog.Basic
import Footprint.Catalog.Change
import Footprint.Catalog.Document
import Footprint.Catalog.Membership
import Footprint.Catalog.Placement
import Footprint.Catalog.Store
import Footprint.Datum
import Footprint.Decimal.Basic
import Footprint.Decimal.Double
import Footprint.Decimal.Printer
import Footprint.Decimal.Reader
import Footprint.Dictionary
import Footprint.Error
import Footprint.Inquiry
import Footprint.Json.Reader
import Footprint.Json.Writer
import Footprint.Launch.Arguments
import Footprint.Launch.Run
import Footprint.Main
import Footprint.Proofs.Access.Closure
import Footprint.Proofs.Access.Decision
import Footprint.Proofs.Access.Grants
import Footprint.Proofs.Catalog.Atomicity
import Footprint.Proofs.Catalog.Change
import Footprint.Proofs.Catalog.Consistency
import Footprint.Proofs.Catalog.Creation
import Footprint.Proofs.Catalog.Document
import Footprint.Proofs.Catalog.Dropping
import Footprint.Proofs.Catalog.Links
import Footprint.Proofs.Catalog.Lookup
import Footprint.Proofs.Catalog.Membership
import Footprint.Proofs.Catalog.Naming
import Footprint.Proofs.Catalog.Operation
import Footprint.Proofs.Catalog.Placement
import Footprint.Proofs.Catalog.Reload
import Footprint.Proofs.Catalog.Run
import Footprint.Proofs.Catalog.Saving
import Footprint.Proofs.Catalog.Undoing
import Footprint.Proofs.Decimal.Exact
import Footprint.Proofs.Decimal.FixedPoint
import Footprint.Proofs.Decimal.Numeral
import Footprint.Proofs.Decimal.Operations
import Footprint.Proofs.Decimal.ReadBack
import Footprint.Proofs.Decimal.Value
import Footprint.Proofs.Decimal.Whole
import Footprint.Proofs.Dictionary
import Footprint.Proofs.Inquiry.Cancellation
import Footprint.Proofs.Inquiry.Database
import Footprint.Proofs.Inquiry.Directories
import Footprint.Proofs.Inquiry.FileNumber
import Footprint.Proofs.Inquiry.Globals
import Footprint.Proofs.Inquiry.Measurable
import Footprint.Proofs.Inquiry.Ownership
import Footprint.Proofs.Inquiry.Permanence
import Footprint.Proofs.Inquiry.Refusal
import Footprint.Proofs.Inquiry.Tablespaces
import Footprint.Proofs.Inquiry.Total
import Footprint.Proofs.Json.Dump
import Footprint.Proofs.Json.RoundTrip
import Footprint.Proofs.Json.Text
import Footprint.Proofs.Session.Agreement
import Footprint.Proofs.Settings.Document
import Footprint.Proofs.Settings.Layers
import Footprint.Proofs.Settings.Outcome
import Footprint.Proofs.Shell.Console
import Footprint.Proofs.Shell.Frame
import Footprint.Proofs.Shell.Markup
import Footprint.Proofs.Shell.Printing
import Footprint.Proofs.Shell.Reference
import Footprint.Proofs.Size.Agreement
import Footprint.Proofs.Size.Fraction
import Footprint.Proofs.Size.Grammar
import Footprint.Proofs.Size.Ladder
import Footprint.Proofs.Size.Order
import Footprint.Proofs.Size.RoundTrip
import Footprint.Proofs.Size.Scale
import Footprint.Proofs.Size.Shown
import Footprint.Proofs.Size.UnitName
import Footprint.Proofs.Size.WholeNumbers
import Footprint.Proofs.Storage.Cancellation
import Footprint.Proofs.Storage.Chain
import Footprint.Proofs.Storage.Directory
import Footprint.Proofs.Storage.Enumeration
import Footprint.Proofs.Storage.FileName
import Footprint.Proofs.Storage.Scan
import Footprint.Proofs.Storage.Segments
import Footprint.Proofs.Storage.Walk
import Footprint.Proofs.Text.Digits
import Footprint.Proofs.Text.LetterCase
import Footprint.Proofs.Text.Numbers
import Footprint.Proofs.Text.Runs
import Footprint.Reference
import Footprint.Session
import Footprint.Settings
import Footprint.Settings.Load
import Footprint.Shell.Builtin
import Footprint.Shell.Command
import Footprint.Shell.Console
import Footprint.Shell.Layout
import Footprint.Shell.Markup
import Footprint.Shell.Run
import Footprint.Shell.Table
import Footprint.Shell.Words
import Footprint.Size.Arithmetic
import Footprint.Size.Parser
import Footprint.Size.Pretty
import Footprint.Size.Unit
import Footprint.Storage.Inventory
import Footprint.Storage.Measure
import Footprint.Storage.Path
import Footprint.Storage.Scan
import Footprint.Storage.Tree
import Footprint.Text.Cells
import Footprint.Text.CharClass
import Footprint.Text.FinalSigma
import Footprint.Text.LetterCase
import Footprint.Text.Lines
import Footprint.Text.Quoted
import Footprint.Text.Whole
import Footprint.Warning
import Footprint.Workspace
import Footprint.Yaml.Fault
import Footprint.Yaml.Node
import Footprint.Yaml.Place
import Footprint.Yaml.Token
import Footprint.Yaml.Value
