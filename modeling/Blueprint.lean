import Blueprint.CommandLine.Argument
import Blueprint.CommandLine.Directory
import Blueprint.CommandLine.Log
import Blueprint.CommandLine.Options
import Blueprint.CommandLine.Run
import Blueprint.Decimal.Binary64
import Blueprint.Decimal.Power
import Blueprint.Decimal.Reading
import Blueprint.Decimal.Rounding
import Blueprint.Decimal.Shortest
import Blueprint.Decimal.Text
import Blueprint.Document.Cursor
import Blueprint.Document.Node
import Blueprint.Document.Position
import Blueprint.Document.Record
import Blueprint.Geometry.Composite
import Blueprint.Geometry.Corner
import Blueprint.Geometry.Length
import Blueprint.Geometry.Rect
import Blueprint.Geometry.Rotation
import Blueprint.Json.Content
import Blueprint.Json.Number
import Blueprint.Json.Reader
import Blueprint.Json.Value
import Blueprint.Layout.Compute
import Blueprint.Layout.Config
import Blueprint.Layout.Failure
import Blueprint.Layout.Lint
import Blueprint.Layout.Opening
import Blueprint.Layout.Pinning
import Blueprint.Layout.Rooms
import Blueprint.Layout.Written
import Blueprint.Main
import Blueprint.Plan.Basic
import Blueprint.Plan.Load
import Blueprint.Plan.Read
import Blueprint.Plan.Reference
import Blueprint.Plan.Validity
import Blueprint.Plan.Written
import Blueprint.Rendering
import Blueprint.Report
import Blueprint.Scalar
import Blueprint.Stylesheet.Basic
import Blueprint.Stylesheet.Read
import Blueprint.Svg.Canvas
import Blueprint.Svg.Drawing
import Blueprint.Svg.Markup
import Blueprint.Svg.Theme
import Blueprint.Text.Alphanumeric
import Blueprint.Text.CharClass
import Blueprint.Text.Columns
import Blueprint.Text.Hexadecimal
import Blueprint.Text.Hidden
import Blueprint.Text.Lines
import Blueprint.Text.Pattern
import Blueprint.Text.Quoted
import Blueprint.Text.Split
import Blueprint.Toml.Item
import Blueprint.Toml.Moment
import Blueprint.Toml.Number
import Blueprint.Toml.Reader
import Blueprint.Toml.Table
import Blueprint.Toml.Text
import Blueprint.Toml.Value
import Blueprint.Proofs.Pinning.Attachment
import Blueprint.Proofs.Pinning.Search
import Blueprint.Proofs.Pinning.Passes
import Blueprint.Proofs.Pinning.Reach
import Blueprint.Proofs.Pinning.Cycle
import Blueprint.Proofs.Pinning.Diagnosis
import Blueprint.Proofs.Pinning.Account
import Blueprint.Proofs.Pinning.Solution
import Blueprint.Proofs.Layout.Placement
import Blueprint.Proofs.Layout.Equations
import Blueprint.Proofs.Geometry.Cuts
import Blueprint.Proofs.Geometry.Region
import Blueprint.Proofs.Geometry.Seams
import Blueprint.Proofs.Geometry.Outline
import Blueprint.Proofs.Pinning.CycleReport
import Blueprint.Proofs.Pinning.Orbit
import Blueprint.Proofs.Pinning.Isolation
import Blueprint.Proofs.Pinning.Reordering
import Blueprint.Proofs.Layout.Reordering
import Blueprint.Proofs.Geometry.Motion
import Blueprint.Proofs.Pinning.Motion
import Blueprint.Proofs.Layout.Motion
import Blueprint.Proofs.Layout.Belongings
import Blueprint.Proofs.Layout.Origin
import Blueprint.Proofs.Pinning.Repetition
import Blueprint.Proofs.Layout.Repetition
import Blueprint.Proofs.Pinning.PassBound
import Blueprint.Proofs.Layout.PassBound
import Blueprint.Proofs.Plan.Reference
import Blueprint.Proofs.Plan.Validity
import Blueprint.Proofs.Plan.Checks
import Blueprint.Proofs.Layout.Hosting
import Blueprint.Proofs.Layout.Naming
import Blueprint.Proofs.Layout.Policy
import Blueprint.Proofs.Layout.Contents
import Blueprint.Proofs.Layout.Unambiguous
import Blueprint.Proofs.Decimal.Unpacked
import Blueprint.Proofs.Decimal.Whole
import Blueprint.Proofs.Decimal.WholeText
import Blueprint.Proofs.Document.Record
import Blueprint.Proofs.Json.String
import Blueprint.Proofs.Json.Number
import Blueprint.Proofs.Json.Tree
import Blueprint.Proofs.Json.Whole
import Blueprint.Proofs.Json.Record
import Blueprint.Proofs.Plan.Loaded
import Blueprint.Proofs.Plan.Written
import Blueprint.Proofs.Plan.RoundTrip
import Blueprint.Proofs.Layout.Opening
import Blueprint.Proofs.Layout.Severity
import Blueprint.Proofs.CommandLine.Strict
import Blueprint.Proofs.Svg.Escape
import Blueprint.Proofs.Svg.Reading
import Blueprint.Proofs.Svg.Elements
import Blueprint.Proofs.Svg.Canvas
import Blueprint.Proofs.Svg.Group
import Blueprint.Proofs.Svg.Rules
import Blueprint.Proofs.Svg.Markup
import Blueprint.Proofs.Layout.Owner
import Blueprint.Proofs.Svg.Drawn
import Blueprint.Proofs.Layout.Swing
import Blueprint.Proofs.Geometry.Adjacency
import Blueprint.Proofs.Geometry.SideOutline
import Blueprint.Proofs.Layout.WallSpace
import Blueprint.Proofs.Geometry.Cover
import Blueprint.Proofs.Layout.Viewport
import Blueprint.Proofs.Layout.SharedArea
import Blueprint.Proofs.Layout.OriginAdvisory
import Blueprint.Proofs.CommandLine.Reporting
import Blueprint.Proofs.CommandLine.Delivery
import Blueprint.Proofs.Toml.Keys
import Blueprint.Proofs.Stylesheet.Overlay
import Blueprint.Proofs.Stylesheet.Reading
import Blueprint.Proofs.Svg.StyleBlock
import Blueprint.Proofs.Svg.Theme
import Blueprint.Proofs.Document.Position
import Blueprint.Proofs.Plan.Located
import Blueprint.Proofs.Document.Occurrence
import Blueprint.Proofs.Plan.Pointing
import Blueprint.Proofs.Plan.ReportedPlace
import Blueprint.Proofs.Geometry.Direction
import Blueprint.Proofs.Geometry.QuarterTurn
