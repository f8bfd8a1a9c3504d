import Mosaic.Art.Grid
import Mosaic.Art.Reading
import Mosaic.Blake3
import Mosaic.Canvas.Basic
import Mosaic.Canvas.Drawing
import Mosaic.Canvas.Recorder
import Mosaic.Canvas.Scene
import Mosaic.CellRect
import Mosaic.Compiler
import Mosaic.Decimal.Nearest
import Mosaic.Decimal.Reading
import Mosaic.Decimal.Shortest
import Mosaic.Decimal.Style
import Mosaic.Fault
import Mosaic.Figure
import Mosaic.Json.Document
import Mosaic.Json.Reader
import Mosaic.Json.Value
import Mosaic.Json.Writer
import Mosaic.Log.Event
import Mosaic.Log.Logger
import Mosaic.NodeName
import Mosaic.Partition.Cutting
import Mosaic.Partition.Pieces
import Mosaic.Program.Replay
import Mosaic.Program.Statement
import Mosaic.Program.Writer
import Mosaic.Settings.Basic
import Mosaic.Settings.Json
import Mosaic.Table
import Mosaic.Tally
import Mosaic.Text.Lines
import Mosaic.Text.Quoted
import Mosaic.Text.TerminalEscapes
import Mosaic.Tree.Basic
import Mosaic.Tree.Canonical
import Mosaic.Tree.Outline
import Mosaic.Tree.Walk
import Mosaic.Unicode.Alphanumeric
import Mosaic.Unicode.DisplayWidth
import Mosaic.Unicode.Ranges
import Mosaic.Unicode.Unprintable
import Mosaic.Unicode.WhiteSpace
import Mosaic.Proofs.Decimal.Bits
import Mosaic.Proofs.Decimal.Unpacked
import Mosaic.Proofs.Decimal.Rounding
import Mosaic.Proofs.Decimal.Product
import Mosaic.Proofs.Decimal.Quotient
import Mosaic.Proofs.Settings.Spacing
import Mosaic.Proofs.Settings.Extents
import Mosaic.Proofs.Decimal.Nearest
import Mosaic.Proofs.Decimal.Shortest
import Mosaic.Proofs.Decimal.ReadBack
import Mosaic.Proofs.Text.Cuts
import Mosaic.Proofs.Text.Escapes
import Mosaic.Proofs.Json.Compact
import Mosaic.Proofs.Json.Numbers
import Mosaic.Proofs.Json.Decoding
import Mosaic.Proofs.Json.Values
import Mosaic.Proofs.Settings.Json
import Mosaic.Proofs.Table
import Mosaic.Proofs.Canvas.Answers
import Mosaic.Proofs.Tree.Visits
import Mosaic.Proofs.Tree.Terminals
import Mosaic.Proofs.Canvas.Painting
import Mosaic.Proofs.Canvas.Drawn
import Mosaic.Proofs.Canvas.Serving
import Mosaic.Proofs.Canvas.Scene
import Mosaic.Proofs.Canvas.Tracks
import Mosaic.Proofs.Program.Statements
import Mosaic.Proofs.Program.Listing
import Mosaic.Proofs.Compiler
import Mosaic.Proofs.Program.Replay
import Mosaic.Proofs.Program.Stopping
import Mosaic.Proofs.Program.History
import Mosaic.Proofs.Partition.Frames
import Mosaic.Proofs.Partition.Cutting
import Mosaic.Proofs.Partition.Descent
import Mosaic.Proofs.Art.Scan
import Mosaic.Proofs.Art.Solid
import Mosaic.Proofs.Art.Acceptance
import Mosaic.Proofs.Partition.Decomposable
import Mosaic.Proofs.Partition.Pinwheel
import Mosaic.Proofs.Partition.Reproduction
import Mosaic.Proofs.Program.Agreement
import Mosaic.Proofs.Partition.Proportions
import Mosaic.Proofs.Partition.Canonical
import Mosaic.Proofs.NodeName
import Mosaic.Proofs.Partition.Refusal
import Mosaic.Proofs.Tree.Naming
import Mosaic.Proofs.Tree.Map
import Mosaic.Proofs.Tree.Json
import Mosaic.Proofs.Canvas.Layout
import Mosaic.Proofs.Canvas.Nesting
import Mosaic.Proofs.Partition.Names
import Mosaic.Proofs.Canvas.Placement
import Mosaic.Proofs.Canvas.Disjoint
import Mosaic.Proofs.Partition.Distinct
import Mosaic.Proofs.Program.Numbers
import Mosaic.Proofs.Art.Cells
import Mosaic.Proofs.Partition.Determined
import Mosaic.Proofs.Partition.Emptied
import Mosaic.Proofs.Redrawing.Lines
import Mosaic.Proofs.Redrawing.Regions
import Mosaic.Proofs.Redrawing.Trees
import Mosaic.Proofs.Redrawing.Cells
import Mosaic.Proofs.Redrawing.Mirrored
import Mosaic.Proofs.Redrawing.Enlarged
import Mosaic.Proofs.Redrawing.Parts
import Mosaic.Proofs.Redrawing.Subtrees
import Mosaic.Proofs.Program.Handles
import Mosaic.Proofs.Partition.Counts
import Mosaic.Proofs.Art.Faults
import Mosaic.Proofs.Art.FreeText
import Mosaic.Proofs.Tree.Traversals
import Mosaic.Proofs.Canvas.Calls
import Mosaic.Proofs.Canvas.Measures
import Mosaic.Proofs.Partition.Calls
import Mosaic.Proofs.Text.Bytes
import Mosaic.Proofs.Log.Lines
