import LineRuns.Main
import LineRuns.Proofs.Run.Tiling
import LineRuns.Proofs.Text.Units
import LineRuns.Proofs.Bidi.Storage
import LineRuns.Proofs.Bidi.LogicalRun
import LineRuns.Proofs.Script.Homogeneous
import LineRuns.Proofs.Script.Segments
import LineRuns.Proofs.Line.Division
import LineRuns.Proofs.Line.Tiling
import LineRuns.Proofs.Script.Extensions
import LineRuns.Proofs.Bidi.Classes
import LineRuns.Proofs.Line.Failure
import LineRuns.Proofs.Line.History
import LineRuns.Proofs.Line.Segmentation
import LineRuns.Proofs.Bidi.Explicit
import LineRuns.Proofs.Bidi.Sides
import LineRuns.Proofs.Bidi.LevelRange
import LineRuns.Proofs.Bidi.Isolates
import LineRuns.Proofs.Bidi.Insertion
import LineRuns.Proofs.Bidi.LevelPieces
import LineRuns.Proofs.Bidi.LevelDivision
import LineRuns.Proofs.Bidi.OneDirection
import LineRuns.Proofs.Line.RunTexts
import LineRuns.Proofs.Line.CodePoints
import LineRuns.Proofs.Line.Sides
import LineRuns.Proofs.Run.VisualOrder
import LineRuns.Proofs.Run.LevelOrder
import LineRuns.Proofs.Line.VisualOrder
import LineRuns.Proofs.Script.Interval
import LineRuns.Proofs.Shape.Parts
import LineRuns.Proofs.Batch
import LineRuns.Proofs.Command.Batch
import LineRuns.Proofs.Text.OctetRoundTrip
import LineRuns.Proofs.Run.Repetition
import LineRuns.Proofs.Line.Sources
import LineRuns.Proofs.Number.Doubles
import LineRuns.Proofs.Shape.Sizes
import LineRuns.Proofs.Settings.Keys
import LineRuns.Proofs.Settings.Checks
import LineRuns.Proofs.Settings.Messages
import LineRuns.Proofs.Settings.Accepted
import LineRuns.Proofs.Command.Settings
import LineRuns.Proofs.Text.Cuts
import LineRuns.Proofs.Script.Order
