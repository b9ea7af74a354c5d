import FileSeries.Loader
import FileSeries.Main
import FileSeries.Proofs.AnchorGrid
import FileSeries.Proofs.BoxTuples
import FileSeries.Proofs.Outcome
import FileSeries.Proofs.SelectionResolve
import FileSeries.Proofs.Slide.Row
import FileSeries.Proofs.Slide.StopRule
import FileSeries.Proofs.Slide.Selections
import FileSeries.Proofs.Slide.OverlongSlice
import FileSeries.Proofs.Slide.LaterStop
import FileSeries.Proofs.DigitRuns
import FileSeries.Proofs.TemplateNames
import FileSeries.Proofs.ScannedNames
import FileSeries.Proofs.Slide.Sweep
import FileSeries.Proofs.SnapshotFiles
import FileSeries.Proofs.PathNames
import FileSeries.Proofs.SelectionFiles
import FileSeries.Proofs.Pattern.Grammar
import FileSeries.Proofs.Pattern.Spelling
import FileSeries.Proofs.Pattern.Bounds
import FileSeries.Proofs.Pattern.Items
import FileSeries.Proofs.Pattern.Canonical
import FileSeries.Proofs.Pattern.RoundTrip
import FileSeries.Proofs.BoxPositions
import FileSeries.Proofs.SelectionPositions
import FileSeries.Proofs.PickedFiles
import FileSeries.Proofs.Slide.MovedWindow
import FileSeries.Proofs.Slide.Gap
import FileSeries.Proofs.Slide.StandingPattern
import FileSeries.Proofs.ReportLines
import FileSeries.Proofs.ConsistentNames
import FileSeries.Proofs.Slide.CallHistory
import FileSeries.Proofs.GrownFolder
import FileSeries.Proofs.WantedNames
import FileSeries.Proofs.Slide.Opening
import FileSeries.Proofs.Slide.FoundStop
import FileSeries.Proofs.Slide.WindowSizes
import FileSeries.Proofs.SlicePositions
import FileSeries.Proofs.WholeSnapshot
import FileSeries.Proofs.Pattern.WhiteSpace
import FileSeries.Proofs.Pattern.Places
import FileSeries.Proofs.Pattern.ErrorPlaces
import FileSeries.Proofs.Slide.BoundedArithmetic
