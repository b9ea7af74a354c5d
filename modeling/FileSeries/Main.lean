import FileSeries.Disk.Listing
import FileSeries.Report
/-!
The command line: lists the series that a configuration describes. The argument is the path of the
configuration, and standard input has a line for each file of the disk: its path and, after a tab,
the text that it holds.
-/

namespace FileSeries

/-- The lines of an input up to its end. -/
partial def readLines (input : IO.FS.Stream) (lines : List String) : IO (List String) := do
  let line ← input.getLine
  if line.isEmpty then return lines.reverse
  readLines input ((line.dropEndWhile (· == '\n')).toString :: lines)

end FileSeries

def main (arguments : List String) : IO UInt32 := do
  let lines ← FileSeries.readLines (← IO.getStdin) []
  let report := FileSeries.Report.ofArguments (FileSeries.Disk.ofLines lines) arguments
  IO.print report.output
  IO.eprint report.errors
  return report.code.toUInt32
