import FileSeries.Disk.Edit
/-!
Disks written as lines: a line has the path of a file and, after a tab, the text that the file
holds.
-/

namespace FileSeries.Disk

/-- Adds the file of a line. -/
def addLine (d : Disk) (line : String) : Disk :=
  let path := line.toList.takeWhile (· != '\t')
  let content := (line.toList.dropWhile (· != '\t')).drop 1
  d.write (Raw.ofText path) (String.ofList content).toUTF8.toList

/-- The disk with the files of these lines; empty lines count for nothing. -/
def ofLines (lines : List String) : Disk :=
  (lines.filter (!·.isEmpty)).foldl addLine (empty "home")

end FileSeries.Disk
