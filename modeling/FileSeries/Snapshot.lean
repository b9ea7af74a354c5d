import FileSeries.Disk
import FileSeries.Filter
import FileSeries.Note
import FileSeries.Numbering
/-!
Snapshots: the numbered files that a folder held when it was scanned. A snapshot does not follow
later changes of the disk.
-/

namespace FileSeries

/-- The numbering of the files of a folder that a filter accepts. -/
structure Snapshot extends Numbering where
  directory : String
  filter : Filter

namespace Snapshot

/-- The names among entries that are files, as far as they are texts. -/
def fileNames (entries : List Disk.Entry) : List (List Char) :=
  (entries.filter (·.isFile)).filterMap (·.name.text?)

/-- The names of files that are no texts. -/
def skippedNames (entries : List Disk.Entry) : List Raw :=
  ((entries.filter (·.isFile)).map (·.name)).filter (·.text?.isNone)

/-- The snapshot of a folder with these files. -/
def ofNames (directory : String) (filter : Filter) (matcher : Filter.Matcher) (arity : Nat)
    (names : List (List Char)) : Except Fault Snapshot :=
  match Numbering.ofNames matcher.accepts arity names with
  | .error defect => .error (.scan directory defect)
  | .ok numbering => .ok { numbering with directory, filter }

/-- The note on a scan that found the snapshot among `listed` files. -/
def note (s : Snapshot) (listed : Nat) : Note :=
  .scanned s.directory s.size listed (String.ofList s.template.text) s.axes

/-- The snapshot from the entries of a folder. -/
def ofEntries (directory : String) (filter : Filter) (matcher : Filter.Matcher) (arity : Nat)
    (entries : List Disk.Entry) : Logged Snapshot :=
  let skipped := (skippedNames entries).map Note.skippedName
  match ofNames directory filter matcher arity (fileNames entries) with
  | .error e => .noting skipped (.error e)
  | .ok s => .noting (skipped ++ [s.note (fileNames entries).length]) (.ok s)

/-- Scans a folder for files with `arity` numbers in their names. The glob of the filter is read by
`readGlob`. -/
def scanWith (readGlob : Glob.Reader) (d : Disk) (directory : String) (arity : Nat)
    (filter : Filter) : Logged Snapshot :=
  if arity = 0 then .fail (.scan directory .noField)
  else
    match filter.compile readGlob with
    | .error failure => .fail (.config (.badGlob (filter.glob.getD "") failure))
    | .ok matcher =>
      match d.list (Raw.ofString directory) with
      | .error failure => .fail (.scan directory (.unlistable failure))
      | .ok entries => ofEntries directory filter matcher arity entries

/-- Scans a folder for files with `arity` numbers in their names. -/
def scan (d : Disk) (directory : String) (arity : Nat) (filter : Filter) : Logged Snapshot :=
  scanWith Glob.tester d directory arity filter

/-- Scans the folder of a snapshot again. -/
def rescanWith (readGlob : Glob.Reader) (s : Snapshot) (d : Disk) : Logged Snapshot :=
  scanWith readGlob d s.directory s.arity s.filter

def rescan (s : Snapshot) (d : Disk) : Logged Snapshot := s.rescanWith Glob.tester d

/-- The name of the file with these indices, whether it was found or not. -/
def name (s : Snapshot) (indices : Indices) : Except Fault String :=
  if indices.length = s.arity then .ok (String.ofList (s.template.format indices))
  else .error (.outOfRange (.wrongLength indices s.arity))

def path (s : Snapshot) (indices : Indices) : Except Fault String := do
  return Path.join s.directory (← s.name indices)

/-- The indices of a name that follows the template, whether it was found or not. -/
def indicesOf? (s : Snapshot) (name : String) : Option Indices := s.template.parse? name.toList

/-- The names of all files of the snapshot in the order of their indices. -/
def fileNamesInOrder (s : Snapshot) : List String := s.names.map String.ofList

end Snapshot

end FileSeries
