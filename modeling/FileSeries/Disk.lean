import FileSeries.Disk.Failure
import FileSeries.Path
/-!
Disks: folders, files and symbolic links. A path is followed name by name from the working folder or
from the root, through links, up to a bound on their number. A disk answers three questions: what a
folder lists, what a file holds, and whether a path leads to a file.
-/

namespace FileSeries

/-- What stands at a place of a disk. -/
inductive Disk.Node where
  | folder
  | file (content : List UInt8)
  | link (target : Raw)
  deriving DecidableEq

/-- The names that lead to a node from the root, the innermost first. -/
abbrev Disk.Place := List Raw

/-- The nodes of a disk, the newest first, and the working folder. The root is a folder. -/
structure Disk where
  nodes : List (Disk.Place × Disk.Node)
  home : Disk.Place

namespace Disk

/-- The number of links that are followed for one path. -/
def maxLinks : Nat := 40

/-- The number of bytes that a name may have. -/
def maxName : Nat := 255

/-- The number of bytes that a path may have. -/
def maxPath : Nat := 4095

/-- A disk that holds nothing but a working folder of this name. -/
def empty (home : String) : Disk where
  nodes := [([Raw.ofString home], .folder)]
  home := [Raw.ofString home]

def node? (d : Disk) (place : Place) : Option Node :=
  if place.isEmpty then some .folder else d.nodes.lookup place

/-- The folder that a path starts from when it is read in a folder. -/
def startOf (path : Raw) (folder : Place) : Place :=
  if Path.isAbsolute path then [] else folder

/-- Follows names from a folder to the place that they lead to. Only the last name may lead to a
place where nothing stands. -/
def follow (d : Disk) (links : Nat) (folder : Place) : List Raw → Except Failure Place
  | [] => .ok folder
  | name :: rest =>
    if name.isEmpty || name = Path.here then d.follow links folder rest
    else if name = Path.above then d.follow links folder.tail rest
    else if Raw.byteSize name > maxName then .error .nameTooLong
    else
      match d.node? (name :: folder), links with
      | some .folder, links => d.follow links (name :: folder) rest
      | some (.file _), _ => if rest.isEmpty then .ok (name :: folder) else .error .notFolder
      | none, _ => if rest.isEmpty then .ok (name :: folder) else .error .notFound
      | some (.link _), 0 => .error .tooManyLinks
      | some (.link target), links + 1 =>
        d.follow links (startOf target folder) (Path.names target ++ rest)
termination_by names => (links, names.length)

/-- The place that a path leads to. -/
def locate (d : Disk) (path : Raw) : Except Failure Place :=
  if path.contains (.char '\x00') then .error .nulInPath
  else if path.isEmpty then .error .notFound
  else if Raw.byteSize path > maxPath then .error .nameTooLong
  else d.follow maxLinks (startOf path d.home) (Path.names path)

/-- What a path leads to. -/
def find (d : Disk) (path : Raw) : Except Failure Node := do
  match d.node? (← d.locate path) with
  | some node => return node
  | none => throw .notFound

def isFile (d : Disk) (path : Raw) : Bool :=
  match d.find path with
  | .ok (.file _) => true
  | _ => false

/-- The content of a file. -/
def read (d : Disk) (path : Raw) : Except Failure (List UInt8) := do
  match ← d.find path with
  | .file content => return content
  | _ => throw .isFolder

/-- The content of a file as it is mapped into memory. -/
def mapping (d : Disk) (path : Raw) : Except Failure (List UInt8) := do
  match ← d.find path with
  | .file content => return content
  | _ => throw .notMappable

/-- An entry of a folder: its name, and whether a path to it leads to a file. -/
structure Entry where
  name : Raw
  isFile : Bool
  deriving DecidableEq

/-- The entries of a folder, the newest first. What an entry leads to is found through the path that
was listed, so the links in that path and its length count for each entry. -/
def list (d : Disk) (path : Raw) : Except Failure (List Entry) := do
  let folder ← d.locate path
  match d.node? folder with
  | some .folder =>
    return d.nodes.filterMap fun (place, _) =>
      match place with
      | name :: parent =>
        if parent = folder then some ⟨name, d.isFile (Path.within path name)⟩ else none
      | [] => none
  | some _ => throw .notFolder
  | none => throw .notFound

end Disk

end FileSeries
