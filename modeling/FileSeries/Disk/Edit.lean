import FileSeries.Disk
/-!
Changes of a disk. A change that the disk cannot make leaves it as it is.
-/

namespace FileSeries.Disk

/-- Puts a node at a place; what stood there is replaced. -/
def put (d : Disk) (place : Place) (node : Node) : Disk :=
  if (d.nodes.lookup place).isSome then
    { d with nodes := d.nodes.map fun (p, old) => (p, if p = place then node else old) }
  else { d with nodes := (place, node) :: d.nodes }

/-- Goes from a folder to the one that `name` leads to; it is made if there is none. -/
def enter (d : Disk) (folder : Place) (name : Raw) : Disk × Place :=
  match d.follow maxLinks folder [name] with
  | .error _ => (d, folder)
  | .ok place =>
    match d.node? place with
    | none => (d.put place .folder, place)
    | some _ => (d, place)

/-- Goes to the folder of a path and makes all folders on the way. -/
def enterAll (d : Disk) (folder : Place) : List Raw → Disk × Place
  | [] => (d, folder)
  | name :: rest => (d.enter folder name).1.enterAll (d.enter folder name).2 rest

def makeFolder (d : Disk) (path : Raw) : Disk :=
  (d.enterAll (startOf path d.home) (Path.names path)).1

/-- Goes to the folder that holds the last name of a path; gives that name too. -/
def enterParent (d : Disk) (path : Raw) : Disk × Place × Raw :=
  match d.enterAll (startOf path d.home) (Path.names path).dropLast with
  | (d, folder) => (d, folder, (Path.names path).getLast?.getD [])

/-- Gives the file at a path a content; the file and its folders are made if need be. -/
def write (d : Disk) (path : Raw) (content : List UInt8) : Disk :=
  match d.enterParent path with
  | (d, folder, name) =>
    match d.follow maxLinks folder [name] with
    | .ok place => if d.node? place = some .folder then d else d.put place (.file content)
    | .error _ => d

/-- Makes a link at a path. -/
def addLink (d : Disk) (path target : Raw) : Disk :=
  match d.enterParent path with
  | (d, folder, name) => d.put (name :: folder) (.link target)

/-- Removes what stands at a path, a link itself and a folder with all that it holds. A slash at the
end of the path asks for a folder. -/
def remove (d : Disk) (path : Raw) : Disk :=
  let names := (Path.names path).filter (!·.isEmpty)
  match d.follow maxLinks (startOf path d.home) names.dropLast with
  | .ok folder =>
    let place := names.getLast?.getD [] :: folder
    if path.getLast? == some Path.slash && d.node? place != some .folder then d
    else { d with nodes := d.nodes.filter fun (p, _) => !place.isSuffixOf p }
  | .error _ => d

end FileSeries.Disk
