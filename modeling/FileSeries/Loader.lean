import FileSeries.Selection
/-!
Loaders: what is made of the files of a selection. A selection only fixes their order.
-/

namespace FileSeries

/-- Makes a value of the file at a path. -/
abbrev Loader (α : Type) := Disk → String → Except Fault α

namespace Loader

/-- Reads the file. -/
def bytes : Loader (List UInt8) := fun d path =>
  (d.read (Raw.ofString path)).mapError (Fault.load path)

/-- Maps the file into memory. -/
def mapped : Loader (List UInt8) := fun d path =>
  (d.mapping (Raw.ofString path)).mapError (Fault.load path)

/-- The number of bytes of the file's name; the disk is not touched. -/
def nameLength : Loader Nat := fun _ path =>
  .ok (((Path.fileName? (Raw.ofString path)).map Raw.byteSize).getD 0)

end Loader

/-- Loads the files of a selection in order, each with its path. -/
def Selection.load {α : Type} (s : Selection) (loader : Loader α) (d : Disk) :
    Except Fault (List (String × α)) :=
  s.paths.mapM fun path => do return (path, ← loader d path)

end FileSeries
