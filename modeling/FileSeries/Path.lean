import FileSeries.Text.Raw
/-!
Paths: names with slashes between them. Empty names and `.` stand for nothing, and `..` stands for
the folder above. Main statement: joining two texts gives the raw path that joining them as raw names
gives.
-/

namespace FileSeries.Path

def slash : Piece := .char '/'

def here : Raw := Raw.ofString "."

def above : Raw := Raw.ofString ".."

/-- The names of a path from left to right, the empty ones too. -/
def names (path : Raw) : List Raw := path.splitOn slash

def isAbsolute (path : Raw) : Bool := path.head? == some slash

/-- The path of a file in a folder. -/
def join (folder name : String) : String :=
  if folder.isEmpty || folder.toList.getLast? == some '/' then folder ++ name
  else folder ++ "/" ++ name

/-- The path of a file in a folder, where the names need not be texts. -/
def within (folder name : Raw) : Raw :=
  if folder.isEmpty || folder.getLast? == some slash then folder ++ name
  else folder ++ slash :: name

theorem ofString_join (folder name : String) :
    Raw.ofString (join folder name) = within (Raw.ofString folder) (Raw.ofString name) := by
  have last : folder.toList.getLast? = some '/' ↔
      (Raw.ofString folder).getLast? = some slash := by
    simp [Raw.ofString, Raw.ofText, slash, List.getLast?_map]
  have none : folder.isEmpty = (Raw.ofString folder).isEmpty := by
    rw [Bool.eq_iff_iff]
    simp [Raw.ofString, Raw.ofText]
  unfold join within
  simp only [none, beq_iff_eq, Bool.or_eq_true, last]
  split <;> simp [Raw.ofString, Raw.ofText, slash]

/-- The last name of a path, if it names something inside a folder. -/
def fileName? (path : Raw) : Option Raw :=
  match ((names path).filter fun name => !name.isEmpty && name != here).getLast? with
  | none => none
  | some name => if name = above then none else some name

end FileSeries.Path
