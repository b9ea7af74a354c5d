import FileSeries.Disk.Failure
import FileSeries.Template
/-!
Why a folder has no snapshot.
-/

namespace FileSeries.Snapshot

/-- What is wrong with a scan or with the names that it finds. -/
inductive Defect where
  | noField
  | unlistable (failure : Disk.Failure)
  | noCandidate (listed fields : Nat)
  | mixedNames (skeletons : List Skeleton)
  | unevenPadding (field : Nat) (misfit : Padding.Misfit)
  | notRebuilt (name : List Char) (template : Template)
  | repeatedIndices (name : List Char)
  deriving DecidableEq

namespace Defect

def message : Defect → String
  | noField => "at least one numeric field is required"
  | unlistable failure => "cannot list directory: " ++ failure.message
  | noCandidate listed fields => s!"none of the {listed} files carries {fields} numeric fields"
  | mixedNames skeletons =>
    "files follow inconsistent naming templates: " ++
      ", ".intercalate (skeletons.map fun s => String.ofList s.text)
  | unevenPadding field misfit =>
    s!"inconsistent zero-padding in field {field}: " ++
      s!"value \"{String.ofList misfit.run}\" does not match " ++
      s!"the zero-padded width {misfit.width} of its field"
  | notRebuilt name template =>
    String.ofList name ++ " does not round-trip through template " ++ String.ofList template.text
  | repeatedIndices name => String.ofList name ++ " duplicates the indices of another file"

end Defect

end FileSeries.Snapshot
