import FileSeries.Ascending
import FileSeries.Axis
import FileSeries.Snapshot.Defect
/-!
Numberings: the common template of some file names, the values on its axes and the tuples of indices
that occur. A numbering exists if all names have one skeleton and each field one padding.
-/

namespace FileSeries

/-- Names by the code points of their characters. -/
def nameBefore : Before (List Char) := Before.list fun a b => a.toNat < b.toNat

/-- Tuples by their first difference. -/
def tupleBefore : Before Indices := Before.list fun a b => a < b

/-- Skeletons by their texts, then by their extensions; no extension comes first. -/
def skeletonBefore (a b : Skeleton) : Bool :=
  let texts := fun s : Skeleton => s.lead :: s.tails
  Before.list nameBefore (texts a) (texts b) ||
    (texts a == texts b && Before.list nameBefore a.extension.toList b.extension.toList)

/-- A template with the axes and the tuples of the files that follow it. The tuples are in strictly
ascending order. -/
structure Numbering where
  template : Template
  axes : List Axis
  tuples : List Indices

namespace Numbering

/-- The accepted names that have `arity` runs of digits, in ascending order. -/
def candidates (accepts : List Char → Bool) (arity : Nat) (names : List (List Char)) :
    List (List Char) :=
  Ascending.ofList nameBefore
    (names.filter fun name => accepts name && (FileName.ofText name).arity == arity)

/-- The padding of each field. -/
def inferPaddings (arity : Nat) (parts : List FileName) :
    Except Snapshot.Defect (List Padding) :=
  (List.range arity).mapM fun field =>
    match Padding.infer (parts.filterMap (·.fields[field]?)) with
    | .ok padding => .ok padding
    | .error misfit => .error (.unevenPadding field misfit)

/-- Reads names by a template; `seen` are the tuples of the names before, the last one first. -/
def readNames (template : Template) (seen : List Indices) :
    List (List Char) → Except Snapshot.Defect (List Indices)
  | [] => .ok seen.reverse
  | name :: rest =>
    match template.parse? name with
    | none => .error (.notRebuilt name template)
    | some indices =>
      if seen.contains indices then .error (.repeatedIndices name)
      else readNames template (indices :: seen) rest

/-- The numbering of names that all have this skeleton. -/
def ofSkeleton (skeleton : Skeleton) (arity : Nat) (names : List (List Char)) :
    Except Snapshot.Defect Numbering := do
  let paddings ← inferPaddings arity (names.map FileName.ofText)
  let template := Template.ofSkeleton skeleton paddings
  let tuples ← readNames template [] names
  return ⟨template, Axis.ofTuples arity tuples, Ascending.ofList tupleBefore tuples⟩

/-- The numbering of the accepted names with `arity` fields. -/
def ofNames (accepts : List Char → Bool) (arity : Nat) (names : List (List Char)) :
    Except Snapshot.Defect Numbering :=
  let found := candidates accepts arity names
  match Ascending.ofList skeletonBefore (found.map fun n => (FileName.ofText n).skeleton) with
  | [] => .error (.noCandidate names.length arity)
  | [skeleton] => ofSkeleton skeleton arity found
  | skeletons => .error (.mixedNames skeletons)

def arity (n : Numbering) : Nat := n.axes.length

/-- The number of files. -/
def size (n : Numbering) : Nat := n.tuples.length

/-- Whether there is a file with these indices. -/
def has (n : Numbering) (indices : Indices) : Bool := n.tuples.contains indices

/-- The names of all files in the order of their indices. -/
def names (n : Numbering) : List (List Char) := n.tuples.map n.template.format

end Numbering

end FileSeries
