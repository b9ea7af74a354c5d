import FileSeries.FileName
import FileSeries.Limits
import FileSeries.Padding
/-!
Templates of file names. A template writes a tuple of file indices as a name and reads names of its
form back.
-/

namespace FileSeries

/-- A tuple of file indices, one for each field. -/
abbrev Indices := List Nat

/-- The fixed text of a name and, for each field, its padding and the text after it. -/
structure Template where
  lead : List Char
  fields : List (Padding × List Char)
  extension : Option (List Char)
  deriving DecidableEq

namespace Template

def ofSkeleton (s : Skeleton) (paddings : List Padding) : Template :=
  ⟨s.lead, paddings.zip s.tails, s.extension⟩

def arity (t : Template) : Nat := t.fields.length

def paddings (t : Template) : List Padding := t.fields.map (·.1)

def skeleton (t : Template) : Skeleton := ⟨t.lead, t.fields.map (·.2), t.extension⟩

/-- The runs of digits for a tuple, each with the text after it. -/
def writeRuns : List (Padding × List Char) → Indices → List (List Char × List Char)
  | (padding, text) :: fields, n :: indices => (padding.write n, text) :: writeRuns fields indices
  | _, _ => []

/-- The name of the file with these indices. -/
def format (t : Template) (indices : Indices) : List Char :=
  FileName.toText ⟨t.lead, writeRuns t.fields indices, t.extension⟩

/-- The index that a run of digits stands for in a field: the run has the form that the field writes
and its value is an index. -/
def readRun? (padding : Padding) (run : List Char) : Option Nat :=
  if padding.accepts run && fitsIndex (Decimal.value run) then some (Decimal.value run) else none

/-- The indices for runs of digits, field by field. -/
def readRuns? : List Padding → List (List Char) → Option Indices
  | padding :: paddings, run :: runs => do
    let n ← readRun? padding run
    let indices ← readRuns? paddings runs
    return n :: indices
  | _, _ => some []

/-- The indices of a name that follows the template. -/
def parse? (t : Template) (name : List Char) : Option Indices :=
  let parts := FileName.ofText name
  if parts.skeleton = t.skeleton then readRuns? t.paddings parts.fields else none

/-- The template as text: braces stand for the numbers. -/
def text (t : Template) : List Char :=
  t.lead ++ t.fields.flatMap (fun (padding, text) => padding.text ++ text) ++
    extensionText t.extension

end Template

end FileSeries
