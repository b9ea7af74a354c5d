import FileSeries.Text.Decimal
/-!
How a number is written in a name: plainly, or with zeros in front up to a width. The padding of a
field is inferred from all runs of digits seen in it.
-/

namespace FileSeries

/-- The way in which one field writes its numbers. -/
inductive Padding where
  | plain
  | zeros (width : Nat)
  deriving DecidableEq

namespace Padding

/-- Writes a number; one that is longer than the width stays whole. -/
def write : Padding → Nat → List Char
  | plain, n => Decimal.digits n
  | zeros width, n =>
    List.replicate (width - (Decimal.digits n).length) '0' ++ Decimal.digits n

/-- Whether a run of digits has the form that the padding writes. -/
def accepts : Padding → List Char → Bool
  | plain, run => run = ['0'] || run.head? != some '0'
  | zeros width, run => run.length == width || (run.length > width && run.head? != some '0')

/-- Whether a run shows that its field is padded. -/
def isPadded (run : List Char) : Bool := run.length > 1 && run.head? == some '0'

/-- A run that the padding of the other runs of its field would not write. -/
structure Misfit where
  run : List Char
  width : Nat
  deriving DecidableEq

/-- The padding of a field with these runs. The first padded run fixes the width, and the first run
that does not fit it is reported. -/
def infer (runs : List (List Char)) : Except Misfit Padding :=
  match runs.find? isPadded with
  | none => .ok plain
  | some padded =>
    match runs.find? (!accepts (zeros padded.length) ·) with
    | none => .ok (zeros padded.length)
    | some run => .error ⟨run, padded.length⟩

/-- The place of a number in a template: braces, with the width if there is one. -/
def text : Padding → List Char
  | plain => ['\x7b', '\x7d']
  | zeros width => ['\x7b', ':', '0'] ++ Decimal.digits width ++ ['\x7d']

end Padding

end FileSeries
