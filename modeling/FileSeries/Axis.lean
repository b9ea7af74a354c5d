import FileSeries.Ascending
/-!
Axes: the distinct values that the files of a folder take in one dimension. Positions on an axis
count its values in ascending order.
-/

namespace FileSeries

/-- The values in one dimension, in strictly ascending order. -/
structure Axis where
  values : List Nat
  ascending : values.Pairwise (· < ·)

namespace Axis

def ofValues (l : List Nat) : Axis where
  values := Ascending.ofList (fun a b => decide (a < b)) l
  ascending := by
    have trans : ∀ x y z : Nat, decide (x < y) = true → decide (y < z) = true →
        decide (x < z) = true := by simp only [decide_eq_true_eq]; omega
    simpa using Ascending.pairwise_ofList trans l

def size (x : Axis) : Nat := x.values.length

def isEmpty (x : Axis) : Bool := x.values.isEmpty

def min? (x : Axis) : Option Nat := x.values.head?

def max? (x : Axis) : Option Nat := x.values.getLast?

/-- The value at a position. -/
def get? (x : Axis) (position : Nat) : Option Nat := x.values[position]?

/-- The position of a value. -/
def positionOf? (x : Axis) (value : Nat) : Option Nat := x.values.idxOf? value

/-- The axes of tuples with `arity` numbers: the values that occur at each place. -/
def ofTuples (arity : Nat) (tuples : List (List Nat)) : List Axis :=
  (List.range arity).map fun d => ofValues (tuples.filterMap (·[d]?))

end Axis

end FileSeries
