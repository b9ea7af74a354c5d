import FileSeries.Limits
/-!
Boxes: the tuples that take each coordinate from a list of its own. Tuples are counted in nested
order, with the last coordinate running fastest, so that a position is a number in mixed radix. The
number of tuples is kept as an index, as are the numbers made of it: those of a box with more tuples
than there are indices come round.
-/

namespace FileSeries

/-- The choices for each coordinate. -/
abbrev Box := List (List Nat)

namespace Box

/-- The number of tuples. -/
def count : Box → Nat
  | [] => 1
  | choices :: rest => wrapIndex (choices.length * count rest)

/-- The tuple at a position. A coordinate takes its next choice when all tuples of the coordinates
after it have come by, and starts again after its last choice. -/
def tupleAt : Box → Nat → List Nat
  | [], _ => []
  | choices :: rest, position =>
    choices.getD (position / count rest % choices.length) 0 :: tupleAt rest position

/-- The tuples at all positions. -/
def list (b : Box) : List (List Nat) := (List.range b.count).map b.tupleAt

/-- The position of a tuple. -/
def positionOf? : Box → List Nat → Option Nat
  | [], [] => some 0
  | choices :: rest, n :: tuple => do
    let offset ← choices.idxOf? n
    let position ← positionOf? rest tuple
    return wrapIndex (offset * count rest + position)
  | _, _ => none

/-- The first tuple that is not known among those at `left` positions from `position` on. -/
def unknownFrom? (b : Box) (known : List (List Nat)) (position : Nat) : Nat → Option (List Nat)
  | 0 => none
  | left + 1 =>
    let tuple := b.tupleAt position
    if known.contains tuple then unknownFrom? b known (position + 1) left else some tuple

/-- The first tuple that is not known. -/
def firstUnknown? (b : Box) (known : List (List Nat)) : Option (List Nat) :=
  b.unknownFrom? known 0 b.count

end Box

end FileSeries
