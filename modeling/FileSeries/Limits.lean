/-!
The ranges in which numbers are kept. File indices and steps are natural numbers below `2 ^ 64`;
anchors, offsets and slice bounds are integers of 64 bits with sign. A result outside its range is
refused or held at the end of the range. Only the numbers that count the tuples of a box come round:
their products and sums are kept as indices, and no overflow of them is noticed.
-/

namespace FileSeries

/-- The largest file index, and the largest step. -/
def maxIndex : Nat := 0xFFFFFFFFFFFFFFFF

/-- The smallest anchor, offset or bound. -/
def minOffset : Int := -0x8000000000000000

/-- The largest anchor, offset or bound. -/
def maxOffset : Int := 0x7FFFFFFFFFFFFFFF

def fitsIndex (n : Nat) : Bool := n ≤ maxIndex

def fitsOffset (n : Int) : Bool := minOffset ≤ n && n ≤ maxOffset

/-- A number kept as an index without a check: beyond the largest index it starts again at zero. -/
def wrapIndex (n : Nat) : Nat := n % (maxIndex + 1)

/-- A sum of offsets, if it is an offset. -/
def addOffsets? (a b : Int) : Option Int :=
  if fitsOffset (a + b) then some (a + b) else none

/-- A sum of offsets, held at the ends of their range. -/
def addOffsetsHeld (a b : Int) : Int := max minOffset (min maxOffset (a + b))

/-- A step as an offset, held at the largest one. -/
def stepReach (step : Nat) : Int := min maxOffset step

theorem fitsIndex_iff_le {n : Nat} : fitsIndex n = true ↔ n ≤ maxIndex := by
  rw [fitsIndex, decide_eq_true_eq]

theorem wrapIndex_le (n : Nat) : wrapIndex n ≤ maxIndex :=
  Nat.le_of_lt_succ (Nat.mod_lt n (Nat.succ_pos maxIndex))

theorem wrapIndex_of_le {n : Nat} (h : n ≤ maxIndex) : wrapIndex n = n :=
  Nat.mod_eq_of_lt (Nat.lt_succ_of_le h)

theorem fitsOffset_iff {n : Int} : fitsOffset n = true ↔ minOffset ≤ n ∧ n ≤ maxOffset := by
  simp [fitsOffset]

theorem addOffsets?_eq_some_iff {a b c : Int} :
    addOffsets? a b = some c ↔ fitsOffset c = true ∧ a + b = c := by
  unfold addOffsets?
  split <;> grind

end FileSeries
