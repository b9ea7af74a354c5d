/-!
Sets of characters given as ranges of code points.
-/

namespace FileSeries.Text

/-- Disjoint ranges of code points in increasing order, both ends included. -/
abbrev Ranges := List (Nat × Nat)

/-- Whether a range holds `c`; the search ends at the first range above it. -/
def Ranges.holds (c : Char) : Ranges → Bool
  | [] => false
  | (low, high) :: rest => low ≤ c.toNat && (c.toNat ≤ high || Ranges.holds c rest)

end FileSeries.Text
