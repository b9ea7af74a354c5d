import FileSeries.Fault
/-!
Ranges of anchors: `start`, `start + step` and so on below a stop.
-/

namespace FileSeries

/-- The anchors that are asked for. Without a stop the range ends where the files end. -/
structure AnchorRange where
  start : Int := 0
  stop : Option Int := none
  step : Nat := 1
  deriving DecidableEq

namespace AnchorRange

/-- A range goes forward from zero or above. -/
def check (r : AnchorRange) : Except Fault Unit :=
  if r.step = 0 then .error (.config .zeroStep)
  else if r.start < 0 then .error (.config (.negativeStart r.start))
  else .ok ()

/-- Whether an anchor lies below the stop, if there is one. -/
def isBelowStop (r : AnchorRange) (anchor : Int) : Bool := r.stop.all (anchor < ·)

/-- The number of anchors from `start` to below `stop`. -/
def count (start stop : Int) (step : Nat) : Nat :=
  if stop ≤ start then 0 else ((stop - start).toNat + step - 1) / step

/-- The anchor that comes `index` steps after `start`, if it is one. -/
def nth? (start : Int) (index step : Nat) : Option Int :=
  if fitsIndex (index * step) && (index * step : Int) ≤ maxOffset then
    addOffsets? start (index * step : Nat)
  else none

/-- The last anchor from `start` to below `stop`. -/
def last? (start stop : Int) (step : Nat) : Option Int :=
  match count start stop step with
  | 0 => none
  | n + 1 => nth? start n step

end AnchorRange

end FileSeries
