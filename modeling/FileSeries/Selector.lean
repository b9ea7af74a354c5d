import FileSeries.Axis
import FileSeries.Limits
import FileSeries.Text.Decimal
/-!
Selectors: how a pattern chooses values in one dimension. A selector names one value, or a slice of
the positions on the axis, or a window of positions that moves with an anchor.
-/

namespace FileSeries

/-- The choice of values in one dimension. -/
inductive Selector where
  /-- The value itself. -/
  | fixed (value : Nat)
  /-- Every `step`-th position from `start` on and below `stop`, or to the end of the axis. -/
  | slice (start : Int) (stop : Option Int) (step : Nat)
  /-- The slice from `start` to `stop` counted from the anchor. -/
  | window (start stop : Int) (step : Nat)
  deriving DecidableEq

namespace Selector

def isAnchored : Selector → Bool
  | window .. => true
  | _ => false

/-- The selector for one anchor: a window becomes a slice if both its bounds are offsets. -/
def atAnchor? (anchor : Int) : Selector → Option Selector
  | window start stop step => do
    let first ← addOffsets? anchor start
    let last ← addOffsets? anchor stop
    return slice first (some last) step
  | selector => some selector

/-- A bound that is counted from the anchor. -/
def anchorText (offset : Int) : List Char :=
  if offset = 0 then ['i']
  else if offset > 0 then ['i', '+'] ++ Decimal.digits offset.natAbs
  else ['i', '-'] ++ Decimal.digits offset.natAbs

/-- A step is left out when it is one. -/
def stepText (step : Nat) : List Char := if step = 1 then [] else ':' :: Decimal.digits step

/-- A selector in the notation of patterns; bounds and steps that say nothing are left out. -/
def text : Selector → List Char
  | fixed value => Decimal.digits value
  | slice start stop step =>
    (if start = 0 then [] else Decimal.signed start) ++ ':' ::
      ((stop.map Decimal.signed).getD [] ++ stepText step)
  | window start stop step => anchorText start ++ ':' :: (anchorText stop ++ stepText step)

/-- Why a selector chooses nothing on an axis. -/
inductive Refusal where
  | absentValue (value : Nat)
  | zeroStep
  | negativeStart (start : Int)
  | startBeyondEnd (start size : Nat)
  | emptySlice (start stop : Int)
  | noAnchor (selector : Selector)
  | anchorTooLarge (selector : Selector) (anchor : Int)
  deriving DecidableEq

/-- A selector as messages name it. -/
def named (s : Selector) : String := "`" ++ String.ofList s.text ++ "`"

def Refusal.message : Refusal → String
  | absentValue value => s!"value {value} is not present in the scanned files"
  | zeroStep => "slice step must be at least 1"
  | negativeStart start => s!"slice start {start} is negative"
  | startBeyondEnd start size => s!"slice start {start} is beyond the {size} scanned values"
  | emptySlice start stop => s!"slice {start}:{stop} is empty"
  | noAnchor selector => s!"pattern {selector.named} needs an anchor value"
  | anchorTooLarge selector anchor => s!"pattern {selector.named} overflows at anchor {anchor}"

/-- The values chosen, and whether the slice reaches past the end of the axis. -/
structure Choice where
  values : List Nat
  clipped : Bool
  deriving DecidableEq

/-- The positions from `start` to below `stop` in steps of `step`. -/
def positions (start stop step : Nat) : List Nat :=
  (List.range ((stop - start + step - 1) / step)).map (start + · * step)

/-- The values at the positions of a slice. A slice that starts on the axis and is not empty may
reach past its end; it is cut there. -/
def chooseSlice (start : Int) (stop : Option Int) (step : Nat) (axis : Axis) :
    Except Refusal Choice :=
  if step = 0 then .error .zeroStep
  else if start < 0 then .error (.negativeStart start)
  else if axis.size ≤ start.toNat then .error (.startBeyondEnd start.toNat axis.size)
  else
    match stop with
    | none => .ok ⟨(positions start.toNat axis.size step).filterMap axis.get?, false⟩
    | some stop =>
      if stop ≤ start then .error (.emptySlice start stop)
      else .ok ⟨(positions start.toNat (min stop.toNat axis.size) step).filterMap axis.get?,
        axis.size < stop.toNat⟩

/-- The values that a selector chooses on an axis. -/
def choose (s : Selector) (anchor : Option Int) (axis : Axis) : Except Refusal Choice :=
  match s with
  | fixed value =>
    if (axis.positionOf? value).isSome then .ok ⟨[value], false⟩ else .error (.absentValue value)
  | slice start stop step => chooseSlice start stop step axis
  | window start stop step =>
    match anchor with
    | none => .error (.noAnchor s)
    | some anchor =>
      match addOffsets? anchor start, addOffsets? anchor stop with
      | some first, some last => chooseSlice first (some last) step axis
      | _, _ => .error (.anchorTooLarge s anchor)

/-- A window that chooses something starts on the axis. -/
theorem start_of_choose_window {start stop anchor : Int} {step : Nat} {axis : Axis} {c : Choice}
    (h : (window start stop step).choose (some anchor) axis = .ok c) :
    0 ≤ anchor + start ∧ anchor + start < axis.size := by
  simp only [choose] at h
  split at h
  case h_2 => cases h
  case h_1 first last hfirst hlast =>
    obtain ⟨-, rfl⟩ := addOffsets?_eq_some_iff.mp hfirst
    unfold chooseSlice at h
    split at h
    · cases h
    split at h
    · cases h
    split at h
    · cases h
    · omega

end Selector

end FileSeries
