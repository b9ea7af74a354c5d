import FileSeries.AnchorRange
import FileSeries.Selection
/-!
Where a sliding pattern ends. The anchors are tried one by one from the start while the selection is
complete, that is, resolves without being clipped. Without a requested stop the range ends after the
last of these anchors. A requested stop is lowered so that at most one selection comes after them,
and one that does not resolve is left out. Stops are not held to the range of anchors: the one after
a complete selection at the largest anchor lies beyond it.
-/

namespace FileSeries

/-- The ways in which a range of anchors ends. -/
inductive Slide.Ending where
  /-- There is no anchor, and the range ends at its start. -/
  | atStart (start : Int)
  /-- The range ends after the last complete selection. -/
  | afterComplete (last : Int)
  /-- Only the first selection is left, and it is clipped. -/
  | onlyClipped (start : Int)
  /-- The selection at anchor `trailing`, beyond the last complete one, does not resolve. -/
  | noTrailing (requested last trailing : Int)
  /-- The range ends as requested. -/
  | asRequested (stop : Int)
  /-- The range ends below the requested stop. -/
  | lowered (requested stop : Int)
  deriving DecidableEq

namespace Slide

/-- The first anchor that no longer belongs to the range. -/
def Ending.stop : Ending → Int
  | .atStart start => start
  | .afterComplete last => last + 1
  | .onlyClipped start => start + 1
  | .noTrailing requested last _ => min requested (last + 1)
  | .asRequested stop => stop
  | .lowered _ stop => stop

def Ending.notes : Ending → List Note
  | .onlyClipped start => [.onlyClipped start]
  | .noTrailing _ _ trailing => [.noTrailing trailing]
  | .lowered requested stop => [.stopLowered requested stop]
  | .atStart _ | .afterComplete _ | .asRequested _ => []

def resolveAt (p : Pattern) (s : Snapshot) (anchor : Int) : Except Fault Selection :=
  Selection.resolve p s (some anchor)

/-- Whether the selection at an anchor resolves. -/
def resolvesAt (p : Pattern) (s : Snapshot) (anchor : Int) : Bool :=
  match resolveAt p s anchor with
  | .ok _ => true
  | .error _ => false

/-- Whether the selection at an anchor resolves without being clipped. -/
def isCompleteAt (p : Pattern) (s : Snapshot) (anchor : Int) : Bool :=
  match resolveAt p s anchor with
  | .ok selection => !selection.clipped
  | .error _ => false

/-- The anchor at which the window of a dimension starts at the end of its axis. -/
def axisEnd (p : Pattern) (s : Snapshot) (dimension : Nat) : Int :=
  match p.selectors[dimension]?, s.axes[dimension]? with
  | some (.window start _ _), some axis => axis.size - start
  | _, _ => 0

/-- A window moves on with its anchor until it has left its axis. -/
theorem lt_axisEnd_of_isCompleteAt {p : Pattern} {s : Snapshot} {dimension : Nat} {anchor : Int}
    (hd : p.anchorDimension? = some dimension) (h : isCompleteAt p s anchor = true) :
    anchor < axisEnd p s dimension := by
  obtain ⟨start, stop, step, hs⟩ := Pattern.selector_of_anchorDimension? hd
  unfold isCompleteAt at h
  split at h
  case h_2 => cases h
  case h_1 x hx =>
    obtain ⟨harity, cs, hcs⟩ := Selection.chooseAll_of_resolve hx
    have hlt : dimension < s.axes.length :=
      Nat.lt_of_lt_of_eq (List.getElem?_eq_some_iff.mp hs).1 harity
    have haxis : s.axes[dimension]? = some s.axes[dimension] := List.getElem?_eq_getElem hlt
    obtain ⟨c, hc⟩ := Selection.exists_choose_of_chooseAll hcs hs haxis
    rw [Selection.usedAnchor_of_anchorDimension? hd] at hc
    have := (Selector.start_of_choose_window hc).2
    simp only [axisEnd, hs, haxis]
    omega

/-- The number of complete selections in a row from an anchor on, as far as they lie below the
stop. -/
def completeCountFrom {p : Pattern} {dimension : Nat} (hd : p.anchorDimension? = some dimension)
    (s : Snapshot) (r : AnchorRange) (anchor : Int) : Nat :=
  if _h : r.isBelowStop anchor = true ∧ isCompleteAt p s anchor = true then
    completeCountFrom hd s r (anchor + 1) + 1
  else 0
termination_by (axisEnd p s dimension - anchor).toNat
decreasing_by
  have := lt_axisEnd_of_isCompleteAt hd _h.2
  omega

/-- The number of complete selections in a row from the start of the range, for a pattern with its
window in `dimension`. -/
def completeCount (p : Pattern) (s : Snapshot) (r : AnchorRange) (dimension : Nat) : Nat :=
  if hd : p.anchorDimension? = some dimension then completeCountFrom hd s r r.start else 0

/-- The ending when `last` is the last anchor in the row of complete selections. -/
def endingAfter (p : Pattern) (s : Snapshot) (r : AnchorRange) (last : Int) : Ending :=
  match r.stop with
  | none => .afterComplete last
  | some stop =>
    let candidate := min stop (addOffsetsHeld last (stepReach r.step))
    let ending := if candidate < stop then Ending.lowered stop candidate else .asRequested candidate
    match AnchorRange.last? r.start candidate r.step with
    | some trailing =>
      if last < trailing && !resolvesAt p s trailing then .noTrailing stop last trailing
      else ending
    | none => ending

/-- The ending when the first selection is not complete. If it does not resolve, this is the fault
of the whole range. -/
def endingAtStart (p : Pattern) (s : Snapshot) (r : AnchorRange) : Except Fault Ending :=
  if r.isBelowStop r.start then
    match resolveAt p s r.start with
    | .error e => .error e
    | .ok _ => .ok (if r.stop.isSome then .onlyClipped r.start else .atStart r.start)
  else .ok (.atStart r.start)

def endingOf (p : Pattern) (s : Snapshot) (r : AnchorRange) (dimension : Nat) :
    Except Fault Ending :=
  match completeCount p s r dimension with
  | 0 => endingAtStart p s r
  | n + 1 => .ok (endingAfter p s r (r.start + n))

end Slide

end FileSeries
