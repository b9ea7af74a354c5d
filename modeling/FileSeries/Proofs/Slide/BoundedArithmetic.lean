import FileSeries.Proofs.Slide.Selections
import Mathlib
/-!
Slides opened within the ranges of numbers: an operation that is not tested gives nothing where its
exact value leaves the range of its result. Main statements: the walk along the row leaves the range
of anchors only where no stop is requested and the row reaches the largest anchor; otherwise it is
over after as many anchors as the axis of the window has values, and all that follows gives the exact
stop, the exact number of selections and an anchor for each of them.
-/

namespace FileSeries

/-- An integer taken as an index, if it is one. -/
def asIndex? (n : Int) : Option Nat := if 0 ≤ n ∧ n ≤ maxIndex then some n.toNat else none

theorem asIndex?_natCast {n : Nat} (h : fitsIndex n = true) : asIndex? n = some n := by
  have hrange : (0 : Int) ≤ n ∧ (n : Int) ≤ maxIndex :=
    ⟨Int.natCast_nonneg n, Int.ofNat_le.mpr (fitsIndex_iff_le.mp h)⟩
  rw [asIndex?, if_pos hrange, Int.toNat_natCast]

theorem fitsOffset_of_nonneg {n : Int} (h0 : 0 ≤ n) (hm : n ≤ maxOffset) :
    fitsOffset n = true := by
  refine fitsOffset_iff.mpr ⟨?_, hm⟩
  simp only [minOffset]
  omega

theorem addOffsets?_eq_some {a b : Int} (h : fitsOffset (a + b) = true) :
    addOffsets? a b = some (a + b) := addOffsets?_eq_some_iff.mpr ⟨h, rfl⟩

namespace AnchorRange

variable {start stop : Int} {step : Nat}

/-- The number of anchors from `start` to below `stop`. The span between them is an offset, then an
index, and it is divided by the step. -/
def boundedCount? (start stop : Int) (step : Nat) : Option Nat :=
  if stop ≤ start then some 0
  else do
    let span ← asIndex? (← addOffsets? stop (-start))
    let divisor ← asIndex? step
    if divisor = 0 then none else asIndex? (span ⌈/⌉ divisor : Nat)

/-- The last anchor from `start` to below `stop`, if there is one. -/
def boundedLast? (start stop : Int) (step : Nat) : Option (Option Int) := do
  let count ← boundedCount? start stop step
  if count = 0 then return none else return nth? start (← asIndex? (count - 1)) step

theorem fitsIndex_count (hstep : 0 < step) (h0 : 0 ≤ start) (hm : stop ≤ maxOffset) :
    fitsIndex (count start stop step) = true := by
  rw [fitsIndex_iff_le]
  by_contra hgt
  have hlast := (lt_count_iff hstep).mp (not_le.mp hgt)
  simp only [maxIndex, maxOffset] at hlast hm
  omega

theorem boundedCount?_eq (hstep : 0 < step) (hfits : fitsIndex step = true) (h0 : 0 ≤ start)
    (hm : stop ≤ maxOffset) : boundedCount? start stop step = some (count start stop step) := by
  have hcount := fitsIndex_count hstep h0 hm
  unfold boundedCount?
  by_cases hle : stop ≤ start
  · rw [if_pos hle, count, if_pos hle]
  · have hspan : ((stop - start).toNat : Int) = stop + -start := by omega
    have hoffset : fitsOffset (stop + -start) = true :=
      fitsOffset_of_nonneg (by omega) (by omega)
    have hindex : fitsIndex (stop - start).toNat = true := by
      rw [fitsIndex_iff_le]
      simp only [maxIndex, maxOffset] at hm ⊢
      omega
    have hquotient : (stop - start).toNat ⌈/⌉ step = count start stop step := by
      rw [count, if_neg hle, Nat.ceilDiv_eq_add_pred_div]
    rw [if_neg hle, addOffsets?_eq_some hoffset, ← hspan]
    simp only [Option.bind_eq_bind, Option.bind_some, asIndex?_natCast hindex,
      asIndex?_natCast hfits, hstep.ne', if_false, hquotient, asIndex?_natCast hcount]

theorem boundedLast?_eq (hstep : 0 < step) (hfits : fitsIndex step = true) (h0 : 0 ≤ start)
    (hm : stop ≤ maxOffset) : boundedLast? start stop step = some (last? start stop step) := by
  have hcount := fitsIndex_count hstep h0 hm
  unfold boundedLast? last?
  rw [boundedCount?_eq hstep hfits h0 hm]
  cases hc : count start stop step with
  | zero => rfl
  | succ n =>
    rw [hc, fitsIndex_iff_le] at hcount
    have hn : fitsIndex n = true := fitsIndex_iff_le.mpr (by omega)
    simp [asIndex?_natCast hn]

end AnchorRange

namespace Slide

variable {p : Pattern} {s : Snapshot} {r : AnchorRange} {d : Nat} {a last : Int}
  {last? : Option Int}

/-- The walk along the row from `anchor` on: how many anchors it passes, and the last one of them;
before them it is `last?`. -/
def boundedWalk? (p : Pattern) (s : Snapshot) (r : AnchorRange) (anchor : Int)
    (last? : Option Int) : Option (Nat × Option Int) :=
  if r.isBelowStop anchor && isCompleteAt p s anchor then
    match _h : addOffsets? anchor 1 with
    | none => none
    | some next => (boundedWalk? p s r next (some anchor)).map (Prod.map (· + 1) id)
  else some (0, last?)
termination_by (maxOffset - anchor).toNat
decreasing_by
  obtain ⟨hfits, rfl⟩ := addOffsets?_eq_some_iff.mp _h
  have := (fitsOffset_iff.mp hfits).2
  omega

/-- The stop when the first selection is not complete. -/
def boundedStopAtStart? (p : Pattern) (s : Snapshot) (r : AnchorRange) :
    Option (Except Fault Int) :=
  if r.isBelowStop r.start then
    match resolveAt p s r.start with
    | .error e => some (.error e)
    | .ok _ => if r.stop.isSome then (addOffsets? r.start 1).map .ok else some (.ok r.start)
  else some (.ok r.start)

/-- The stop when `last` is the last anchor in the row of complete selections. -/
def boundedStopAfter? (p : Pattern) (s : Snapshot) (r : AnchorRange) (last : Int) : Option Int :=
  match r.stop with
  | none => addOffsets? last 1
  | some stop => do
    let candidate := min stop (addOffsetsHeld last (stepReach r.step))
    match ← AnchorRange.boundedLast? r.start candidate r.step with
    | some trailing =>
      if last < trailing && !resolvesAt p s trailing then return min stop (← addOffsets? last 1)
      else return candidate
    | none => return candidate

/-- The stop of a slide, or the fault of the selection at its start. -/
def boundedStop? (p : Pattern) (s : Snapshot) (r : AnchorRange) : Option (Except Fault Int) := do
  match ← boundedWalk? p s r r.start none with
  | (_, none) => boundedStopAtStart? p s r
  | (_, some last) => return .ok (← boundedStopAfter? p s r last)

theorem boundedWalk?_of_end (h : ¬(r.isBelowStop a = true ∧ isCompleteAt p s a = true)) :
    boundedWalk? p s r a last? = some (0, last?) := by
  rw [boundedWalk?, if_neg (by simpa using h)]

/-- A turn of the walk. -/
theorem boundedWalk?_of_fits (hb : r.isBelowStop a = true) (hi : isCompleteAt p s a = true)
    (hfits : fitsOffset (a + 1) = true) : boundedWalk? p s r a last? =
      (boundedWalk? p s r (a + 1) (some a)).map (Prod.map (· + 1) id) := by
  rw [boundedWalk?, if_pos (by simp [hb, hi])]
  split
  · rename_i hnone
    simp [addOffsets?_eq_some hfits] at hnone
  · rename_i next hnext
    obtain ⟨-, rfl⟩ := addOffsets?_eq_some_iff.mp hnext
    rfl

theorem boundedWalk?_of_not_fits (hb : r.isBelowStop a = true) (hi : isCompleteAt p s a = true)
    (hfits : fitsOffset (a + 1) = false) : boundedWalk? p s r a last? = none := by
  rw [boundedWalk?, if_pos (by simp [hb, hi])]
  split
  · rfl
  · rename_i next hnext
    obtain ⟨hyes, rfl⟩ := addOffsets?_eq_some_iff.mp hnext
    simp [hfits] at hyes

/-- The last of some anchors from `a` on; before them it is `last?`. -/
def lastPassed (a : Int) (last? : Option Int) : Nat → Option Int
  | 0 => last?
  | n + 1 => some (a + n)

/-- The walk passes the anchors of a row one by one, as long as each has one after it. -/
theorem boundedWalk?_eq {n : Nat}
    (hall : ∀ k < n, r.isBelowStop (a + k) = true ∧ isCompleteAt p s (a + k) = true)
    (hend : ¬(r.isBelowStop (a + n) = true ∧ isCompleteAt p s (a + n) = true))
    (hfits : ∀ k < n, fitsOffset (a + k + 1) = true) :
    boundedWalk? p s r a last? = some (n, lastPassed a last? n) := by
  induction n generalizing a last? with
  | zero => exact boundedWalk?_of_end (by simpa using hend)
  | succ n ih =>
    have hmove : ∀ k : Nat, a + 1 + k = a + (k + 1 : Nat) := fun k => by
      push_cast
      omega
    -- What is left of the row after its first anchor starts one anchor later.
    obtain ⟨hb, hi⟩ := hall 0 n.succ_pos
    have hturn : boundedWalk? p s r a last? =
        (boundedWalk? p s r (a + 1) (some a)).map (Prod.map (· + 1) id) :=
      boundedWalk?_of_fits (by simpa using hb) (by simpa using hi)
        (by simpa using hfits 0 n.succ_pos)
    have hrest : boundedWalk? p s r (a + 1) (some a) = some (n, lastPassed (a + 1) (some a) n) :=
      ih (fun k hk => by rw [hmove]; exact hall (k + 1) (by omega)) (by rwa [hmove])
        (fun k hk => by rw [hmove]; exact hfits (k + 1) (by omega))
    have hlast : lastPassed (a + 1) (some a) n = some (a + n) := by
      cases n with
      | zero => simp [lastPassed]
      | succ n => simp [lastPassed, hmove]
    rw [hturn, hrest, hlast]
    rfl

/-- The walk along a row that reaches the largest anchor does not get beyond it. -/
theorem boundedWalk?_eq_none {n : Nat} (hs : r.stop = none) (h0 : 0 ≤ a) (hn : a + n = maxOffset)
    (hall : ∀ b, a ≤ b → b ≤ maxOffset → isCompleteAt p s b = true) :
    boundedWalk? p s r a last? = none := by
  have hb : ∀ b, r.isBelowStop b = true := fun b => isBelowStop_iff.mpr (by simp [hs])
  induction n generalizing a last? with
  | zero =>
    have hi : isCompleteAt p s a = true := hall a le_rfl (by omega)
    refine boundedWalk?_of_not_fits (hb a) hi (Bool.eq_false_iff.mpr fun hfits => ?_)
    have := (fitsOffset_iff.mp hfits).2
    omega
  | succ n ih =>
    have hi : isCompleteAt p s a = true := hall a le_rfl (by omega)
    have hfits : fitsOffset (a + 1) = true := fitsOffset_of_nonneg (by omega) (by omega)
    have hrest : boundedWalk? p s r (a + 1) (some a) = none :=
      ih (by omega) (by omega) fun b hle hb' => hall b (by omega) hb'
    rw [boundedWalk?_of_fits (hb a) hi hfits, hrest]
    rfl

section Row

variable (hr : r.Fits) (h0 : 0 ≤ r.start) (hd : p.anchorDimension? = some d)

include hr h0 hd

/-- Each anchor that the walk passes has one after it. -/
theorem fits_succ_of_lt_completeCount
    (hrow : r.stop = none → maxOffset ∉ completeRow p s r.start) {k : Nat}
    (hk : k < completeCount p s r d) : fitsOffset (r.start + k + 1) = true := by
  obtain ⟨hall, -⟩ := completeCount_spec (s := s) (r := r) hd
  refine fitsOffset_of_nonneg (by omega) ?_
  -- Else the row would reach the largest anchor, and only without a stop can it do so.
  by_contra hgt
  cases hs : r.stop with
  | none =>
    have hmem : r.start + k ∈ completeRow p s r.start :=
      mem_completeRow_of_forall_le fun j hj => (hall j (by omega)).2
    exact hrow hs ⟨(fitsOffset_iff.mp hr.start).2, fun b hb hb' => hmem.2 b hb (by omega)⟩
  | some stop =>
    have := isBelowStop_iff.mp (hall k hk).1 stop hs
    have := (fitsOffset_iff.mp (hr.stop stop hs)).2
    omega

theorem boundedWalk?_start (hrow : r.stop = none → maxOffset ∉ completeRow p s r.start) :
    boundedWalk? p s r r.start none =
      some (completeCount p s r d, lastPassed r.start none (completeCount p s r d)) := by
  obtain ⟨hall, hend⟩ := completeCount_spec (s := s) (r := r) hd
  exact boundedWalk?_eq hall hend fun k hk => fits_succ_of_lt_completeCount hr h0 hd hrow hk

theorem boundedWalk?_start_eq_none_iff : boundedWalk? p s r r.start none = none ↔
    r.stop = none ∧ maxOffset ∈ completeRow p s r.start := by
  constructor
  · intro hnone
    by_contra hno
    have hrow : r.stop = none → maxOffset ∉ completeRow p s r.start := fun hs hmem =>
      hno ⟨hs, hmem⟩
    simp [boundedWalk?_start hr h0 hd hrow] at hnone
  · rintro ⟨hs, hle, hall⟩
    obtain ⟨n, hn⟩ : ∃ n : Nat, r.start + n = maxOffset := ⟨(maxOffset - r.start).toNat, by omega⟩
    exact boundedWalk?_eq_none hs h0 hn hall

end Row

theorem boundedStopAtStart?_eq (hr : r.Fits) (h0 : 0 ≤ r.start) :
    boundedStopAtStart? p s r = some ((endingAtStart p s r).map Ending.stop) := by
  unfold boundedStopAtStart? endingAtStart
  by_cases hb : r.isBelowStop r.start = true
  · rw [if_pos hb, if_pos hb]
    cases resolveAt p s r.start with
    | error e => rfl
    | ok x =>
      cases hs : r.stop with
      | none => rfl
      | some stop =>
        have hlt := isBelowStop_iff.mp hb stop hs
        have hm := (fitsOffset_iff.mp (hr.stop stop hs)).2
        have hfits : fitsOffset (r.start + 1) = true :=
          fitsOffset_of_nonneg (by omega) (by omega)
        simp only [Option.isSome_some, if_true, addOffsets?_eq_some hfits]
        rfl
  · rw [if_neg hb, if_neg hb]
    rfl

theorem boundedStopAfter?_eq (hr : r.Fits) (hc : r.check = .ok ())
    (hlast : fitsOffset (last + 1) = true) :
    boundedStopAfter? p s r last = some (endingAfter p s r last).stop := by
  obtain ⟨hstep, h0⟩ := AnchorRange.check_eq_ok_iff.mp hc
  unfold boundedStopAfter? endingAfter
  cases hs : r.stop with
  | none => exact addOffsets?_eq_some hlast
  | some stop =>
    have hle : min stop (addOffsetsHeld last (stepReach r.step)) ≤ maxOffset :=
      (min_le_left _ _).trans (fitsOffset_iff.mp (hr.stop stop hs)).2
    simp only [AnchorRange.boundedLast?_eq hstep hr.step h0 hle, addOffsets?_eq_some hlast,
      Option.bind_eq_bind, Option.bind_some, Option.pure_def]
    generalize min stop (addOffsetsHeld last (stepReach r.step)) = candidate
    have hstop : (if candidate < stop then Ending.lowered stop candidate
        else .asRequested candidate).stop = candidate := by
      split <;> rfl
    cases AnchorRange.last? r.start candidate r.step with
    | none => exact congrArg some hstop.symm
    | some trailing =>
      simp only
      split
      · rfl
      · exact congrArg some hstop.symm

theorem boundedStop?_eq (hr : r.Fits) (hc : r.check = .ok ()) (hd : p.anchorDimension? = some d)
    (hrow : r.stop = none → maxOffset ∉ completeRow p s r.start) :
    boundedStop? p s r = some ((endingOf p s r d).map Ending.stop) := by
  obtain ⟨-, h0⟩ := AnchorRange.check_eq_ok_iff.mp hc
  unfold boundedStop? endingOf
  rw [boundedWalk?_start hr h0 hd hrow]
  cases hn : completeCount p s r d with
  | zero => exact boundedStopAtStart?_eq hr h0
  | succ n =>
    have hlt : n < completeCount p s r d := by omega
    have hlast := fits_succ_of_lt_completeCount hr h0 hd hrow hlt
    simp only [lastPassed, Option.bind_eq_bind, Option.bind_some, Option.pure_def,
      boundedStopAfter?_eq hr hc hlast]
    rfl

theorem stop_le_of_endingOf {e : Ending} (hr : r.Fits) (hc : r.check = .ok ())
    (hd : p.anchorDimension? = some d)
    (hrow : r.stop = none → maxOffset ∉ completeRow p s r.start)
    (he : endingOf p s r d = .ok e) : e.stop ≤ maxOffset := by
  by_cases hlt : r.start < e.stop
  · exact stop_le_of_stopRule hr hrow (stopRule_of_endingOf hr hc hd he hlt)
  · have := (fitsOffset_iff.mp hr.start).2
    omega

/-- A slide can be opened within the ranges of numbers: whether it opens or not, nothing that is
computed on the way leaves its range, and all of it is exact. -/
structure StaysBounded (p : Pattern) (s : Snapshot) (r : AnchorRange) (d : Nat) : Prop where
  /-- The walk along the row passes no more anchors than the axis of the window has values. -/
  walk : ∃ passed ≤ axisSize s d, ∃ last?, boundedWalk? p s r r.start none = some (passed, last?)
  stop : boundedStop? p s r = some ((endingOf p s r d).map Ending.stop)
  count : ∀ e, endingOf p s r d = .ok e →
    AnchorRange.boundedCount? r.start e.stop r.step =
      some (AnchorRange.count r.start e.stop r.step)
  /-- Each number has an anchor, and the number after it is an index. -/
  anchor : ∀ e, endingOf p s r d = .ok e → ∀ k < AnchorRange.count r.start e.stop r.step,
    AnchorRange.nth? r.start k r.step = some (r.start + k * r.step) ∧ fitsIndex (k + 1) = true

/-- A slide over a range that goes forward stays bounded, unless no stop is requested and the largest
anchor has a complete selection. -/
theorem staysBounded_of_check (hr : r.Fits) (hc : r.check = .ok ())
    (hd : p.anchorDimension? = some d)
    (hmax : r.stop = none → isCompleteAt p s maxOffset = false) : StaysBounded p s r d := by
  obtain ⟨hstep, h0⟩ := AnchorRange.check_eq_ok_iff.mp hc
  have hrow : r.stop = none → maxOffset ∉ completeRow p s r.start := fun hs =>
    not_mem_completeRow_of_not_complete (hmax hs)
  have hle : ∀ e, endingOf p s r d = .ok e → e.stop ≤ maxOffset := fun e he =>
    stop_le_of_endingOf hr hc hd hrow he
  constructor
  case walk => exact ⟨_, completeCount_le hd, _, boundedWalk?_start hr h0 hd hrow⟩
  case stop => exact boundedStop?_eq hr hc hd hrow
  case count =>
    intro e he
    exact AnchorRange.boundedCount?_eq hstep hr.step h0 (hle e he)
  case anchor =>
    intro e he k hk
    have hcount := AnchorRange.fitsIndex_count hstep h0 (hle e he)
    have hlt := (AnchorRange.lt_count_iff hstep).mp hk
    rw [fitsIndex_iff_le] at hcount
    exact ⟨AnchorRange.nth?_eq_some h0 (hlt.le.trans (hle e he)), fitsIndex_iff_le.mpr (by omega)⟩

/-- All anchors from zero on, in steps of the largest size. -/
def largestSteps : AnchorRange := { step := maxIndex }

/-- The same below the largest anchor. -/
def largestRange : AnchorRange := { stop := some maxOffset, step := maxIndex }

/-- One selection is left in steps of the largest size, whether the stop is found or requested. -/
theorem everyOther_staysBounded :
    largestSteps.Fits ∧ largestSteps.check = .ok () ∧ largestRange.Fits ∧
      largestRange.check = .ok () ∧ everyOther.anchorDimension? = some 0 ∧
      isCompleteAt everyOther eightFiles maxOffset = false ∧
      StaysBounded everyOther eightFiles largestSteps 0 ∧
      boundedStop? everyOther eightFiles largestSteps = some (.ok 6) ∧
      AnchorRange.boundedCount? 0 6 maxIndex = some 1 ∧
      StaysBounded everyOther eightFiles largestRange 0 ∧
      boundedStop? everyOther eightFiles largestRange = some (.ok maxOffset) ∧
      AnchorRange.boundedCount? 0 maxOffset maxIndex = some 1 := by
  have hr : largestSteps.Fits := by decide
  have hr' : largestRange.Fits := by decide
  have hfound := staysBounded_of_check (p := everyOther) (s := eightFiles) hr rfl rfl fun _ => rfl
  have hrequested := staysBounded_of_check (p := everyOther) (s := eightFiles) hr' rfl rfl
    fun _ => rfl
  have hending : endingOf everyOther eightFiles largestSteps 0 = .ok (.afterComplete 5) := by cbv
  have hending' : endingOf everyOther eightFiles largestRange 0 = .ok (.asRequested maxOffset) := by
    cbv
  refine ⟨hr, rfl, hr', rfl, rfl, rfl, hfound, ?_, hfound.count _ hending, hrequested, ?_,
    hrequested.count _ hending'⟩
  · rw [hfound.stop, hending]
    rfl
  · rw [hrequested.stop, hending']
    rfl

end Slide

end FileSeries
