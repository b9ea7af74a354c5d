import FileSeries.Proofs.AnchorGrid
import FileSeries.Proofs.SelectionResolve
import FileSeries.Slide
import Mathlib
/-!
The row of complete selections that a slide starts with. Main statements: the row leaves the axis of
the window after as many anchors as the axis has values, so it has a last anchor if it has any, and
the walk along the axis counts exactly the anchors of the row that lie below the requested stop.
-/

namespace FileSeries.Slide

variable {p : Pattern} {s : Snapshot} {r : AnchorRange} {a : Int} {d : Nat}

theorem resolvesAt_iff : resolvesAt p s a = true ↔ ∃ x, resolveAt p s a = .ok x := by
  unfold resolvesAt
  cases resolveAt p s a <;> simp

theorem isCompleteAt_iff :
    isCompleteAt p s a = true ↔ ∃ x, resolveAt p s a = .ok x ∧ x.clipped = false := by
  unfold isCompleteAt
  cases resolveAt p s a <;> simp

theorem resolvesAt_of_isCompleteAt (h : isCompleteAt p s a = true) : resolvesAt p s a = true := by
  obtain ⟨x, hx, -⟩ := isCompleteAt_iff.mp h
  exact resolvesAt_iff.mpr ⟨x, hx⟩

/-- The anchors up to which every selection from `start` on is complete. -/
def completeRow (p : Pattern) (s : Snapshot) (start : Int) : Set Int :=
  {a | start ≤ a ∧ ∀ b, start ≤ b → b ≤ a → isCompleteAt p s b = true}

theorem mem_completeRow_self {start : Int} :
    start ∈ completeRow p s start ↔ isCompleteAt p s start = true := by
  constructor
  · rintro ⟨-, h⟩
    exact h start le_rfl le_rfl
  · intro h
    refine ⟨le_rfl, fun b hb hb' => ?_⟩
    rwa [le_antisymm hb' hb]

theorem isCompleteAt_start_of_mem {start : Int} (h : a ∈ completeRow p s start) :
    isCompleteAt p s start = true := h.2 start le_rfl h.1

theorem mem_completeRow_of_forall_le {start : Int} {n : Nat}
    (h : ∀ k ≤ n, isCompleteAt p s (start + k) = true) : start + n ∈ completeRow p s start := by
  refine ⟨by omega, fun b hb hb' => ?_⟩
  obtain ⟨k, rfl⟩ : ∃ k : Nat, b = start + k := ⟨(b - start).toNat, by omega⟩
  exact h k (by omega)

/-- Whatever resolves at an anchor, the window of the anchored dimension starts on its axis, and if
nothing is clipped it ends there too. -/
theorem window_of_resolveAt {x : Selection} (hd : p.anchorDimension? = some d)
    (hx : resolveAt p s a = .ok x) :
    ∃ start stop step axis c, p.selectors[d]? = some (.window start stop step) ∧
      s.axes[d]? = some axis ∧
      Selector.choose (.window start stop step) (some a) axis = .ok c ∧
      (x.clipped = false → c.clipped = false) := by
  obtain ⟨hn, cs, hcs, -, rfl⟩ := Selection.resolve_eq_ok_iff.mp hx
  rw [Selection.usedAnchor_of_anchorDimension? hd] at hcs
  obtain ⟨start, stop, step, hs⟩ := Pattern.selector_of_anchorDimension? hd
  obtain ⟨hl, hall⟩ := (Selection.chooseAll_eq_ok_iff_getElem? hn).mp hcs
  obtain ⟨axis, hx⟩ := exists_getElem?_of_length_eq hn hs
  obtain ⟨c, hc⟩ := exists_getElem?_of_length_eq hl.symm hs
  refine ⟨start, stop, step, axis, c, hs, hx, hall d _ axis c hs hx hc, fun hclip => ?_⟩
  exact Bool.eq_false_iff.mpr (List.any_eq_false.mp hclip c (List.mem_of_getElem? hc))

/-- The number of values on the axis of the window. -/
def axisSize (s : Snapshot) (d : Nat) : Nat := (s.axes[d]?.map Axis.size).getD 0

theorem axisEnd_le_of_isCompleteAt (hd : p.anchorDimension? = some d)
    (h : isCompleteAt p s a = true) : axisEnd p s d ≤ a + axisSize s d := by
  obtain ⟨x, hx, -⟩ := isCompleteAt_iff.mp h
  obtain ⟨start, stop, step, axis, c, hs, hax, hc, -⟩ := window_of_resolveAt hd hx
  have hfirst := (Selector.start_of_choose_window hc).1
  simp only [axisEnd, axisSize, hs, hax, Option.map_some, Option.getD_some]
  omega

theorem lt_of_mem_completeRow {start : Int} (hd : p.anchorDimension? = some d)
    (ha : a ∈ completeRow p s start) : a < start + axisSize s d :=
  calc a < axisEnd p s d := lt_axisEnd_of_isCompleteAt hd (ha.2 a ha.1 le_rfl)
    _ ≤ start + axisSize s d := axisEnd_le_of_isCompleteAt hd (isCompleteAt_start_of_mem ha)

/-- The walk stops where the range or the row ends, and not before. -/
theorem completeCountFrom_spec (hd : p.anchorDimension? = some d) :
    (∀ k < completeCountFrom hd s r a, r.isBelowStop (a + k) = true ∧
      isCompleteAt p s (a + k) = true) ∧
    ¬ (r.isBelowStop (a + completeCountFrom hd s r a) = true ∧
      isCompleteAt p s (a + completeCountFrom hd s r a) = true) := by
  fun_induction completeCountFrom hd s r a with
  | case1 anchor h ih =>
    obtain ⟨hall, hend⟩ := ih
    have hshift : ∀ k : Nat, anchor + 1 + k = anchor + (k + 1 : Nat) := fun k => by omega
    simp only [hshift] at hall hend
    refine ⟨?_, hend⟩
    rintro (_ | k) hk
    · simpa using h
    · exact hall k (by omega)
  | case2 anchor h => simpa using h

theorem completeCount_spec (hd : p.anchorDimension? = some d) :
    (∀ k < completeCount p s r d, r.isBelowStop (r.start + k) = true ∧
      isCompleteAt p s (r.start + k) = true) ∧
    ¬ (r.isBelowStop (r.start + completeCount p s r d) = true ∧
      isCompleteAt p s (r.start + completeCount p s r d) = true) := by
  rw [completeCount, dif_pos hd]
  exact completeCountFrom_spec hd

/-- The walk takes no more turns than the axis of the window has values. -/
theorem completeCount_le (hd : p.anchorDimension? = some d) :
    completeCount p s r d ≤ axisSize s d := by
  obtain ⟨hall, -⟩ := completeCount_spec (s := s) (r := r) hd
  by_contra hgt
  have hrow : r.start + axisSize s d ∈ completeRow p s r.start :=
    mem_completeRow_of_forall_le fun k hk => (hall k (by omega)).2
  exact lt_irrefl _ (lt_of_mem_completeRow hd hrow)

theorem isBelowStop_iff : r.isBelowStop a = true ↔ ∀ stop, r.stop = some stop → a < stop := by
  unfold AnchorRange.isBelowStop
  cases r.stop <;> simp

theorem completeCount_eq_zero_iff (hd : p.anchorDimension? = some d) :
    completeCount p s r d = 0 ↔
      ¬ (r.isBelowStop r.start = true ∧ isCompleteAt p s r.start = true) := by
  obtain ⟨hall, hend⟩ := completeCount_spec (s := s) (r := r) hd
  constructor
  · intro h
    simpa [h] using hend
  · intro h
    by_contra hpos
    exact h (by simpa using hall 0 (by omega))

/-- The walk ends with the last anchor of the row that lies below the requested stop. -/
theorem isGreatest_of_completeCount {n : Nat} (hd : p.anchorDimension? = some d)
    (h : completeCount p s r d = n + 1) :
    IsGreatest {a | a ∈ completeRow p s r.start ∧ r.isBelowStop a = true} (r.start + n) := by
  obtain ⟨hall, hend⟩ := completeCount_spec (s := s) (r := r) hd
  rw [h] at hall hend
  refine ⟨⟨?_, (hall n (by omega)).1⟩, ?_⟩
  · exact mem_completeRow_of_forall_le fun k hk => (hall k (by omega)).2
  · rintro a ⟨ha, hstop⟩
    by_contra hlt
    refine hend ⟨isBelowStop_iff.mpr fun t ht => ?_, ha.2 _ (by omega) (by push_cast; omega)⟩
    have := isBelowStop_iff.mp hstop t ht
    push_cast
    omega

/-- A row that is not empty has a last anchor. -/
theorem exists_isGreatest_completeRow {start : Int} (hd : p.anchorDimension? = some d) :
    (∃ last, IsGreatest (completeRow p s start) last) ↔ isCompleteAt p s start = true := by
  constructor
  · rintro ⟨last, hlast, -⟩
    exact isCompleteAt_start_of_mem hlast
  · intro h
    obtain ⟨last, hlast, hmax⟩ := Int.exists_greatest_of_bdd
      ⟨start + axisSize s d, fun a ha => (lt_of_mem_completeRow hd ha).le⟩
      ⟨start, mem_completeRow_self.mpr h⟩
    exact ⟨last, hlast, hmax⟩

theorem not_complete_after_row {start last : Int}
    (hl : IsGreatest (completeRow p s start) last) :
    isCompleteAt p s (last + 1) = false := by
  by_contra hyes
  have hmem : last + 1 ∈ completeRow p s start := by
    refine ⟨hl.1.1.trans (Int.le_add_one le_rfl), fun b hb hb' => ?_⟩
    rcases le_or_gt b last with hle | hgt
    · exact hl.1.2 b hb hle
    · obtain rfl : b = last + 1 := by omega
      simpa using hyes
  have := hl.2 hmem
  omega

/-- The last anchor of the row below a stop, from the last one of the whole row. -/
theorem isGreatest_below_iff {last stop : Int} (hl : IsGreatest (completeRow p s r.start) last)
    (hs : r.stop = some stop) (hlt : r.start < stop) :
    IsGreatest {a | a ∈ completeRow p s r.start ∧ r.isBelowStop a = true} (min last (stop - 1)) := by
  have hstart := hl.1.1
  refine ⟨⟨⟨by omega, fun b hb hb' => hl.1.2 b hb (by omega)⟩, ?_⟩, ?_⟩
  · apply isBelowStop_iff.mpr
    intro t ht
    obtain rfl : stop = t := Option.some.inj (hs.symm.trans ht)
    omega
  · rintro a ⟨ha, hstop⟩
    have := hl.2 ha
    have := isBelowStop_iff.mp hstop stop hs
    omega

end FileSeries.Slide
