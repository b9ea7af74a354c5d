import FileSeries.Selector
import Mathlib
/-!
What selectors choose on an axis. Main statements: a slice succeeds exactly if its step is positive
and it starts on the axis below its stop, it chooses the values at its positions, each once, and a
window chooses without being clipped exactly while it lies on the axis.
-/

namespace FileSeries.Selector

theorem mem_positions_iff {start stop step i : Nat} (hs : 0 < step) :
    i ∈ positions start stop step ↔ ∃ k, i = start + k * step ∧ i < stop := by
  have hk : ∀ k, k < (stop - start + step - 1) / step ↔ start + k * step < stop := by
    intro k
    rw [← Nat.succ_le_iff, Nat.le_div_iff_mul_le hs, Nat.succ_mul]
    omega
  simp only [positions, List.mem_map, List.mem_range, hk]
  constructor
  · rintro ⟨k, h, rfl⟩
    exact ⟨k, rfl, h⟩
  · rintro ⟨k, rfl, h⟩
    exact ⟨k, h, rfl⟩

theorem pairwise_positions {start stop step : Nat} (hs : 0 < step) :
    (positions start stop step).Pairwise (· < ·) := by
  refine List.pairwise_map.mpr (List.pairwise_lt_range.imp fun {i j} hij => ?_)
  have := Nat.mul_lt_mul_of_pos_right hij hs
  omega

theorem length_positions {start stop step : Nat} :
    (positions start stop step).length = (stop - start) ⌈/⌉ step := by
  rw [positions, List.length_map, List.length_range, Nat.ceilDiv_eq_add_pred_div]

/-- The first position that a slice no longer reaches. -/
def sliceEnd (stop : Option Int) (axis : Axis) : Nat :=
  match stop with
  | none => axis.size
  | some stop => min stop.toNat axis.size

theorem sliceEnd_le (stop : Option Int) (axis : Axis) : sliceEnd stop axis ≤ axis.size := by
  cases stop with
  | none => exact le_rfl
  | some stop => exact min_le_right _ _

/-- Whether a slice reaches past the end of an axis. -/
def passesEnd (stop : Option Int) (axis : Axis) : Bool :=
  stop.any fun stop => axis.size < stop.toNat

theorem chooseSlice_eq_ok_iff {start : Int} {stop : Option Int} {step : Nat} {axis : Axis}
    {c : Choice} :
    chooseSlice start stop step axis = .ok c ↔
      (0 < step ∧ 0 ≤ start ∧ start < axis.size ∧ ∀ t, stop = some t → start < t) ∧
        c = ⟨(positions start.toNat (sliceEnd stop axis) step).filterMap axis.get?,
          passesEnd stop axis⟩ := by
  unfold chooseSlice
  by_cases hstep : step = 0
  · simp [hstep]
  by_cases hneg : start < 0
  · simp only [hstep, hneg, if_true, if_false, reduceCtorEq, false_iff]
    omega
  by_cases hend : axis.size ≤ start.toNat
  · simp only [hstep, hneg, hend, if_true, if_false, reduceCtorEq, false_iff]
    omega
  have hstart : 0 < step ∧ 0 ≤ start ∧ start < axis.size := by omega
  simp only [hstep, hneg, hend, if_false]
  cases stop with
  | none => simp [hstart, sliceEnd, passesEnd, eq_comm]
  | some t =>
    by_cases ht : t ≤ start
    · simp only [ht, if_true, reduceCtorEq, Option.some.injEq, forall_eq', false_iff]
      omega
    · have ht' : start < t := by omega
      simp only [ht, if_false, hstart, sliceEnd, passesEnd, Option.some.injEq, forall_eq', ht',
        Option.any_some, Except.ok.injEq, true_and, eq_comm]

theorem pairwise_filterMap_get? {axis : Axis} {l : List Nat} (h : l.Pairwise (· < ·)) :
    (l.filterMap axis.get?).Pairwise (· < ·) := by
  refine h.filterMap _ fun {i j} hij m hm n hn => ?_
  obtain ⟨hi, rfl⟩ := List.getElem?_eq_some_iff.mp hm
  obtain ⟨hj, rfl⟩ := List.getElem?_eq_some_iff.mp hn
  exact List.pairwise_iff_getElem.mp axis.ascending i j hi hj hij

theorem pairwise_of_chooseSlice {start : Int} {stop : Option Int} {step : Nat} {axis : Axis}
    {c : Choice} (h : chooseSlice start stop step axis = .ok c) : c.values.Pairwise (· < ·) := by
  obtain ⟨⟨hs, -⟩, rfl⟩ := chooseSlice_eq_ok_iff.mp h
  exact pairwise_filterMap_get? (pairwise_positions hs)

/-- A slice has a value at each of its positions. -/
theorem map_some_of_chooseSlice {start : Int} {stop : Option Int} {step : Nat} {axis : Axis}
    {c : Choice} (h : chooseSlice start stop step axis = .ok c) :
    c.values.map some = (positions start.toNat (sliceEnd stop axis) step).map axis.get? := by
  obtain ⟨⟨hs, -⟩, rfl⟩ := chooseSlice_eq_ok_iff.mp h
  rw [List.map_filterMap, List.filterMap_eq_map_iff_forall_eq_some]
  intro i hi
  obtain ⟨k, -, hlt⟩ := (mem_positions_iff hs).mp hi
  have hsize : i < axis.values.length := hlt.trans_le (sliceEnd_le stop axis)
  have hget : axis.get? i = some axis.values[i] := List.getElem?_eq_getElem hsize
  rw [hget, Option.map_some]

theorem length_of_chooseSlice {start : Int} {stop : Option Int} {step : Nat} {axis : Axis}
    {c : Choice} (h : chooseSlice start stop step axis = .ok c) :
    c.values.length = (sliceEnd stop axis - start.toNat) ⌈/⌉ step := by
  have hlength := congrArg List.length (map_some_of_chooseSlice h)
  rwa [List.length_map, List.length_map, length_positions] at hlength

/-- The values of a slice lie `step` positions apart. -/
theorem getElem?_of_chooseSlice {start : Int} {stop : Option Int} {step j : Nat} {axis : Axis}
    {c : Choice} (h : chooseSlice start stop step axis = .ok c) (hj : j < c.values.length) :
    c.values[j]? = axis.get? (start.toNat + j * step) := by
  have hvalue : c.values[j]? = some c.values[j] := List.getElem?_eq_getElem hj
  have hplace := congrArg (·[j]?) (map_some_of_chooseSlice h)
  rw [length_of_chooseSlice h, Nat.ceilDiv_eq_add_pred_div] at hj
  simp only [List.getElem?_map, hvalue, positions, List.getElem?_range hj, Option.map_some,
    Option.some.injEq] at hplace
  rw [hvalue, hplace]

theorem choose_window_eq_ok_iff {start stop anchor : Int} {step : Nat} {axis : Axis}
    {c : Choice} :
    (window start stop step).choose (some anchor) axis = .ok c ↔
      (fitsOffset (anchor + start) = true ∧ fitsOffset (anchor + stop) = true) ∧
        chooseSlice (anchor + start) (some (anchor + stop)) step axis = .ok c := by
  simp only [choose, addOffsets?]
  by_cases hs : fitsOffset (anchor + start) = true
  · by_cases ht : fitsOffset (anchor + stop) = true <;> simp [hs, ht]
  · simp [hs]

theorem choose_of_not_anchored {s : Selector} (h : s.isAnchored = false) (anchor : Option Int)
    (axis : Axis) : s.choose anchor axis = s.choose none axis := by
  cases s with
  | fixed value => rfl
  | slice start stop step => rfl
  | window start stop step => simp [isAnchored] at h

theorem not_anchored_of_choose {s : Selector} {axis : Axis} {c : Choice}
    (h : s.choose none axis = .ok c) : s.isAnchored = false := by
  cases s with
  | fixed value => rfl
  | slice start stop step => rfl
  | window start stop step => simp [choose] at h

/-- A selector chooses a single value or the values of a slice. -/
theorem eq_singleton_or_chooseSlice {s : Selector} {anchor : Option Int} {axis : Axis} {c : Choice}
    (h : s.choose anchor axis = .ok c) :
    (∃ value, c.values = [value]) ∨
      ∃ start stop step, chooseSlice start stop step axis = .ok c := by
  cases s with
  | fixed value =>
    simp only [choose] at h
    split at h
    · obtain rfl := Except.ok.inj h
      exact .inl ⟨value, rfl⟩
    · simp at h
  | slice start stop step => exact .inr ⟨start, stop, step, h⟩
  | window start stop step =>
    cases anchor with
    | none => simp [choose] at h
    | some a => exact .inr ⟨_, _, _, (choose_window_eq_ok_iff.mp h).2⟩

/-- The chosen values ascend. -/
theorem pairwise_of_choose {s : Selector} {anchor : Option Int} {axis : Axis} {c : Choice}
    (h : s.choose anchor axis = .ok c) : c.values.Pairwise (· < ·) := by
  rcases eq_singleton_or_chooseSlice h with ⟨value, hc⟩ | ⟨start, stop, step, hslice⟩
  · rw [hc]
    exact List.pairwise_singleton _ value
  · exact pairwise_of_chooseSlice hslice

theorem ne_nil_of_chooseSlice {start : Int} {stop : Option Int} {step : Nat} {axis : Axis}
    {c : Choice} (h : chooseSlice start stop step axis = .ok c) : c.values ≠ [] := by
  obtain ⟨⟨hs, h0, hn, hstop⟩, rfl⟩ := chooseSlice_eq_ok_iff.mp h
  have hsize : start.toNat < axis.size := by omega
  have hend : start.toNat < sliceEnd stop axis := by
    cases stop with
    | none => exact hsize
    | some t =>
      have ht := hstop t rfl
      simp only [sliceEnd]
      omega
  -- The slice reaches the position at which it starts.
  have hfirst : start.toNat ∈ positions start.toNat (sliceEnd stop axis) step :=
    (mem_positions_iff hs).mpr ⟨0, by omega, hend⟩
  exact List.ne_nil_of_mem
    (List.mem_filterMap.mpr ⟨_, hfirst, List.getElem?_eq_getElem (l := axis.values) hsize⟩)

/-- Nothing chooses no value at all. -/
theorem ne_nil_of_choose {s : Selector} {anchor : Option Int} {axis : Axis} {c : Choice}
    (h : s.choose anchor axis = .ok c) : c.values ≠ [] := by
  rcases eq_singleton_or_chooseSlice h with ⟨value, hc⟩ | ⟨start, stop, step, hslice⟩
  · rw [hc]
    exact List.cons_ne_nil _ _
  · exact ne_nil_of_chooseSlice hslice

/-- A window is clipped exactly when its stop lies beyond the end of the axis. -/
theorem clipped_of_choose_window {start stop anchor : Int} {step : Nat} {axis : Axis} {c : Choice}
    (h : (window start stop step).choose (some anchor) axis = .ok c) :
    c.clipped = true ↔ axis.size < anchor + stop := by
  obtain ⟨-, rfl⟩ := chooseSlice_eq_ok_iff.mp (choose_window_eq_ok_iff.mp h).2
  simp [passesEnd, Int.lt_toNat]

/-- A window has a value for each of its positions that lies on the axis, and it has all of them if
it is not clipped. -/
theorem length_of_choose_window {start stop anchor : Int} {step : Nat} {axis : Axis} {c : Choice}
    (h : (window start stop step).choose (some anchor) axis = .ok c) :
    1 ≤ c.values.length ∧ c.values.length ≤ (stop - start).toNat ⌈/⌉ step ∧
      (c.clipped = false → c.values.length = (stop - start).toNat ⌈/⌉ step) := by
  obtain ⟨-, hslice⟩ := choose_window_eq_ok_iff.mp h
  obtain ⟨⟨-, h0, -⟩, -⟩ := chooseSlice_eq_ok_iff.mp hslice
  have hlength := length_of_chooseSlice hslice
  refine ⟨List.length_pos_iff.mpr (ne_nil_of_chooseSlice hslice), ?_, fun hclip => ?_⟩
  · have hle : sliceEnd (some (anchor + stop)) axis - (anchor + start).toNat ≤
        (stop - start).toNat := by
      simp only [sliceEnd]
      omega
    rw [hlength, Nat.ceilDiv_eq_add_pred_div, Nat.ceilDiv_eq_add_pred_div]
    exact Nat.div_le_div_right (by omega)
  · have hend : ¬(axis.size : Int) < anchor + stop := fun hpast => by
      simp [(clipped_of_choose_window h).mpr hpast] at hclip
    have heq : sliceEnd (some (anchor + stop)) axis - (anchor + start).toNat =
        (stop - start).toNat := by
      simp only [sliceEnd]
      omega
    rw [hlength, heq]

/-- A window without gaps chooses the values between its ends. -/
theorem mem_values_of_choose_window {start stop anchor : Int} {axis : Axis} {c : Choice} {n : Nat}
    (h : (window start stop 1).choose (some anchor) axis = .ok c) :
    n ∈ c.values ↔
      ∃ i : Nat, (anchor + start ≤ i ∧ i < anchor + stop) ∧ axis.get? i = some n := by
  obtain ⟨⟨-, h0, -⟩, rfl⟩ := chooseSlice_eq_ok_iff.mp (choose_window_eq_ok_iff.mp h).2
  simp only [List.mem_filterMap, mem_positions_iff Nat.one_pos, sliceEnd]
  constructor
  · rintro ⟨i, ⟨k, hk, hlt⟩, hi⟩
    exact ⟨i, by omega, hi⟩
  · rintro ⟨i, hle, hi⟩
    have hsize : i < axis.size := (List.getElem?_eq_some_iff.mp hi).1
    exact ⟨i, ⟨i - (anchor + start).toNat, by omega⟩, hi⟩

/-- A window that starts on the axis and is not empty chooses something. -/
theorem exists_choose_window {start stop anchor : Int} {axis : Axis} (h0 : 0 ≤ anchor + start)
    (hlt : start < stop) (hn : anchor + start < axis.size)
    (hfit : fitsOffset (anchor + stop) = true) :
    ∃ c, (window start stop 1).choose (some anchor) axis = .ok c := by
  have hstart : fitsOffset (anchor + start) = true := by
    have := fitsOffset_iff.mp hfit
    refine fitsOffset_iff.mpr ⟨?_, by omega⟩
    simp only [minOffset]
    omega
  refine ⟨_, choose_window_eq_ok_iff.mpr ⟨⟨hstart, hfit⟩, chooseSlice_eq_ok_iff.mpr ⟨?_, rfl⟩⟩⟩
  refine ⟨Nat.one_pos, h0, hn, ?_⟩
  rintro t ⟨⟩
  omega

end FileSeries.Selector
