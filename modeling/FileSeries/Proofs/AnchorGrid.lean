import FileSeries.AnchorRange
import Mathlib
/-!
The grid of anchors from a start in steps. Main statements: the numbers below `count` are those of
the anchors below the stop, `nth?` gives each of these anchors exactly, and `last?` gives the
greatest of them.
-/

namespace FileSeries.AnchorRange

/-- The numbers of a range are in the ranges in which they are kept. -/
structure Fits (r : AnchorRange) : Prop where
  start : fitsOffset r.start = true
  stop : ∀ stop, r.stop = some stop → fitsOffset stop = true
  step : fitsIndex r.step = true

theorem fits_iff {r : AnchorRange} : r.Fits ↔
    fitsOffset r.start = true ∧ r.stop.all fitsOffset = true ∧ fitsIndex r.step = true := by
  rw [Option.all_eq_true]
  exact ⟨fun h => ⟨h.start, h.stop, h.step⟩, fun ⟨hstart, hstop, hstep⟩ => ⟨hstart, hstop, hstep⟩⟩

instance (r : AnchorRange) : Decidable r.Fits := decidable_of_iff _ fits_iff.symm

/-- The anchors that steps from `start` lead to. -/
def grid (start : Int) (step : Nat) : Set Int := {a | ∃ k : Nat, a = start + k * step}

theorem mem_grid (start : Int) (step k : Nat) : start + k * step ∈ grid start step := ⟨k, rfl⟩

theorem le_of_mem_grid {start a : Int} {step : Nat} (h : a ∈ grid start step) : start ≤ a := by
  obtain ⟨k, rfl⟩ := h
  have hk : (0 : Int) ≤ k * step := by positivity
  omega

theorem add_step_le {j k : Nat} (start : Int) (step : Nat) (h : j < k) :
    start + j * step + step ≤ start + k * step := by
  have hmul : ((j : Int) + 1) * step ≤ k * step :=
    Int.mul_le_mul_of_nonneg_right (by omega) (by omega)
  rw [Int.add_mul] at hmul
  omega

theorem check_eq_ok_iff {r : AnchorRange} {u : Unit} :
    r.check = .ok u ↔ 0 < r.step ∧ 0 ≤ r.start := by
  unfold check
  split
  · simp_all
  · split <;> simp <;> omega

theorem lt_count_iff {start stop : Int} {step k : Nat} (hs : 0 < step) :
    k < count start stop step ↔ start + k * step < stop := by
  unfold count
  by_cases h : stop ≤ start
  · have hk := le_of_mem_grid (mem_grid start step k)
    simp only [h, if_true, Nat.not_lt_zero, false_iff]
    omega
  · rw [if_neg h, ← Nat.succ_le_iff, Nat.le_div_iff_mul_le hs, Nat.succ_mul]
    have hn : ((stop - start).toNat : Int) = stop - start := Int.toNat_of_nonneg (by omega)
    have hm : ((k * step : Nat) : Int) = k * step := by push_cast; rfl
    omega

theorem count_eq_zero_iff {start stop : Int} {step : Nat} (hs : 0 < step) :
    count start stop step = 0 ↔ stop ≤ start := by
  have h : 0 < count start stop step ↔ start + (0 : Nat) * step < stop := lt_count_iff hs
  simp only [Nat.cast_zero, Int.zero_mul, Int.add_zero] at h
  omega

theorem lt_and_le_of_count_eq_succ {start stop : Int} {step n : Nat} (hs : 0 < step)
    (h : count start stop step = n + 1) :
    start + n * step < stop ∧ stop ≤ start + n * step + step := by
  have hlt : ∀ k, k < count start stop step ↔ start + k * step < stop := fun k => lt_count_iff hs
  have hnext := mt (hlt (n + 1)).mpr (by omega)
  push_cast at hnext
  rw [Int.add_mul] at hnext
  exact ⟨(hlt n).mp (by omega), by omega⟩

theorem nth?_eq_some {start : Int} {k step : Nat} (h0 : 0 ≤ start)
    (h : start + k * step ≤ maxOffset) : nth? start k step = some (start + k * step) := by
  have hm : ((k * step : Nat) : Int) = k * step := by push_cast; rfl
  have hp := le_of_mem_grid (mem_grid start step k)
  have hf : fitsIndex (k * step) = true := by
    rw [fitsIndex, decide_eq_true_eq]
    simp only [maxIndex, maxOffset] at h ⊢
    omega
  have hi : (k * step : Int) ≤ maxOffset := by omega
  have ha : fitsOffset (start + k * step) = true := by
    simp only [fitsOffset_iff, minOffset]
    omega
  unfold nth?
  simp only [hf, hi, decide_true, Bool.and_self, if_true, addOffsets?_eq_some_iff, hm, ha,
    and_self]

theorem last?_eq_none_iff {start stop : Int} {step : Nat} (hs : 0 < step) (h0 : 0 ≤ start)
    (hm : stop ≤ maxOffset) : last? start stop step = none ↔ stop ≤ start := by
  unfold last?
  cases hc : count start stop step with
  | zero => simpa using (count_eq_zero_iff hs).mp hc
  | succ n =>
    have hn := (lt_and_le_of_count_eq_succ hs hc).1
    have hk := le_of_mem_grid (mem_grid start step n)
    simp only [nth?_eq_some h0 (show start + n * step ≤ maxOffset by omega), reduceCtorEq,
      false_iff]
    omega

theorem exists_mem_grid {start stop : Int} {step : Nat} (hs : 0 < step) (h : start < stop) :
    ∃ a ∈ grid start step, a < stop ∧ stop ≤ a + step := by
  obtain ⟨n, hn⟩ : ∃ n, count start stop step = n + 1 :=
    Nat.exists_eq_succ_of_ne_zero (mt (count_eq_zero_iff hs).mp (by omega))
  exact ⟨start + n * step, mem_grid start step n, lt_and_le_of_count_eq_succ hs hn⟩

/-- The last anchor below a stop is the one from which a step leads to it or beyond it. -/
theorem isGreatest_of_le_add {start stop a : Int} {step : Nat} (hs : 0 < step)
    (ha : a ∈ grid start step) (hlt : a < stop) (hle : stop ≤ a + step) :
    IsGreatest {b | b ∈ grid start step ∧ b < stop} a := by
  refine ⟨⟨ha, hlt⟩, ?_⟩
  obtain ⟨k, rfl⟩ := ha
  rintro b ⟨⟨j, rfl⟩, hb⟩
  by_contra hgt
  rcases lt_trichotomy k j with hkj | rfl | hjk
  · have := add_step_le start step hkj
    omega
  · exact hgt le_rfl
  · have := add_step_le start step hjk
    omega

theorem isGreatest_iff_last? {start stop a : Int} {step : Nat} (hs : 0 < step) (h0 : 0 ≤ start)
    (hm : stop ≤ maxOffset) :
    IsGreatest {b | b ∈ grid start step ∧ b < stop} a ↔ last? start stop step = some a := by
  unfold last?
  cases hc : count start stop step with
  | zero =>
    have hle := (count_eq_zero_iff hs).mp hc
    simp only [reduceCtorEq, iff_false]
    rintro ⟨⟨hgrid, ha⟩, -⟩
    have := le_of_mem_grid hgrid
    omega
  | succ n =>
    obtain ⟨hlt, hle⟩ := lt_and_le_of_count_eq_succ hs hc
    have hnth : nth? start n step = some (start + n * step) := nth?_eq_some h0 (by omega)
    have hmax := isGreatest_of_le_add hs ⟨n, rfl⟩ hlt hle
    simp only [hnth, Option.some.injEq]
    constructor
    · exact fun h => hmax.unique h
    · rintro rfl
      exact hmax

end FileSeries.AnchorRange
