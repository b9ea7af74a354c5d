import FileSeries.Proofs.Pattern.Canonical
import FileSeries.Proofs.SelectorChoice
import Mathlib
/-!
Slices as stretches of positions. Main statement: a slice or a window of a pattern chooses something
exactly if its stretch starts on the axis and is not empty; then it chooses the values at the
positions of the stretch, as far as these lie on the axis.
-/

namespace FileSeries.Selector

/-- Positions `step` apart, from `start` on and below `stop` if there is one. They are integers of
any size, on an axis or not. -/
structure Stretch where
  start : Int
  stop : Option Int
  step : Nat

/-- The stretch of a slice, or of a window at its anchor. -/
def stretch? (anchor : Option Int) : Selector → Option Stretch
  | fixed _ => none
  | slice start stop step => some ⟨start, stop, step⟩
  | window start stop step => anchor.map fun a => ⟨a + start, some (a + stop), step⟩

namespace Stretch

/-- Both ends are offsets. -/
def Fits (g : Stretch) : Prop := fitsOffset g.start = true ∧ ∀ t ∈ g.stop, fitsOffset t = true

/-- The stretch has a first position, and this one is on the axis. -/
structure StartsOn (g : Stretch) (axis : Axis) : Prop where
  nonneg : 0 ≤ g.start
  lt_size : g.start < axis.size
  lt_stop : ∀ t ∈ g.stop, g.start < t

/-- The end of the stretch, or of the axis if that comes first. -/
def stopOn (g : Stretch) (axis : Axis) : Int :=
  (g.stop.map (min · (axis.size : Int))).getD axis.size

/-- The values at the positions of the stretch are chosen, as far as these lie on the axis. -/
structure Gives (g : Stretch) (axis : Axis) (c : Choice) : Prop where
  values : ∀ k : Nat, c.values[k]? =
    if g.start + k * g.step < g.stopOn axis then axis.get? (g.start + k * g.step).toNat else none
  nonempty : c.values ≠ []
  ascending : c.values.Pairwise (· < ·)
  onAxis : ∀ v ∈ c.values, v ∈ axis.values
  clipped : c.clipped = true ↔ ∃ t ∈ g.stop, axis.size < t
  /-- The slice that ends with the axis chooses the same. -/
  trimmed : ∀ anchor, (slice g.start (some (g.stopOn axis)) g.step).choose anchor axis =
    .ok ⟨c.values, false⟩

variable {g : Stretch} {axis : Axis} {c : Choice}

theorem stopOn_eq_sliceEnd (h : g.StartsOn axis) :
    g.stopOn axis = (sliceEnd g.stop axis : Int) := by
  have h0 := h.nonneg
  have hlt := h.lt_stop
  unfold stopOn sliceEnd
  cases hstop : g.stop with
  | none => rfl
  | some t =>
    have ht := hlt t hstop
    simp only [Option.map_some, Option.getD_some]
    omega

theorem start_lt_stopOn (h : g.StartsOn axis) : g.start < g.stopOn axis := by
  have hsize := h.lt_size
  have hlt := h.lt_stop
  unfold stopOn
  cases hstop : g.stop with
  | none => exact hsize
  | some t => exact lt_min (hlt t hstop) hsize

theorem exists_chooseSlice_iff (hstep : 0 < g.step) :
    (∃ c, chooseSlice g.start g.stop g.step axis = .ok c) ↔ g.StartsOn axis := by
  simp only [chooseSlice_eq_ok_iff]
  constructor
  · rintro ⟨c, ⟨-, h0, hsize, hstop⟩, -⟩
    exact ⟨h0, hsize, hstop⟩
  · intro h
    exact ⟨_, ⟨hstep, h.nonneg, h.lt_size, h.lt_stop⟩, rfl⟩

theorem getElem?_of_startsOn (h : g.StartsOn axis)
    (hc : chooseSlice g.start g.stop g.step axis = .ok c) (k : Nat) : c.values[k]? =
      if g.start + k * g.step < g.stopOn axis then axis.get? (g.start + k * g.step).toNat
      else none := by
  have hstep : 0 < g.step := (chooseSlice_eq_ok_iff.mp hc).1.1
  have h0 := h.nonneg
  have hcast : g.start + k * g.step = ((g.start.toNat + k * g.step : Nat) : Int) := by
    push_cast
    omega
  -- There is a `k`-th value as long as its position lies before the end.
  have hlength : k < c.values.length ↔ g.start + k * g.step < g.stopOn axis := by
    rw [length_of_chooseSlice hc, stopOn_eq_sliceEnd h, hcast, ← not_le,
      ceilDiv_le_iff_le_mul hstep, Nat.mul_comm]
    omega
  by_cases hk : k < c.values.length
  · rw [if_pos (hlength.mp hk), getElem?_of_chooseSlice hc hk, hcast, Int.toNat_natCast]
  · rw [if_neg (mt hlength.mpr hk), List.getElem?_eq_none (not_lt.mp hk)]

/-- To end a slice with its axis changes what it chooses in nothing but the clipping. -/
theorem chooseSlice_stopOn (h : g.StartsOn axis)
    (hc : chooseSlice g.start g.stop g.step axis = .ok c) :
    chooseSlice g.start (some (g.stopOn axis)) g.step axis = .ok ⟨c.values, false⟩ := by
  obtain ⟨⟨hstep, -⟩, hvalue⟩ := chooseSlice_eq_ok_iff.mp hc
  have hend := stopOn_eq_sliceEnd h
  have hle := sliceEnd_le g.stop axis
  rw [chooseSlice_eq_ok_iff]
  constructor
  · refine ⟨hstep, h.nonneg, h.lt_size, fun t ht => ?_⟩
    rw [← Option.some.inj ht]
    exact start_lt_stopOn h
  · have hsame : sliceEnd (some (g.stopOn axis)) axis = sliceEnd g.stop axis := by
      rw [hend, sliceEnd, Int.toNat_natCast, min_eq_left hle]
    have hnot : passesEnd (some (g.stopOn axis)) axis = false := by
      rw [hend, passesEnd, Option.any_some, Int.toNat_natCast, decide_eq_false_iff_not, not_lt]
      exact hle
    rw [hsame, hnot, hvalue]

theorem gives_of_chooseSlice (hc : chooseSlice g.start g.stop g.step axis = .ok c) :
    g.Gives axis c := by
  obtain ⟨⟨hstep, -⟩, hvalue⟩ := chooseSlice_eq_ok_iff.mp hc
  have h : g.StartsOn axis := (exists_chooseSlice_iff hstep).mp ⟨c, hc⟩
  constructor
  case values => exact getElem?_of_startsOn h hc
  case nonempty => exact ne_nil_of_chooseSlice hc
  case ascending => exact pairwise_of_chooseSlice hc
  case onAxis =>
    intro v hv
    rw [hvalue] at hv
    obtain ⟨i, -, hi⟩ := List.mem_filterMap.mp hv
    exact List.mem_of_getElem? hi
  case clipped =>
    simp only [hvalue, passesEnd, Option.any_eq_true, decide_eq_true_eq, Int.lt_toNat,
      Option.mem_def]
  case trimmed => exact fun _ => chooseSlice_stopOn h hc

end Stretch

theorem choose_eq_ok_iff {x : Selector} (hx : ∀ value, x ≠ .fixed value) {anchor : Option Int}
    {axis : Axis} {c : Choice} :
    x.choose anchor axis = .ok c ↔ ∃ g, x.stretch? anchor = some g ∧
      (x.isAnchored = true → g.Fits) ∧ chooseSlice g.start g.stop g.step axis = .ok c := by
  cases x with
  | fixed value => exact absurd rfl (hx value)
  | slice start stop step => simp [choose, stretch?, isAnchored]
  | window start stop step =>
    cases anchor with
    | none => simp [choose, stretch?]
    | some a =>
      simp [choose_window_eq_ok_iff, stretch?, isAnchored, Stretch.Fits]

theorem step_of_stretch? {x : Selector} (h : x.Fits) {anchor : Option Int} {g : Stretch}
    (hg : x.stretch? anchor = some g) : 0 < g.step := by
  cases x with
  | fixed value => simp [stretch?] at hg
  | slice start stop step =>
    obtain rfl := Option.some.inj hg
    exact h.2.2.1
  | window start stop step =>
    obtain ⟨a, -, rfl⟩ := Option.map_eq_some_iff.mp hg
    exact h.2.2.1

/-- The slices and windows of a pattern choose something exactly if their stretch starts on the
axis, and then what their stretch gives. -/
theorem chooses_stretch {raw : String} {p : Pattern} {x : Selector}
    (h : Pattern.parse raw = .ok p) (hx : x ∈ p.selectors) (hslice : ∀ value, x ≠ .fixed value)
    (anchor : Option Int) (axis : Axis) :
    ((∃ c, x.choose anchor axis = .ok c) ↔
      ∃ g, x.stretch? anchor = some g ∧ (x.isAnchored = true → g.Fits) ∧ g.StartsOn axis) ∧
    ∀ g c, x.stretch? anchor = some g → x.choose anchor axis = .ok c → g.Gives axis c := by
  have hfits := (Pattern.wellFormed_of_parse h).fits x hx
  simp only [choose_eq_ok_iff hslice]
  constructor
  · constructor
    · rintro ⟨c, g, hg, hoffsets, hc⟩
      have hstep := step_of_stretch? hfits hg
      exact ⟨g, hg, hoffsets, (Stretch.exists_chooseSlice_iff hstep).mp ⟨c, hc⟩⟩
    · rintro ⟨g, hg, hoffsets, hstarts⟩
      have hstep := step_of_stretch? hfits hg
      obtain ⟨c, hc⟩ := (Stretch.exists_chooseSlice_iff hstep).mpr hstarts
      exact ⟨c, g, hg, hoffsets, hc⟩
  · rintro g c hg ⟨g', hg', -, hc⟩
    obtain rfl := Option.some.inj (hg.symm.trans hg')
    exact Stretch.gives_of_chooseSlice hc

set_option maxRecDepth 4000 in
/-- A window that goes on behind the end of an axis with four values. -/
theorem clippedWindow_gives_stretch :
    ∃ p x, Pattern.parse "i-1 : i+4 : 2" = .ok p ∧ x ∈ p.selectors ∧
      x.choose (some 2) ⟨[3, 5, 8, 9], by decide⟩ = .ok ⟨[5, 9], true⟩ ∧
      x.stretch? (some 2) = some ⟨1, some 6, 2⟩ ∧
      Stretch.Gives ⟨1, some 6, 2⟩ ⟨[3, 5, 8, 9], by decide⟩ ⟨[5, 9], true⟩ := by
  have h : Pattern.parse "i-1 : i+4 : 2" = .ok ⟨"i-1 : i+4 : 2", [.window (-1) 4 2]⟩ := by cbv
  have hx : Selector.window (-1) 4 2 ∈ [Selector.window (-1) 4 2] := List.mem_singleton.mpr rfl
  obtain ⟨-, hgives⟩ := chooses_stretch h hx (by simp) (some 2) ⟨[3, 5, 8, 9], by decide⟩
  exact ⟨_, _, h, hx, rfl, rfl, hgives _ _ rfl rfl⟩

end FileSeries.Selector
