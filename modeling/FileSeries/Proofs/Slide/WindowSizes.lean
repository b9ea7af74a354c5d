import FileSeries.Proofs.BoxPositions
import FileSeries.Proofs.SelectionFiles
import FileSeries.Proofs.SelectionPositions
import FileSeries.Proofs.Slide.StandingPattern
/-!
How many files the selections of a slide have. At each anchor the window takes values a fixed number
of positions apart, and what the other selectors choose does not depend on the anchor. Main
statement: all selections of a slide have the same size, but for the last one, whose window may be
cut short, exactly as long as the exact size of the first one is an index.
-/

namespace FileSeries

/-- The number of values that a selector chooses on an axis, as far as it needs no anchor. -/
def Selector.countOn (x : Selector) (axis : Axis) : Nat :=
  ((x.choose none axis).toOption.map (·.values.length)).getD 0

theorem Selector.countOn_of_choose {x : Selector} {anchor : Option Int} {axis : Axis}
    {c : Selector.Choice} (hx : x.isAnchored = false) (h : x.choose anchor axis = .ok c) :
    x.countOn axis = c.values.length := by
  rw [choose_of_not_anchored hx] at h
  rw [countOn, h]
  rfl

/-- The number of ways to choose a value in each dimension but `d`. -/
def Pattern.waysBeside (p : Pattern) (axes : List Axis) (d : Nat) : Nat :=
  ((List.zipWith Selector.countOn p.selectors axes).eraseIdx d).prod

theorem eraseIdx_eq_of_forall_ne {α : Type} {l m : List α} {d : Nat}
    (h : ∀ e, e ≠ d → l[e]? = m[e]?) : l.eraseIdx d = m.eraseIdx d := by
  apply List.ext_getElem?
  intro e
  rw [List.getElem?_eraseIdx, List.getElem?_eraseIdx]
  split
  · exact h e (by omega)
  · exact h (e + 1) (by omega)

namespace Selection

variable {p : Pattern} {s : Snapshot} {anchor : Option Int} {x : Selection} {d : Nat}

theorem getElem?_box_of_choose {selector : Selector} {axis : Axis} {c : Selector.Choice}
    (h : resolve p s anchor = .ok x) (hs : p.selectors[d]? = some selector)
    (hax : s.axes[d]? = some axis) (hc : selector.choose (usedAnchor p anchor) axis = .ok c) :
    x.box[d]? = some c.values := by
  obtain ⟨harity, cs, hcs, -, rfl⟩ := resolve_eq_ok_iff.mp h
  have hplace := (choosesAt_iff harity hcs).mp ⟨selector, axis, hs, hax, hc⟩
  rw [List.getElem?_map, hplace, Option.map_some]

/-- Away from the window the number of choices is that of the selector on its axis. -/
theorem getElem?_lengths_of_ne {e : Nat} (hw : Pattern.WellFormed p.selectors)
    (hd : p.anchorDimension? = some d) (h : resolve p s anchor = .ok x) (he : e ≠ d) :
    (x.box.map List.length)[e]? = (List.zipWith Selector.countOn p.selectors s.axes)[e]? := by
  obtain ⟨hlength, hslices⟩ := slices_of_resolve h
  rw [List.getElem?_map, List.getElem?_zipWith]
  cases hb : x.box[e]? with
  | none =>
    have hsel : p.selectors[e]? = none :=
      List.getElem?_eq_none (hlength.ge.trans (List.getElem?_eq_none_iff.mp hb))
    rw [hsel]
    rfl
  | some choices =>
    obtain ⟨c, ⟨selector, axis, hsel, hax, hc⟩, rfl⟩ := hslices e choices hb
    have hplain := Pattern.not_anchored_of_ne hw hd he hsel
    rw [hsel, hax, Option.map_some, ← Selector.countOn_of_choose hplain hc]

/-- The exact size is the number of values in the window times the number of choices beside it. -/
theorem prod_lengths_of_resolve {values : List Nat} (hw : Pattern.WellFormed p.selectors)
    (hd : p.anchorDimension? = some d) (h : resolve p s anchor = .ok x)
    (hv : x.box[d]? = some values) :
    (x.box.map List.length).prod = p.waysBeside s.axes d * values.length := by
  obtain ⟨hlt, rfl⟩ := List.getElem?_eq_some_iff.mp hv
  have hlt' : d < (x.box.map List.length).length := by rwa [List.length_map]
  have hbeside : (x.box.map List.length).eraseIdx d =
      (List.zipWith Selector.countOn p.selectors s.axes).eraseIdx d :=
    eraseIdx_eq_of_forall_ne fun e he => getElem?_lengths_of_ne hw hd h he
  calc (x.box.map List.length).prod
      = (x.box.map List.length)[d] * ((x.box.map List.length).eraseIdx d).prod :=
        (List.CommMonoid.mul_prod_eraseIdx hlt').symm
    _ = x.box[d].length * p.waysBeside s.axes d := by
        rw [List.getElem_map, hbeside, Pattern.waysBeside]
    _ = p.waysBeside s.axes d * x.box[d].length := Nat.mul_comm _ _

/-- The selection takes `count` values in dimension `d`, at the positions `first`, `first + step` and
so on, and combines each of them with `ways` choices in the other dimensions. -/
structure Takes (x : Selection) (d : Nat) (axis : Axis) (first : Int) (step count ways : Nat) :
    Prop where
  size : x.tuples.length = ways * count
  values : ∃ (values : List Nat) (i : Nat), x.box[d]? = some values ∧ values.length = count ∧
    i = first ∧ ∀ j < count, ∃ n, values[j]? = some n ∧ axis.get? (i + j * step) = some n

theorem length_tuples_eq_iff :
    x.tuples.length = (x.box.map List.length).prod ↔ (x.box.map List.length).prod ≤ maxIndex := by
  rw [length_tuples]
  exact Box.count_eq_size_iff

/-- A size that is the right one is an index. -/
theorem Takes.prod_le {axis : Axis} {first : Int} {step count : Nat}
    (htakes : x.Takes d axis first step count (p.waysBeside s.axes d))
    (hw : Pattern.WellFormed p.selectors) (hd : p.anchorDimension? = some d)
    (h : resolve p s anchor = .ok x) : (x.box.map List.length).prod ≤ maxIndex := by
  obtain ⟨values, -, hv, rfl, -⟩ := htakes.values
  rw [← length_tuples_eq_iff, prod_lengths_of_resolve hw hd h hv]
  exact htakes.size

end Selection

namespace Slide

variable {p : Pattern} {s : Snapshot} {r : AnchorRange} {slide : Slide} {raw : String}
  {d step : Nat} {lo hi a : Int} {axis : Axis} {x : Selection}

/-- What a window takes at any one anchor, if the size of the selection is an index. -/
theorem exists_takes_of_resolveAt (hw : Pattern.WellFormed p.selectors)
    (hd : p.anchorDimension? = some d) (hs : p.selectors[d]? = some (.window lo hi step))
    (hax : s.axes[d]? = some axis) (hx : resolveAt p s a = .ok x) :
    ∃ m, 1 ≤ m ∧ m ≤ (hi - lo).toNat ⌈/⌉ step ∧
      (x.clipped = false → m = (hi - lo).toNat ⌈/⌉ step) ∧
      (x.box.map List.length).prod = p.waysBeside s.axes d * m ∧
      ((x.box.map List.length).prod ≤ maxIndex →
        x.Takes d axis (a + lo) step m (p.waysBeside s.axes d)) := by
  obtain ⟨lo', hi', step', axis', c, hs', hax', hc, hclip⟩ := window_of_resolveAt hd hx
  obtain ⟨rfl, rfl, rfl⟩ : lo = lo' ∧ hi = hi' ∧ step = step' := by simpa [hs] using hs'
  obtain rfl := Option.some.inj (hax.symm.trans hax')
  obtain ⟨hpos, hle, hfull⟩ := Selector.length_of_choose_window hc
  obtain ⟨hfirst, -⟩ := Selector.start_of_choose_window hc
  have hvalues : x.box[d]? = some c.values := by
    apply Selection.getElem?_box_of_choose hx hs hax
    rwa [Selection.usedAnchor_of_anchorDimension? hd]
  have hprod := Selection.prod_lengths_of_resolve hw hd hx hvalues
  refine ⟨c.values.length, hpos, hle, fun hnot => hfull (hclip hnot), hprod, fun hindex => ⟨?_,
    c.values, (a + lo).toNat, hvalues, rfl, Int.toNat_of_nonneg hfirst, fun j hj => ?_⟩⟩
  · exact (Selection.length_tuples_eq_iff.mpr hindex).trans hprod
  · have hget : c.values[j]? = some c.values[j] := List.getElem?_eq_getElem hj
    rw [Selector.getElem?_of_chooseSlice (Selector.choose_window_eq_ok_iff.mp hc).2 hj] at hget
    exact ⟨c.values[j], List.getElem?_eq_getElem hj, hget⟩

/-- A slide whose selections all have a whole window, but for the last one. Each window starts where
the anchor says, so that it lies one step of the range after the one before. -/
structure Even (slide : Slide) (lo hi : Int) (step : Nat) (axis : Axis) : Prop where
  window : slide.pattern.selectors[slide.dimension]? = some (.window lo hi step) ∧ lo < hi ∧
    1 ≤ step
  onAxis : slide.snapshot.axes[slide.dimension]? = some axis
  whole : ∀ k, k + 1 < slide.size → ∃ anchor x, slide.anchorAt? k = some anchor ∧
    slide.selection k = .ok x ∧
    x.Takes slide.dimension axis (anchor + lo) step ((hi - lo).toNat ⌈/⌉ step)
      (slide.pattern.waysBeside slide.snapshot.axes slide.dimension)
  last : ∃ anchor x m, slide.anchorAt? (slide.size - 1) = some anchor ∧
    slide.selection (slide.size - 1) = .ok x ∧ 1 ≤ m ∧ m ≤ (hi - lo).toNat ⌈/⌉ step ∧
    (x.clipped = false → m = (hi - lo).toNat ⌈/⌉ step) ∧
    x.Takes slide.dimension axis (anchor + lo) step m
      (slide.pattern.waysBeside slide.snapshot.axes slide.dimension)
  shift : ∀ k, k + 1 < slide.size → ∃ anchor, slide.anchorAt? k = some anchor ∧
    slide.anchorAt? (k + 1) = some (anchor + slide.requested.step)

section Opened

variable (hw : Pattern.WellFormed p.selectors) (hr : r.Fits) (h : ofSnapshot s p r = .ok slide)
include hw hr h

/-- The window of the first selection is whole, unless there is no other one. -/
theorem prod_lengths_le_first {k : Nat} (hk : k < slide.size) {x₀ : Selection}
    (hx₀ : resolveAt p s r.start = .ok x₀) (hx : resolveAt p s (r.start + k * r.step) = .ok x) :
    (x.box.map List.length).prod ≤ (x₀.box.map List.length).prod := by
  obtain ⟨y, hy, hclip⟩ := exists_resolveAt_start hr h
  obtain rfl := Except.ok.inj (hx₀.symm.trans hy)
  by_cases hk0 : k = 0
  · rw [hk0, Nat.cast_zero, Int.zero_mul, Int.add_zero] at hx
    obtain rfl := Except.ok.inj (hx₀.symm.trans hx)
    exact le_rfl
  · obtain ⟨-, -, d, e, hd, -⟩ := ofSnapshot_eq_ok_iff.mp h
    obtain ⟨lo, hi, step, axis, c, hs, hax, -, -⟩ := window_of_resolveAt hd hx₀
    obtain ⟨m, -, hle, -, hprod, -⟩ := exists_takes_of_resolveAt hw hd hs hax hx
    obtain ⟨m₀, -, -, hfull, hprod₀, -⟩ := exists_takes_of_resolveAt hw hd hs hax hx₀
    rw [hprod, hprod₀, hfull (hclip (.inl (by omega)))]
    exact Nat.mul_le_mul_left _ hle

theorem prod_lengths_le_of_even {x₀ : Selection} (hx₀ : resolveAt p s r.start = .ok x₀)
    (heven : slide.Even lo hi step axis) : (x₀.box.map List.length).prod ≤ maxIndex := by
  have hpos := size_pos_of_ofSnapshot h
  have hsel := (selection_zero hr h).trans hx₀
  obtain ⟨-, -, d, e, hd, -, -, rfl⟩ := ofSnapshot_eq_ok_iff.mp h
  rcases Nat.eq_or_lt_of_le hpos with hone | hmore
  · -- The first selection is the last one too.
    obtain ⟨anchor, x, m, -, hx, -, -, -, htakes⟩ := heven.last
    rw [← hone] at hx
    obtain rfl := Except.ok.inj (hsel.symm.trans hx)
    exact htakes.prod_le hw hd hx₀
  · obtain ⟨anchor, x, -, hx, htakes⟩ := heven.whole 0 hmore
    obtain rfl := Except.ok.inj (hsel.symm.trans hx)
    exact htakes.prod_le hw hd hx₀

theorem exists_even_of_prod_lengths_le (hstop : slide.stop ≤ maxOffset) {x₀ : Selection}
    (hx₀ : resolveAt p s r.start = .ok x₀) (hindex : (x₀.box.map List.length).prod ≤ maxIndex) :
    ∃ lo hi step axis, slide.Even lo hi step axis := by
  have hpos := size_pos_of_ofSnapshot h
  have hat := fun k hk => (anchorAt?_of_stop_le (k := k) hstop h hk).1
  have hsel := fun k hk => selection_of_stop_le (k := k) hstop h hk
  have hres := fun k hk => exists_resolveAt_of_lt (k := k) hr h hk
  have hindices := fun k hk x hx =>
    (prod_lengths_le_first hw hr h (k := k) (x := x) hk hx₀ hx).trans hindex
  obtain ⟨-, -, d, e, hd, -, -, rfl⟩ := ofSnapshot_eq_ok_iff.mp h
  obtain ⟨lo, hi, step, axis, c, hs, hax, hc, -⟩ := window_of_resolveAt hd hx₀
  obtain ⟨⟨hstep, -, -, hlt⟩, -⟩ :=
    Selector.chooseSlice_eq_ok_iff.mp (Selector.choose_window_eq_ok_iff.mp hc).2
  have hnonempty := hlt _ rfl
  refine ⟨lo, hi, step, axis, ?_⟩
  constructor
  case window => exact ⟨hs, by omega, hstep⟩
  case onAxis => exact hax
  case whole =>
    intro k hk
    have hk' := Nat.lt_of_succ_lt hk
    obtain ⟨x, hx, hclip⟩ := hres k hk'
    obtain ⟨m, -, -, hm, -, htakes⟩ := exists_takes_of_resolveAt hw hd hs hax hx
    rw [← hm (hclip (.inl hk))]
    exact ⟨_, x, hat k hk', (hsel k hk').trans hx, htakes (hindices k hk' x hx)⟩
  case last =>
    have hk := Nat.sub_one_lt_of_lt hpos
    obtain ⟨x, hx, -⟩ := hres _ hk
    obtain ⟨m, hm1, hle, hm, -, htakes⟩ := exists_takes_of_resolveAt hw hd hs hax hx
    exact ⟨_, x, m, hat _ hk, (hsel _ hk).trans hx, hm1, hle, hm, htakes (hindices _ hk x hx)⟩
  case shift =>
    intro k hk
    refine ⟨_, hat k (Nat.lt_of_succ_lt hk), (hat (k + 1) hk).trans ?_⟩
    rw [Nat.cast_add_one, Int.add_mul, Int.one_mul, Int.add_assoc]

end Opened

/-- All files of every other row out of three, two rows at a time. -/
def rowPairs : Pattern := ⟨"i:i+3:2, :", [.window 0 3 2, .slice 0 none 1]⟩

def pairsToFive : AnchorRange := { stop := some 5, step := 3 }

def rowPairsOfFive : Slide := ⟨rowPairs, Selection.fiveRows, 0, pairsToFive, .asRequested 5, 0⟩

/-- Two values of the first number, and every value of the other 63. -/
def cornerPairs : Pattern where
  source := String.ofList (['i', ':', 'i', '+', '2'] ++ (List.replicate 63 [',', ':']).flatten)
  selectors := .window 0 2 1 :: List.replicate 63 (.slice 0 none 1)

def cornerPairsAtZero : Slide := ⟨cornerPairs, Selection.corners, 0, {}, .afterComplete 0, 0⟩

end Slide

end FileSeries
