import FileSeries.Proofs.Pattern.Canonical
import FileSeries.Proofs.Slide.OverlongSlice
/-!
Patterns that stand still. At an anchor a window is a slice, and a slice that chooses something has
no bound that its text could not be read back from. Main statement: the pattern with this slice in
place of the window, written and read again, selects the files of the slide without any anchor.
-/

namespace FileSeries

namespace Selector

variable {x y : Selector} {start stop anchor : Int} {step : Nat} {axis : Axis} {c : Choice}

theorem atAnchor?_window_eq_some_iff : (window start stop step).atAnchor? anchor = some y ↔
    (fitsOffset (anchor + start) = true ∧ fitsOffset (anchor + stop) = true) ∧
      slice (anchor + start) (some (anchor + stop)) step = y := by
  simp only [atAnchor?, Option.bind_eq_bind, Option.bind_eq_some_iff, addOffsets?_eq_some_iff]
  constructor
  · rintro ⟨first, ⟨hfirst, rfl⟩, last, ⟨hlast, rfl⟩, hy⟩
    exact ⟨⟨hfirst, hlast⟩, Option.some.inj hy⟩
  · rintro ⟨⟨hfirst, hlast⟩, rfl⟩
    exact ⟨_, ⟨hfirst, rfl⟩, _, ⟨hlast, rfl⟩, rfl⟩

theorem atAnchor?_of_not_anchored (h : x.isAnchored = false) : x.atAnchor? anchor = some x := by
  cases x with
  | fixed value => rfl
  | slice start stop step => rfl
  | window start stop step => simp [isAnchored] at h

theorem exists_atAnchor?_of_choose (h : x.choose (some anchor) axis = .ok c) :
    ∃ y, x.atAnchor? anchor = some y := by
  cases x with
  | fixed value => exact ⟨_, rfl⟩
  | slice start stop step => exact ⟨_, rfl⟩
  | window start stop step =>
    exact ⟨_, atAnchor?_window_eq_some_iff.mpr ⟨(choose_window_eq_ok_iff.mp h).1, rfl⟩⟩

/-- At its anchor a selector chooses what it has become there. -/
theorem choose_of_atAnchor? (hy : x.atAnchor? anchor = some y)
    (h : x.choose (some anchor) axis = .ok c) : y.choose none axis = .ok c := by
  cases x with
  | fixed value => exact Option.some.inj hy ▸ h
  | slice start stop step => exact Option.some.inj hy ▸ h
  | window start stop step =>
    obtain ⟨-, rfl⟩ := atAnchor?_window_eq_some_iff.mp hy
    exact (choose_window_eq_ok_iff.mp h).2

theorem not_anchored_of_atAnchor? (hy : x.atAnchor? anchor = some y) : y.isAnchored = false := by
  cases x with
  | fixed value => exact Option.some.inj hy ▸ rfl
  | slice start stop step => exact Option.some.inj hy ▸ rfl
  | window start stop step =>
    obtain ⟨-, rfl⟩ := atAnchor?_window_eq_some_iff.mp hy
    rfl

theorem fits_of_atAnchor? (hx : x.Fits) (hy : x.atAnchor? anchor = some y) : y.Fits := by
  cases x with
  | fixed value => exact Option.some.inj hy ▸ hx
  | slice start stop step => exact Option.some.inj hy ▸ hx
  | window start stop step =>
    obtain ⟨⟨hfirst, hlast⟩, rfl⟩ := atAnchor?_window_eq_some_iff.mp hy
    exact ⟨hfirst, fun t ht => Option.some.inj ht ▸ hlast, hx.2.2⟩

/-- A slice that chooses something has no negative bound. -/
theorem nonneg_of_mem_bounds (h : x.choose none axis = .ok c) {n : Int} (hn : n ∈ x.bounds) :
    0 ≤ n := by
  cases x with
  | fixed value => simp [bounds] at hn
  | window start stop step => simp [choose] at h
  | slice start stop step =>
    obtain ⟨⟨-, h0, -, hstop⟩, -⟩ := chooseSlice_eq_ok_iff.mp h
    rw [bounds, List.mem_cons, Option.mem_toList] at hn
    rcases hn with rfl | hn
    · exact h0
    · exact h0.trans (hstop n hn).le

end Selector

namespace Pattern

variable {p : Pattern} {d : Nat} {x y : Selector} {anchor : Int}

/-- The window is the only selector that uses the anchor. -/
theorem countP_replace (hw : WellFormed p.selectors) (hd : p.anchorDimension? = some d)
    (hy : y.isAnchored = false) : (p.replace d y).selectors.countP Selector.isAnchored = 0 := by
  obtain ⟨hlt, hget, -⟩ := List.findIdx?_eq_some_iff_getElem.mp hd
  have honce := hw.once
  have hpos := List.countP_pos_iff.mpr ⟨_, List.getElem_mem hlt, hget⟩
  rw [replace, List.countP_set hlt, hget, hy]
  simp only [if_true, Bool.false_eq_true, if_false]
  omega

theorem not_anchored_of_ne {e : Nat} (hw : WellFormed p.selectors)
    (hd : p.anchorDimension? = some d) (he : e ≠ d) (hx : p.selectors[e]? = some x) :
    x.isAnchored = false := by
  have hnone : (p.replace d (.fixed 0)).selectors.countP Selector.isAnchored = 0 :=
    countP_replace hw hd rfl
  have hmem : (p.replace d (.fixed 0)).selectors[e]? = some x := by
    rw [replace, List.getElem?_set_ne he.symm, hx]
  simpa using List.countP_eq_zero.mp hnone x (List.mem_of_getElem? hmem)

section Replaced

variable (hw : WellFormed p.selectors) (hd : p.anchorDimension? = some d)
  (hx : p.selectors[d]? = some x) (hy : x.atAnchor? anchor = some y)
include hw hd hx hy

/-- Each selector is what the old one in its place becomes at the anchor. -/
theorem exists_atAnchor?_of_replace {e : Nat} {z : Selector}
    (hz : (p.replace d y).selectors[e]? = some z) :
    ∃ w, p.selectors[e]? = some w ∧ w.atAnchor? anchor = some z := by
  by_cases he : d = e
  · subst he
    rw [replace, List.getElem?_set_self (List.getElem?_eq_some_iff.mp hx).1] at hz
    exact ⟨x, hx, Option.some.inj hz ▸ hy⟩
  · rw [replace, List.getElem?_set_ne he] at hz
    have hplain := not_anchored_of_ne hw hd (Ne.symm he) hz
    exact ⟨z, hz, Selector.atAnchor?_of_not_anchored hplain⟩

theorem wellFormed_replace : WellFormed (p.replace d y).selectors where
  nonempty := by
    apply List.ne_nil_of_length_pos
    rw [replace, List.length_set]
    exact List.length_pos_iff.mpr hw.nonempty
  fits z hz := by
    obtain ⟨e, he⟩ := List.getElem?_of_mem hz
    obtain ⟨w, hmem, hat⟩ := exists_atAnchor?_of_replace hw hd hx hy he
    exact Selector.fits_of_atAnchor? (hw.fits w (List.mem_of_getElem? hmem)) hat
  once :=
    (countP_replace hw hd (Selector.not_anchored_of_atAnchor? hy)).trans_le (Nat.zero_le 1)

theorem chooseAll_replace {axes : List Axis} {cs : List Selector.Choice}
    (hl : p.selectors.length = axes.length)
    (hcs : Selection.chooseAll (some anchor) 0 p.selectors axes = .ok cs) :
    Selection.chooseAll none 0 (p.replace d y).selectors axes = .ok cs := by
  obtain ⟨hc, hall⟩ := (Selection.chooseAll_eq_ok_iff_getElem? hl).mp hcs
  have hlength : (p.replace d y).selectors.length = p.selectors.length := List.length_set
  refine (Selection.chooseAll_eq_ok_iff_getElem? (hlength.trans hl)).mpr
    ⟨hc.trans hlength.symm, fun e z axis c hz hax hce => ?_⟩
  obtain ⟨w, hw', hat⟩ := exists_atAnchor?_of_replace hw hd hx hy hz
  exact Selector.choose_of_atAnchor? hat (hall e w axis c hw' hax hce)

/-- The text of a pattern that chooses something in each dimension is read back. -/
theorem exists_parse_text_replace {axes : List Axis} {cs : List Selector.Choice}
    (hl : p.selectors.length = axes.length)
    (hcs : Selection.chooseAll (some anchor) 0 p.selectors axes = .ok cs) :
    ∃ q, parse (p.replace d y).text = .ok q ∧ q.selectors = (p.replace d y).selectors := by
  have hlength : (p.replace d y).selectors.length = axes.length := List.length_set.trans hl
  obtain ⟨hc, hall⟩ := (Selection.chooseAll_eq_ok_iff_getElem? hlength).mp
    (chooseAll_replace hw hd hx hy hl hcs)
  refine exists_parse_intercalate (wellFormed_replace hw hd hx hy) (fun z hz hmin => ?_)
    (List.forall_mem_singleton.mpr (by decide))
  obtain ⟨e, he⟩ := List.getElem?_of_mem hz
  obtain ⟨axis, hax⟩ := exists_getElem?_of_length_eq hlength he
  obtain ⟨c, hce⟩ := exists_getElem?_of_length_eq hc.symm he
  have := Selector.nonneg_of_mem_bounds (hall e z axis c he hax hce) hmin
  exact absurd this (by decide)

end Replaced

end Pattern

namespace Slide

variable {p : Pattern} {s : Snapshot} {r : AnchorRange} {slide : Slide} {raw : String}

/-- The numbers of a slide are in the ranges in which they are kept. -/
structure Fits (slide : Slide) : Prop where
  requested : slide.requested.Fits
  stop : fitsOffset slide.stop = true

/-- The pattern that is a slide's own one at an anchor, with a slice for its window. It is read back
from its text, needs no anchor and resolves to the files of the selection at this anchor. -/
structure StandsAt (slide : Slide) (anchor : Int) (slice : Selector) (x : Selection)
    (q : Pattern) : Prop where
  window : ∃ start stop step,
    slide.pattern.selectors[slide.dimension]? = some (.window start stop step) ∧
      (Selector.window start stop step).atAnchor? anchor = some slice
  text : Pattern.parse (slide.pattern.replace slide.dimension slice).text = .ok q
  selectors : q.selectors = slide.pattern.selectors.set slide.dimension slice
  anchorFree : q.anchorDimension? = none
  resolves : ∃ y, Selection.resolve q slide.snapshot none = .ok y ∧ x.SameFiles y

theorem standsAt_of_resolveAt {anchor : Int} {x : Selection} (hp : Pattern.parse raw = .ok p)
    (h : ofSnapshot s p r = .ok slide) (hx : resolveAt p s anchor = .ok x) :
    ∃ slice q, slide.StandsAt anchor slice x q := by
  obtain ⟨-, hn, d, e, hd, -, -, rfl⟩ := ofSnapshot_eq_ok_iff.mp h
  have hw := Pattern.wellFormed_of_parse hp
  obtain ⟨-, cs, hcs, -⟩ := Selection.resolve_eq_ok_iff.mp hx
  rw [Selection.usedAnchor_of_anchorDimension? hd] at hcs
  obtain ⟨start, stop, step, axis, c, hsel, -, hc, -⟩ := window_of_resolveAt hd hx
  obtain ⟨slice, hslice⟩ := Selector.exists_atAnchor?_of_choose hc
  obtain ⟨q, hq, hselectors⟩ := Pattern.exists_parse_text_replace hw hd hsel hslice hn hcs
  have hfree : q.anchorDimension? = none := by
    rw [Pattern.anchorDimension?, hselectors]
    exact Pattern.anchoredIn_eq_none_iff.mpr
      (Pattern.countP_replace hw hd (Selector.not_anchored_of_atAnchor? hslice))
  have hnone : Selection.usedAnchor q none = none := by simp [Selection.usedAnchor]
  have harity : q.arity = p.arity := by
    rw [Pattern.arity, hselectors]
    exact Pattern.arity_replace p d slice
  have hy := Selection.resolve_of_chooseAll (q := q) (b := none) harity (fun cs' hcs' => ?_) hx
  · exact ⟨slice, q, ⟨start, stop, step, hsel, hslice⟩, hq, hselectors, hfree, _, hy,
      x.sameFiles_withAnchor _⟩
  · rw [Selection.usedAnchor_of_anchorDimension? hd] at hcs'
    rw [hnone, hselectors]
    exact Pattern.chooseAll_replace hw hd hsel hslice hn hcs'

/-- Each selection of a slide is that of a pattern without a window. -/
theorem exists_standsAt_of_lt {k : Nat} (hp : Pattern.parse raw = .ok p)
    (h : ofSnapshot s p r = .ok slide) (hfits : slide.Fits) (hk : k < slide.size) :
    ∃ anchor slice x q, slide.anchorAt? k = some anchor ∧ slide.selection k = .ok x ∧
      slide.StandsAt anchor slice x q := by
  obtain ⟨-, -, hreq⟩ := fields_of_ofSnapshot h
  have hr : r.Fits := hreq ▸ hfits.requested
  have hat := (anchorAt?_of_stop_le (fitsOffset_iff.mp hfits.stop).2 h hk).1
  obtain ⟨x, hx, -⟩ := exists_resolveAt_of_lt hr h hk
  obtain ⟨slice, q, hstands⟩ := standsAt_of_resolveAt hp h hx
  exact ⟨_, slice, x, q, hat, (selection_of_anchorAt? h hat).trans hx, hstands⟩

set_option maxRecDepth 4000 in
/-- The last selection of `i:i+3:2` over eight files is that of `6:9:2`. -/
theorem everyOther_stands : ∃ x q, everyOtherOfEight.Fits ∧
    everyOtherOfEight.selection 3 = .ok x ∧ Pattern.parse "6:9:2" = .ok q ∧
      everyOtherOfEight.StandsAt 6 (.slice 6 (some 9) 2) x q := by
  have hp : Pattern.parse "i:i+3:2" = .ok everyOther := by cbv
  have hfits : everyOtherOfEight.Fits := ⟨toEight_fits, rfl⟩
  obtain ⟨anchor, slice, x, q, hat, hx, hstands⟩ :=
    exists_standsAt_of_lt (s := eightFiles) (r := toEight) (k := 3) hp everyOtherOfEight_opens hfits
      (by decide)
  obtain rfl : 6 = anchor := Option.some.inj hat
  obtain ⟨start, stop, step, hwindow, hslice⟩ := hstands.window
  obtain ⟨rfl, rfl, rfl⟩ : 0 = start ∧ 3 = stop ∧ 2 = step := by
    simpa [everyOtherOfEight, everyOther] using hwindow
  obtain rfl : .slice 6 (some 9) 2 = slice := Option.some.inj hslice
  exact ⟨x, q, hfits, hx, hstands.text, hstands⟩

end Slide

end FileSeries
