import FileSeries.Proofs.Slide.Selections
/-!
Slides that differ in their requested stop only. Whether an anchor below the stop belongs to the
slide does not depend on the stop. Main statement: a later stop takes no selection away, and a stop
adds at most one selection to those of the slide without one.
-/

namespace FileSeries

open AnchorRange (grid)

/-- The range with another requested stop. -/
def AnchorRange.withStop (r : AnchorRange) (stop : Option Int) : AnchorRange := { r with stop }

theorem AnchorRange.Fits.withStop_some {r : AnchorRange} {t : Int} (hr : r.Fits)
    (ht : fitsOffset t = true) : (r.withStop (some t)).Fits :=
  ⟨hr.start, fun _ h => Option.some.inj h ▸ ht, hr.step⟩

theorem AnchorRange.Fits.withStop_none {r : AnchorRange} (hr : r.Fits) :
    (r.withStop none).Fits where
  start := hr.start
  stop t h := absurd h (Option.some_ne_none t).symm
  step := hr.step

namespace Slide

variable {p : Pattern} {s : Snapshot} {r : AnchorRange} {slide a b : Slide} {anchor t stop : Int}

/-- The anchors that belong to a slide if its stop lies beyond them: those of the row of complete
selections, one within a step of its end if something resolves there, and the start. -/
inductive Admits (p : Pattern) (s : Snapshot) (start : Int) (step : Nat) (anchor : Int) : Prop
  | row (h : anchor ∈ completeRow p s start)
  | trailing {last : Int} (hl : IsGreatest (completeRow p s start) last)
      (hlt : anchor < last + step) (h : resolvesAt p s anchor = true)
  | onlyFirst (hi : isCompleteAt p s start = false) (h : anchor = start)

theorem mem_completeRow_iff_le {start last : Int} (hl : IsGreatest (completeRow p s start) last)
    (hstart : start ≤ anchor) : anchor ∈ completeRow p s start ↔ anchor ≤ last :=
  ⟨fun h => hl.2 h, fun h => ⟨hstart, fun c hc hc' => hl.1.2 c hc (hc'.trans h)⟩⟩

theorem admits_of_stopRule (hc : r.check = .ok ()) (h : StopRule p s r stop)
    (ha : anchor ∈ grid r.start r.step) (hlt : anchor < stop) :
    Admits p s r.start r.step anchor := by
  have hstart := AnchorRange.le_of_mem_grid ha
  cases h with
  | onlyFirst hs hlt' hf hi => exact .onlyFirst hi (by omega)
  | @row last stop hb hl h =>
    by_cases hle : anchor ≤ last
    · exact .row ((mem_completeRow_iff_le hl hstart).mpr hle)
    · have hres := (resolvesAt_of_stopAfter hc hl h ha hlt).1
      have hstep := (AnchorRange.check_eq_ok_iff.mp hc).1
      refine .trailing hl ?_ hres
      cases h <;> omega

/-- Every admitted anchor below the requested stop lies below the stop of the slide. -/
theorem lt_of_admits (hc : r.check = .ok ()) (h : StopRule p s r stop)
    (ha : anchor ∈ grid r.start r.step) (hs : r.stop = some t) (hlt : anchor < t)
    (hadm : Admits p s r.start r.step anchor) : anchor < stop := by
  have hstep := (AnchorRange.check_eq_ok_iff.mp hc).1
  cases h with
  | onlyFirst hs' hlt' hf hi =>
    cases hadm with
    | row h => simp [isCompleteAt_start_of_mem h] at hi
    | trailing hl _ h => simp [isCompleteAt_start_of_mem hl.1] at hi
    | onlyFirst _ h => omega
  | @row last stop hb hl h =>
    have hreach : anchor ≤ last ∨ anchor < last + r.step ∧ resolvesAt p s anchor = true := by
      cases hadm with
      | row h => exact .inl (hl.2 h)
      | trailing hl' hlt' h => exact .inr ⟨hl'.unique hl ▸ hlt', h⟩
      | onlyFirst hi _ => simp [isCompleteAt_start_of_mem hl.1] at hi
    cases h with
    | row hs' => simp [hs] at hs'
    | trailing hs' ht =>
      obtain rfl := Option.some.inj (hs.symm.trans hs')
      omega
    | noTrailing hs' ht =>
      obtain rfl := Option.some.inj (hs.symm.trans hs')
      have hle : anchor ≤ last := by
        by_contra hgt
        obtain ⟨hnear, hres⟩ := hreach.resolve_left hgt
        -- Beyond the row there is room for one anchor, and that is the one that was left out.
        obtain ⟨c, hgreatest, -, hno⟩ := ht
        have hself := AnchorRange.isGreatest_of_le_add hstep ha
          (show anchor < min t (last + r.step) by omega) (by omega)
        obtain rfl := hself.unique hgreatest
        simp [hres] at hno
      omega

theorem le_requested_of_stopRule (h : StopRule p s r stop) (hs : r.stop = some t) : stop ≤ t := by
  cases h with
  | onlyFirst hs' hlt =>
    obtain rfl := Option.some.inj (hs.symm.trans hs')
    omega
  | row hb hl h =>
    cases h with
    | row hs' => simp [hs] at hs'
    | trailing hs' =>
      obtain rfl := Option.some.inj (hs.symm.trans hs')
      exact min_le_left _ _
    | noTrailing hs' =>
      obtain rfl := Option.some.inj (hs.symm.trans hs')
      exact min_le_left _ _

theorem lt_stop_iff_mem_completeRow (h : StopRule p s r stop) (hs : r.stop = none)
    (hstart : r.start ≤ anchor) : anchor < stop ↔ anchor ∈ completeRow p s r.start := by
  cases h with
  | onlyFirst hs' => simp [hs] at hs'
  | row hb hl h =>
    cases h with
    | row => rw [mem_completeRow_iff_le hl hstart, Int.lt_add_one_iff]
    | trailing hs' => simp [hs] at hs'
    | noTrailing hs' => simp [hs] at hs'

/-- The anchors of all selections in order. -/
def anchors (slide : Slide) : List Int := (List.range slide.size).filterMap slide.anchorAt?

section Anchors

variable (hr : r.Fits) (hmax : r.stop = none → isCompleteAt p s maxOffset = false)
  (h : ofSnapshot s p r = .ok slide)
include hr hmax h

theorem anchors_eq :
    slide.anchors = (List.range slide.size).map fun k : Nat => r.start + k * r.step := by
  rw [anchors, ← List.filterMap_eq_map]
  apply List.filterMap_congr
  intro k hk
  exact (anchorAt?_of_lt hr hmax h (List.mem_range.mp hk)).1

theorem length_anchors : slide.anchors.length = slide.size := by
  rw [anchors_eq hr hmax h, List.length_map, List.length_range]

theorem getLast?_anchors :
    slide.anchors.getLast? = some (r.start + (slide.size - 1 : Nat) * r.step) := by
  have hpos := size_pos_of_ofSnapshot h
  rw [anchors_eq hr hmax h, List.getLast?_map, List.getLast?_range, if_neg (by omega)]
  rfl

theorem le_of_getLast?_anchors {last : Int} (hlast : slide.anchors.getLast? = some last) {k : Nat}
    (hk : k < slide.size) : r.start + k * r.step ≤ last := by
  rw [getLast?_anchors hr hmax h, Option.some.injEq] at hlast
  have hle : (k : Int) ≤ (slide.size - 1 : Nat) := by omega
  rw [← hlast]
  gcongr

theorem selections_eq : slide.selections = slide.anchors.mapM (resolveAt p s) := by
  rw [anchors_eq hr hmax h, List.mapM_map, selections]
  apply Outcome.mapM_congr
  intro k hk
  exact selection_of_lt hr hmax h (List.mem_range.mp hk)

theorem exists_selections : ∃ xs, slide.selections = .ok xs :=
  exists_selections_iff.mpr fun _ hk =>
    (exists_selection_of_lt hr hmax h hk).imp fun _ hx => hx.1

end Anchors

/-- A slide whose anchors and selections are the first ones of another slide. -/
structure Begins (a b : Slide) : Prop where
  sizes : a.anchors.length = a.size ∧ b.anchors.length = b.size
  anchors : a.anchors <+: b.anchors
  selections : ∃ xs ys, a.Listed xs ∧ b.Listed ys ∧ xs <+: ys

/-- A row of complete selections may be as long as it likes below a requested stop. -/
theorem complete_of_explicit (h : (r.withStop (some t)).stop = none) :
    isCompleteAt p s maxOffset = false := absurd h (Option.some_ne_none t)

theorem exists_ofSnapshot_withStop (hr : r.Fits) (ht : fitsOffset t = true)
    (h : ofSnapshot s p r = .ok slide) (hlt : r.start < t) :
    ∃ b, ofSnapshot s p (r.withStop (some t)) = .ok b := by
  obtain ⟨hc, hn, hd, -, hres, -⟩ := (exists_ofSnapshot_iff hr).mp ⟨slide, h⟩
  have hfits := hr.withStop_some ht
  have hbelow : (r.withStop (some t)).isBelowStop r.start = true :=
    isBelowStop_iff.mpr fun u hu => Option.some.inj hu ▸ hlt
  exact (exists_ofSnapshot_iff hfits).mpr
    ⟨hc, hn, hd, hbelow, hres, fun h => absurd h (Option.some_ne_none t)⟩

/-- A slide begins another one if the stop of the other lies beyond all its anchors. -/
theorem begins_of_forall_lt (hr : r.Fits)
    (hmax : r.stop = none → isCompleteAt p s maxOffset = false) (ht : fitsOffset t = true)
    (ha : ofSnapshot s p r = .ok a) (hlt : ∀ k < a.size, r.start + k * r.step < t) :
    ∃ b, ofSnapshot s p (r.withStop (some t)) = .ok b ∧ a.Begins b := by
  have hfirst := hlt 0 (size_pos_of_ofSnapshot ha)
  rw [Nat.cast_zero, Int.zero_mul, Int.add_zero] at hfirst
  obtain ⟨b, hb⟩ := exists_ofSnapshot_withStop hr ht ha hfirst
  have hfits := hr.withStop_some ht
  obtain ⟨hc, -⟩ := ofSnapshot_eq_ok_iff.mp ha
  have hsize : a.size ≤ b.size := by
    apply le_of_forall_lt
    intro k hk
    have hgrid := AnchorRange.mem_grid r.start r.step k
    have hadm := admits_of_stopRule hc (stopRule_of_ofSnapshot hr ha) hgrid
      ((lt_size_iff_of_ofSnapshot ha).mp hk)
    have hrule := stopRule_of_ofSnapshot hfits hb
    exact (lt_size_iff_of_ofSnapshot hb).mpr
      (lt_of_admits (r := r.withStop (some t)) hc hrule hgrid rfl (hlt k hk) hadm)
  have hanchors : a.anchors <+: b.anchors := by
    rw [anchors_eq hr hmax ha, anchors_eq hfits complete_of_explicit hb]
    apply List.IsPrefix.map
    rw [← Nat.add_sub_cancel' hsize, List.range_add]
    exact List.prefix_append _ _
  obtain ⟨ys, hys⟩ := exists_selections hfits complete_of_explicit hb
  rw [selections_eq hfits complete_of_explicit hb] at hys
  obtain ⟨xs, hxs, hpre⟩ := Outcome.exists_prefix_of_mapM_eq_ok hanchors hys
  have hsizes := length_anchors hfits complete_of_explicit hb
  rw [← selections_eq hr hmax ha] at hxs
  rw [← selections_eq hfits complete_of_explicit hb] at hys
  exact ⟨b, hb, ⟨length_anchors hr hmax ha, hsizes⟩, hanchors, xs, ys, listed_of_selections hxs,
    listed_of_selections hys, hpre⟩

/-- Beyond the row of complete selections a stop leaves room for one anchor. -/
theorem size_le_succ (hr : r.Fits) (hs : r.stop = none) (ht : fitsOffset t = true)
    (ha : ofSnapshot s p r = .ok a) (hb : ofSnapshot s p (r.withStop (some t)) = .ok b) :
    b.size ≤ a.size + 1 := by
  by_contra hgt
  have hfits := hr.withStop_some ht
  obtain ⟨hc, -⟩ := ofSnapshot_eq_ok_iff.mp ha
  have hrule := stopRule_of_ofSnapshot hr ha
  have hin : ∀ k : Nat, k < a.size ↔ r.start + k * r.step ∈ completeRow p s r.start := fun k => by
    rw [lt_size_iff_of_ofSnapshot ha, lt_stop_iff_mem_completeRow hrule hs
      (AnchorRange.le_of_mem_grid (AnchorRange.mem_grid r.start r.step k))]
  have hout := mt (hin a.size).mpr (Nat.lt_irrefl _)
  have hnext := AnchorRange.add_step_le r.start r.step (Nat.lt_add_one a.size)
  have hadm : Admits p s r.start r.step (r.start + (a.size + 1 : Nat) * r.step) :=
    admits_of_stopRule (r := r.withStop (some t)) hc (stopRule_of_ofSnapshot hfits hb)
      (AnchorRange.mem_grid r.start r.step (a.size + 1))
      ((lt_size_iff_of_ofSnapshot hb).mp (by omega))
  cases hadm with
  | row h =>
    have := (hin (a.size + 1)).mpr h
    omega
  | trailing hl hlt h =>
    rw [mem_completeRow_iff_le hl
      (AnchorRange.le_of_mem_grid (AnchorRange.mem_grid r.start r.step a.size))] at hout
    omega
  | onlyFirst hi h =>
    have hfirst := (hin 0).mp (size_pos_of_ofSnapshot ha)
    simp [isCompleteAt_start_of_mem hfirst] at hi

theorem countP_anchors_le {last : Int} (hr : r.Fits) (hs : r.stop = none)
    (hmax : isCompleteAt p s maxOffset = false) (ht : fitsOffset t = true)
    (ha : ofSnapshot s p r = .ok a) (hlast : a.anchors.getLast? = some last)
    (hb : ofSnapshot s p (r.withStop (some t)) = .ok b) :
    b.anchors.countP (last < ·) ≤ 1 := by
  have hfits := hr.withStop_some ht
  have hsize := size_le_succ hr hs ht ha hb
  have hfirst : (b.anchors.take a.size).countP (last < ·) = 0 := by
    rw [anchors_eq hfits complete_of_explicit hb, ← List.map_take, List.take_range,
      List.countP_eq_zero]
    intro x hx
    obtain ⟨k, hk, rfl⟩ := List.mem_map.mp hx
    have hle := le_of_getLast?_anchors hr (fun _ => hmax) ha hlast
      (List.mem_range.mp hk |>.trans_le (min_le_left _ _))
    exact Bool.eq_false_iff.mp (decide_eq_false (not_lt.mpr hle))
  calc b.anchors.countP (last < ·)
      = (b.anchors.take a.size ++ b.anchors.drop a.size).countP (last < ·) := by
        rw [List.take_append_drop]
    _ = (b.anchors.drop a.size).countP (last < ·) := by
        rw [List.countP_append, hfirst, Nat.zero_add]
    _ ≤ (b.anchors.drop a.size).length := List.countP_le_length
    _ ≤ 1 := by
        rw [List.length_drop, length_anchors hfits complete_of_explicit hb]
        omega

/-- A later stop takes no selection away, and no stop goes more than one selection beyond the slide
without one. -/
theorem begins_of_later_stop (hr : r.Fits) :
    (∀ t u a, fitsOffset t = true → fitsOffset u = true → t ≤ u →
      ofSnapshot s p (r.withStop (some t)) = .ok a →
      ∃ b, ofSnapshot s p (r.withStop (some u)) = .ok b ∧ a.Begins b) ∧
    (isCompleteAt p s maxOffset = false → ∀ a, ofSnapshot s p (r.withStop none) = .ok a →
      ∃ last, a.anchors.getLast? = some last ∧
        (∀ t, fitsOffset t = true → last < t →
          ∃ b, ofSnapshot s p (r.withStop (some t)) = .ok b ∧ a.Begins b) ∧
        ∀ t b, fitsOffset t = true → ofSnapshot s p (r.withStop (some t)) = .ok b →
          b.anchors.countP (last < ·) ≤ 1) := by
  constructor
  · intro t u a ht hu htu ha
    have hfits := hr.withStop_some ht
    have hle := le_requested_of_stopRule (stopRule_of_ofSnapshot hfits ha) rfl
    have hlt : ∀ k < a.size, r.start + k * r.step < u := fun k hk =>
      ((lt_size_iff_of_ofSnapshot ha).mp hk).trans_le (hle.trans htu)
    exact begins_of_forall_lt (r := r.withStop (some t)) hfits complete_of_explicit hu ha hlt
  · intro hmax a ha
    have hfits := hr.withStop_none
    have hlast := getLast?_anchors hfits (fun _ => hmax) ha
    refine ⟨_, hlast, fun t ht hlt => ?_, fun t b ht hb => ?_⟩
    · refine begins_of_forall_lt (r := r.withStop none) hfits (fun _ => hmax) ht ha fun k hk => ?_
      exact (le_of_getLast?_anchors hfits (fun _ => hmax) ha hlast hk).trans_lt hlt
    · exact countP_anchors_le hfits rfl hmax ht ha hlast hb

/-- Up to 5 the anchors are 0, 2 and 4, as without a stop; up to 8 the anchor 6 follows. -/
theorem everyOther_begins_toEight :
    toEight.Fits ∧ isCompleteAt everyOther eightFiles maxOffset = false ∧
      ∃ a b c, ofSnapshot eightFiles everyOther (toEight.withStop (some 5)) = .ok a ∧
        ofSnapshot eightFiles everyOther (toEight.withStop (some 8)) = .ok b ∧
        ofSnapshot eightFiles everyOther (toEight.withStop none) = .ok c ∧
        c.anchors = [0, 2, 4] ∧ a.Begins b ∧ c.Begins b ∧ b.anchors.countP (4 < ·) ≤ 1 := by
  obtain ⟨hlater, homitted⟩ := begins_of_later_stop (p := everyOther) (s := eightFiles) toEight_fits
  have hfive : ofSnapshot eightFiles everyOther (toEight.withStop (some 5)) = .ok
      { everyOtherOfEight with requested := toEight.withStop (some 5), ending := .asRequested 5 } :=
    by cbv
  have hnone : ofSnapshot eightFiles everyOther (toEight.withStop none) = .ok
      { everyOtherOfEight with requested := toEight.withStop none, ending := .afterComplete 5 } :=
    by cbv
  obtain ⟨b, hb, hbegins⟩ := hlater 5 8 _ rfl rfl (by decide) hfive
  obtain ⟨last, hlast, hexplicit, hbeyond⟩ := homitted rfl _ hnone
  obtain rfl : 4 = last := Option.some.inj hlast
  obtain ⟨b', hb', hbegins'⟩ := hexplicit 8 rfl (by decide)
  obtain rfl : b' = b := Except.ok.inj (hb'.symm.trans hb)
  exact ⟨toEight_fits, rfl, _, b', _, hfive, hb, hnone, rfl, hbegins, hbegins',
    hbeyond 8 b' rfl hb⟩

end Slide

end FileSeries
