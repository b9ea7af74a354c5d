import FileSeries.Proofs.Slide.Selections
/-!
Slices that reach past the end of their own axis. Such a slice chooses what the slice that ends with
the axis chooses, but nothing is complete beside it. Main statement: exactly when a slide with it is
the slide with the trimmed slice.
-/

namespace FileSeries

open Selector (slice)

namespace Selector

variable {start stop : Int} {step : Nat} {anchor : Option Int} {axis : Axis} {c : Choice}

/-- A slice that ends with its axis reaches just as far as one that passes the end. -/
theorem choose_overlong (h : axis.size < stop)
    (hc : (slice start (some stop) step).choose anchor axis = .ok c) :
    c.clipped = true ∧
      (slice start (some axis.size) step).choose anchor axis = .ok ⟨c.values, false⟩ := by
  rw [choose] at hc ⊢
  obtain ⟨⟨hs, h0, hn, -⟩, rfl⟩ := chooseSlice_eq_ok_iff.mp hc
  have hend : min stop.toNat axis.size = axis.size := by omega
  refine ⟨by simpa [passesEnd] using h, chooseSlice_eq_ok_iff.mpr ⟨⟨hs, h0, hn, ?_⟩, ?_⟩⟩
  · rintro t ⟨⟩
    exact hn
  · simp [sliceEnd, passesEnd, hend]

theorem choose_of_trimmed (h : axis.size < stop)
    (hc : (slice start (some axis.size) step).choose anchor axis = .ok c) :
    (slice start (some stop) step).choose anchor axis = .ok ⟨c.values, true⟩ := by
  rw [choose] at hc ⊢
  obtain ⟨⟨hs, h0, hn, -⟩, rfl⟩ := chooseSlice_eq_ok_iff.mp hc
  have hend : min stop.toNat axis.size = axis.size := by omega
  refine chooseSlice_eq_ok_iff.mpr ⟨⟨hs, h0, hn, ?_⟩, ?_⟩
  · rintro t ⟨⟩
    omega
  · simpa [sliceEnd, passesEnd, hend] using h

end Selector

/-- The pattern with another selector in dimension `e`. -/
def Pattern.replace (p : Pattern) (e : Nat) (selector : Selector) : Pattern :=
  { p with selectors := p.selectors.set e selector }

theorem Pattern.arity_replace (p : Pattern) (e : Nat) (selector : Selector) :
    (p.replace e selector).arity = p.arity := List.length_set

theorem Pattern.anchorDimension?_replace {p : Pattern} {e : Nat} {old new : Selector}
    (h : p.selectors[e]? = some old) (ha : old.isAnchored = new.isAnchored) :
    (p.replace e new).anchorDimension? = p.anchorDimension? := by
  have hmap : ∀ l : List Selector, anchoredIn l = (l.map Selector.isAnchored).findIdx? id := by
    intro l
    rw [List.findIdx?_map]
    rfl
  obtain ⟨he, hold⟩ := List.getElem?_eq_some_iff.mp h
  have hm : e < (p.selectors.map Selector.isAnchored).length := by rwa [List.length_map]
  have hself : old.isAnchored = (p.selectors.map Selector.isAnchored)[e] := by
    rw [List.getElem_map, hold]
  unfold anchorDimension? replace
  rw [hmap, hmap, List.map_set, ← ha, hself, List.set_getElem_self]

namespace Selection

variable {anchor : Option Int} {selectors : List Selector} {axes : List Axis} {axis : Axis}
  {cs : List Selector.Choice} {e : Nat}

/-- Another selector in one dimension changes the choice of that dimension only. -/
theorem chooseAll_set {old new : Selector} {f : Selector.Choice → Selector.Choice}
    (hl : selectors.length = axes.length) (hsel : selectors[e]? = some old)
    (hax : axes[e]? = some axis)
    (hf : ∀ c, old.choose anchor axis = .ok c → new.choose anchor axis = .ok (f c))
    (h : chooseAll anchor 0 selectors axes = .ok cs) :
    chooseAll anchor 0 (selectors.set e new) axes = .ok (cs.modify e f) := by
  obtain ⟨hc, hall⟩ := (chooseAll_eq_ok_iff_getElem? hl).mp h
  have he : e < selectors.length := (List.getElem?_eq_some_iff.mp hsel).1
  obtain ⟨ce, hec⟩ := exists_getElem?_of_length_eq hc.symm hsel
  rw [chooseAll_eq_ok_iff_getElem? (by rwa [List.length_set])]
  refine ⟨by rw [List.length_modify, List.length_set, hc], ?_⟩
  intro i selector axis' c hs hx hci
  by_cases hi : e = i
  · subst hi
    rw [List.getElem?_set_self he, Option.some.injEq] at hs
    rw [hax, Option.some.injEq] at hx
    rw [List.getElem?_modify_eq, hec] at hci
    obtain rfl := Option.some.inj hci
    subst hs hx
    exact hf ce (hall e _ _ _ hsel hax hec)
  · rw [List.getElem?_set_ne hi] at hs
    rw [List.getElem?_modify_ne _ _ hi] at hci
    exact hall i selector axis' c hs hx hci

theorem map_values_modify {f : Selector.Choice → Selector.Choice}
    (hf : ∀ c, (f c).values = c.values) :
    (cs.modify e f).map (·.values) = cs.map (·.values) := by
  apply List.ext_getElem?
  intro i
  by_cases h : e = i
  · subst h
    simp [Function.comp_def, hf]
  · simp [List.getElem?_modify_ne _ _ h]

/-- The box of the selection at an anchor. -/
def boxAt? (p : Pattern) (s : Snapshot) (anchor : Option Int) : Option Box :=
  (resolve p s anchor).toOption.map (·.box)

theorem boxAt?_eq_some_iff {p : Pattern} {s : Snapshot} {b : Box} :
    boxAt? p s anchor = some b ↔ ∃ x, resolve p s anchor = .ok x ∧ x.box = b := by
  unfold boxAt?
  cases resolve p s anchor <;> simp [Except.toOption]

section Overlong

variable {p : Pattern} {s : Snapshot} {start stop : Int} {step : Nat}

theorem clipped_of_overlong {x : Selection}
    (hsel : p.selectors[e]? = some (slice start (some stop) step)) (hax : s.axes[e]? = some axis)
    (hlong : axis.size < stop) (h : resolve p s anchor = .ok x) : x.clipped = true := by
  obtain ⟨hn, cs, hcs, -, rfl⟩ := resolve_eq_ok_iff.mp h
  obtain ⟨hc, hall⟩ := (chooseAll_eq_ok_iff_getElem? hn).mp hcs
  obtain ⟨c, hec⟩ := exists_getElem?_of_length_eq hc.symm hsel
  have hclip := (Selector.choose_overlong hlong (hall e _ _ _ hsel hax hec)).1
  exact List.any_eq_true.mpr ⟨c, List.mem_of_getElem? hec, hclip⟩

/-- If one pattern resolves, so does the other that chooses the same values on every axis. -/
theorem boxAt?_replace {old new : Selector} {f : Selector.Choice → Selector.Choice} {b : Box}
    (hsel : p.selectors[e]? = some old) (hax : s.axes[e]? = some axis)
    (ha : old.isAnchored = new.isAnchored) (hv : ∀ c, (f c).values = c.values)
    (hf : ∀ a c, old.choose a axis = .ok c → new.choose a axis = .ok (f c))
    (h : boxAt? p s anchor = some b) : boxAt? (p.replace e new) s anchor = some b := by
  obtain ⟨x, hx, rfl⟩ := boxAt?_eq_some_iff.mp h
  obtain ⟨hn, cs, hcs, hknown, rfl⟩ := resolve_eq_ok_iff.mp hx
  have hu : usedAnchor (p.replace e new) anchor = usedAnchor p anchor := by
    rw [usedAnchor, usedAnchor, Pattern.anchorDimension?_replace hsel ha]
  have hset := chooseAll_set hn hsel hax (hf _) hcs
  have hmap : (cs.modify e f).map (·.values) = cs.map (·.values) := map_values_modify hv
  refine boxAt?_eq_some_iff.mpr ⟨_, resolve_eq_ok_iff.mpr
    ⟨(Pattern.arity_replace p e new).trans hn, _, hu ▸ hset, ?_, rfl⟩, hmap⟩
  rwa [hmap]

theorem boxAt?_trimmed (hsel : p.selectors[e]? = some (slice start (some stop) step))
    (hax : s.axes[e]? = some axis) (hlong : axis.size < stop) :
    boxAt? (p.replace e (slice start (some axis.size) step)) s anchor = boxAt? p s anchor := by
  obtain ⟨he, hget⟩ := List.getElem?_eq_some_iff.mp hsel
  refine Option.ext fun b => ⟨fun h => ?_, fun h => ?_⟩
  · have hback : (p.replace e (slice start (some axis.size) step)).replace e
        (slice start (some stop) step) = p := by
      rw [Pattern.replace, Pattern.replace, List.set_set, ← hget, List.set_getElem_self]
    rw [← hback]
    exact boxAt?_replace (f := fun c => ⟨c.values, true⟩) (List.getElem?_set_self he) hax rfl
      (fun c => rfl)
      (fun a c hc => Selector.choose_of_trimmed hlong hc) h
  · exact boxAt?_replace (f := fun c => ⟨c.values, false⟩) hsel hax rfl (fun c => rfl)
      (fun a c hc => (Selector.choose_overlong hlong hc).2) h

end Overlong

end Selection

namespace Slide

variable {p : Pattern} {s : Snapshot} {r : AnchorRange} {axis : Axis} {e step : Nat}
  {start stop : Int}

/-- The tuples of the selection with a number, if there is one. -/
def tuplesAt? (slide : Slide) (k : Nat) : Option (List Indices) :=
  (slide.selection k).toOption.map Selection.tuples

/-- Two attempts to open a slide that fail both, or give the same stop, size and tuples. -/
def Alike : Except Fault Slide → Except Fault Slide → Prop
  | .ok a, .ok b => a.stop = b.stop ∧ a.size = b.size ∧ ∀ k, a.tuplesAt? k = b.tuplesAt? k
  | .error _, .error _ => True
  | _, _ => False

/-- The pattern with the slice in dimension `e` ending where its axis ends. -/
def trimmed (p : Pattern) (e : Nat) (start : Int) (step : Nat) (axis : Axis) : Pattern :=
  p.replace e (slice start (some axis.size) step)

theorem tuplesAt?_eq_box {slide : Slide} {k : Nat} {a : Int}
    (h : slide.selection k = resolveAt p s a) :
    slide.tuplesAt? k = (Selection.boxAt? p s (some a)).map Box.list := by
  rw [tuplesAt?, h, resolveAt, Selection.boxAt?, Option.map_map]
  rfl

theorem resolvesAt_iff_boxAt? {a : Int} :
    resolvesAt p s a = true ↔ ∃ b, Selection.boxAt? p s (some a) = some b := by
  simp only [resolvesAt_iff, Selection.boxAt?_eq_some_iff, resolveAt]
  constructor
  · rintro ⟨x, hx⟩
    exact ⟨x.box, x, hx, rfl⟩
  · rintro ⟨b, x, hx, -⟩
    exact ⟨x, hx⟩

/-- A slide that ends right after its start has one selection, that at the start. -/
theorem selection_of_stop_eq {slide : Slide} (hr : r.Fits) (h : ofSnapshot s p r = .ok slide)
    (hs : slide.stop = r.start + 1) :
    slide.size = 1 ∧ slide.selection 0 = resolveAt p s r.start := by
  obtain ⟨hc, -⟩ := ofSnapshot_eq_ok_iff.mp h
  have hstep := (AnchorRange.check_eq_ok_iff.mp hc).1
  have hlt : ∀ k, k < slide.size ↔ r.start + k * r.step < r.start + 1 := fun k => by
    rw [lt_size_iff_of_ofSnapshot h, hs]
  have h1 := (hlt 0).mpr (by simp)
  have h2 := mt (hlt 1).mp (by simp; omega)
  exact ⟨by omega, selection_zero hr h⟩

theorem tuplesAt?_of_le {slide : Slide} {k : Nat} (h : slide.size ≤ k) :
    slide.tuplesAt? k = none := by
  rw [tuplesAt?, (selection_of_le h).2]
  rfl

/-- When a slide that starts with a complete selection has no other one. -/
theorem stop_eq_succ_iff {last t : Int} (hc : r.check = .ok ()) (hs : r.stop = some t)
    (hlt : r.start < t) (hl : IsGreatest (completeRow p s r.start) last)
    (h : StopAfter p s r last stop) :
    stop = r.start + 1 ↔
      t = r.start + 1 ∨ r.step = 1 ∧ isCompleteAt p s (r.start + 1) = false := by
  obtain ⟨hstep, -⟩ := AnchorRange.check_eq_ok_iff.mp hc
  have hle := hl.1.1
  have hlast : isCompleteAt p s (r.start + 1) = false ↔ last = r.start := by
    constructor
    · intro hno
      by_contra hne
      simp [hl.1.2 (r.start + 1) (by omega) (by omega)] at hno
    · rintro rfl
      exact not_complete_after_row hl
  rw [hlast]
  cases h with
  | row hs' => simp [hs] at hs'
  | trailing hs' ht =>
    obtain rfl : t = _ := Option.some.inj (hs.symm.trans hs')
    omega
  | noTrailing hs' ht =>
    obtain rfl : t = _ := Option.some.inj (hs.symm.trans hs')
    -- The anchor that was left out lies a whole step after the start.
    obtain ⟨a, ⟨⟨⟨k, rfl⟩, hbelow⟩, -⟩, hgt, -⟩ := ht
    constructor
    · intro hstop
      by_contra hne
      have hk : 0 < k := by
        apply Nat.pos_of_ne_zero
        rintro rfl
        rw [Nat.cast_zero, Int.zero_mul, Int.add_zero] at hgt
        omega
      have hfar := AnchorRange.add_step_le r.start r.step hk
      rw [Nat.cast_zero, Int.zero_mul, Int.add_zero] at hfar
      omega
    · omega

/-- When a slide has no selection after the one at its start. -/
theorem stop_eq_start_succ_iff {slide : Slide} (hr : r.Fits) (h : ofSnapshot s p r = .ok slide) :
    slide.stop = r.start + 1 ∧ r.stop ≠ none ↔
      (isCompleteAt p s r.start = true → ∃ t, r.stop = some t ∧
        (t = r.start + 1 ∨ r.step = 1 ∧ isCompleteAt p s (r.start + 1) = false)) := by
  obtain ⟨hc, -⟩ := ofSnapshot_eq_ok_iff.mp h
  have hrule := stopRule_of_ofSnapshot hr h
  generalize slide.stop = stop at hrule
  cases hrule with
  | row hbelow hl hafter =>
    have hsucc := fun t (ht : r.stop = some t) =>
      stop_eq_succ_iff hc ht (isBelowStop_iff.mp hbelow t ht) hl hafter
    constructor
    · rintro ⟨hstop, hsome⟩ -
      obtain ⟨t, ht⟩ := Option.ne_none_iff_exists'.mp hsome
      exact ⟨t, ht, (hsucc t ht).mp hstop⟩
    · intro hcond
      obtain ⟨t, ht, hcond⟩ := hcond (isCompleteAt_start_of_mem hl.1)
      exact ⟨(hsucc t ht).mpr hcond, by simp [ht]⟩
  | onlyFirst hs hlt hf hi => simp [hs, hi]

section Overlong

variable (hsel : p.selectors[e]? = some (slice start (some stop) step))
  (hax : s.axes[e]? = some axis) (hlong : axis.size < stop)

include hsel hax hlong

theorem isCompleteAt_of_overlong (a : Int) : isCompleteAt p s a = false := by
  by_contra h
  obtain ⟨x, hx, hclip⟩ := isCompleteAt_iff.mp (by simpa using h)
  simp [Selection.clipped_of_overlong hsel hax hlong hx] at hclip

theorem resolvesAt_trimmed (a : Int) :
    resolvesAt (trimmed p e start step axis) s a = resolvesAt p s a := by
  rw [Bool.eq_iff_iff, resolvesAt_iff_boxAt?, resolvesAt_iff_boxAt?, trimmed,
    Selection.boxAt?_trimmed hsel hax hlong]

/-- With an overlong slice a slide opens on its first selection alone. -/
theorem stop_of_overlong {slide : Slide} (hr : r.Fits) (h : ofSnapshot s p r = .ok slide) :
    slide.stop = r.start + 1 := by
  have hrule := stopRule_of_ofSnapshot hr h
  generalize slide.stop = stop at hrule
  cases hrule with
  | row hb hl ha =>
    have := isCompleteAt_start_of_mem hl.1
    simp [isCompleteAt_of_overlong hsel hax hlong] at this
  | onlyFirst hs hlt hf hi => rfl

theorem exists_trimmed_iff (hr : r.Fits) :
    (∃ slide, ofSnapshot s p r = .ok slide) ↔
      (∃ slide, ofSnapshot s (trimmed p e start step axis) r = .ok slide) ∧ r.stop ≠ none := by
  have hd : (trimmed p e start step axis).anchorDimension? = p.anchorDimension? :=
    Pattern.anchorDimension?_replace hsel rfl
  have hn : (trimmed p e start step axis).arity = p.arity := Pattern.arity_replace ..
  rw [exists_ofSnapshot_iff hr, exists_ofSnapshot_iff hr, resolvesAt_trimmed hsel hax hlong, hd, hn]
  simp only [isCompleteAt_of_overlong hsel hax hlong, Bool.false_eq_true]
  tauto

theorem alike_of_stop_eq {a b : Slide} (hr : r.Fits) (ha : ofSnapshot s p r = .ok a)
    (hb : ofSnapshot s (trimmed p e start step axis) r = .ok b) (hs : b.stop = r.start + 1) :
    Alike (ofSnapshot s p r) (ofSnapshot s (trimmed p e start step axis) r) := by
  have hstop := stop_of_overlong hsel hax hlong hr ha
  obtain ⟨hasize, hasel⟩ := selection_of_stop_eq hr ha hstop
  obtain ⟨hbsize, hbsel⟩ := selection_of_stop_eq hr hb hs
  rw [ha, hb]
  refine ⟨hstop.trans hs.symm, hasize.trans hbsize.symm, fun k => ?_⟩
  cases k with
  | zero =>
    rw [tuplesAt?_eq_box hasel, tuplesAt?_eq_box hbsel, trimmed,
      Selection.boxAt?_trimmed hsel hax hlong]
  | succ k => rw [tuplesAt?_of_le (by omega), tuplesAt?_of_le (by omega)]

/-- An overlong slice does no harm exactly where the trimmed one opens no slide or leaves it with one
selection. -/
theorem alike_trimmed_iff (hr : r.Fits) :
    Alike (ofSnapshot s p r) (ofSnapshot s (trimmed p e start step axis) r) ↔
      ((∃ slide, ofSnapshot s (trimmed p e start step axis) r = .ok slide) →
        isCompleteAt (trimmed p e start step axis) s r.start = true →
          ∃ t, r.stop = some t ∧ (t = r.start + 1 ∨
            r.step = 1 ∧ isCompleteAt (trimmed p e start step axis) s (r.start + 1) = false)) := by
  have hexists := exists_trimmed_iff hsel hax hlong hr
  constructor
  · rintro halike ⟨b, hb⟩
    obtain ⟨a, ha⟩ : ∃ a, ofSnapshot s p r = .ok a := by
      cases ha : ofSnapshot s p r with
      | error f => simp [ha, hb, Alike] at halike
      | ok a => exact ⟨a, rfl⟩
    rw [ha, hb] at halike
    refine (stop_eq_start_succ_iff hr hb).mp ⟨?_, (hexists.mp ⟨a, ha⟩).2⟩
    exact halike.1 ▸ stop_of_overlong hsel hax hlong hr ha
  · intro hcond
    by_cases hb : ∃ b, ofSnapshot s (trimmed p e start step axis) r = .ok b
    · have hopen := hb
      obtain ⟨b, hb⟩ := hb
      obtain ⟨hstop, hsome⟩ := (stop_eq_start_succ_iff hr hb).mpr (hcond hopen)
      obtain ⟨a, ha⟩ := hexists.mpr ⟨hopen, hsome⟩
      exact alike_of_stop_eq hsel hax hlong hr ha hb hstop
    · have ha : ¬ ∃ a, ofSnapshot s p r = .ok a := fun ha => hb (hexists.mp ha).1
      cases hx : ofSnapshot s p r with
      | ok a => exact absurd ⟨a, hx⟩ ha
      | error f =>
        cases hy : ofSnapshot s (trimmed p e start step axis) r with
        | ok b => exact absurd ⟨b, hy⟩ hb
        | error g => trivial

end Overlong

/-- Three rows of two files, `im0_0.tif` to `im2_1.tif`. -/
def threeRows : Snapshot where
  template := ⟨"im".toList, [(.plain, "_".toList), (.plain, [])], some "tif".toList⟩
  axes := [⟨List.range 3, by decide⟩, ⟨List.range 2, by decide⟩]
  tuples := [[0, 0], [0, 1], [1, 0], [1, 1], [2, 0], [2, 1]]
  directory := "d"
  filter := {}

def overlongRow : Pattern := ⟨"i, 0:5", [.window 0 1 1, .slice 0 (some 5) 1]⟩

def toFirst : AnchorRange := { stop := some 1 }

def toThird : AnchorRange := { stop := some 3 }

theorem alike_overlongRow_toFirst :
    toFirst.Fits ∧ overlongRow.selectors[1]? = some (slice 0 (some 5) 1) ∧
      Alike (ofSnapshot threeRows overlongRow toFirst)
        (ofSnapshot threeRows (trimmed overlongRow 1 0 1 ⟨List.range 2, by decide⟩) toFirst) := by
  have hr : toFirst.Fits := ⟨rfl, fun stop h => by cases h; rfl, rfl⟩
  exact ⟨hr, rfl, (alike_trimmed_iff rfl rfl (by decide) hr).mpr fun _ _ => ⟨1, rfl, Or.inl rfl⟩⟩

/-- Of the three rows only the first is left, since the slice `0:5` passes the end of its axis. -/
theorem not_alike_overlongRow_toThird :
    ¬ Alike (ofSnapshot threeRows overlongRow toThird)
      (ofSnapshot threeRows (trimmed overlongRow 1 0 1 ⟨List.range 2, by decide⟩) toThird) := by
  have hfirst : ofSnapshot threeRows overlongRow toThird =
      .ok ⟨overlongRow, threeRows, 0, toThird, .onlyClipped 0, 0⟩ := by cbv
  have hall : ofSnapshot threeRows (trimmed overlongRow 1 0 1 ⟨List.range 2, by decide⟩) toThird =
      .ok ⟨trimmed overlongRow 1 0 1 ⟨List.range 2, by decide⟩, threeRows, 0, toThird,
        .asRequested 3, 0⟩ := by cbv
  rw [hfirst, hall]
  rintro ⟨hstop, -⟩
  exact absurd hstop (by decide)

end Slide

end FileSeries
