import FileSeries.Proofs.ScannedNames
import FileSeries.Proofs.Slide.Selections
/-!
Sweeps: slides whose window leaves no value of its axis out on the way to the end. Main statement:
a sweep opens, its selections hold exactly the tuples from the first position on, and where one
window starts as the one before ends, each of them once.
-/

namespace FileSeries

theorem Axis.get?_inj {axis : Axis} {i j n : Nat} (hi : axis.get? i = some n)
    (hj : axis.get? j = some n) : i = j :=
  List.getElem?_inj (List.getElem?_eq_some_iff.mp hi).1
    (axis.ascending.imp fun hlt => hlt.ne) |>.mp (hi.trans hj.symm)

namespace Slide

open AnchorRange (grid)

/-- The tuples with the value at one of some positions of an axis in dimension `d`, and a value that
the pattern chooses in every other dimension. -/
def slab (p : Pattern) (s : Snapshot) (d : Nat) (axis : Axis) (positions : Set Nat) :
    Set Indices :=
  {t | t.length = p.arity ∧
    (∃ i ∈ positions, ∃ n, t[d]? = some n ∧ axis.get? i = some n) ∧
    ∀ (e n : Nat) (selector : Selector) (axis : Axis), e ≠ d →
      t[e]? = some n → p.selectors[e]? = some selector → s.axes[e]? = some axis →
        ∃ c, selector.choose none axis = .ok c ∧ n ∈ c.values}

/-- A window without gaps that moves by at most its own length, from a position on the axis to a
requested stop that is not below the last one, over files of which none is missing on the way. -/
structure Sweep (p : Pattern) (s : Snapshot) (r : AnchorRange) (d : Nat) (lo hi : Int)
    (axis : Axis) : Prop where
  anchored : p.anchorDimension? = some d
  window : p.selectors[d]? = some (.window lo hi 1)
  onAxis : s.axes[d]? = some axis
  arity : p.arity = s.arity
  nonneg : 0 ≤ r.start
  step : 1 ≤ r.step
  overlap : r.step ≤ hi - lo
  first : 0 ≤ r.start + lo ∧ r.start + lo < axis.size
  reaches : ∃ stop, r.stop = some stop ∧ axis.size - lo ≤ stop
  others : ∀ (e : Nat) (selector : Selector) (axis : Axis), e ≠ d →
    p.selectors[e]? = some selector → s.axes[e]? = some axis →
      ∃ c, selector.choose none axis = .ok c ∧ c.clipped = false
  /-- Every file from the first position on was found. -/
  known : ∀ t ∈ slab p s d axis {i | r.start + lo ≤ i}, s.has t = true
  /-- A snapshot in memory has no more files than there are indices. -/
  counted : s.size ≤ maxIndex
  /-- The windows that start on the axis end at offsets. -/
  sums : ∀ a ∈ grid r.start r.step, a + lo < axis.size → fitsOffset (a + hi) = true

variable {p : Pattern} {s : Snapshot} {r : AnchorRange} {d : Nat} {lo hi a : Int} {axis : Axis}

theorem slab_mono {positions positions' : Set Nat} (h : positions ⊆ positions') :
    slab p s d axis positions ⊆ slab p s d axis positions' := by
  rintro t ⟨hl, ⟨i, hmem, hget⟩, hothers⟩
  exact ⟨hl, ⟨i, h hmem, hget⟩, hothers⟩

namespace Sweep

/-- The axis ends in the range of anchors, since the last window reaches beyond it. -/
theorem size_le (h : Sweep p s r d lo hi axis) : (axis.size : Int) ≤ maxOffset := by
  have hfirst := h.first
  have hover := h.overlap
  obtain ⟨a, ha, hlt, hle⟩ := AnchorRange.exists_mem_grid h.step
    (show r.start < axis.size - lo by omega)
  have := fitsOffset_iff.mp (h.sums a ha (by omega))
  omega

/-- Away from the window the anchor does not matter. -/
theorem choose_eq (h : Sweep p s r d lo hi axis) {e : Nat} {selector : Selector} {axis' : Axis}
    (he : e ≠ d) (hs : p.selectors[e]? = some selector) (hx : s.axes[e]? = some axis')
    (anchor : Option Int) : selector.choose anchor axis' = selector.choose none axis' := by
  obtain ⟨c, hc, -⟩ := h.others e selector axis' he hs hx
  exact Selector.choose_of_not_anchored (Selector.not_anchored_of_choose hc) anchor axis'

theorem exists_chooseAll (h : Sweep p s r d lo hi axis) (ha : r.start ≤ a)
    (hlt : a + lo < axis.size) (hfit : fitsOffset (a + hi) = true) :
    ∃ cs, Selection.chooseAll (some a) 0 p.selectors s.axes = .ok cs := by
  apply Selection.exists_chooseAll_iff.mpr
  intro e selector axis' hs hx
  by_cases he : e = d
  · subst he
    obtain rfl := Option.some.inj (h.window.symm.trans hs)
    obtain rfl := Option.some.inj (h.onAxis.symm.trans hx)
    have hfirst := h.first
    have hover := h.overlap
    have hstep := h.step
    exact Selector.exists_choose_window (by omega) (by omega) hlt hfit
  · obtain ⟨c, hc, -⟩ := h.others e selector axis' he hs hx
    exact ⟨c, (h.choose_eq he hs hx _).trans hc⟩

variable {cs : List Selector.Choice}

/-- The box of the choices at an anchor is the slab of its window. -/
theorem mem_tuples_iff (h : Sweep p s r d lo hi axis)
    (hcs : Selection.chooseAll (some a) 0 p.selectors s.axes = .ok cs) {t : Indices} :
    t ∈ Box.tuples (cs.map (·.values)) ↔ t ∈ slab p s d axis {i | a + lo ≤ i ∧ i < a + hi} := by
  obtain ⟨hl, hall⟩ := (Selection.chooseAll_eq_ok_iff_getElem? h.arity).mp hcs
  obtain ⟨cd, hcd⟩ := exists_getElem?_of_length_eq hl.symm h.window
  have hwindow := hall d _ _ cd h.window h.onAxis hcd
  have hplace : ∀ {e : Nat} {c : Selector.Choice}, cs[e]? = some c →
      (cs.map (·.values))[e]? = some c.values := fun hc => by
    rw [List.getElem?_map, hc, Option.map_some]
  rw [Box.mem_tuples_iff_getElem?, List.length_map, hl]
  refine and_congr_right fun ht => ⟨fun hbox => ⟨?_, ?_⟩, ?_⟩
  · obtain ⟨n, hn⟩ := exists_getElem?_of_length_eq ht.symm h.window
    obtain ⟨i, hmem, hget⟩ :=
      (Selector.mem_values_of_choose_window hwindow).mp (hbox d n _ hn (hplace hcd))
    exact ⟨i, hmem, n, hn, hget⟩
  · intro e n selector axis' he hn hs hx
    obtain ⟨c, hc⟩ := exists_getElem?_of_length_eq hl.symm hs
    have hchoose := hall e selector axis' c hs hx hc
    exact ⟨c, (h.choose_eq he hs hx _).symm.trans hchoose, hbox e n _ hn (hplace hc)⟩
  · rintro ⟨⟨i, hmem, m, hm, hget⟩, hothers⟩ e n choices hn hb
    rw [List.getElem?_map, Option.map_eq_some_iff] at hb
    obtain ⟨c, hc, rfl⟩ := hb
    by_cases he : e = d
    · subst he
      obtain rfl := Option.some.inj (hm.symm.trans hn)
      obtain rfl := Option.some.inj (hcd.symm.trans hc)
      exact (Selector.mem_values_of_choose_window hwindow).mpr ⟨i, hmem, hget⟩
    · obtain ⟨selector, hs⟩ := exists_getElem?_of_length_eq hl hc
      obtain ⟨axis', hx⟩ := exists_getElem?_of_length_eq h.arity hs
      obtain ⟨c', hc', hn'⟩ := hothers e n selector axis' he hn hs hx
      have hchoose := (h.choose_eq he hs hx _).symm.trans (hall e selector axis' c hs hx hc)
      obtain rfl := Except.ok.inj (hc'.symm.trans hchoose)
      exact hn'

theorem clipped_iff (h : Sweep p s r d lo hi axis)
    (hcs : Selection.chooseAll (some a) 0 p.selectors s.axes = .ok cs) :
    cs.any (·.clipped) = true ↔ axis.size < a + hi := by
  obtain ⟨hl, hall⟩ := (Selection.chooseAll_eq_ok_iff_getElem? h.arity).mp hcs
  obtain ⟨cd, hcd⟩ := exists_getElem?_of_length_eq hl.symm h.window
  rw [← Selector.clipped_of_choose_window (hall d _ _ cd h.window h.onAxis hcd), List.any_eq_true]
  constructor
  · rintro ⟨c, hc, hclip⟩
    obtain ⟨e, he⟩ := List.getElem?_of_mem hc
    obtain ⟨selector, hs⟩ := exists_getElem?_of_length_eq hl he
    obtain ⟨axis', hx⟩ := exists_getElem?_of_length_eq h.arity hs
    by_cases hed : e = d
    · subst hed
      rw [hcd, Option.some.injEq] at he
      rwa [he]
    · obtain ⟨c', hc', hfull⟩ := h.others e selector axis' hed hs hx
      have hchoose := (h.choose_eq hed hs hx _).symm.trans (hall e selector axis' c hs hx he)
      obtain rfl := Except.ok.inj (hc'.symm.trans hchoose)
      simp [hfull] at hclip
  · exact fun hclip => ⟨cd, List.mem_of_getElem? hcd, hclip⟩

theorem exists_resolveAt (h : Sweep p s r d lo hi axis) (ha : r.start ≤ a)
    (hlt : a + lo < axis.size) (hfit : fitsOffset (a + hi) = true) :
    ∃ x, resolveAt p s a = .ok x ∧ (x.clipped = true ↔ axis.size < a + hi) ∧
      Box.size x.box ≤ maxIndex ∧
      ∀ t, t ∈ x.tuples ↔ t ∈ slab p s d axis {i | a + lo ≤ i ∧ i < a + hi} := by
  obtain ⟨cs, hcs⟩ := h.exists_chooseAll ha hlt hfit
  have hu := Selection.usedAnchor_of_anchorDimension? h.anchored (some a)
  have hknown : ∀ t ∈ Box.tuples (cs.map (·.values)), t ∈ s.tuples := by
    intro t ht
    have hsub : {i : Nat | a + lo ≤ i ∧ i < a + hi} ⊆ {i | r.start + lo ≤ i} := by
      rintro i ⟨hfrom, -⟩
      exact (show r.start + lo ≤ a + lo by omega).trans hfrom
    exact List.contains_iff_mem.mp (h.known t (slab_mono hsub ((h.mem_tuples_iff hcs).mp ht)))
  -- Tuples that were all scanned are not too many to be counted.
  have hsize : Box.size (cs.map (·.values)) ≤ maxIndex :=
    (Box.size_le_of_forall_mem (fun _ hmem => Selection.pairwise_of_mem_values hcs hmem)
      hknown).trans h.counted
  have hlist := Box.list_eq_tuples hsize
  have hfound : Box.firstUnknown? (cs.map (·.values)) s.tuples = none := by
    rwa [Box.firstUnknown?_eq_none_iff, hlist]
  refine ⟨_, Selection.resolve_eq_ok_iff.mpr ⟨h.arity, cs, by rwa [hu], hfound, rfl⟩,
    h.clipped_iff hcs, hsize, fun t => ?_⟩
  rw [Selection.tuples, hlist]
  exact h.mem_tuples_iff hcs

theorem isCompleteAt_iff (h : Sweep p s r d lo hi axis) (ha : r.start ≤ a) :
    isCompleteAt p s a = true ↔ a + hi ≤ axis.size := by
  have hsize := h.size_le
  have hfirst := h.first
  have hover := h.overlap
  have hstep := h.step
  rw [Slide.isCompleteAt_iff]
  constructor
  · rintro ⟨x, hx, hfull⟩
    obtain ⟨lo', hi', step, axis', c, hs, hax, hc, hclip⟩ := window_of_resolveAt h.anchored hx
    obtain ⟨rfl, rfl, rfl⟩ : lo = lo' ∧ hi = hi' ∧ 1 = step := by simpa [h.window] using hs
    obtain rfl := Option.some.inj (h.onAxis.symm.trans hax)
    by_contra hlt
    have := (Selector.clipped_of_choose_window hc).mpr (by omega)
    simp [hclip hfull] at this
  · intro hle
    have hfit : fitsOffset (a + hi) = true := by
      refine fitsOffset_iff.mpr ⟨?_, by omega⟩
      simp only [minOffset]
      omega
    obtain ⟨x, hx, hclip, -, -⟩ := h.exists_resolveAt ha (by omega) hfit
    refine ⟨x, hx, ?_⟩
    rw [← Bool.not_eq_true, hclip]
    omega

theorem isGreatest_completeRow (h : Sweep p s r d lo hi axis)
    (hfull : r.start + hi ≤ axis.size) :
    IsGreatest (completeRow p s r.start) (axis.size - hi) := by
  refine ⟨⟨by omega, fun b hb hb' => (h.isCompleteAt_iff hb).mpr (by omega)⟩, ?_⟩
  rintro a ⟨ha, hrow⟩
  have := (h.isCompleteAt_iff ha).mp (hrow a ha le_rfl)
  omega

/-- The windows of the anchors below the stop start on the axis, and the last one reaches its end. -/
theorem window_of_stopRule (h : Sweep p s r d lo hi axis) {stop : Int} (hrule : StopRule p s r stop)
    (ha : a ∈ grid r.start r.step) (hlt : a < stop) :
    a + lo < axis.size ∧ (stop ≤ a + r.step → axis.size ≤ a + hi) := by
  have hfirst := h.first
  have hover := h.overlap
  have hstart := AnchorRange.le_of_mem_grid ha
  obtain ⟨requested, hreq, hreach⟩ := h.reaches
  cases hrule with
  | onlyFirst hs hlt' hf hno =>
    have hclip := mt (h.isCompleteAt_iff le_rfl).mpr (by simp [hno])
    omega
  | @row last stop hb hl hafter =>
    have hfull := (h.isCompleteAt_iff le_rfl).mp (isCompleteAt_start_of_mem hl.1)
    obtain rfl := hl.unique (h.isGreatest_completeRow hfull)
    cases hafter with
    | row hs => simp [hreq] at hs
    | trailing hs ht =>
      obtain rfl := Option.some.inj (hreq.symm.trans hs)
      omega
    | noTrailing hs ht =>
      -- Something resolves at every anchor whose window starts on the axis.
      obtain ⟨b, ⟨⟨hb, hblt⟩, -⟩, hgt, hno⟩ := ht
      obtain ⟨x, hx, -⟩ := h.exists_resolveAt (AnchorRange.le_of_mem_grid hb) (by omega)
        (h.sums b hb (by omega))
      simp [resolvesAt_iff.mpr ⟨x, hx⟩] at hno

theorem exists_ofSnapshot (h : Sweep p s r d lo hi axis) (hr : r.Fits) :
    ∃ slide, ofSnapshot s p r = .ok slide := by
  have hfirst := h.first
  obtain ⟨requested, hreq, hreach⟩ := h.reaches
  have hgrid : r.start ∈ grid r.start r.step := by
    simpa using AnchorRange.mem_grid r.start r.step 0
  obtain ⟨x, hx, -⟩ := h.exists_resolveAt le_rfl hfirst.2 (h.sums r.start hgrid hfirst.2)
  have hcheck : r.check = .ok () := AnchorRange.check_eq_ok_iff.mpr ⟨h.step, h.nonneg⟩
  have hbelow : r.isBelowStop r.start = true := by
    apply isBelowStop_iff.mpr
    intro stop hs
    obtain rfl := Option.some.inj (hreq.symm.trans hs)
    omega
  exact (exists_ofSnapshot_iff hr).mpr ⟨hcheck, h.arity, ⟨d, h.anchored⟩, hbelow,
    resolvesAt_iff.mpr ⟨x, hx⟩, fun hnone => by simp [hreq] at hnone⟩

variable {slide : Slide}

theorem exists_selection (h : Sweep p s r d lo hi axis) (hr : r.Fits)
    (hslide : ofSnapshot s p r = .ok slide) {k : Nat} (hk : k < slide.size) :
    ∃ x, slide.selection k = .ok x ∧ x.snapshot = s ∧ x.tuples.Nodup ∧ ∀ t, t ∈ x.tuples ↔
      t ∈ slab p s d axis {i | r.start + k * r.step + lo ≤ i ∧ i < r.start + k * r.step + hi} := by
  obtain ⟨requested, hstop, -⟩ := h.reaches
  have hlt := (lt_size_iff_of_ofSnapshot hslide).mp hk
  have hgrid := AnchorRange.mem_grid r.start r.step k
  have hon := (h.window_of_stopRule (stopRule_of_ofSnapshot hr hslide) hgrid hlt).1
  obtain ⟨x, hx, -, hsize, hmem⟩ := h.exists_resolveAt (AnchorRange.le_of_mem_grid hgrid) hon
    (h.sums _ hgrid hon)
  have hsel := selection_of_lt hr (fun hnone => by simp [hstop] at hnone) hslide hk
  refine ⟨x, hsel.trans hx, ?_, Selection.nodup_tuples hx hsize, hmem⟩
  obtain ⟨-, cs, -, -, rfl⟩ := Selection.resolve_eq_ok_iff.mp hx
  rfl

/-- Every position from the first one on lies in the window of a selection. -/
theorem exists_window (h : Sweep p s r d lo hi axis) (hr : r.Fits)
    (hslide : ofSnapshot s p r = .ok slide) {i : Nat} (hfrom : r.start + lo ≤ i)
    (hon : i < axis.size) :
    ∃ k < slide.size, r.start + k * r.step + lo ≤ i ∧ i < r.start + k * r.step + hi := by
  obtain ⟨-, -, d', e, -, -, hpos, he⟩ := ofSnapshot_eq_ok_iff.mp hslide
  have hover := h.overlap
  have hstart : r.start < slide.stop := by simpa [he, stop] using hpos
  -- The last anchor below the stop whose window starts at the position or before.
  obtain ⟨a, ⟨k, rfl⟩, hlt, hle⟩ := AnchorRange.exists_mem_grid h.step
    (show r.start < min slide.stop (i - lo + 1) by omega)
  have hk : k < slide.size := (lt_size_iff_of_ofSnapshot hslide).mpr (by omega)
  have hlast := (h.window_of_stopRule (stopRule_of_ofSnapshot hr hslide)
    (AnchorRange.mem_grid r.start r.step k) (by omega)).2
  exact ⟨k, hk, by omega, by omega⟩

/-- Windows that move by their own length do not overlap. -/
theorem disjoint_slab (hlen : (r.step : Int) = hi - lo) {j k : Nat}
    (hjk : j < k) {t : Indices}
    (hj : t ∈ slab p s d axis {i | r.start + j * r.step + lo ≤ i ∧ i < r.start + j * r.step + hi})
    (hk : t ∈ slab p s d axis {i | r.start + k * r.step + lo ≤ i ∧ i < r.start + k * r.step + hi}) :
    False := by
  obtain ⟨-, ⟨i, ⟨-, hbefore⟩, n, hn, hget⟩, -⟩ := hj
  obtain ⟨-, ⟨i', ⟨hfrom, -⟩, n', hn', hget'⟩, -⟩ := hk
  obtain rfl := Option.some.inj (hn.symm.trans hn')
  have hsame : i = i' := Axis.get?_inj hget hget'
  have := AnchorRange.add_step_le r.start r.step hjk
  omega

theorem mem_flatMap_iff (h : Sweep p s r d lo hi axis) (hr : r.Fits)
    (hslide : ofSnapshot s p r = .ok slide) {xs : List Selection}
    (hxs : slide.selections = .ok xs) {t : Indices} :
    t ∈ xs.flatMap Selection.tuples ↔ t ∈ slab p s d axis {i | r.start + lo ≤ i} := by
  simp only [List.mem_flatMap, mem_selections_iff hxs]
  constructor
  · rintro ⟨x, ⟨k, hk, hx⟩, ht⟩
    obtain ⟨x', hx', -, -, hmem⟩ := h.exists_selection hr hslide hk
    obtain rfl := Except.ok.inj (hx.symm.trans hx')
    refine slab_mono ?_ ((hmem t).mp ht)
    rintro i ⟨hle, -⟩
    have := AnchorRange.le_of_mem_grid (AnchorRange.mem_grid r.start r.step k)
    exact (show r.start + lo ≤ r.start + k * r.step + lo by omega).trans hle
  · intro ht
    obtain ⟨hl, ⟨i, hfrom, n, hn, hget⟩, hothers⟩ := ht
    have hon : i < axis.size := (List.getElem?_eq_some_iff.mp hget).1
    obtain ⟨k, hk, hwin⟩ := h.exists_window hr hslide hfrom hon
    obtain ⟨x, hx, -, -, hmem⟩ := h.exists_selection hr hslide hk
    exact ⟨x, ⟨k, hk, hx⟩, (hmem t).mpr ⟨hl, ⟨i, hwin, n, hn, hget⟩, hothers⟩⟩

theorem nodup_flatMap (h : Sweep p s r d lo hi axis) (hr : r.Fits)
    (hslide : ofSnapshot s p r = .ok slide) (hlen : (r.step : Int) = hi - lo)
    {xs : List Selection} (hxs : slide.selections = .ok xs) :
    (xs.flatMap Selection.tuples).Nodup := by
  refine List.nodup_flatMap.mpr ⟨fun x hx => ?_, ?_⟩
  · obtain ⟨k, hk, hsel⟩ := (mem_selections_iff hxs).mp hx
    obtain ⟨x', hx', -, hnodup, -⟩ := h.exists_selection hr hslide hk
    obtain rfl := Except.ok.inj (hsel.symm.trans hx')
    exact hnodup
  · refine Outcome.pairwise_of_mapM_eq_ok hxs List.pairwise_lt_range
      fun j hj k hk x y hjk hx hy t htx hty => ?_
    obtain ⟨x', hx', -, -, hmemx⟩ := h.exists_selection hr hslide (List.mem_range.mp hj)
    obtain ⟨y', hy', -, -, hmemy⟩ := h.exists_selection hr hslide (List.mem_range.mp hk)
    obtain rfl := Except.ok.inj (hx.symm.trans hx')
    obtain rfl := Except.ok.inj (hy.symm.trans hy')
    exact disjoint_slab hlen hjk ((hmemx t).mp htx) ((hmemy t).mp hty)

theorem nodup_fileNames (h : Sweep p s r d lo hi axis) (hscan : s.Scanned) (hr : r.Fits)
    (hslide : ofSnapshot s p r = .ok slide) (hlen : (r.step : Int) = hi - lo)
    {xs : List Selection} (hxs : slide.selections = .ok xs) :
    (xs.flatMap Selection.fileNames).Nodup := by
  have hnames : xs.flatMap Selection.fileNames =
      (xs.flatMap Selection.tuples).map fun t => String.ofList (s.template.format t) := by
    rw [List.map_flatMap]
    apply List.flatMap_congr
    intro x hx
    obtain ⟨k, hk, hsel⟩ := (mem_selections_iff hxs).mp hx
    obtain ⟨x', hx', hsnap, -⟩ := h.exists_selection hr hslide hk
    obtain rfl := Except.ok.inj (hsel.symm.trans hx')
    rw [Selection.fileNames, hsnap]
  have hknown : ∀ t ∈ xs.flatMap Selection.tuples, t ∈ s.tuples := fun t ht =>
    List.contains_iff_mem.mp (h.known t ((h.mem_flatMap_iff hr hslide hxs).mp ht))
  rw [hnames]
  apply (h.nodup_flatMap hr hslide hlen hxs).map_on
  intro t ht u hu heq
  exact Snapshot.format_injOn hscan (hknown t ht) (hknown u hu) (String.ofList_injective heq)

end Sweep

/-- A sweep loses no file, and repeats none where its windows do not overlap. -/
theorem covers_of_sweep (h : Sweep p s r d lo hi axis) (hscan : s.Scanned) (hr : r.Fits) :
    ∃ slide xs, ofSnapshot s p r = .ok slide ∧ slide.Listed xs ∧
      slide.allFileNames = .ok (xs.flatMap Selection.fileNames) ∧
      slide.allPaths = .ok (xs.flatMap Selection.paths) ∧
      (∀ t, t ∈ xs.flatMap Selection.tuples ↔ t ∈ slab p s d axis {i | r.start + lo ≤ i}) ∧
      ((r.step : Int) = hi - lo → (xs.flatMap Selection.tuples).Nodup ∧
        (xs.flatMap Selection.fileNames).Nodup) := by
  obtain ⟨slide, hslide⟩ := h.exists_ofSnapshot hr
  obtain ⟨xs, hxs⟩ := exists_selections_iff.mpr fun k hk =>
    (h.exists_selection hr hslide hk).imp fun x hx => hx.1
  have hlisted := listed_of_selections hxs
  exact ⟨slide, xs, hslide, hlisted, hlisted.names, hlisted.paths,
    fun t => h.mem_flatMap_iff hr hslide hxs, fun hlen =>
      ⟨h.nodup_flatMap hr hslide hlen hxs, h.nodup_fileNames hscan hr hslide hlen hxs⟩⟩

def byThrees : Pattern := ⟨"i:i+3", [.window 0 3 1]⟩

def threesToEight : AnchorRange := { stop := some 8, step := 3 }

theorem eightFiles_scanned : eightFiles.Scanned :=
  ⟨⟨[], none, false⟩, 1, (List.range 8).map fun n => eightFiles.template.format [n], Nat.one_pos,
    rfl⟩

theorem eightFiles_swept :
    Sweep byThrees eightFiles threesToEight 0 0 3 ⟨List.range 8, by decide⟩ where
  anchored := rfl
  window := rfl
  onAxis := rfl
  arity := rfl
  nonneg := by decide
  step := by decide
  overlap := by decide
  first := by decide
  reaches := ⟨8, rfl, by decide⟩
  others e selector axis he hs := by
    obtain ⟨e, rfl⟩ := Nat.exists_eq_succ_of_ne_zero he
    simp [byThrees] at hs
  known t ht := by
    obtain ⟨hl, ⟨i, -, m, hm, hget⟩, -⟩ := ht
    obtain ⟨n, rfl⟩ := List.length_eq_one_iff.mp hl
    obtain rfl : n = m := by simpa using hm
    have hn : n ∈ List.range 8 := List.mem_of_getElem? hget
    exact List.contains_iff_mem.mpr (List.mem_map_of_mem hn)
  counted := by decide
  sums := by
    intro a ha hlt
    have hsize : (Axis.size ⟨List.range 8, by decide⟩ : Int) = 8 := rfl
    have hstart : 0 ≤ a := AnchorRange.le_of_mem_grid ha
    apply fitsOffset_iff.mpr
    simp only [minOffset, maxOffset]
    omega

theorem eightFiles_covered :
    Sweep byThrees eightFiles threesToEight 0 0 3 ⟨List.range 8, by decide⟩ ∧
      eightFiles.Scanned ∧ threesToEight.Fits ∧
      ∃ slide xs, ofSnapshot eightFiles byThrees threesToEight = .ok slide ∧ slide.Listed xs ∧
        (xs.flatMap Selection.fileNames).Nodup := by
  have hr : threesToEight.Fits := ⟨rfl, fun stop h => by cases h; rfl, rfl⟩
  obtain ⟨slide, xs, hslide, hlisted, -, -, -, honce⟩ :=
    covers_of_sweep eightFiles_swept eightFiles_scanned hr
  exact ⟨eightFiles_swept, eightFiles_scanned, hr, slide, xs, hslide, hlisted, (honce rfl).2⟩

end Slide

end FileSeries
