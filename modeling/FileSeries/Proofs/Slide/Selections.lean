import FileSeries.Proofs.Slide.StopRule
import FileSeries.Proofs.WalkRest
/-!
The selections of a slide. Main statement: a slide that opens hands out a selection for each of its
numbers, and every one but the last is complete.
-/

namespace FileSeries.Slide

open AnchorRange (grid)

variable {p : Pattern} {s : Snapshot} {r : AnchorRange} {a stop : Int} {slide : Slide}

theorem isCompleteAt_of_le {last : Int} (hl : IsGreatest (completeRow p s r.start) last)
    (ha : a ∈ grid r.start r.step) (hle : a ≤ last) : isCompleteAt p s a = true :=
  hl.1.2 a (AnchorRange.le_of_mem_grid ha) hle

/-- An anchor below the stop that does not belong to the row is the last one, and it was tried. -/
theorem resolvesAt_of_stopAfter {last : Int} (hc : r.check = .ok ())
    (hl : IsGreatest (completeRow p s r.start) last) (h : StopAfter p s r last stop)
    (ha : a ∈ grid r.start r.step) (hlt : a < stop) :
    resolvesAt p s a = true ∧
      (a + r.step < stop ∨ r.stop = none → isCompleteAt p s a = true) := by
  have hrow : a ≤ last → resolvesAt p s a = true ∧
      (a + r.step < stop ∨ r.stop = none → isCompleteAt p s a = true) := fun hle =>
    have hi := isCompleteAt_of_le hl ha hle
    ⟨resolvesAt_of_isCompleteAt hi, fun _ => hi⟩
  cases h with
  | row hs => exact hrow (by omega)
  | noTrailing hs ht => exact hrow (by omega)
  | trailing hs ht =>
    by_cases hle : a ≤ last
    · exact hrow hle
    · have hgt : last < a := by omega
      constructor
      · by_contra hno
        obtain ⟨hstep, h0⟩ := AnchorRange.check_eq_ok_iff.mp hc
        refine ht ⟨a, AnchorRange.isGreatest_of_le_add hstep ha hlt (by omega), hgt, ?_⟩
        simpa using hno
      · rintro (hnext | hnone)
        · omega
        · simp [hs] at hnone

theorem resolvesAt_of_stopRule (hc : r.check = .ok ()) (h : StopRule p s r stop)
    (ha : a ∈ grid r.start r.step) (hlt : a < stop) :
    resolvesAt p s a = true ∧
      (a + r.step < stop ∨ r.stop = none → isCompleteAt p s a = true) := by
  cases h with
  | row hb hl h => exact resolvesAt_of_stopAfter hc hl h ha hlt
  | onlyFirst hs hlt' hf hi =>
    have hle := AnchorRange.le_of_mem_grid ha
    obtain rfl : a = r.start := by omega
    refine ⟨hf, ?_⟩
    rintro (hnext | hnone)
    · have hstep := (AnchorRange.check_eq_ok_iff.mp hc).1
      omega
    · simp [hs] at hnone

/-- No stop lies beyond the range of anchors, unless one is not requested and the row of complete
selections leaves it. -/
theorem stop_le_of_stopRule (hr : r.Fits) (hmax : r.stop = none → maxOffset ∉ completeRow p s r.start)
    (h : StopRule p s r stop) : stop ≤ maxOffset := by
  have hstop : ∀ t, r.stop = some t → t ≤ maxOffset := fun t ht =>
    (fitsOffset_iff.mp (hr.stop t ht)).2
  cases h with
  | row hb hl h =>
    cases h with
    | row hs =>
      rename_i last
      have hlt : ¬ maxOffset ≤ last := fun hle =>
        hmax hs ⟨(fitsOffset_iff.mp hr.start).2, fun b hb hb' => hl.1.2 b hb (hb'.trans hle)⟩
      omega
    | trailing hs ht =>
      have := hstop _ hs
      omega
    | noTrailing hs ht =>
      have := hstop _ hs
      omega
  | onlyFirst hs hlt hf hi =>
    have := hstop _ hs
    omega

theorem not_mem_completeRow_of_not_complete {start : Int} (h : isCompleteAt p s a = false) :
    a ∉ completeRow p s start := by
  rintro ⟨hle, hrow⟩
  simp [hrow a hle le_rfl] at h

theorem fields_of_ofSnapshot (h : ofSnapshot s p r = .ok slide) :
    slide.pattern = p ∧ slide.snapshot = s ∧ slide.requested = r := by
  obtain ⟨-, -, d, e, -, -, -, rfl⟩ := ofSnapshot_eq_ok_iff.mp h
  exact ⟨rfl, rfl, rfl⟩

theorem lt_size_iff (hstep : 0 < slide.requested.step) {k : Nat} :
    k < slide.size ↔ slide.requested.start + k * slide.requested.step < slide.stop :=
  AnchorRange.lt_count_iff hstep

theorem lt_size_iff_of_ofSnapshot (h : ofSnapshot s p r = .ok slide) {k : Nat} :
    k < slide.size ↔ r.start + k * r.step < slide.stop := by
  obtain ⟨hc, -⟩ := ofSnapshot_eq_ok_iff.mp h
  obtain ⟨-, -, hreq⟩ := fields_of_ofSnapshot h
  rw [lt_size_iff (hreq ▸ (AnchorRange.check_eq_ok_iff.mp hc).1), hreq]

theorem size_pos_of_ofSnapshot (h : ofSnapshot s p r = .ok slide) : 0 < slide.size := by
  obtain ⟨-, -, d, e, -, -, hlt, he⟩ := ofSnapshot_eq_ok_iff.mp h
  rw [lt_size_iff_of_ofSnapshot h]
  simpa [he, Slide.stop] using hlt

/-- The anchor of each number is exact, and it lies below the stop. -/
theorem anchorAt?_of_stop_le {k : Nat} (hstop : slide.stop ≤ maxOffset)
    (h : ofSnapshot s p r = .ok slide) (hk : k < slide.size) :
    slide.anchorAt? k = some (r.start + k * r.step) ∧ r.start + k * r.step < slide.stop := by
  obtain ⟨hc, -⟩ := ofSnapshot_eq_ok_iff.mp h
  obtain ⟨hstep, h0⟩ := AnchorRange.check_eq_ok_iff.mp hc
  obtain ⟨-, -, hreq⟩ := fields_of_ofSnapshot h
  have hlt := (lt_size_iff_of_ofSnapshot h).mp hk
  refine ⟨?_, hlt⟩
  rw [anchorAt?, if_pos hk, hreq]
  exact AnchorRange.nth?_eq_some h0 (by omega)

theorem stop_le_of_ofSnapshot (hr : r.Fits)
    (hmax : r.stop = none → isCompleteAt p s maxOffset = false)
    (h : ofSnapshot s p r = .ok slide) : slide.stop ≤ maxOffset :=
  stop_le_of_stopRule hr (fun hs => not_mem_completeRow_of_not_complete (hmax hs))
    (stopRule_of_ofSnapshot hr h)

theorem anchorAt?_of_lt {k : Nat} (hr : r.Fits)
    (hmax : r.stop = none → isCompleteAt p s maxOffset = false)
    (h : ofSnapshot s p r = .ok slide) (hk : k < slide.size) :
    slide.anchorAt? k = some (r.start + k * r.step) ∧ r.start + k * r.step < slide.stop :=
  anchorAt?_of_stop_le (stop_le_of_ofSnapshot hr hmax h) h hk

theorem selection_of_anchorAt? {k : Nat} (h : ofSnapshot s p r = .ok slide)
    (ha : slide.anchorAt? k = some a) : slide.selection k = resolveAt p s a := by
  obtain ⟨hp, hs, -⟩ := fields_of_ofSnapshot h
  simp only [selection, ha, hp, hs]

/-- The first selection is that at the start. -/
theorem selection_zero (hr : r.Fits) (h : ofSnapshot s p r = .ok slide) :
    slide.selection 0 = resolveAt p s r.start := by
  obtain ⟨hc, -⟩ := ofSnapshot_eq_ok_iff.mp h
  obtain ⟨-, h0⟩ := AnchorRange.check_eq_ok_iff.mp hc
  obtain ⟨-, -, hreq⟩ := fields_of_ofSnapshot h
  have hstart := (fitsOffset_iff.mp hr.start).2
  refine selection_of_anchorAt? h ?_
  rw [anchorAt?, if_pos (size_pos_of_ofSnapshot h), hreq,
    AnchorRange.nth?_eq_some h0 (by simpa using hstart), Nat.cast_zero, Int.zero_mul, Int.add_zero]

theorem selection_of_stop_le {k : Nat} (hstop : slide.stop ≤ maxOffset)
    (h : ofSnapshot s p r = .ok slide) (hk : k < slide.size) :
    slide.selection k = resolveAt p s (r.start + k * r.step) :=
  selection_of_anchorAt? h (anchorAt?_of_stop_le hstop h hk).1

theorem selection_of_lt {k : Nat} (hr : r.Fits)
    (hmax : r.stop = none → isCompleteAt p s maxOffset = false)
    (h : ofSnapshot s p r = .ok slide) (hk : k < slide.size) :
    slide.selection k = resolveAt p s (r.start + k * r.step) :=
  selection_of_stop_le (stop_le_of_ofSnapshot hr hmax h) h hk

/-- Every selection but the last one is complete, and the last one too where no stop is requested. -/
theorem exists_resolveAt_of_lt {k : Nat} (hr : r.Fits) (h : ofSnapshot s p r = .ok slide)
    (hk : k < slide.size) : ∃ x, resolveAt p s (r.start + k * r.step) = .ok x ∧
      (k + 1 < slide.size ∨ r.stop = none → x.clipped = false) := by
  obtain ⟨hc, -⟩ := ofSnapshot_eq_ok_iff.mp h
  obtain ⟨hres, hfull⟩ := resolvesAt_of_stopRule hc (stopRule_of_ofSnapshot hr h)
    (AnchorRange.mem_grid r.start r.step k) ((lt_size_iff_of_ofSnapshot h).mp hk)
  obtain ⟨x, hx⟩ := resolvesAt_iff.mp hres
  refine ⟨x, hx, fun hnext => ?_⟩
  have hi : isCompleteAt p s (r.start + k * r.step) = true := by
    apply hfull
    refine hnext.imp_left fun hlast => ?_
    have hbelow := (lt_size_iff_of_ofSnapshot h).mp hlast
    have := AnchorRange.add_step_le r.start r.step (Nat.lt_add_one k)
    omega
  obtain ⟨y, hy, hclip⟩ := isCompleteAt_iff.mp hi
  obtain rfl : x = y := Except.ok.inj (hx.symm.trans hy)
  exact hclip

theorem exists_resolveAt_start (hr : r.Fits) (h : ofSnapshot s p r = .ok slide) :
    ∃ x, resolveAt p s r.start = .ok x ∧
      (1 < slide.size ∨ r.stop = none → x.clipped = false) := by
  simpa using exists_resolveAt_of_lt hr h (size_pos_of_ofSnapshot h)

theorem exists_selection_of_stop_le {k : Nat} (hr : r.Fits) (hstop : slide.stop ≤ maxOffset)
    (h : ofSnapshot s p r = .ok slide) (hk : k < slide.size) :
    ∃ x, slide.selection k = .ok x ∧
      (k + 1 < slide.size ∨ r.stop = none → x.clipped = false) := by
  rw [selection_of_stop_le hstop h hk]
  exact exists_resolveAt_of_lt hr h hk

theorem exists_selection_of_lt {k : Nat} (hr : r.Fits)
    (hmax : r.stop = none → isCompleteAt p s maxOffset = false)
    (h : ofSnapshot s p r = .ok slide) (hk : k < slide.size) :
    ∃ x, slide.selection k = .ok x ∧
      (k + 1 < slide.size ∨ r.stop = none → x.clipped = false) :=
  exists_selection_of_stop_le hr (stop_le_of_ofSnapshot hr hmax h) h hk

theorem selection_of_le {k : Nat} (hk : slide.size ≤ k) :
    slide.anchorAt? k = none ∧
      slide.selection k = .error (.outOfRange (.noSelection k slide.size)) := by
  have hnone : slide.anchorAt? k = none := by
    rw [anchorAt?, if_neg (by omega)]
  exact ⟨hnone, by simp only [selection, hnone]⟩

theorem walk_rest : slide.walk.rest =
    (List.range slide.size).map fun k => (slide.size - (k + 1), slide.selection k) := by
  rw [Walk.rest_eq (f := slide.selection) fun i => rfl, List.range_eq_range']
  rfl

theorem exists_selections_iff :
    (∃ xs, slide.selections = .ok xs) ↔ ∀ k < slide.size, ∃ x, slide.selection k = .ok x := by
  rw [selections, Outcome.exists_mapM_eq_ok_iff]
  simp only [List.mem_range]

theorem mem_selections_iff {xs : List Selection} (h : slide.selections = .ok xs) {x : Selection} :
    x ∈ xs ↔ ∃ k < slide.size, slide.selection k = .ok x := by
  simp only [Outcome.mem_iff_of_mapM_eq_ok h, List.mem_range]

/-- The selections of a slide, each at its number, with the names and paths of their files. -/
structure Listed (slide : Slide) (xs : List Selection) : Prop where
  all : slide.selections = .ok xs
  length : xs.length = slide.size
  selection : ∀ k x, xs[k]? = some x → slide.selection k = .ok x
  names : slide.allFileNames = .ok (xs.flatMap Selection.fileNames)
  paths : slide.allPaths = .ok (xs.flatMap Selection.paths)

theorem listed_of_selections {xs : List Selection} (h : slide.selections = .ok xs) :
    slide.Listed xs := by
  have hmap := Outcome.mapM_eq_ok_iff_map.mp h
  have hlength : xs.length = slide.size := by
    simpa using (congrArg List.length hmap).symm
  constructor
  case all => exact h
  case length => exact hlength
  case selection =>
    intro k x hx
    have hk : k < slide.size := hlength ▸ (List.getElem?_eq_some_iff.mp hx).1
    simpa [List.getElem?_range hk, hx] using congrArg (·[k]?) hmap
  case names => rw [allFileNames, h]; rfl
  case paths => rw [allPaths, h]; rfl

/-- A slide that hands out the selection at each of its anchors, and meets no fault whichever way it
is gone through. -/
structure Sound (slide : Slide) : Prop where
  nonempty : 1 ≤ slide.size
  anchor : ∀ k < slide.size,
    slide.anchorAt? k = some (slide.requested.start + k * slide.requested.step) ∧
      slide.requested.start + k * slide.requested.step < slide.stop
  selection : ∀ k < slide.size, ∃ x, slide.selection k = .ok x ∧
    resolveAt slide.pattern slide.snapshot
      (slide.requested.start + k * slide.requested.step) = .ok x ∧
    (k + 1 < slide.size ∨ slide.requested.stop = none → x.clipped = false)
  beyond : ∀ k, slide.size ≤ k → slide.anchorAt? k = none ∧
    slide.selection k = .error (.outOfRange (.noSelection k slide.size))
  walk : slide.walk.rest.length = slide.size ∧ ∀ item ∈ slide.walk.rest, ∃ x, item.2 = .ok x
  next : ∀ cursor x after, next? { slide with cursor } = some (x, after) → ∃ y, x = .ok y
  listed : ∃ xs, slide.Listed xs

/-- A slide that opens is sound, unless its row of complete selections leaves the range of anchors. -/
theorem sound_of_ofSnapshot (hr : r.Fits) (hmax : isCompleteAt p s maxOffset = false)
    (h : ofSnapshot s p r = .ok slide) : slide.Sound := by
  obtain ⟨hc, -, d, e, -, -, hlt, he⟩ := ofSnapshot_eq_ok_iff.mp h
  obtain ⟨hstep, h0⟩ := AnchorRange.check_eq_ok_iff.mp hc
  obtain ⟨hpattern, hsnapshot, hreq⟩ := fields_of_ofSnapshot h
  have hsel := fun k (hk : k < slide.size) => exists_selection_of_lt hr (fun _ => hmax) h hk
  have hok : ∀ k < slide.size, ∃ x, slide.selection k = .ok x := fun k hk =>
    (hsel k hk).imp fun x hx => hx.1
  obtain ⟨xs, hxs⟩ := exists_selections_iff.mpr hok
  constructor
  case nonempty =>
    have hpos : 0 < slide.size := by
      rw [lt_size_iff (hreq ▸ hstep), hreq]
      simpa [he, stop] using hlt
    omega
  case anchor =>
    rw [hreq]
    exact fun k hk => anchorAt?_of_lt hr (fun _ => hmax) h hk
  case selection =>
    rw [hreq, hpattern, hsnapshot]
    intro k hk
    obtain ⟨x, hx, hfull⟩ := hsel k hk
    exact ⟨x, hx, (selection_of_lt hr (fun _ => hmax) h hk).symm.trans hx, hfull⟩
  case beyond => exact fun k hk => selection_of_le hk
  case walk =>
    rw [walk_rest, List.length_map, List.length_range]
    refine ⟨rfl, fun item hitem => ?_⟩
    obtain ⟨k, hk, rfl⟩ := List.mem_map.mp hitem
    exact hok k (List.mem_range.mp hk)
  case next =>
    intro cursor x after hnext
    unfold next? at hnext
    split at hnext
    · rename_i hk
      obtain ⟨rfl, -⟩ := Prod.mk.inj (Option.some.inj hnext)
      exact hok cursor hk
    · simp at hnext
  case listed => exact ⟨xs, listed_of_selections hxs⟩

theorem everyOtherOfEight_sound :
    toEight.Fits ∧ isCompleteAt everyOther eightFiles maxOffset = false ∧
      ofSnapshot eightFiles everyOther toEight = .ok everyOtherOfEight ∧
      everyOtherOfEight.Sound :=
  ⟨toEight_fits, rfl, everyOtherOfEight_opens,
    sound_of_ofSnapshot (p := everyOther) (s := eightFiles) toEight_fits rfl
      everyOtherOfEight_opens⟩

end FileSeries.Slide
