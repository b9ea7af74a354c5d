import FileSeries.Proofs.Slide.Row
/-!
The rule for the first anchor beyond a slide. Main statement: the stop of a slide that opens is the
one that the rule gives, in exact arithmetic and from the whole row of complete selections, however
far the requested stop lets the walk along it go.
-/

namespace FileSeries.Slide

open AnchorRange (grid)

variable {p : Pattern} {s : Snapshot} {r : AnchorRange}

/-- The last anchor below `stop` lies beyond `last`, and no selection resolves there. -/
def MissesTrailing (p : Pattern) (s : Snapshot) (r : AnchorRange) (last stop : Int) : Prop :=
  ∃ a, IsGreatest {b | b ∈ grid r.start r.step ∧ b < stop} a ∧ last < a ∧
    resolvesAt p s a = false

/-- The stop of a slide with a row of complete selections that ends with `last`. It lies right after
the row, or as far beyond it as one step and the requested stop allow; that far only if something
resolves at the last anchor below. -/
inductive StopAfter (p : Pattern) (s : Snapshot) (r : AnchorRange) (last : Int) : Int → Prop
  | row (hs : r.stop = none) : StopAfter p s r last (last + 1)
  | trailing {stop : Int} (hs : r.stop = some stop)
      (ht : ¬ MissesTrailing p s r last (min stop (last + r.step))) :
      StopAfter p s r last (min stop (last + r.step))
  | noTrailing {stop : Int} (hs : r.stop = some stop)
      (ht : MissesTrailing p s r last (min stop (last + r.step))) :
      StopAfter p s r last (min stop (last + 1))

/-- Holding the step and the sum at the end of their range does not show below a stop. -/
theorem candidate_eq {last stop : Int} {step : Nat} (hl : 0 ≤ last) (hstep : 0 < step)
    (hm : stop ≤ maxOffset) (hstop : 0 < stop) :
    min stop (addOffsetsHeld (min last (stop - 1)) (stepReach step)) = min stop (last + step) := by
  simp only [addOffsetsHeld, stepReach, minOffset, maxOffset] at hm ⊢
  omega

theorem stop_endingAfter {last stop : Int} (hr : r.Fits) (hc : r.check = .ok ())
    (hs : r.stop = some stop) (hlt : r.start < stop) (hl : r.start ≤ last) :
    StopAfter p s r last (endingAfter p s r (min last (stop - 1))).stop := by
  obtain ⟨hstep, h0⟩ := AnchorRange.check_eq_ok_iff.mp hc
  have hm : stop ≤ maxOffset := (fitsOffset_iff.mp (hr.stop stop hs)).2
  have hcand := candidate_eq (h0.trans hl) hstep hm (h0.trans_lt hlt)
  obtain ⟨t, ht⟩ : ∃ t, AnchorRange.last? r.start (min stop (last + r.step)) r.step = some t := by
    apply Option.ne_none_iff_exists'.mp
    intro hnone
    have := (AnchorRange.last?_eq_none_iff hstep h0 (by omega)).mp hnone
    omega
  have hgreatest := (AnchorRange.isGreatest_iff_last? hstep h0 (by omega)).mpr ht
  have htlt : t < min stop (last + r.step) := hgreatest.1.2
  have hmiss : MissesTrailing p s r last (min stop (last + r.step)) ↔
      last < t ∧ resolvesAt p s t = false := by
    constructor
    · rintro ⟨a, ha, hla, hra⟩
      obtain rfl := ha.unique hgreatest
      exact ⟨hla, hra⟩
    · rintro ⟨hla, hra⟩
      exact ⟨t, hgreatest, hla, hra⟩
  -- The walk may end below the row, but no anchor below the stop lies between the two ends.
  have hbeyond : min last (stop - 1) < t ↔ last < t := by omega
  simp only [endingAfter, hs, hcand, ht, hbeyond]
  by_cases hmt : last < t ∧ resolvesAt p s t = false
  · have hstop : min stop (min last (stop - 1) + 1) = min stop (last + 1) := by omega
    simp only [hmt, decide_true, Bool.not_false, Bool.and_self, if_true, Ending.stop, hstop]
    exact .noTrailing hs (hmiss.mpr hmt)
  · have hkeep : ¬ (decide (last < t) && !resolvesAt p s t) = true := by simpa using hmt
    rw [if_neg hkeep]
    have hstop : (if min stop (last + r.step) < stop then
        Ending.lowered stop (min stop (last + r.step))
        else .asRequested (min stop (last + r.step))).stop = min stop (last + r.step) := by
      split <;> rfl
    rw [hstop]
    exact .trailing hs (mt hmiss.mp hmt)

/-- The stop of a slide. Without a complete selection at the start, at most the first one is left. -/
inductive StopRule (p : Pattern) (s : Snapshot) (r : AnchorRange) : Int → Prop
  | row {last stop : Int} (hb : r.isBelowStop r.start = true)
      (hl : IsGreatest (completeRow p s r.start) last) (ha : StopAfter p s r last stop) :
      StopRule p s r stop
  | onlyFirst {stop : Int} (hs : r.stop = some stop) (hlt : r.start < stop)
      (hf : resolvesAt p s r.start = true) (hi : isCompleteAt p s r.start = false) :
      StopRule p s r (r.start + 1)

variable {d : Nat}

theorem lt_of_stopAfter {last stop : Int} (hstep : 0 < r.step) (hb : r.isBelowStop r.start = true)
    (hl : r.start ≤ last) (h : StopAfter p s r last stop) : r.start < stop := by
  cases h with
  | row hs => omega
  | trailing hs ht =>
    have := isBelowStop_iff.mp hb _ hs
    omega
  | noTrailing hs ht =>
    have := isBelowStop_iff.mp hb _ hs
    omega

theorem endingOf_of_row {last : Int} (hr : r.Fits) (hc : r.check = .ok ())
    (hd : p.anchorDimension? = some d) (hb : r.isBelowStop r.start = true)
    (hl : IsGreatest (completeRow p s r.start) last) :
    ∃ e, endingOf p s r d = .ok e ∧ StopAfter p s r last e.stop := by
  have hstart := isCompleteAt_start_of_mem hl.1
  obtain ⟨n, hn⟩ : ∃ n, completeCount p s r d = n + 1 := by
    apply Nat.exists_eq_succ_of_ne_zero
    intro hzero
    exact (completeCount_eq_zero_iff hd).mp hzero ⟨hb, hstart⟩
  have hwalk := isGreatest_of_completeCount hd hn
  refine ⟨endingAfter p s r (r.start + n), by simp only [endingOf, hn], ?_⟩
  cases hs : r.stop with
  | none =>
    have hall : {a | a ∈ completeRow p s r.start ∧ r.isBelowStop a = true} =
        completeRow p s r.start := by
      ext a
      simp [isBelowStop_iff, hs]
    rw [hall] at hwalk
    rw [hwalk.unique hl]
    simp only [endingAfter, hs, Ending.stop]
    exact .row hs
  | some stop =>
    have hlt := isBelowStop_iff.mp hb stop hs
    rw [hwalk.unique (isGreatest_below_iff hl hs hlt)]
    exact stop_endingAfter hr hc hs hlt hl.1.1

theorem endingOf_of_not_complete (hd : p.anchorDimension? = some d)
    (h : isCompleteAt p s r.start = false) : endingOf p s r d = endingAtStart p s r := by
  have hzero : completeCount p s r d = 0 := (completeCount_eq_zero_iff hd).mpr (by simp [h])
  simp only [endingOf, hzero]

theorem endingOf_of_not_below (hd : p.anchorDimension? = some d)
    (h : r.isBelowStop r.start = false) : endingOf p s r d = .ok (.atStart r.start) := by
  have hzero : completeCount p s r d = 0 := (completeCount_eq_zero_iff hd).mpr (by simp [h])
  simp only [endingOf, hzero, endingAtStart, h, Bool.false_eq_true, if_false]

theorem stopRule_of_endingOf {e : Ending} (hr : r.Fits) (hc : r.check = .ok ())
    (hd : p.anchorDimension? = some d) (he : endingOf p s r d = .ok e)
    (hlt : r.start < e.stop) : StopRule p s r e.stop := by
  by_cases hb : r.isBelowStop r.start = true
  · by_cases hi : isCompleteAt p s r.start = true
    · obtain ⟨last, hl⟩ := (exists_isGreatest_completeRow hd).mpr hi
      obtain ⟨e', he', ha⟩ := endingOf_of_row hr hc hd hb hl
      obtain rfl : e' = e := Except.ok.inj (he'.symm.trans he)
      exact .row hb hl ha
    · have hi : isCompleteAt p s r.start = false := by simpa using hi
      rw [endingOf_of_not_complete hd hi] at he
      unfold endingAtStart at he
      rw [if_pos hb] at he
      cases hx : resolveAt p s r.start with
      | error f => simp [hx] at he
      | ok x =>
        simp only [hx, Except.ok.injEq] at he
        cases hs : r.stop with
        | none => simp [hs, ← he, Ending.stop] at hlt
        | some stop =>
          simp only [hs, Option.isSome_some, if_true] at he
          rw [← he]
          exact .onlyFirst hs (isBelowStop_iff.mp hb stop hs) (resolvesAt_iff.mpr ⟨x, hx⟩) hi
  · rw [endingOf_of_not_below hd (by simpa using hb)] at he
    simp [← Except.ok.inj he, Ending.stop] at hlt

theorem ofSnapshot_eq_ok_iff {slide : Slide} :
    ofSnapshot s p r = .ok slide ↔ r.check = .ok () ∧ p.arity = s.arity ∧
      ∃ d e, p.anchorDimension? = some d ∧ endingOf p s r d = .ok e ∧ r.start < e.stop ∧
        slide = { pattern := p, snapshot := s, dimension := d, requested := r, ending := e } := by
  simp only [ofSnapshot, Outcome.bind_eq_ok_iff, Outcome.mapError_eq_ok_iff,
    Pattern.checkArity_eq_ok_iff]
  constructor
  · rintro ⟨u, hc, -, hn, h⟩
    refine ⟨hc, hn, ?_⟩
    cases hd : p.anchorDimension? with
    | none => simp [hd, Outcome.throw_ne_ok] at h
    | some d =>
      simp only [hd, Outcome.bind_eq_ok_iff] at h
      obtain ⟨e, he, h⟩ := h
      have hstep := (AnchorRange.check_eq_ok_iff.mp hc).1
      split at h
      · exact absurd h Outcome.throw_ne_ok
      · rename_i hsize
        refine ⟨d, e, rfl, he, ?_, (Except.ok.inj h).symm⟩
        simpa [size, stop, AnchorRange.count_eq_zero_iff hstep] using hsize
  · rintro ⟨hc, hn, d, e, hd, he, hlt, rfl⟩
    have hstep := (AnchorRange.check_eq_ok_iff.mp hc).1
    refine ⟨(), hc, (), hn, ?_⟩
    simp only [hd, Outcome.bind_eq_ok_iff]
    refine ⟨e, he, ?_⟩
    rw [if_neg]
    · rfl
    · simpa [size, stop, AnchorRange.count_eq_zero_iff hstep] using hlt

theorem stopRule_of_ofSnapshot {slide : Slide} (hr : r.Fits) (h : ofSnapshot s p r = .ok slide) :
    StopRule p s r slide.stop := by
  obtain ⟨hc, -, d, e, hd, he, hlt, rfl⟩ := ofSnapshot_eq_ok_iff.mp h
  exact stopRule_of_endingOf hr hc hd he hlt

/-- Whether a slide opens is decided by its first anchor. -/
theorem exists_ofSnapshot_iff (hr : r.Fits) :
    (∃ slide, ofSnapshot s p r = .ok slide) ↔ r.check = .ok () ∧ p.arity = s.arity ∧
      (∃ d, p.anchorDimension? = some d) ∧ r.isBelowStop r.start = true ∧
      resolvesAt p s r.start = true ∧ (r.stop = none → isCompleteAt p s r.start = true) := by
  constructor
  · rintro ⟨slide, h⟩
    obtain ⟨hc, hn, d, e, hd, -⟩ := ofSnapshot_eq_ok_iff.mp h
    refine ⟨hc, hn, ⟨d, hd⟩, ?_⟩
    have hrule := stopRule_of_ofSnapshot hr h
    generalize slide.stop = stop at hrule
    cases hrule with
    | row hb hl ha =>
      have hi := isCompleteAt_start_of_mem hl.1
      exact ⟨hb, resolvesAt_of_isCompleteAt hi, fun _ => hi⟩
    | onlyFirst hs hlt hf hi =>
      refine ⟨isBelowStop_iff.mpr fun stop' hs' => ?_, hf, fun hnone => ?_⟩
      · rw [hs, Option.some.injEq] at hs'
        exact hs' ▸ hlt
      · simp [hs] at hnone
  · rintro ⟨hc, hn, ⟨d, hd⟩, hb, hf, hi⟩
    have hstep := (AnchorRange.check_eq_ok_iff.mp hc).1
    by_cases hfull : isCompleteAt p s r.start = true
    · obtain ⟨last, hl⟩ := (exists_isGreatest_completeRow hd).mpr hfull
      obtain ⟨e, he, ha⟩ := endingOf_of_row hr hc hd hb hl
      exact ⟨_, ofSnapshot_eq_ok_iff.mpr
        ⟨hc, hn, d, e, hd, he, lt_of_stopAfter hstep hb hl.1.1 ha, rfl⟩⟩
    · have hsome : r.stop.isSome = true :=
        Option.isSome_iff_ne_none.mpr fun hnone => hfull (hi hnone)
      obtain ⟨x, hx⟩ := resolvesAt_iff.mp hf
      have he : endingOf p s r d = .ok (.onlyClipped r.start) := by
        rw [endingOf_of_not_complete hd (by simpa using hfull)]
        simp only [endingAtStart, hb, if_true, hx, hsome]
      exact ⟨_, ofSnapshot_eq_ok_iff.mpr
        ⟨hc, hn, d, _, hd, he, by simp only [Ending.stop]; omega, rfl⟩⟩

theorem stopAfter_unique {last stop stop' : Int} (h : StopAfter p s r last stop)
    (h' : StopAfter p s r last stop') : stop = stop' := by
  cases h with
  | row hs => cases h' <;> simp_all
  | trailing hs ht => cases h' <;> simp_all
  | noTrailing hs ht => cases h' <;> simp_all

theorem stopRule_unique {stop stop' : Int} (h : StopRule p s r stop) (h' : StopRule p s r stop') :
    stop = stop' := by
  cases h with
  | row hb hl ha =>
    cases h' with
    | row hb' hl' ha' =>
      obtain rfl := hl.unique hl'
      exact stopAfter_unique ha ha'
    | onlyFirst hs hlt hf hi => simp [isCompleteAt_start_of_mem hl.1] at hi
  | onlyFirst hs hlt hf hi =>
    cases h' with
    | row hb' hl' ha' => simp [isCompleteAt_start_of_mem hl'.1] at hi
    | onlyFirst hs' hlt' hf' hi' => rfl

/-- The stop is the one that the rule gives, and the rule's row has an end. -/
theorem stop_eq_iff_stopRule {slide : Slide} (hr : r.Fits) (h : ofSnapshot s p r = .ok slide) :
    ((∃ last, IsGreatest (completeRow p s r.start) last) ↔ isCompleteAt p s r.start = true) ∧
      ∀ stop, slide.stop = stop ↔ StopRule p s r stop := by
  obtain ⟨-, -, d, e, hd, -⟩ := ofSnapshot_eq_ok_iff.mp h
  have hrule := stopRule_of_ofSnapshot hr h
  refine ⟨exists_isGreatest_completeRow hd, fun stop => ⟨?_, fun hstop => ?_⟩⟩
  · rintro rfl
    exact hrule
  · exact stopRule_unique hrule hstop

/-- The files `file0.png` to `file7.png`. -/
def eightFiles : Snapshot where
  template := ⟨"file".toList, [(.plain, [])], some "png".toList⟩
  axes := [⟨List.range 8, by decide⟩]
  tuples := (List.range 8).map fun n => [n]
  directory := "d"
  filter := {}

def everyOther : Pattern := ⟨"i:i+3:2", [.window 0 3 2]⟩

def toEight : AnchorRange := { stop := some 8, step := 2 }

/-- The anchors 0, 2, 4 and 6, the last of which has one file left. -/
def everyOtherOfEight : Slide where
  pattern := everyOther
  snapshot := eightFiles
  dimension := 0
  requested := toEight
  ending := .lowered 8 7

theorem toEight_fits : toEight.Fits := by decide

theorem everyOtherOfEight_opens :
    ofSnapshot eightFiles everyOther toEight = .ok everyOtherOfEight := by cbv

theorem stopRule_everyOtherOfEight :
    toEight.Fits ∧ ofSnapshot eightFiles everyOther toEight = .ok everyOtherOfEight ∧
      StopRule everyOther eightFiles toEight 7 :=
  ⟨toEight_fits, everyOtherOfEight_opens,
    ((stop_eq_iff_stopRule toEight_fits everyOtherOfEight_opens).2 7).mp
      (show everyOtherOfEight.stop = 7 from rfl)⟩

end FileSeries.Slide
