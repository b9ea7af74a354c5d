import FileSeries.Proofs.Slide.LaterStop
/-!
The stop that a slide finds. Main statements: requested again it is found again, with the same
selections; and where none is requested it does not depend on the step, so that a larger step only
leaves selections out.
-/

namespace FileSeries

/-- The range with another step. -/
def AnchorRange.withStep (r : AnchorRange) (step : Nat) : AnchorRange := { r with step }

theorem AnchorRange.Fits.withStep {r : AnchorRange} {step : Nat} (hr : r.Fits)
    (h : fitsIndex step = true) : (r.withStep step).Fits := ⟨hr.start, hr.stop, h⟩

namespace Slide

variable {p : Pattern} {s : Snapshot} {r : AnchorRange} {a b : Slide} {last stop : Int}

/-- Two slides with one stop and the same selections at the same anchors. -/
structure SameSelections (a b : Slide) : Prop where
  stop : b.stop = a.stop
  size : b.size = a.size
  anchor : ∀ k, b.anchorAt? k = a.anchorAt? k
  selection : ∀ k, b.selection k = a.selection k
  resolved : ∀ k < a.size, ∃ x, a.selection k = .ok x ∧ b.selection k = .ok x

theorem not_missesTrailing_of_le (h : stop ≤ last + 1) : ¬MissesTrailing p s r last stop := by
  rintro ⟨a, ⟨⟨-, hlt⟩, -⟩, hgt, -⟩
  omega

/-- A requested stop within a step of the row is kept, unless the anchor beyond the row misses. -/
theorem stopAfter_of_le (hs : r.stop = some stop) (hle : stop ≤ last + r.step)
    (ht : ¬MissesTrailing p s r last stop) : StopAfter p s r last stop := by
  have hmin : min stop (last + r.step) = stop := min_eq_left hle
  have h := StopAfter.trailing hs (hmin.symm ▸ ht)
  rwa [hmin] at h

theorem stopAfter_withStop_self (hstep : 0 < r.step) (h : StopAfter p s r last stop) :
    StopAfter p s (r.withStop (some stop)) last stop := by
  have hstep' : (0 : Int) < (r.withStop (some stop)).step := by exact_mod_cast hstep
  cases h with
  | row hs => exact stopAfter_of_le rfl (by omega) (not_missesTrailing_of_le le_rfl)
  | trailing hs ht => exact stopAfter_of_le rfl (min_le_right _ _) ht
  | @noTrailing t hs ht =>
    have hle : min t (last + 1) ≤ last + 1 := min_le_right _ _
    exact stopAfter_of_le rfl (by omega) (not_missesTrailing_of_le hle)

/-- Whichever way the stop was found, the rule gives it again when it is requested. -/
theorem stopRule_withStop_self (hc : r.check = .ok ()) (h : StopRule p s r stop) :
    StopRule p s (r.withStop (some stop)) stop := by
  have hstep := (AnchorRange.check_eq_ok_iff.mp hc).1
  cases h with
  | row hb hl ha =>
    have hlt := lt_of_stopAfter hstep hb hl.1.1 ha
    have hb' : (r.withStop (some stop)).isBelowStop r.start = true :=
      isBelowStop_iff.mpr fun t ht => Option.some.inj ht ▸ hlt
    exact .row hb' hl (stopAfter_withStop_self hstep ha)
  | onlyFirst hs hlt hf hi => exact .onlyFirst rfl (Int.lt_succ _) hf hi

theorem sameSelections_of_stop_eq {t : Option Int} (hr : r.Fits) (hmax : a.stop ≤ maxOffset)
    (ha : ofSnapshot s p r = .ok a) (hb : ofSnapshot s p (r.withStop t) = .ok b)
    (h : b.stop = a.stop) : SameSelections a b := by
  obtain ⟨hp, hs, hreq⟩ := fields_of_ofSnapshot ha
  obtain ⟨hp', hs', hreq'⟩ := fields_of_ofSnapshot hb
  have hsize : b.size = a.size := by
    rw [size, size, h, hreq, hreq']
    rfl
  have hanchor : ∀ k, b.anchorAt? k = a.anchorAt? k := fun k => by
    rw [anchorAt?, anchorAt?, hsize, hreq, hreq']
    rfl
  have hselection : ∀ k, b.selection k = a.selection k := fun k => by
    simp only [selection, hanchor, hsize, hp, hs, hp', hs']
  constructor
  case stop => exact h
  case size => exact hsize
  case anchor => exact hanchor
  case selection => exact hselection
  case resolved =>
    intro k hk
    obtain ⟨x, hx, -⟩ := exists_selection_of_stop_le hr hmax ha hk
    exact ⟨x, hx, (hselection k).trans hx⟩

/-- A stop that is kept as an offset can be requested again; then it is found again, and the slide
hands out the same selections. -/
theorem exists_sameSelections_of_found_stop (hr : r.Fits) (ha : ofSnapshot s p r = .ok a)
    (hstop : fitsOffset a.stop = true) :
    ∃ b, ofSnapshot s p (r.withStop (some a.stop)) = .ok b ∧ SameSelections a b := by
  obtain ⟨hc, -, d, e, -, -, hlt, he⟩ := ofSnapshot_eq_ok_iff.mp ha
  have hstart : r.start < a.stop := by rwa [he]
  obtain ⟨b, hb⟩ := exists_ofSnapshot_withStop hr hstop ha hstart
  have hrule := stopRule_withStop_self hc (stopRule_of_ofSnapshot hr ha)
  have hrule' := stopRule_of_ofSnapshot (hr.withStop_some hstop) hb
  exact ⟨b, hb, sameSelections_of_stop_eq hr (fitsOffset_iff.mp hstop).2 ha hb
    (stopRule_unique hrule' hrule)⟩

/-- The stop 7 that was found below 8 is found again below 7. -/
theorem everyOther_sameSelections_toSeven :
    toEight.Fits ∧ ofSnapshot eightFiles everyOther toEight = .ok everyOtherOfEight ∧
      fitsOffset everyOtherOfEight.stop = true ∧ everyOtherOfEight.stop = 7 ∧
      ∃ b, ofSnapshot eightFiles everyOther (toEight.withStop (some 7)) = .ok b ∧
        SameSelections everyOtherOfEight b := by
  have hagain := exists_sameSelections_of_found_stop toEight_fits everyOtherOfEight_opens rfl
  exact ⟨toEight_fits, everyOtherOfEight_opens, rfl, rfl, hagain⟩

/-- A slide with every `step`-th selection of another one. -/
structure Samples (step : Nat) (a b : Slide) : Prop where
  stop : a.stop = b.stop
  size : a.size = b.size ⌈/⌉ step
  selection : ∀ k < a.size, a.anchorAt? k = b.anchorAt? (k * step) ∧
    ∃ x, a.selection k = .ok x ∧ b.selection (k * step) = .ok x

theorem stopRule_withStep {step : Nat} (hs : r.stop = none) (h : StopRule p s r stop) :
    StopRule p s (r.withStep step) stop := by
  cases h with
  | onlyFirst hs' hlt hf hi => simp [hs] at hs'
  | row hb hl ha =>
    cases ha with
    | row hs' => exact .row hb hl (.row hs)
    | trailing hs' ht => simp [hs] at hs'
    | noTrailing hs' ht => simp [hs] at hs'

theorem exists_ofSnapshot_withStep_iff {step : Nat} (hr : r.Fits) (hstep : 1 ≤ r.step)
    (hfits : fitsIndex step = true) (h : 1 ≤ step) :
    (∃ a, ofSnapshot s p r = .ok a) ↔ ∃ b, ofSnapshot s p (r.withStep step) = .ok b := by
  have hcheck : r.check = .ok () ↔ (r.withStep step).check = .ok () := by
    rw [AnchorRange.check_eq_ok_iff, AnchorRange.check_eq_ok_iff]
    exact and_congr_left fun _ => iff_of_true hstep h
  rw [exists_ofSnapshot_iff hr, exists_ofSnapshot_iff (hr.withStep hfits), hcheck]
  rfl

theorem samples_of_ofSnapshot (hr : r.Fits) (hs : r.stop = none)
    (hmax : isCompleteAt p s maxOffset = false) (ha : ofSnapshot s p r = .ok a)
    (hb : ofSnapshot s p (r.withStep 1) = .ok b) : Samples r.step a b := by
  have hr' : (r.withStep 1).Fits := hr.withStep rfl
  have hstep := (AnchorRange.check_eq_ok_iff.mp (ofSnapshot_eq_ok_iff.mp ha).1).1
  have hstop : a.stop = b.stop := stopRule_unique
    (r := r.withStep 1) (stopRule_withStep hs (stopRule_of_ofSnapshot hr ha))
    (stopRule_of_ofSnapshot hr' hb)
  -- The grid of all anchors reaches each anchor of the coarser one.
  have hgrid : ∀ k : Nat, (r.withStep 1).start + (k * r.step : Nat) * (r.withStep 1).step =
      r.start + k * r.step := fun k => by
    simp only [AnchorRange.withStep]
    push_cast
    omega
  have hlt : ∀ k, k < a.size ↔ k * r.step < b.size := fun k => by
    rw [lt_size_iff_of_ofSnapshot ha, lt_size_iff_of_ofSnapshot hb, hgrid, hstop]
  constructor
  case stop => exact hstop
  case size =>
    refine eq_of_forall_lt_iff fun k => ?_
    rw [hlt, ← not_le, ← not_le, ceilDiv_le_iff_le_mul hstep, Nat.mul_comm]
  case selection =>
    intro k hk
    have hk' := (hlt k).mp hk
    have hat := (anchorAt?_of_lt hr (fun _ => hmax) ha hk).1
    have hat' := (anchorAt?_of_lt hr' (fun _ => hmax) hb hk').1
    rw [hgrid] at hat'
    obtain ⟨x, hx, -⟩ := exists_resolveAt_of_lt hr ha hk
    exact ⟨hat.trans hat'.symm, x, (selection_of_anchorAt? ha hat).trans hx,
      (selection_of_anchorAt? hb hat').trans hx⟩

/-- Without a requested stop a slide is the one with step one, with selections left out. -/
theorem samples_of_larger_step (hr : r.Fits) (hs : r.stop = none) (hstep : 1 ≤ r.step)
    (hmax : isCompleteAt p s maxOffset = false) :
    ((∃ a, ofSnapshot s p r = .ok a) ↔ ∃ b, ofSnapshot s p (r.withStep 1) = .ok b) ∧
      ∀ a b, ofSnapshot s p r = .ok a → ofSnapshot s p (r.withStep 1) = .ok b →
        Samples r.step a b :=
  ⟨exists_ofSnapshot_withStep_iff hr hstep rfl le_rfl,
    fun _ _ => samples_of_ofSnapshot hr hs hmax⟩

def everyFourth : AnchorRange := { step := 4 }

def farthest : AnchorRange := { step := maxIndex }

/-- The last complete selection is that at 5, whatever the step. -/
def everyOtherToEnd (step : Nat) : Slide :=
  { everyOtherOfEight with requested := { step }, ending := .afterComplete 5 }

/-- Of the six complete selections the first and the fifth are left, and the first alone with the
largest step. -/
theorem everyOther_samples_everyFourth :
    everyFourth.Fits ∧ farthest.Fits ∧ isCompleteAt everyOther eightFiles maxOffset = false ∧
      ∃ a b c, ofSnapshot eightFiles everyOther everyFourth = .ok a ∧
        ofSnapshot eightFiles everyOther (everyFourth.withStep 1) = .ok b ∧
        ofSnapshot eightFiles everyOther farthest = .ok c ∧
        b.size = 6 ∧ a.size = 2 ∧ c.size = 1 ∧ Samples 4 a b ∧ Samples maxIndex c b := by
  have hr : everyFourth.Fits := by decide
  have hr' : farthest.Fits := by decide
  have hfourth := (samples_of_larger_step (p := everyOther) (s := eightFiles) hr rfl
    (by decide) rfl).2
  have hfarthest := (samples_of_larger_step (p := everyOther) (s := eightFiles) hr' rfl
    (by decide) rfl).2
  have hone : ofSnapshot eightFiles everyOther (everyFourth.withStep 1) =
      .ok (everyOtherToEnd 1) := by cbv
  have hfour : ofSnapshot eightFiles everyOther everyFourth = .ok (everyOtherToEnd 4) := by cbv
  have hmost : ofSnapshot eightFiles everyOther farthest = .ok (everyOtherToEnd maxIndex) := by cbv
  exact ⟨hr, hr', rfl, _, _, _, hfour, hone, hmost, rfl, rfl, rfl, hfourth _ _ hfour hone,
    hfarthest _ _ hmost hone⟩

end Slide

end FileSeries
