import FileSeries.Proofs.Slide.Gap
/-!
How a slide opens. Main statement: the first anchor alone decides whether it does. A range or a
pattern that does not suit is refused first, a fault of the selection at the first anchor is passed
on as it is, and a slide that would be left without an anchor says so.
-/

namespace FileSeries

theorem AnchorRange.check_eq_error_iff {r : AnchorRange} {f : Fault} : r.check = .error f ↔
    r.step = 0 ∧ f = .config .zeroStep ∨
      r.step ≠ 0 ∧ r.start < 0 ∧ f = .config (.negativeStart r.start) := by
  unfold check
  by_cases hstep : r.step = 0
  · simp [hstep, eq_comm]
  · by_cases hstart : r.start < 0 <;> simp [hstep, hstart, eq_comm]

namespace Slide

variable {p : Pattern} {s : Snapshot} {r : AnchorRange} {d : Nat} {e : Ending} {f : Fault}

/-- The range goes forward from zero or above, and the pattern has a dimension for each field and a
window in one of them. -/
structure Suits (p : Pattern) (s : Snapshot) (r : AnchorRange) : Prop where
  step : 1 ≤ r.step
  start : 0 ≤ r.start
  arity : p.arity = s.arity
  window : ∃ d, p.anchorDimension? = some d

/-- What comes of opening a slide. -/
inductive Opening (p : Pattern) (s : Snapshot) (r : AnchorRange) : Except Fault Slide → Prop
  | zeroStep (hstep : r.step = 0) : Opening p s r (.error (.config .zeroStep))
  | negativeStart (hstep : 1 ≤ r.step) (hstart : r.start < 0) :
    Opening p s r (.error (.config (.negativeStart r.start)))
  | wrongArity {e : Pattern.SyntaxError} (hrange : 1 ≤ r.step ∧ 0 ≤ r.start)
    (harity : p.arity ≠ s.arity) (hdefect : e.defect = .wrongArity p.arity s.arity) :
    Opening p s r (.error (.pattern e))
  | noWindow {e : Pattern.SyntaxError} (hrange : 1 ≤ r.step ∧ 0 ≤ r.start)
    (harity : p.arity = s.arity) (hnone : p.anchorDimension? = none)
    (hdefect : e.defect = .anchorNeeded) : Opening p s r (.error (.pattern e))
  /-- The fault is the one that the selection at the start fails with. -/
  | unresolved {f : Fault} (hsuits : Suits p s r)
    (hbelow : ∀ stop, r.stop = some stop → r.start < stop)
    (hfirst : Selection.resolve p s (some r.start) = .error f) : Opening p s r (.error f)
  | noAnchor {reason : OutOfRange} (hsuits : Suits p s r)
    (hempty : (∃ stop, r.stop = some stop ∧ stop ≤ r.start) ∨ r.stop = none ∧
      ∃ x, Selection.resolve p s (some r.start) = .ok x ∧ x.clipped = true)
    (hdimension : reason.dimension? = none) (hindices : reason.indices? = none) :
    Opening p s r (.error (.outOfRange reason))
  | opened {slide : Slide} {x : Selection} (hsuits : Suits p s r)
    (hbelow : ∀ stop, r.stop = some stop → r.start < stop)
    (hfirst : Selection.resolve p s (some r.start) = .ok x)
    (hclip : r.stop = none → x.clipped = false) (hselection : slide.selection 0 = .ok x) :
    Opening p s r (.ok slide)

theorem Suits.check (h : Suits p s r) : r.check = .ok () :=
  AnchorRange.check_eq_ok_iff.mpr ⟨h.step, h.start⟩

theorem ofSnapshot_of_check_eq_error (h : r.check = .error f) : ofSnapshot s p r = .error f := by
  rw [ofSnapshot, h]
  rfl

theorem ofSnapshot_of_arity_ne (hc : r.check = .ok ()) (h : p.arity ≠ s.arity) :
    ∃ e, ofSnapshot s p r = .error (.pattern e) ∧ e.defect = .wrongArity p.arity s.arity := by
  refine ⟨p.errorAt p.source.utf8ByteSize (.wrongArity p.arity s.arity), ?_, rfl⟩
  rw [ofSnapshot, hc, Pattern.checkArity, if_neg h]
  rfl

theorem ofSnapshot_of_anchorDimension?_eq_none (hc : r.check = .ok ()) (hn : p.arity = s.arity)
    (h : p.anchorDimension? = none) :
    ∃ e, ofSnapshot s p r = .error (.pattern e) ∧ e.defect = .anchorNeeded := by
  refine ⟨p.errorAt 0 .anchorNeeded, ?_, rfl⟩
  rw [ofSnapshot, hc, Pattern.checkArity, if_pos hn, h]
  rfl

/-- Where range and pattern suit, the ending decides. -/
theorem ofSnapshot_of_suits (h : Suits p s r) (hd : p.anchorDimension? = some d) :
    ofSnapshot s p r = endingOf p s r d >>= fun e =>
      if AnchorRange.count r.start e.stop r.step = 0 then
        .error (.outOfRange (.noAnchor r.start r.stop p.text))
      else .ok { pattern := p, snapshot := s, dimension := d, requested := r, ending := e } := by
  rw [ofSnapshot, h.check, Pattern.checkArity, if_pos h.arity, hd]
  rfl

theorem ofSnapshot_of_atStart (h : Suits p s r) (hd : p.anchorDimension? = some d)
    (he : endingOf p s r d = .ok (.atStart r.start)) :
    ofSnapshot s p r = .error (.outOfRange (.noAnchor r.start r.stop p.text)) := by
  have hcount : AnchorRange.count r.start (Ending.atStart r.start).stop r.step = 0 :=
    (AnchorRange.count_eq_zero_iff h.step).mpr le_rfl
  rw [ofSnapshot_of_suits h hd, he]
  exact if_pos hcount

theorem endingOf_of_error (hd : p.anchorDimension? = some d) (hb : r.isBelowStop r.start = true)
    (hx : resolveAt p s r.start = .error f) : endingOf p s r d = .error f := by
  have hi : isCompleteAt p s r.start = false := by
    unfold isCompleteAt
    rw [hx]
  rw [endingOf_of_not_complete hd hi, endingAtStart, if_pos hb, hx]

theorem endingOf_of_clipped {x : Selection} (hd : p.anchorDimension? = some d)
    (hs : r.stop = none) (hx : resolveAt p s r.start = .ok x) (hclip : x.clipped = true) :
    endingOf p s r d = .ok (.atStart r.start) := by
  have hi : isCompleteAt p s r.start = false := by
    unfold isCompleteAt
    rw [hx]
    exact congrArg not hclip
  have hb : r.isBelowStop r.start = true := isBelowStop_iff.mpr fun stop h => by simp [hs] at h
  rw [endingOf_of_not_complete hd hi, endingAtStart, if_pos hb, hx, hs]
  rfl

theorem opening_of_suits (hr : r.Fits) (h : Suits p s r) : Opening p s r (ofSnapshot s p r) := by
  obtain ⟨d, hd⟩ := h.window
  by_cases hb : r.isBelowStop r.start = true
  · have hbelow := isBelowStop_iff.mp hb
    cases hx : resolveAt p s r.start with
    | error f =>
      rw [ofSnapshot_of_suits h hd, endingOf_of_error hd hb hx]
      exact .unresolved h hbelow hx
    | ok x =>
      by_cases hclip : r.stop = none → x.clipped = false
      · obtain ⟨slide, hslide⟩ := (exists_ofSnapshot_iff hr).mpr ⟨h.check, h.arity, ⟨d, hd⟩, hb,
          resolvesAt_iff.mpr ⟨x, hx⟩, fun hs => isCompleteAt_iff.mpr ⟨x, hx, hclip hs⟩⟩
        rw [hslide]
        exact .opened h hbelow hx hclip ((selection_zero hr hslide).trans hx)
      · -- Without a requested stop the row of complete selections is all there is.
        rw [Classical.not_imp, Bool.not_eq_false] at hclip
        obtain ⟨hs, hclip⟩ := hclip
        rw [ofSnapshot_of_atStart h hd (endingOf_of_clipped hd hs hx hclip)]
        exact .noAnchor h (.inr ⟨hs, x, hx, hclip⟩) rfl rfl
  · rw [ofSnapshot_of_atStart h hd (endingOf_of_not_below hd (Bool.eq_false_iff.mpr hb))]
    rw [isBelowStop_iff] at hb
    push Not at hb
    exact .noAnchor h (.inl hb) rfl rfl

theorem opening_ofSnapshot (hr : r.Fits) : Opening p s r (ofSnapshot s p r) := by
  cases hc : r.check with
  | error f =>
    rw [ofSnapshot_of_check_eq_error hc]
    rcases AnchorRange.check_eq_error_iff.mp hc with ⟨hstep, rfl⟩ | ⟨hstep, hstart, rfl⟩
    · exact .zeroStep hstep
    · exact .negativeStart (Nat.one_le_iff_ne_zero.mpr hstep) hstart
  | ok u =>
    have hrange := AnchorRange.check_eq_ok_iff.mp hc
    by_cases hn : p.arity = s.arity
    · cases hd : p.anchorDimension? with
      | none =>
        obtain ⟨e, he, hdefect⟩ := ofSnapshot_of_anchorDimension?_eq_none (s := s) hc hn hd
        rw [he]
        exact .noWindow hrange hn hd hdefect
      | some d => exact opening_of_suits hr ⟨hrange.1, hrange.2, hn, d, hd⟩
    · obtain ⟨e, he, hdefect⟩ := ofSnapshot_of_arity_ne (s := s) hc hn
      rw [he]
      exact .wrongArity hrange hn hdefect

theorem Opening.exists_ok_iff {o : Except Fault Slide} (h : Opening p s r o) :
    (∃ slide, o = .ok slide) ↔ Suits p s r ∧ (∀ stop, r.stop = some stop → r.start < stop) ∧
      ∃ x, Selection.resolve p s (some r.start) = .ok x ∧ (r.stop = none → x.clipped = false) := by
  cases h with
  | zeroStep hstep =>
    refine iff_of_false (by simp) fun h => ?_
    have := h.1.step
    omega
  | negativeStart hstep hstart =>
    refine iff_of_false (by simp) fun h => ?_
    have := h.1.start
    omega
  | wrongArity hrange harity hdefect => exact iff_of_false (by simp) fun h => harity h.1.arity
  | noWindow hrange harity hnone hdefect =>
    refine iff_of_false (by simp) fun h => ?_
    obtain ⟨d, hd⟩ := h.1.window
    simp [hnone] at hd
  | unresolved hsuits hbelow hfirst =>
    refine iff_of_false (by simp) ?_
    rintro ⟨-, -, x, hx, -⟩
    simp [hfirst] at hx
  | noAnchor hsuits hempty hdimension hindices =>
    refine iff_of_false (by simp) ?_
    rintro ⟨-, hbelow, x, hx, hclip⟩
    rcases hempty with ⟨stop, hs, hle⟩ | ⟨hs, y, hy, hclipped⟩
    · exact absurd (hbelow stop hs) hle.not_gt
    · obtain rfl := Except.ok.inj (hx.symm.trans hy)
      simp [hclip hs] at hclipped
  | opened hsuits hbelow hfirst hclip hselection =>
    exact iff_of_true ⟨_, rfl⟩ ⟨hsuits, hbelow, _, hfirst, hclip⟩

/-- A slide opens exactly if range and pattern suit, the start lies below the requested stop and the
pattern resolves there, without being clipped where no stop is requested; otherwise the first of
these that fails names the fault. -/
theorem opening_decided_at_start (hr : r.Fits) : Opening p s r (ofSnapshot s p r) ∧
    ((∃ slide, ofSnapshot s p r = .ok slide) ↔
      Suits p s r ∧ (∀ stop, r.stop = some stop → r.start < stop) ∧
        ∃ x, Selection.resolve p s (some r.start) = .ok x ∧
          (r.stop = none → x.clipped = false)) :=
  ⟨opening_ofSnapshot hr, (opening_ofSnapshot hr).exists_ok_iff⟩

/-- The row that is not whole, and all rows after it. -/
def fromGap : AnchorRange := { start := 2 }

/-- Over the rows with a gap a slide opens before the gap, and at the gap it fails with the tuple
that was not scanned. -/
theorem opening_gappedRows : everyThird.Fits ∧ fromGap.Fits ∧
    (∃ slide, ofSnapshot gappedRows oneRow everyThird = .ok slide ∧
      Opening oneRow gappedRows everyThird (.ok slide)) ∧
    ∃ reason, ofSnapshot gappedRows oneRow fromGap = .error (.outOfRange reason) ∧
      reason.indices? = some [2, 1] ∧
      Opening oneRow gappedRows fromGap (.error (.outOfRange reason)) := by
  have hr : everyThird.Fits := by decide
  have hr' : fromGap.Fits := by decide
  have hopen := (opening_decided_at_start (p := oneRow) (s := gappedRows) hr).1
  have hfail := (opening_decided_at_start (p := oneRow) (s := gappedRows) hr').1
  have hfails : ofSnapshot gappedRows oneRow fromGap =
      .error (.outOfRange (.unscanned [2, 1] "i:i+1, :" "im2_1.tif")) := by cbv
  rw [everyThird_opens] at hopen
  rw [hfails] at hfail
  exact ⟨hr, hr', ⟨_, everyThird_opens, hopen⟩, _, hfails, rfl, hfail⟩

end Slide

end FileSeries
