import FileSeries.Proofs.Slide.Selections
/-!
Windows that lie further on, over anchors that lie further back. At each anchor such a window is the
slice that the old one is at the old anchor, so that both slides take the same course. Main
statement: one of them opens exactly if the other does, and they hand out the same files.
-/

namespace FileSeries

/-- The selector with its window `c` positions further on; other selectors stay where they are. -/
def Selector.moved (c : Int) : Selector → Selector
  | window start stop step => window (start + c) (stop + c) step
  | selector => selector

/-- The range with all its anchors `c` further back. -/
def AnchorRange.movedBack (c : Int) (r : AnchorRange) : AnchorRange :=
  { r with start := r.start - c, stop := r.stop.map (· - c) }

variable {p q : Pattern} {s : Snapshot} {r : AnchorRange} {c : Int} {d : Nat}

theorem Selector.isAnchored_moved (x : Selector) : (x.moved c).isAnchored = x.isAnchored := by
  cases x <;> rfl

/-- The sums of anchor and bounds are the same. -/
theorem Selector.choose_moved_eq_ok_iff {x : Selector} {a : Int} {axis : Axis}
    {choice : Selector.Choice} :
    (x.moved c).choose (some a) axis = .ok choice ↔ x.choose (some (a + c)) axis = .ok choice := by
  cases x with
  | fixed value => rfl
  | slice start stop step => rfl
  | window start stop step =>
    have hsum : ∀ bound : Int, a + (bound + c) = a + c + bound := fun bound => by omega
    rw [moved, choose_window_eq_ok_iff, choose_window_eq_ok_iff, hsum, hsum]

theorem Pattern.anchorDimension?_moved (hq : q.selectors = p.selectors.map (Selector.moved c)) :
    q.anchorDimension? = p.anchorDimension? := by
  have hsame : Selector.isAnchored ∘ Selector.moved c = Selector.isAnchored :=
    funext Selector.isAnchored_moved
  rw [anchorDimension?, anchoredIn, hq, List.findIdx?_map, hsame]
  rfl

theorem Pattern.arity_moved (hq : q.selectors = p.selectors.map (Selector.moved c)) :
    q.arity = p.arity := by
  rw [arity, hq, List.length_map]
  rfl

theorem Selection.chooseAll_moved_eq_ok_iff {selectors : List Selector} {axes : List Axis}
    {i : Nat} {a : Int} {cs : List Selector.Choice} :
    chooseAll (some a) i (selectors.map (Selector.moved c)) axes = .ok cs ↔
      chooseAll (some (a + c)) i selectors axes = .ok cs := by
  rw [chooseAll_eq_ok_iff, chooseAll_eq_ok_iff, List.zip_map_left, List.forall₂_map_left_iff]
  simp only [Prod.map_fst, Prod.map_snd, id_eq, Selector.choose_moved_eq_ok_iff]

namespace Slide

open AnchorRange (grid)

/-- Numbers that lie `c` apart have the same greatest one. -/
theorem isGreatest_add_iff {S T : Set Int} (h : ∀ b, b ∈ T ↔ b + c ∈ S) {b : Int} :
    IsGreatest T b ↔ IsGreatest S (b + c) := by
  refine and_congr (h b) ⟨fun hmax a ha => ?_, fun hmax a ha => ?_⟩
  · have := hmax ((h (a - c)).mpr (by rwa [Int.sub_add_cancel]))
    omega
  · have := hmax ((h a).mp ha)
    omega

theorem mem_grid_movedBack_iff {b : Int} :
    b ∈ grid (r.movedBack c).start r.step ↔ b + c ∈ grid r.start r.step := by
  refine exists_congr fun k => ?_
  simp only [AnchorRange.movedBack]
  omega

theorem isBelowStop_movedBack (b : Int) :
    (r.movedBack c).isBelowStop b = r.isBelowStop (b + c) := by
  rw [Bool.eq_iff_iff, isBelowStop_iff, isBelowStop_iff]
  cases hs : r.stop with
  | none => simp [AnchorRange.movedBack, hs]
  | some stop => simp [AnchorRange.movedBack, hs, lt_sub_iff_add_lt]

section Moved

variable (hd : p.anchorDimension? = some d) (hq : q.selectors = p.selectors.map (Selector.moved c))
include hd hq

theorem resolveAt_moved {a : Int} {x : Selection} (h : resolveAt p s (a + c) = .ok x) :
    resolveAt q s a = .ok { x with anchor := some a } := by
  have hd' := (Pattern.anchorDimension?_moved hq).trans hd
  have hu := Selection.usedAnchor_of_anchorDimension? hd' (some a)
  have hx := Selection.resolve_of_chooseAll (q := q) (b := some a) (Pattern.arity_moved hq)
    (fun cs hcs => ?_) h
  · rwa [hu] at hx
  · rw [Selection.usedAnchor_of_anchorDimension? hd] at hcs
    rw [hu, hq]
    exact Selection.chooseAll_moved_eq_ok_iff.mpr hcs

theorem resolveAt_of_moved {a : Int} {y : Selection} (h : resolveAt q s a = .ok y) :
    ∃ x, resolveAt p s (a + c) = .ok x ∧ x.clipped = y.clipped := by
  have hd' := (Pattern.anchorDimension?_moved hq).trans hd
  refine ⟨_, Selection.resolve_of_chooseAll (Pattern.arity_moved hq).symm (fun cs hcs => ?_) h, rfl⟩
  rw [Selection.usedAnchor_of_anchorDimension? hd', hq] at hcs
  rw [Selection.usedAnchor_of_anchorDimension? hd]
  exact Selection.chooseAll_moved_eq_ok_iff.mp hcs

theorem resolvesAt_moved (a : Int) : resolvesAt q s a = resolvesAt p s (a + c) := by
  rw [Bool.eq_iff_iff, resolvesAt_iff, resolvesAt_iff]
  constructor
  · rintro ⟨y, hy⟩
    obtain ⟨x, hx, -⟩ := resolveAt_of_moved hd hq hy
    exact ⟨x, hx⟩
  · rintro ⟨x, hx⟩
    exact ⟨_, resolveAt_moved hd hq hx⟩

theorem isCompleteAt_moved (a : Int) : isCompleteAt q s a = isCompleteAt p s (a + c) := by
  rw [Bool.eq_iff_iff, isCompleteAt_iff, isCompleteAt_iff]
  constructor
  · rintro ⟨y, hy, hclip⟩
    obtain ⟨x, hx, hsame⟩ := resolveAt_of_moved hd hq hy
    exact ⟨x, hx, hsame.trans hclip⟩
  · rintro ⟨x, hx, hclip⟩
    exact ⟨_, resolveAt_moved hd hq hx, hclip⟩

theorem mem_completeRow_moved_iff {start b : Int} :
    b ∈ completeRow q s (start - c) ↔ b + c ∈ completeRow p s start := by
  refine and_congr (by omega) ⟨fun h a ha ha' => ?_, fun h a ha ha' => ?_⟩
  · have := h (a - c) (by omega) (by omega)
    rwa [isCompleteAt_moved hd hq, Int.sub_add_cancel] at this
  · rw [isCompleteAt_moved hd hq]
    exact h (a + c) (by omega) (by omega)

theorem missesTrailing_moved_iff {last stop : Int} :
    MissesTrailing q s (r.movedBack c) (last - c) (stop - c) ↔ MissesTrailing p s r last stop := by
  have hset : ∀ b, b ∈ {b | b ∈ grid (r.movedBack c).start (r.movedBack c).step ∧ b < stop - c} ↔
      b + c ∈ {b | b ∈ grid r.start r.step ∧ b < stop} := fun b =>
    and_congr mem_grid_movedBack_iff lt_sub_iff_add_lt
  constructor
  · rintro ⟨a, ha, hlt, hno⟩
    rw [resolvesAt_moved hd hq] at hno
    exact ⟨a + c, (isGreatest_add_iff hset).mp ha, by omega, hno⟩
  · rintro ⟨a, ha, hlt, hno⟩
    refine ⟨a - c, (isGreatest_add_iff hset).mpr (by rwa [Int.sub_add_cancel]), by omega, ?_⟩
    rwa [resolvesAt_moved hd hq, Int.sub_add_cancel]

theorem stopAfter_moved {last stop : Int} (h : StopAfter p s r last stop) :
    StopAfter q s (r.movedBack c) (last - c) (stop - c) := by
  have hstop : ∀ t, r.stop = some t → (r.movedBack c).stop = some (t - c) := fun t ht => by
    rw [AnchorRange.movedBack, ht, Option.map_some]
  have hmin : ∀ t, min t (last + r.step) - c = min (t - c) (last - c + (r.movedBack c).step) :=
    fun t => by
      simp only [AnchorRange.movedBack]
      omega
  cases h with
  | row hs =>
    have hnone : (r.movedBack c).stop = none := by rw [AnchorRange.movedBack, hs, Option.map_none]
    rw [show last + 1 - c = last - c + 1 by omega]
    exact .row hnone
  | @trailing t hs ht =>
    rw [hmin]
    exact .trailing (hstop t hs) (hmin t ▸ mt (missesTrailing_moved_iff hd hq).mp ht)
  | @noTrailing t hs ht =>
    rw [show min t (last + 1) - c = min (t - c) (last - c + 1) by omega]
    exact .noTrailing (hstop t hs) (hmin t ▸ (missesTrailing_moved_iff hd hq).mpr ht)

theorem stopRule_moved {stop : Int} (h : StopRule p s r stop) :
    StopRule q s (r.movedBack c) (stop - c) := by
  cases h with
  | @row last stop hb hl ha =>
    refine .row ?_ ?_ (stopAfter_moved hd hq ha)
    · rwa [isBelowStop_movedBack, AnchorRange.movedBack, Int.sub_add_cancel]
    · refine (isGreatest_add_iff fun b => mem_completeRow_moved_iff hd hq).mpr ?_
      rwa [Int.sub_add_cancel]
  | @onlyFirst t hs hlt hf hi =>
    have hs' : (r.movedBack c).stop = some (t - c) := by
      rw [AnchorRange.movedBack, hs, Option.map_some]
    rw [show r.start + 1 - c = (r.movedBack c).start + 1 by
      simp only [AnchorRange.movedBack]
      omega]
    refine .onlyFirst hs' ?_ ?_ ?_
    · simp only [AnchorRange.movedBack]
      omega
    · rwa [resolvesAt_moved hd hq, AnchorRange.movedBack, Int.sub_add_cancel]
    · rwa [isCompleteAt_moved hd hq, AnchorRange.movedBack, Int.sub_add_cancel]

theorem exists_ofSnapshot_moved_iff (hr : r.Fits) (hr' : (r.movedBack c).Fits) (h0 : 0 ≤ r.start)
    (h0' : 0 ≤ r.start - c) :
    (∃ a, ofSnapshot s p r = .ok a) ↔ ∃ b, ofSnapshot s q (r.movedBack c) = .ok b := by
  have hstart : (r.movedBack c).start + c = r.start := Int.sub_add_cancel _ _
  have hcheck : (r.movedBack c).check = .ok () ↔ r.check = .ok () := by
    rw [AnchorRange.check_eq_ok_iff, AnchorRange.check_eq_ok_iff]
    exact and_congr_right fun _ => iff_of_true h0' h0
  have hnone : (r.movedBack c).stop = none ↔ r.stop = none := Option.map_eq_none_iff
  rw [exists_ofSnapshot_iff hr, exists_ofSnapshot_iff hr', hcheck, Pattern.arity_moved hq,
    Pattern.anchorDimension?_moved hq, isBelowStop_movedBack, resolvesAt_moved hd hq,
    isCompleteAt_moved hd hq, hstart, hnone]

end Moved

/-- A slide that hands out the files of another one, at anchors that lie `c` further back. -/
structure MovedBack (c : Int) (a b : Slide) : Prop where
  size : b.size = a.size
  stop : b.stop = a.stop - c
  anchor : ∀ k, b.anchorAt? k = (a.anchorAt? k).map (· - c)
  selection : ∀ k < a.size, ∃ x y, a.selection k = .ok x ∧ b.selection k = .ok y ∧ x.SameFiles y ∧
    x.anchor = a.anchorAt? k ∧ y.anchor = b.anchorAt? k

theorem movedBack_of_ofSnapshot {a b : Slide} (hd : p.anchorDimension? = some d)
    (hq : q.selectors = p.selectors.map (Selector.moved c)) (hr : r.Fits)
    (hr' : (r.movedBack c).Fits)
    (hmax : r.stop = none →
      maxOffset ∉ completeRow p s r.start ∧ maxOffset ∉ completeRow q s (r.start - c))
    (ha : ofSnapshot s p r = .ok a) (hb : ofSnapshot s q (r.movedBack c) = .ok b) :
    MovedBack c a b := by
  have hnone : (r.movedBack c).stop = none → r.stop = none := Option.map_eq_none_iff.mp
  have hrule := stopRule_of_ofSnapshot hr ha
  have hrule' := stopRule_of_ofSnapshot hr' hb
  have hstop : b.stop = a.stop - c := stopRule_unique hrule' (stopRule_moved hd hq hrule)
  have hle := stop_le_of_stopRule hr (fun hs => (hmax hs).1) hrule
  have hle' := stop_le_of_stopRule hr' (fun hs => (hmax (hnone hs)).2) hrule'
  have hlt : ∀ k, k < b.size ↔ k < a.size := fun k => by
    rw [lt_size_iff_of_ofSnapshot ha, lt_size_iff_of_ofSnapshot hb, hstop]
    simp only [AnchorRange.movedBack]
    omega
  have hanchor : ∀ k < a.size, b.anchorAt? k = (a.anchorAt? k).map (· - c) := fun k hk => by
    rw [(anchorAt?_of_stop_le hle ha hk).1, (anchorAt?_of_stop_le hle' hb ((hlt k).mpr hk)).1,
      Option.map_some]
    simp only [AnchorRange.movedBack, Option.some.injEq]
    omega
  constructor
  case size => exact eq_of_forall_lt_iff hlt
  case stop => exact hstop
  case anchor =>
    intro k
    rcases Nat.lt_or_ge k a.size with hk | hk
    · exact hanchor k hk
    · have hk' := mt (hlt k).mp (Nat.not_lt.mpr hk)
      rw [(selection_of_le hk).1, (selection_of_le (Nat.not_lt.mp hk')).1, Option.map_none]
  case selection =>
    intro k hk
    have hat := (anchorAt?_of_stop_le hle ha hk).1
    have hat' := hanchor k hk
    rw [hat, Option.map_some] at hat'
    obtain ⟨x, hx, -⟩ := exists_resolveAt_of_lt hr ha hk
    have hy : resolveAt q s (r.start + k * r.step - c) =
        .ok { x with anchor := some (r.start + k * r.step - c) } :=
      resolveAt_moved hd hq (by rwa [Int.sub_add_cancel])
    refine ⟨x, _, (selection_of_anchorAt? ha hat).trans hx,
      (selection_of_anchorAt? hb hat').trans hy, x.sameFiles_withAnchor _, ?_, hat'.symm⟩
    rw [hat, Selection.anchor_of_resolve hx, Selection.usedAnchor_of_anchorDimension? hd]

/-- A window further on gives the same slide over anchors that lie further back. Nothing is held at
the end of the range of anchors where no row of complete selections reaches it. -/
theorem moved_opens_alike (hq : q.selectors = p.selectors.map (Selector.moved c)) (hr : r.Fits)
    (hr' : (r.movedBack c).Fits) (h0 : 0 ≤ r.start) (h0' : 0 ≤ r.start - c)
    (hmax : r.stop = none →
      maxOffset ∉ completeRow p s r.start ∧ maxOffset ∉ completeRow q s (r.start - c)) :
    ((∃ a, ofSnapshot s p r = .ok a) ↔ ∃ b, ofSnapshot s q (r.movedBack c) = .ok b) ∧
      ∀ a b, ofSnapshot s p r = .ok a → ofSnapshot s q (r.movedBack c) = .ok b →
        MovedBack c a b := by
  cases hd : p.anchorDimension? with
  | some d =>
    exact ⟨exists_ofSnapshot_moved_iff hd hq hr hr' h0 h0',
      fun a b => movedBack_of_ofSnapshot hd hq hr hr' hmax⟩
  | none =>
    -- Without a window neither pattern slides.
    have hp : ∀ a, ofSnapshot s p r ≠ .ok a := fun a ha => by
      obtain ⟨-, -, d, e, hsome, -⟩ := ofSnapshot_eq_ok_iff.mp ha
      simp [hd] at hsome
    have hq' : ∀ b, ofSnapshot s q (r.movedBack c) ≠ .ok b := fun b hb => by
      obtain ⟨-, -, d, e, hsome, -⟩ := ofSnapshot_eq_ok_iff.mp hb
      simp [Pattern.anchorDimension?_moved hq, hd] at hsome
    exact ⟨iff_of_false (fun ⟨a, ha⟩ => hp a ha) fun ⟨b, hb⟩ => hq' b hb,
      fun a b ha => absurd ha (hp a)⟩

/-- The window of `i:i+3:2`, two positions further back. -/
def everyOtherBack : Pattern := ⟨"i-2:i+1:2", [.window (-2) 1 2]⟩

/-- The anchors 2, 4, 6 and 8 give the files of the anchors 0, 2, 4 and 6. -/
theorem everyOtherBack_opens_alike :
    toEight.Fits ∧ (toEight.movedBack (-2)).Fits ∧
      ∃ b, ofSnapshot eightFiles everyOtherBack (toEight.movedBack (-2)) = .ok b ∧
        b.stop = 9 ∧ MovedBack (-2) everyOtherOfEight b := by
  have hr : (toEight.movedBack (-2)).Fits := ⟨rfl, fun stop h => by cases h; rfl, rfl⟩
  obtain ⟨hopens, halike⟩ := moved_opens_alike (p := everyOther) (q := everyOtherBack)
    (s := eightFiles) rfl toEight_fits hr (by decide) (by decide) (fun h => by cases h)
  obtain ⟨b, hb⟩ := hopens.mp ⟨_, everyOtherOfEight_opens⟩
  have hmoved := halike _ b everyOtherOfEight_opens hb
  exact ⟨toEight_fits, hr, b, hb, hmoved.stop, hmoved⟩

end Slide

end FileSeries
