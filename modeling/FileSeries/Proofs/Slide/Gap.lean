import FileSeries.Proofs.SelectionFiles
import FileSeries.Proofs.Slide.LaterStop
/-!
Gaps after the row of complete selections. The row ends where the window leaves its axis, or at a
gap, where the window lies on its axis and a tuple was not scanned. A slide with a requested stop
keeps one anchor less than a step beyond the row if something resolves there, whatever lies between.
Main statement: what is kept is clipped, except on the other side of a gap, where it is complete.
-/

namespace FileSeries

/-- Between two anchors at which a selector chooses something it does so too, and it is clipped at
none of them if it is not clipped at the last. -/
theorem Selector.exists_choose_between {x : Selector} {a m b : Int} {axis : Axis}
    {c c' : Selector.Choice} (ha : x.choose (some a) axis = .ok c)
    (hb : x.choose (some b) axis = .ok c') (hclip : c'.clipped = false) (ham : a ≤ m) (hmb : m ≤ b) :
    ∃ c, x.choose (some m) axis = .ok c ∧ c.clipped = false := by
  cases x with
  | fixed value => exact ⟨c', hb, hclip⟩
  | slice start stop step => exact ⟨c', hb, hclip⟩
  | window start stop step =>
    obtain ⟨⟨hfirst, hlast⟩, hslice⟩ := choose_window_eq_ok_iff.mp ha
    obtain ⟨⟨hfirst', hlast'⟩, hslice'⟩ := choose_window_eq_ok_iff.mp hb
    obtain ⟨⟨hstep, h0, -, hlt⟩, -⟩ := chooseSlice_eq_ok_iff.mp hslice
    obtain ⟨⟨-, -, hn, -⟩, -⟩ := chooseSlice_eq_ok_iff.mp hslice'
    have hwindow := hlt _ rfl
    have hbetween : ∀ bound : Int, fitsOffset (a + bound) = true → fitsOffset (b + bound) = true →
        fitsOffset (m + bound) = true := fun bound h h' => by
      rw [fitsOffset_iff] at h h' ⊢
      omega
    have hend : ¬(axis.size : Int) < b + stop := fun hpast => by
      simp [(clipped_of_choose_window hb).mpr hpast] at hclip
    have hm : chooseSlice (m + start) (some (m + stop)) step axis = .ok _ :=
      chooseSlice_eq_ok_iff.mpr ⟨⟨hstep, by omega, by omega, fun t ht => by
        obtain rfl := Option.some.inj ht
        omega⟩, rfl⟩
    have hchoose := choose_window_eq_ok_iff.mpr ⟨⟨hbetween start hfirst hfirst',
      hbetween stop hlast hlast'⟩, hm⟩
    refine ⟨_, hchoose, Bool.eq_false_iff.mpr fun hpast => ?_⟩
    have := (clipped_of_choose_window hchoose).mp hpast
    omega

/-- Between two anchors at which every dimension chooses something all of them do so too. -/
theorem Selection.exists_chooseAll_between {selectors : List Selector} {axes : List Axis}
    {a m b : Int} {cs cs' : List Selector.Choice} (hl : selectors.length = axes.length)
    (ha : chooseAll (some a) 0 selectors axes = .ok cs)
    (hb : chooseAll (some b) 0 selectors axes = .ok cs') (hclip : ∀ c ∈ cs', c.clipped = false)
    (ham : a ≤ m) (hmb : m ≤ b) :
    ∃ ms, chooseAll (some m) 0 selectors axes = .ok ms ∧ ∀ c ∈ ms, c.clipped = false := by
  obtain ⟨hlen, hall⟩ := (chooseAll_eq_ok_iff_getElem? hl).mp ha
  obtain ⟨hlen', hall'⟩ := (chooseAll_eq_ok_iff_getElem? hl).mp hb
  have hwhole : ∀ (e : Nat) (selector : Selector) (axis : Axis), selectors[e]? = some selector →
      axes[e]? = some axis → ∃ c, selector.choose (some m) axis = .ok c ∧ c.clipped = false := by
    intro e selector axis hsel hax
    obtain ⟨c, hc⟩ := exists_getElem?_of_length_eq hlen.symm hsel
    obtain ⟨c', hc'⟩ := exists_getElem?_of_length_eq hlen'.symm hsel
    exact Selector.exists_choose_between (hall e _ _ c hsel hax hc) (hall' e _ _ c' hsel hax hc')
      (hclip c' (List.mem_of_getElem? hc')) ham hmb
  obtain ⟨ms, hms⟩ := (exists_chooseAll_iff (i := 0)).mpr fun e selector axis hsel hax =>
    (hwhole e selector axis hsel hax).imp fun c hc => hc.1
  obtain ⟨hlenm, hallm⟩ := (chooseAll_eq_ok_iff_getElem? hl).mp hms
  refine ⟨ms, hms, fun c hc => ?_⟩
  obtain ⟨e, he⟩ := List.getElem?_of_mem hc
  obtain ⟨selector, hsel⟩ := exists_getElem?_of_length_eq hlenm he
  obtain ⟨axis, hax⟩ := exists_getElem?_of_length_eq hl hsel
  obtain ⟨c', hc', hfull⟩ := hwhole e selector axis hsel hax
  exact Except.ok.inj (hc'.symm.trans (hallm e selector axis c hsel hax he)) ▸ hfull

namespace Slide

open AnchorRange (grid)
open Selection (ChoosesAt region)

variable {p : Pattern} {s : Snapshot} {r : AnchorRange} {slide : Slide} {d : Nat}
  {a b m last t : Int}

/-- At an anchor every dimension chooses without being clipped, but some tuple was not scanned. -/
structure IsGap (p : Pattern) (s : Snapshot) (anchor : Int) : Prop where
  whole : ∀ d < p.arity, ∃ c, ChoosesAt p s (some anchor) d c ∧ c.clipped = false
  unscanned : ∃ t ∈ region p s (some anchor), s.has t = false

/-- What is not complete between two anchors that are is a gap. -/
theorem isGap_between (hd : p.anchorDimension? = some d) (ha : resolvesAt p s a = true)
    (hb : isCompleteAt p s b = true) (ham : a ≤ m) (hmb : m ≤ b)
    (hm : isCompleteAt p s m = false) : IsGap p s m := by
  have hused := Selection.usedAnchor_of_anchorDimension? hd
  obtain ⟨x, hx⟩ := resolvesAt_iff.mp ha
  obtain ⟨y, hy, hclip⟩ := isCompleteAt_iff.mp hb
  obtain ⟨hn, cs, hcs, -, -⟩ := Selection.resolve_eq_ok_iff.mp hx
  obtain ⟨-, cs', hcs', -, rfl⟩ := Selection.resolve_eq_ok_iff.mp hy
  rw [hused] at hcs hcs'
  have hfull : ∀ c ∈ cs', c.clipped = false := by simpa using hclip
  obtain ⟨ms, hms, hfull⟩ := Selection.exists_chooseAll_between hn hcs hcs' hfull ham hmb
  constructor
  case whole =>
    intro e he
    obtain ⟨hl, hall⟩ := (Selection.chooseAll_eq_ok_iff_getElem? hn).mp hms
    have hsel : p.selectors[e]? = some p.selectors[e] := List.getElem?_eq_getElem he
    obtain ⟨axis, hax⟩ := exists_getElem?_of_length_eq hn hsel
    obtain ⟨c, hc⟩ := exists_getElem?_of_length_eq hl.symm hsel
    refine ⟨c, ⟨_, axis, hsel, hax, ?_⟩, hfull c (List.mem_of_getElem? hc)⟩
    rw [hused]
    exact hall e _ axis c hsel hax hc
  case unscanned =>
    rw [← hused (some m)] at hms
    cases hfirst : Box.firstUnknown? (ms.map (·.values)) s.tuples with
    | none =>
      -- With all tuples known the selection would be complete.
      have hcomplete := isCompleteAt_iff.mpr ⟨_, Selection.resolve_eq_ok_iff.mpr
        ⟨hn, ms, hms, hfirst, rfl⟩, by simpa using hfull⟩
      simp [hm] at hcomplete
    | some tuple =>
      obtain ⟨htuple, hnew⟩ := Box.mem_of_firstUnknown?_eq_some
        (fun _ hmem => Selection.ne_nil_of_mem_values hms hmem) hfirst
      exact ⟨tuple, (Selection.mem_region_iff hn hms).mpr htuple,
        Bool.eq_false_iff.mpr fun hhas => hnew (Snapshot.has_iff.mp hhas)⟩

/-- Right after the row of complete selections there is a gap, and less than a step beyond the row
an anchor on the other side of it is complete again. -/
structure CrossesGap (p : Pattern) (s : Snapshot) (r : AnchorRange) (last anchor : Int) : Prop where
  row : IsGreatest (completeRow p s r.start) last
  gap : IsGap p s (last + 1)
  grid : anchor ∈ grid r.start r.step
  beyond : last + 1 < anchor
  near : anchor < last + r.step
  complete : isCompleteAt p s anchor = true

/-- What a slide hands out beyond its row of complete selections is clipped. -/
def ClippedBeyondRow (slide : Slide) : Prop :=
  ∀ k anchor x, slide.anchorAt? k = some anchor → slide.selection k = .ok x →
    anchor ∉ completeRow slide.pattern slide.snapshot slide.requested.start → x.clipped = true

theorem lt_size_of_anchorAt? {k : Nat} (h : slide.anchorAt? k = some a) : k < slide.size := by
  by_contra hle
  simp [(selection_of_le (Nat.not_lt.mp hle)).1] at h

/-- The selections kept beyond the row are clipped, unless a complete one on the other side of a gap
lies below the requested stop. -/
theorem clippedBeyondRow_iff (hr : r.Fits) (hs : r.stop = some t)
    (h : ofSnapshot s p r = .ok slide) :
    slide.ClippedBeyondRow ↔ ¬∃ last anchor, CrossesGap p s r last anchor ∧ anchor < t := by
  obtain ⟨hc, -, d, -, hd, -⟩ := ofSnapshot_eq_ok_iff.mp h
  obtain ⟨hp, hsnap, hreq⟩ := fields_of_ofSnapshot h
  have hrule := stopRule_of_ofSnapshot hr h
  have hmax : r.stop = none → isCompleteAt p s maxOffset = false := fun hnone => by
    simp [hs] at hnone
  rw [ClippedBeyondRow, hp, hsnap, hreq]
  constructor
  · rintro hclipped ⟨last, anchor, hcross, hlt⟩
    obtain ⟨k, rfl⟩ := hcross.grid
    have hadm : Admits p s r.start r.step (r.start + k * r.step) :=
      .trailing hcross.row hcross.near (resolvesAt_of_isCompleteAt hcross.complete)
    have hk := (lt_size_iff_of_ofSnapshot h).mpr (lt_of_admits hc hrule hcross.grid hs hlt hadm)
    obtain ⟨x, hx, hfull⟩ := isCompleteAt_iff.mp hcross.complete
    have hclip := hclipped k _ x (anchorAt?_of_lt hr hmax h hk).1
      ((selection_of_lt hr hmax h hk).trans hx) fun hrow => by
        have := hcross.row.2 hrow
        have := hcross.beyond
        omega
    simp [hclip] at hfull
  · rintro hnone k anchor x hat hx hrow
    by_contra hfull
    have hk := lt_size_of_anchorAt? hat
    obtain ⟨hexact, hbelow⟩ := anchorAt?_of_lt hr hmax h hk
    obtain rfl := Option.some.inj (hexact.symm.trans hat)
    have hcomplete : isCompleteAt p s (r.start + k * r.step) = true :=
      isCompleteAt_iff.mpr ⟨x, (selection_of_lt hr hmax h hk).symm.trans hx, by simpa using hfull⟩
    have hgrid := AnchorRange.mem_grid r.start r.step k
    cases admits_of_stopRule hc hrule hgrid hbelow with
    | row hmem => exact hrow hmem
    | onlyFirst hi heq => simp [heq, hi] at hcomplete
    | @trailing last hl hnear hres =>
      have hno := not_complete_after_row hl
      rw [mem_completeRow_iff_le hl (AnchorRange.le_of_mem_grid hgrid)] at hrow
      have hne : r.start + k * r.step ≠ last + 1 := fun heq => by simp [heq, hno] at hcomplete
      have hgap := isGap_between hd (resolvesAt_of_isCompleteAt (hl.1.2 last hl.1.1 le_rfl))
        hcomplete (Int.le_add_one le_rfl) (show last + 1 ≤ r.start + k * r.step by omega) hno
      exact hnone ⟨last, _, ⟨hl, hgap, hgrid, by omega, hnear, hcomplete⟩,
        hbelow.trans_le (le_requested_of_stopRule hrule hs)⟩

/-- The anchor 6, which has one file left, is clipped: up to it nothing but complete selections was
met. -/
theorem everyOther_clippedBeyondRow : toEight.Fits ∧ toEight.stop = some 8 ∧
    ofSnapshot eightFiles everyOther toEight = .ok everyOtherOfEight ∧
      everyOtherOfEight.ClippedBeyondRow := by
  have hopen := everyOtherOfEight_opens
  refine ⟨toEight_fits, rfl, hopen, (clippedBeyondRow_iff toEight_fits rfl hopen).mpr ?_⟩
  rintro ⟨last, anchor, hcross, hlt⟩
  have hno := not_complete_after_row hcross.row
  have hrow : ∀ n < 6, isCompleteAt everyOther eightFiles (n : Nat) = true := by decide
  have hstart : 0 ≤ last := hcross.row.1.1
  have hbeyond := hcross.beyond
  rcases lt_or_ge last 5 with hin | hout
  · have := hrow (last + 1).toNat (by omega)
    rw [Int.toNat_of_nonneg (by omega)] at this
    simp [hno] at this
  · obtain rfl : anchor = 7 := by omega
    exact absurd hcross.complete (by decide)

/-- Four rows of two files without `im2_1.tif`. -/
def gappedRows : Snapshot where
  template := ⟨"im".toList, [(.plain, "_".toList), (.plain, [])], some "tif".toList⟩
  axes := [.ofValues (List.range 4), .ofValues (List.range 2)]
  tuples := [[0, 0], [0, 1], [1, 0], [1, 1], [2, 0], [3, 0], [3, 1]]
  directory := "d"
  filter := {}

def oneRow : Pattern := ⟨"i, :", [.window 0 1 1, .slice 0 none 1]⟩

def everyThird : AnchorRange := { stop := some 4, step := 3 }

theorem everyThird_opens : ofSnapshot gappedRows oneRow everyThird =
    .ok ⟨oneRow, gappedRows, 0, everyThird, .asRequested 4, 0⟩ := by cbv

/-- The last anchor below the stop is 3, where a complete selection resolves: it is kept. -/
theorem not_clippedBeyondRow_gappedRows : ∃ slide,
    ofSnapshot gappedRows oneRow everyThird = .ok slide ∧ ¬ slide.ClippedBeyondRow := by
  refine ⟨_, everyThird_opens, fun hclipped => ?_⟩
  have hrow : (3 : Int) ∉ completeRow oneRow gappedRows 0 := fun h =>
    absurd (h.2 2 (by decide) (by decide)) (by decide)
  exact absurd (hclipped 1 3 _ rfl rfl hrow) (by decide)

end Slide

end FileSeries
