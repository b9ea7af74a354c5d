import FileSeries.Proofs.PathNames
import FileSeries.Proofs.SelectionResolve
import FileSeries.Proofs.SnapshotFiles
import Mathlib
/-!
The files of a selection. Main statement: a pattern whose region has no more tuples than there are
indices resolves exactly if every tuple of the region was scanned; then the selection lists the
files of the region, each once and in the order of their indices, and otherwise the fault names the
first dimension that chooses nothing or the first tuple that was not scanned.
-/

namespace FileSeries

namespace Selection

variable {p : Pattern} {s : Snapshot} {anchor : Option Int}

/-- What a pattern chooses in dimension `d`. -/
def ChoosesAt (p : Pattern) (s : Snapshot) (anchor : Option Int) (d : Nat)
    (c : Selector.Choice) : Prop :=
  ∃ selector axis, p.selectors[d]? = some selector ∧ s.axes[d]? = some axis ∧
    selector.choose (usedAnchor p anchor) axis = .ok c

/-- The tuples that have a chosen value in each dimension. -/
def region (p : Pattern) (s : Snapshot) (anchor : Option Int) : Set Indices :=
  {t | t.length = p.arity ∧
    ∀ (d v : Nat), t[d]? = some v → ∃ c, ChoosesAt p s anchor d c ∧ v ∈ c.values}

/-- The selection lists the scanned files with a chosen value in each dimension. -/
structure Lists (x : Selection) (p : Pattern) (s : Snapshot) (anchor : Option Int) : Prop where
  slices : x.box.length = p.arity ∧ ∀ (d : Nat) (choices : List Nat), x.box[d]? = some choices →
    ∃ c, ChoosesAt p s anchor d c ∧ choices = c.values
  mem : ∀ t, t ∈ x.tuples ↔ s.has t = true ∧
    ∀ (d v : Nat) (choices : List Nat), t[d]? = some v → x.box[d]? = some choices → v ∈ choices
  ascending : x.tuples.Pairwise (· < ·)
  names : List.Forall₂ (fun t name => s.name t = .ok name) x.tuples x.fileNames
  paths : List.Forall₂ (fun t path => s.path t = .ok path) x.tuples x.paths
  nodup : x.fileNames.Nodup ∧ x.paths.Nodup
  size : x.size = x.tuples.length ∧ x.size ≤ s.size
  /-- The indices of a file are read back from its path; names on a disk have no slashes. -/
  back : ∀ k < x.size, ∃ path t, x.paths[k]? = some path ∧ x.indicesAt k = .ok t ∧
    ('/' ∉ s.template.format t → x.indicesOfPath (Raw.ofString path) = .ok t)

/-- What comes of resolving a pattern. -/
inductive Verdict (p : Pattern) (s : Snapshot) (anchor : Option Int) :
    Except Fault Selection → Prop
  | wrongArity {e : Pattern.SyntaxError} (harity : p.arity ≠ s.arity)
    (hdefect : e.defect = .wrongArity p.arity s.arity) :
    Verdict p s anchor (.error (.pattern e))
  | refused {d : Nat} {reason : OutOfRange} (harity : p.arity = s.arity)
    (hfirst : IsLeast {d | d < p.arity ∧ ¬∃ c, ChoosesAt p s anchor d c} d)
    (hdimension : reason.dimension? = some d) (hindices : reason.indices? = none) :
    Verdict p s anchor (.error (.outOfRange reason))
  | unscanned {t : Indices} {reason : OutOfRange} (harity : p.arity = s.arity)
    (hchoose : ∀ d < p.arity, ∃ c, ChoosesAt p s anchor d c)
    (hfirst : IsLeast {t | t ∈ region p s anchor ∧ s.has t = false} t)
    (hdimension : reason.dimension? = none) (hindices : reason.indices? = some t) :
    Verdict p s anchor (.error (.outOfRange reason))
  | listed {x : Selection} (harity : p.arity = s.arity)
    (hchoose : ∀ d < p.arity, ∃ c, ChoosesAt p s anchor d c)
    (hknown : ∀ t ∈ region p s anchor, s.has t = true) (hlists : Lists x p s anchor) :
    Verdict p s anchor (.ok x)

theorem resolve_of_arity_ne (h : p.arity ≠ s.arity) :
    ∃ e, resolve p s anchor = .error (.pattern e) ∧ e.defect = .wrongArity p.arity s.arity := by
  refine ⟨p.errorAt p.source.utf8ByteSize (.wrongArity p.arity s.arity), ?_, rfl⟩
  simp [resolve, Pattern.checkArity, h, Except.mapError, bind, Except.bind]

theorem resolve_of_arity_eq (h : p.arity = s.arity) :
    resolve p s anchor = (chooseAll (usedAnchor p anchor) 0 p.selectors s.axes >>= fun choices =>
      match Box.firstUnknown? (choices.map (·.values)) s.tuples with
      | some t =>
        .error (.outOfRange (.unscanned t p.text (String.ofList (s.template.format t))))
      | none => .ok ⟨s, usedAnchor p anchor, choices.map (·.values), choices.any (·.clipped)⟩) := by
  simp only [resolve, Pattern.checkArity, if_pos h]
  rfl

variable {cs : List Selector.Choice}

theorem choosesAt_iff (harity : p.arity = s.arity)
    (hcs : chooseAll (usedAnchor p anchor) 0 p.selectors s.axes = .ok cs) {d : Nat}
    {c : Selector.Choice} : ChoosesAt p s anchor d c ↔ cs[d]? = some c := by
  obtain ⟨hl, hall⟩ := (chooseAll_eq_ok_iff_getElem? harity).mp hcs
  constructor
  · rintro ⟨selector, axis, hsel, hax, hc⟩
    obtain ⟨c', hc'⟩ := exists_getElem?_of_length_eq hl.symm hsel
    obtain rfl : c = c' := Except.ok.inj (hc.symm.trans (hall d selector axis c' hsel hax hc'))
    exact hc'
  · intro hc
    obtain ⟨selector, hsel⟩ := exists_getElem?_of_length_eq hl hc
    obtain ⟨axis, hax⟩ := exists_getElem?_of_length_eq harity hsel
    exact ⟨selector, axis, hsel, hax, hall d selector axis c hsel hax hc⟩

theorem mem_region_iff (harity : p.arity = s.arity)
    (hcs : chooseAll (usedAnchor p anchor) 0 p.selectors s.axes = .ok cs) {t : Indices} :
    t ∈ region p s anchor ↔ t ∈ Box.tuples (cs.map (·.values)) := by
  obtain ⟨hl, -⟩ := (chooseAll_eq_ok_iff_getElem? harity).mp hcs
  rw [Box.mem_tuples_iff_getElem?, List.length_map, hl]
  refine and_congr_right fun ht => forall₂_congr fun d v => ?_
  simp only [choosesAt_iff harity hcs, List.getElem?_map, Option.map_eq_some_iff]
  constructor
  · rintro h choices hv ⟨c, hc, rfl⟩
    obtain ⟨c', hc', hmem⟩ := h hv
    obtain rfl := Option.some.inj (hc.symm.trans hc')
    exact hmem
  · intro h hv
    obtain ⟨selector, hsel⟩ := exists_getElem?_of_length_eq ht hv
    obtain ⟨c, hc⟩ := exists_getElem?_of_length_eq hl.symm hsel
    exact ⟨c, hc, h c.values hv ⟨c, hc, rfl⟩⟩

theorem isLeast_of_refusal (harity : p.arity = s.arity) {d : Nat} {refusal : Selector.Refusal}
    (hrefused : ∃ x, (p.selectors.zip s.axes)[d]? = some x ∧
      x.1.choose (usedAnchor p anchor) x.2 = .error refusal)
    (hbefore : ∀ j < d, ∀ x, (p.selectors.zip s.axes)[j]? = some x →
      ∃ c, x.1.choose (usedAnchor p anchor) x.2 = .ok c) :
    IsLeast {d | d < p.arity ∧ ¬∃ c, ChoosesAt p s anchor d c} d := by
  constructor
  · obtain ⟨⟨selector, axis⟩, hx, hrefusal⟩ := hrefused
    obtain ⟨hsel, hax⟩ := List.getElem?_zip_eq_some.mp hx
    refine ⟨(List.getElem?_eq_some_iff.mp hsel).1, ?_⟩
    rintro ⟨c, selector', axis', hsel', hax', hc⟩
    obtain rfl := Option.some.inj (hsel.symm.trans hsel')
    obtain rfl := Option.some.inj (hax.symm.trans hax')
    simp [hrefusal] at hc
  · rintro j ⟨hj, hnone⟩
    by_contra hlt
    have hsel : p.selectors[j]? = some p.selectors[j] := List.getElem?_eq_getElem hj
    obtain ⟨axis, hax⟩ := exists_getElem?_of_length_eq harity hsel
    obtain ⟨c, hc⟩ := hbefore j (not_le.mp hlt) (p.selectors[j], axis)
      (List.getElem?_zip_eq_some.mpr ⟨hsel, hax⟩)
    exact hnone ⟨c, _, axis, hsel, hax, hc⟩

/-- The region has as many tuples as the box of the choices. -/
theorem encard_region (harity : p.arity = s.arity)
    (hcs : chooseAll (usedAnchor p anchor) 0 p.selectors s.axes = .ok cs) :
    (region p s anchor).encard = Box.size (cs.map (·.values)) := by
  have hregion : region p s anchor = ((Box.tuples (cs.map (·.values))).toFinset : Set Indices) := by
    ext t
    rw [mem_region_iff harity hcs, Finset.mem_coe, List.mem_toFinset]
  have hnodup := Box.nodup_tuples fun choices hm => pairwise_of_mem_values hcs hm
  rw [hregion, Set.encard_coe_eq_coe_finsetCard, List.toFinset_card_of_nodup hnodup,
    Box.length_tuples]

theorem encard_region_le_iff (harity : p.arity = s.arity)
    (hcs : chooseAll (usedAnchor p anchor) 0 p.selectors s.axes = .ok cs) :
    (region p s anchor).encard ≤ maxIndex ↔ Box.size (cs.map (·.values)) ≤ maxIndex := by
  rw [encard_region harity hcs]
  exact Nat.cast_le

section Scanned

variable {x : Selection} {t : Indices}

theorem snapshot_of_resolve (h : resolve p s anchor = .ok x) : x.snapshot = s := by
  obtain ⟨-, cs, -, -, rfl⟩ := resolve_eq_ok_iff.mp h
  rfl

theorem slices_of_resolve (h : resolve p s anchor = .ok x) :
    x.box.length = p.arity ∧ ∀ (d : Nat) (choices : List Nat), x.box[d]? = some choices →
      ∃ c, ChoosesAt p s anchor d c ∧ choices = c.values := by
  obtain ⟨harity, cs, hcs, -, rfl⟩ := resolve_eq_ok_iff.mp h
  obtain ⟨hl, -⟩ := (chooseAll_eq_ok_iff_getElem? harity).mp hcs
  refine ⟨by rw [List.length_map, hl]; rfl, fun d choices hd => ?_⟩
  rw [List.getElem?_map, Option.map_eq_some_iff] at hd
  obtain ⟨c, hc, rfl⟩ := hd
  exact ⟨c, (choosesAt_iff harity hcs).mpr hc, rfl⟩

/-- The name of a scanned file is one that a folder can hold. -/
theorem isPlain_format (hs : s.Scanned) (ht : s.has t = true)
    (hslash : '/' ∉ s.template.format t) : Path.IsPlain (Raw.ofText (s.template.format t)) := by
  have hpos := Snapshot.arity_format_pos hs (Snapshot.has_iff.mp ht)
  -- The empty name, `.` and `..` hold no digit, and the name of a scanned file does.
  have hne : ∀ name : List Char, (FileName.ofText name).arity = 0 →
      Raw.ofText (s.template.format t) ≠ Raw.ofText name := by
    intro name h0 heq
    rw [List.map_injective_iff.mpr (fun _ _ => Piece.char.inj) heq, h0] at hpos
    exact Nat.lt_irrefl 0 hpos
  constructor
  case nonempty => exact hne [] rfl
  case noSlash => simpa [Raw.ofText, Path.slash] using hslash
  case notHere => exact hne ['.'] rfl
  case notAbove => exact hne ['.', '.'] rfl

theorem indicesOfPath_join (hs : s.Scanned) (hx : x.snapshot = s) (ht : s.has t = true)
    (hslash : '/' ∉ s.template.format t) :
    x.indicesOfPath (Raw.ofString (Path.join s.directory (String.ofList (s.template.format t)))) =
      .ok t := by
  have hname : Raw.ofString (String.ofList (s.template.format t)) =
      Raw.ofText (s.template.format t) := by rw [Raw.ofString, String.toList_ofList]
  have hplain := hname ▸ isPlain_format hs ht hslash
  have hread := Snapshot.parse?_format hs (Snapshot.has_iff.mp ht)
  rw [indicesOfPath, Path.fileName?_join hplain, hname, Option.bind_some, Raw.text?_ofText, hx]
  simp only [hread]

theorem getElem?_paths (hx : x.snapshot = s) {k : Nat} (hk : x.tuples[k]? = some t) :
    x.paths[k]? = some (Path.join s.directory (String.ofList (s.template.format t))) := by
  simp [paths, fileNames, hk, hx]

theorem nodup_fileNames (hs : s.Scanned) (h : resolve p s anchor = .ok x)
    (hsize : Box.size x.box ≤ maxIndex) : x.fileNames.Nodup := by
  refine (nodup_tuples h hsize).map_on fun t ht u hu heq => ?_
  have ht' := Snapshot.has_iff.mp (has_of_mem_tuples h ht)
  have hu' := Snapshot.has_iff.mp (has_of_mem_tuples h hu)
  rw [snapshot_of_resolve h] at heq
  exact Snapshot.format_injOn hs ht' hu' (String.ofList_injective heq)

theorem lists_of_resolve (hs : s.Scanned) (h : resolve p s anchor = .ok x)
    (hbox : Box.size x.box ≤ maxIndex) : Lists x p s anchor := by
  have hx := snapshot_of_resolve h
  have hslices := slices_of_resolve h
  have hscanned : ∀ t ∈ x.tuples, s.has t = true := fun t => has_of_mem_tuples h
  have htuples : x.tuples = Box.tuples x.box := Box.list_eq_tuples hbox
  have harity : x.box.length = s.arity := hslices.1.trans (resolve_eq_ok_iff.mp h).1
  have hlength : ∀ t, s.has t = true → t.length = s.arity := fun t ht =>
    Snapshot.length_of_mem_tuples hs (Snapshot.has_iff.mp ht)
  have hsize : x.size = x.tuples.length := (Box.length_list x.box).symm
  constructor
  case slices => exact hslices
  case mem =>
    intro t
    rw [htuples, Box.mem_tuples_iff_getElem?]
    constructor
    · intro ht
      exact ⟨hscanned t (htuples ▸ Box.mem_tuples_iff_getElem?.mpr ht), ht.2⟩
    · rintro ⟨ht, hall⟩
      exact ⟨(hlength t ht).trans harity.symm, hall⟩
  case ascending => exact pairwise_tuples h hbox
  case names =>
    rw [fileNames, List.forall₂_map_right_iff, List.forall₂_same]
    intro t ht
    rw [Snapshot.name, if_pos (hlength t (hscanned t ht)), hx]
  case paths =>
    rw [paths, fileNames, List.map_map, List.forall₂_map_right_iff, List.forall₂_same]
    intro t ht
    rw [Snapshot.path, Snapshot.name, if_pos (hlength t (hscanned t ht)), hx]
    rfl
  case nodup =>
    have hnodup := nodup_fileNames hs h hbox
    exact ⟨hnodup, hnodup.map (Path.join_injective _)⟩
  case size =>
    refine ⟨hsize, hsize.trans_le ?_⟩
    exact ((nodup_tuples h hbox).subperm fun t ht => Snapshot.has_iff.mp (hscanned t ht)).length_le
  case back =>
    intro k hk
    have ht : x.tuples[k]? = some x.tuples[k] := List.getElem?_eq_getElem (hsize ▸ hk)
    refine ⟨_, x.tuples[k], getElem?_paths hx ht, ?_, ?_⟩
    · exact indicesAt_eq_ok_iff.mpr ht
    · exact indicesOfPath_join hs hx (hscanned _ (List.getElem_mem _))

end Scanned

theorem verdict_resolve (hs : s.Scanned) (hsize : (region p s anchor).encard ≤ maxIndex) :
    Verdict p s anchor (resolve p s anchor) := by
  by_cases harity : p.arity = s.arity
  · cases hcs : chooseAll (usedAnchor p anchor) 0 p.selectors s.axes with
    | error e =>
      obtain ⟨d, refusal, rfl, hrefused, hbefore⟩ := exists_refusal_of_chooseAll hcs
      rw [resolve_of_arity_eq harity, hcs]
      refine .refused harity (isLeast_of_refusal harity hrefused hbefore) ?_ rfl
      rw [Nat.zero_add]
      rfl
    | ok cs =>
      obtain ⟨hl, -⟩ := (chooseAll_eq_ok_iff_getElem? harity).mp hcs
      have hbox := (encard_region_le_iff harity hcs).mp hsize
      have hchoose : ∀ d < p.arity, ∃ c, ChoosesAt p s anchor d c := fun d hd =>
        ⟨_, (choosesAt_iff harity hcs).mpr (List.getElem?_eq_getElem (hl ▸ hd))⟩
      cases hu : Box.firstUnknown? (cs.map (·.values)) s.tuples with
      | some t =>
        rw [resolve_of_arity_eq harity, hcs]
        simp only [bind, Except.bind, hu]
        refine .unscanned harity hchoose ?_ rfl rfl
        have hleast := (Box.firstUnknown?_eq_some_iff
          (fun choices hm => pairwise_of_mem_values hcs hm) hbox).mp hu
        simpa only [mem_region_iff harity hcs, ← Bool.not_eq_true, Snapshot.has_iff] using hleast
      | none =>
        have hx := resolve_eq_ok_iff.mpr ⟨harity, cs, hcs, hu, rfl⟩
        rw [hx]
        refine .listed harity hchoose (fun t ht => ?_) (lists_of_resolve hs hx hbox)
        rw [mem_region_iff harity hcs, ← Box.list_eq_tuples hbox] at ht
        exact has_of_mem_tuples hx ht
  · obtain ⟨e, he, hdefect⟩ : ∃ e, resolve p s anchor = .error (.pattern e) ∧
        e.defect = .wrongArity p.arity s.arity := resolve_of_arity_ne harity
    rw [he]
    exact .wrongArity harity hdefect

theorem Verdict.exists_ok_iff {r : Except Fault Selection} (h : Verdict p s anchor r) :
    (∃ x, r = .ok x) ↔ p.arity = s.arity ∧ (∀ d < p.arity, ∃ c, ChoosesAt p s anchor d c) ∧
      ∀ t ∈ region p s anchor, s.has t = true := by
  cases h with
  | wrongArity harity hdefect => simp [harity]
  | refused harity hfirst hdimension hindices =>
    obtain ⟨hd, hnone⟩ := hfirst.1
    simp only [reduceCtorEq, exists_false, false_iff]
    rintro ⟨-, hchoose, -⟩
    exact hnone (hchoose _ hd)
  | unscanned harity hchoose hfirst hdimension hindices =>
    obtain ⟨ht, hnew⟩ := hfirst.1
    simp only [reduceCtorEq, exists_false, false_iff]
    rintro ⟨-, -, hknown⟩
    rw [hknown _ ht] at hnew
    cases hnew
  | listed harity hchoose hknown hlists => exact iff_of_true ⟨_, rfl⟩ ⟨harity, hchoose, hknown⟩

/-- A pattern whose region has no more tuples than there are indices resolves exactly if it has a
dimension for each field, each of them chooses something and all tuples of its region were scanned;
its selection and its faults are as the verdict says. -/
theorem verdict_and_exists_resolve_iff (hs : s.Scanned) (p : Pattern) (anchor : Option Int)
    (hsize : (region p s anchor).encard ≤ maxIndex) :
    Verdict p s anchor (resolve p s anchor) ∧ ((∃ x, resolve p s anchor = .ok x) ↔
      p.arity = s.arity ∧ (∀ d < p.arity, ∃ c, ChoosesAt p s anchor d c) ∧
        ∀ t ∈ region p s anchor, s.has t = true) :=
  ⟨verdict_resolve hs hsize, (verdict_resolve hs hsize).exists_ok_iff⟩

/-- The frame of one camera at each anchor, with the number one. -/
def firstFrames : Pattern := ⟨"i, 1", [.window 0 1 1, .fixed 1]⟩

theorem firstFrames_verdict :
    Snapshot.cameraFrames.Scanned ∧
      (∃ x, resolve firstFrames Snapshot.cameraFrames (some 0) = .ok x ∧
        x.paths = ["d/cam_007-1.png"] ∧
        (region firstFrames Snapshot.cameraFrames (some 0)).encard ≤ maxIndex ∧
        Verdict firstFrames Snapshot.cameraFrames (some 0) (.ok x)) ∧
      ∃ e, resolve firstFrames Snapshot.cameraFrames (some 1) = .error (.outOfRange e) ∧
        e.indices? = some [1234, 1] ∧
        (region firstFrames Snapshot.cameraFrames (some 1)).encard ≤ maxIndex ∧
        Verdict firstFrames Snapshot.cameraFrames (some 1) (.error (.outOfRange e)) := by
  have hs : Snapshot.cameraFrames.Scanned :=
    ⟨⟨[], none, false⟩, 2, Snapshot.cameraFrames.names, by decide, by cbv⟩
  have hverdict := verdict_and_exists_resolve_iff hs firstFrames
  have hchoices : ∀ a n, (a = 0 ∧ n = 7) ∨ (a = 1 ∧ n = 1234) →
      chooseAll (usedAnchor firstFrames (some a)) 0 firstFrames.selectors
        Snapshot.cameraFrames.axes = .ok [⟨[n], false⟩, ⟨[1], false⟩] := by
    rintro a n (⟨rfl, rfl⟩ | ⟨rfl, rfl⟩) <;> rfl
  have hfirst := (encard_region_le_iff rfl (hchoices 0 7 (by simp))).mpr (by decide)
  have hsecond := (encard_region_le_iff rfl (hchoices 1 1234 (by simp))).mpr (by decide)
  refine ⟨hs, ⟨_, rfl, by cbv, hfirst, (hverdict (some 0) hfirst).1⟩, ?_⟩
  exact ⟨_, rfl, rfl, hsecond, (hverdict (some 1) hsecond).1⟩

end Selection

end FileSeries
