import FileSeries.Proofs.BoxPositions
import FileSeries.Proofs.Pattern.Canonical
import FileSeries.Proofs.SelectionFiles
import FileSeries.Proofs.SelectionPositions
import Mathlib
/-!
The selection of everything. A snapshot is full if every combination of the values on its axes was
scanned. Main statement: if the number of combinations is an index, the pattern with a colon in each
dimension resolves exactly if there are as many files as combinations, and then it lists the files as
the snapshot does.
-/

namespace FileSeries

namespace Pattern

/-- The slice of a whole axis. -/
def wholeAxis : Selector := .slice 0 none 1

/-- A colon for each dimension. -/
def colons (dimensions : Nat) : String :=
  String.ofList (List.intercalate [','] (List.replicate dimensions [':']))

theorem wellFormed_wholeAxes {dimensions : Nat} (h : 0 < dimensions) :
    WellFormed (List.replicate dimensions wholeAxis) := by
  constructor
  case nonempty => exact mt (List.replicate_eq_nil_iff wholeAxis).mp h.ne'
  case fits =>
    intro x hx
    obtain rfl := List.eq_of_mem_replicate hx
    exact ⟨rfl, by simp, le_rfl, by decide⟩
  case once => simp [List.countP_replicate, wholeAxis, Selector.isAnchored]

theorem exists_parse_colons {dimensions : Nat} (h : 0 < dimensions) :
    ∃ p, parse (colons dimensions) = .ok p ∧ p.selectors = List.replicate dimensions wholeAxis := by
  have htexts : (List.replicate dimensions wholeAxis).map Selector.text =
      List.replicate dimensions [':'] := List.map_replicate
  rw [colons, ← htexts]
  refine exists_parse_intercalate (wellFormed_wholeAxes h) (fun x hx => ?_) (List.forall_mem_nil _)
  obtain rfl := List.eq_of_mem_replicate hx
  decide

end Pattern

namespace Snapshot

variable {s : Snapshot}

/-- All combinations of values on the axes. -/
def allTuples (s : Snapshot) : Box := s.axes.map Axis.values

theorem size_allTuples : Box.size s.allTuples = (s.axes.map Axis.size).prod := by
  rw [Box.size, allTuples, List.map_map]
  rfl

theorem mem_tuples_allTuples_iff {t : Indices} : t ∈ Box.tuples s.allTuples ↔
    List.Forall₂ (fun n (axis : Axis) => n ∈ axis.values) t s.axes := by
  rw [Box.mem_tuples_iff, allTuples, List.forall₂_map_right_iff]

theorem ascending_of_mem_allTuples {choices : List Nat} (h : choices ∈ s.allTuples) :
    choices.Pairwise (· < ·) := by
  obtain ⟨axis, -, rfl⟩ := List.mem_map.mp h
  exact axis.ascending

theorem pairwise_tuples (h : s.Scanned) : s.tuples.Pairwise (· < ·) := by
  obtain ⟨matcher, fields, names, -, hs⟩ := h
  exact Numbering.pairwise_tuples (ofNames_eq_ok_iff.mp hs).1

theorem values_ne_nil (h : s.Scanned) {axis : Axis} (haxis : axis ∈ s.axes) : axis.values ≠ [] := by
  obtain ⟨d, hd⟩ := List.getElem?_of_mem haxis
  obtain ⟨matcher, fields, names, -, hs⟩ := h
  exact Numbering.axis_ne_nil (ofNames_eq_ok_iff.mp hs).1 hd

theorem pairwise_tuples_allTuples : (Box.tuples s.allTuples).Pairwise (· < ·) :=
  Box.pairwise_lt_tuples fun _ => ascending_of_mem_allTuples

theorem length_of_mem_tuples_allTuples (h : s.Scanned) :
    ∀ t ∈ s.tuples, t.length = s.allTuples.length := fun t ht => by
  rw [length_of_mem_tuples h ht, allTuples, List.length_map]
  rfl

theorem tuples_subset_allTuples (h : s.Scanned) : s.tuples ⊆ Box.tuples s.allTuples := by
  intro t ht
  refine Box.mem_tuples_iff_getElem?.mpr ⟨length_of_mem_tuples_allTuples h t ht, ?_⟩
  intro d v choices hv hd
  rw [allTuples, List.getElem?_map, Option.map_eq_some_iff] at hd
  obtain ⟨axis, haxis, rfl⟩ := hd
  exact mem_axis_of_mem_tuples h ht haxis hv

/-- There are at most as many files as combinations, so that equally many are all of them. -/
theorem tuples_eq_allTuples_iff (h : s.Scanned) :
    s.tuples = Box.tuples s.allTuples ↔ s.size = (s.axes.map Axis.size).prod := by
  rw [← size_allTuples, ← Box.length_tuples, Numbering.size]
  constructor
  · exact fun heq => congrArg List.length heq
  · intro hlength
    have hnodup : s.tuples.Nodup := (pairwise_tuples h).imp fun hlt => hlt.ne
    have hperm := (hnodup.subperm (tuples_subset_allTuples h)).perm_of_length_le hlength.ge
    exact (pairwise_tuples h).eq_of_mem_iff pairwise_tuples_allTuples fun t => hperm.mem_iff

theorem firstUnknown?_allTuples_eq_none_iff (h : s.Scanned)
    (hsize : (s.axes.map Axis.size).prod ≤ maxIndex) :
    Box.firstUnknown? s.allTuples s.tuples = none ↔ s.tuples = Box.tuples s.allTuples := by
  rw [← size_allTuples] at hsize
  rw [Box.firstUnknown?_eq_none_iff, Box.list_eq_tuples hsize]
  constructor
  · intro hknown
    exact (pairwise_tuples h).eq_of_mem_iff pairwise_tuples_allTuples fun t =>
      ⟨fun ht => tuples_subset_allTuples h ht, hknown t⟩
  · exact fun heq t ht => heq ▸ ht

end Snapshot

namespace Selection

variable {p : Pattern} {s : Snapshot}

theorem filterMap_get?_range (axis : Axis) :
    (List.range axis.size).filterMap axis.get? = axis.values := by
  have hmap : (List.range axis.size).map axis.get? = axis.values.map some := by
    refine List.ext_getElem (by simp [Axis.size]) fun i hi hi' => ?_
    rw [List.length_map] at hi'
    simp [Axis.get?, hi']
  simpa [List.filterMap_map, Function.comp_def] using congrArg (List.filterMap id) hmap

theorem choose_wholeAxis {axis : Axis} (h : axis.values ≠ []) (anchor : Option Int) :
    Pattern.wholeAxis.choose anchor axis = .ok ⟨axis.values, false⟩ := by
  have hsize : (0 : Int) < axis.size := Int.natCast_pos.mpr (List.length_pos_iff.mpr h)
  have hpositions : Selector.positions 0 axis.size 1 = List.range axis.size := by
    simp [Selector.positions]
  have hvalues : (Selector.positions 0 axis.size 1).filterMap axis.get? = axis.values := by
    rw [hpositions, filterMap_get?_range]
  have hchoice : (⟨axis.values, false⟩ : Selector.Choice) =
      ⟨(Selector.positions (0 : Int).toNat (Selector.sliceEnd none axis) 1).filterMap axis.get?,
        Selector.passesEnd none axis⟩ := congrArg (Selector.Choice.mk · false) hvalues.symm
  exact Selector.chooseSlice_eq_ok_iff.mpr ⟨⟨Nat.one_pos, le_rfl, hsize, by simp⟩, hchoice⟩

theorem chooseAll_wholeAxes {axes : List Axis} (h : ∀ axis ∈ axes, axis.values ≠ [])
    (anchor : Option Int) (i : Nat) :
    chooseAll anchor i (List.replicate axes.length Pattern.wholeAxis) axes =
      .ok (axes.map fun axis => ⟨axis.values, false⟩) := by
  induction axes generalizing i with
  | nil => rfl
  | cons axis axes ih =>
    obtain ⟨haxis, haxes⟩ := List.forall_mem_cons.mp h
    rw [List.length_cons, List.replicate_succ, chooseAll, choose_wholeAxis haxis]
    simp only [ih haxes]
    rfl

/-- What the selection of everything tells of a snapshot. -/
structure AgreesWith (r : Except Fault Selection) (s : Snapshot) : Prop where
  exists_ok_iff : (∃ x, r = .ok x) ↔ s.size = (s.axes.map Axis.size).prod
  listed : ∀ x, r = .ok x →
    x.clipped = false ∧ x.size = s.size ∧ x.fileNames = s.fileNamesInOrder
  missing : ∀ e, r = .error e → ∃ t reason, e = .outOfRange reason ∧ reason.indices? = some t ∧
    IsLeast {t | List.Forall₂ (fun n (axis : Axis) => n ∈ axis.values) t s.axes ∧ s.has t = false} t

theorem resolve_wholeAxes (hs : s.Scanned)
    (hp : p.selectors = List.replicate s.arity Pattern.wholeAxis) (anchor : Option Int) :
    resolve p s anchor = (Box.firstUnknown? s.allTuples s.tuples).elim
      (.ok ⟨s, usedAnchor p anchor, s.allTuples, false⟩)
      fun t =>
        .error (.outOfRange (.unscanned t p.text (String.ofList (s.template.format t)))) := by
  have harity : p.arity = s.arity := by rw [Pattern.arity, hp, List.length_replicate]
  have hchoices := chooseAll_wholeAxes (fun axis => Snapshot.values_ne_nil hs)
    (usedAnchor p anchor) 0
  have hvalues : (s.axes.map fun axis => (⟨axis.values, false⟩ : Selector.Choice)).map (·.values) =
      s.allTuples := List.map_map
  have hclipped : (s.axes.map fun axis => (⟨axis.values, false⟩ : Selector.Choice)).any
      (·.clipped) = false := by simp
  rw [resolve_of_arity_eq harity, hp]
  simp only [Numbering.arity, hchoices, bind, Except.bind, hvalues, hclipped]
  cases Box.firstUnknown? s.allTuples s.tuples <;> rfl

theorem agreesWith_resolve (hs : s.Scanned) (hprod : (s.axes.map Axis.size).prod ≤ maxIndex)
    (hp : p.selectors = List.replicate s.arity Pattern.wholeAxis) (anchor : Option Int) :
    AgreesWith (resolve p s anchor) s := by
  have hresolve := resolve_wholeAxes hs hp anchor
  have hall : Box.size s.allTuples ≤ maxIndex := Snapshot.size_allTuples.trans_le hprod
  cases hfirst : Box.firstUnknown? s.allTuples s.tuples with
  | none =>
    rw [hfirst, Option.elim_none] at hresolve
    have htuples := (Snapshot.firstUnknown?_allTuples_eq_none_iff hs hprod).mp hfirst
    have hsize : Box.count s.allTuples = s.size := by
      rw [Box.count_of_size_le hall, Numbering.size, htuples, Box.length_tuples]
    have hnames : (Box.list s.allTuples).map s.template.format = s.names := by
      rw [Box.list_eq_tuples hall, ← htuples, Numbering.names]
    rw [hresolve]
    constructor
    case exists_ok_iff =>
      exact iff_of_true ⟨_, rfl⟩ ((Snapshot.tuples_eq_allTuples_iff hs).mp htuples)
    case listed =>
      intro x hx
      obtain rfl := Except.ok.inj hx
      refine ⟨rfl, hsize, ?_⟩
      rw [Snapshot.fileNamesInOrder, ← hnames, List.map_map]
      rfl
    case missing =>
      intro e he
      cases he
  | some t =>
    rw [hfirst, Option.elim_some] at hresolve
    have hnot : ¬s.tuples = Box.tuples s.allTuples := by
      rw [← Snapshot.firstUnknown?_allTuples_eq_none_iff hs hprod, hfirst]
      exact Option.some_ne_none t
    have hleast := (Box.firstUnknown?_eq_some_iff
      (fun choices => Snapshot.ascending_of_mem_allTuples) hall).mp hfirst
    rw [hresolve]
    constructor
    case exists_ok_iff =>
      rw [← Snapshot.tuples_eq_allTuples_iff hs]
      exact iff_of_false (by simp) hnot
    case listed =>
      intro x hx
      cases hx
    case missing =>
      intro e he
      refine ⟨t, _, (Except.error.inj he).symm, rfl, ?_⟩
      simpa only [Snapshot.mem_tuples_allTuples_iff, ← Bool.not_eq_true, Snapshot.has_iff]
        using hleast

/-- If the number of combinations of values is an index, the pattern with a colon in each dimension
resolves exactly if every combination was scanned; then it lists the files as the snapshot does. -/
theorem agreesWith_colons (hs : s.Scanned) (hprod : (s.axes.map Axis.size).prod ≤ maxIndex) :
    (∃ p, Pattern.parse (Pattern.colons s.arity) = .ok p ∧
      p.selectors = List.replicate s.arity Pattern.wholeAxis) ∧
    ∀ p anchor, p.selectors = List.replicate s.arity Pattern.wholeAxis →
      AgreesWith (resolve p s anchor) s :=
  ⟨Pattern.exists_parse_colons (Snapshot.arity_pos hs), fun _ anchor hp =>
    agreesWith_resolve hs hprod hp anchor⟩

set_option maxRecDepth 4000 in
/-- Five full rows of four files agree with a colon in each of two dimensions. The two frames of a
camera do not: of the four combinations, the first one that is missing is `[7, 0]`. -/
theorem fiveRows_cameraFrames_agree :
    fiveRows.Scanned ∧ (fiveRows.axes.map Axis.size).prod ≤ maxIndex ∧
      Snapshot.cameraFrames.Scanned ∧ (Snapshot.cameraFrames.axes.map Axis.size).prod ≤ maxIndex ∧
      ∃ p, Pattern.parse ":,:" = .ok p ∧
      (∃ x, resolve p fiveRows none = .ok x ∧ x.size = 20 ∧
        x.fileNames = fiveRows.fileNamesInOrder) ∧
      ∃ e, resolve p Snapshot.cameraFrames (some 3) = .error (.outOfRange e) ∧
        e.indices? = some [7, 0] ∧
        AgreesWith (.error (.outOfRange e)) Snapshot.cameraFrames := by
  have hfull : fiveRows.Scanned := ⟨⟨[], none, false⟩, 2, fiveRows.names, by decide, by cbv⟩
  have hgaps : Snapshot.cameraFrames.Scanned :=
    ⟨⟨[], none, false⟩, 2, Snapshot.cameraFrames.names, by decide, by cbv⟩
  have hp : Pattern.parse ":,:" = .ok ⟨":,:", [Pattern.wholeAxis, Pattern.wholeAxis]⟩ := by cbv
  have hrows : (fiveRows.axes.map Axis.size).prod ≤ maxIndex := by decide
  have hframes : (Snapshot.cameraFrames.axes.map Axis.size).prod ≤ maxIndex := by decide
  have hagrees := (agreesWith_colons hfull hrows).2 ⟨":,:", _⟩ none rfl
  obtain ⟨x, hx⟩ := hagrees.exists_ok_iff.mpr (by decide)
  obtain ⟨-, hsize, hnames⟩ := hagrees.listed x hx
  refine ⟨hfull, hrows, hgaps, hframes, _, hp, ⟨x, hx, hsize, hnames⟩, ?_⟩
  exact ⟨_, rfl, rfl, (agreesWith_colons hgaps hframes).2 ⟨":,:", _⟩ (some 3) rfl⟩

end Selection

end FileSeries
