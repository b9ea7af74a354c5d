import FileSeries.Proofs.ScannedNames
import Mathlib
/-!
What a snapshot tells of the files of its folder. Main statement: a scan that succeeds keeps exactly
the accepted names with as many runs of digits as were asked for, each under indices of its own, and
its axes hold exactly the numbers that occur.
-/

namespace FileSeries

namespace Numbering

variable {accepts : List Char → Bool} {fields : Nat} {names : List (List Char)} {t : Indices}
  {n : Numbering}

theorem length_of_mem_tuples (h : ofNames accepts fields names = .ok n) (ht : t ∈ n.tuples) :
    t.length = fields := by
  obtain ⟨name, hname, hparse⟩ := (mem_tuples_iff_of_ofNames h).mp ht
  rw [(Template.fits_of_parse? hparse).length, ← Template.arity_of_parse? hparse]
  exact (mem_candidates_iff.mp hname).2.2

theorem pairwise_tuples (h : ofNames accepts fields names = .ok n) :
    n.tuples.Pairwise (· < ·) := by
  obtain ⟨-, ts, -, -, -, htuples⟩ := exists_tuples_of_ofNames h
  rw [htuples]
  exact Ascending.pairwise_lt_ofList fun _ _ => tupleBefore_iff

theorem length_tuples (h : ofNames accepts fields names = .ok n) :
    n.tuples.length = (candidates accepts fields names).length := by
  obtain ⟨-, ts, hts, hnodup, -, htuples⟩ := exists_tuples_of_ofNames h
  rw [htuples, Ascending.length_ofList_of_nodup (fun _ _ => tupleBefore_iff) hnodup]
  simpa using congrArg List.length hts

theorem exists_parse_of_mem_candidates (h : ofNames accepts fields names = .ok n)
    {name : List Char} (hname : name ∈ candidates accepts fields names) :
    ∃ t ∈ n.tuples, n.template.parse? name = some t := by
  obtain ⟨-, ts, hts, -⟩ := exists_tuples_of_ofNames h
  have hmem : n.template.parse? name ∈ ts.map some := hts ▸ List.mem_map_of_mem hname
  obtain ⟨t, -, hparse⟩ := List.mem_map.mp hmem
  exact ⟨t, (mem_tuples_iff_of_ofNames h).mpr ⟨name, hname, hparse.symm⟩, hparse.symm⟩

theorem arity_of_ofNames (h : ofNames accepts fields names = .ok n) : n.arity = fields := by
  obtain ⟨-, ts, -, -, haxes, -⟩ := exists_tuples_of_ofNames h
  simp [arity, haxes, Axis.ofTuples]

theorem exists_mem_tuples (h : ofNames accepts fields names = .ok n) : ∃ t, t ∈ n.tuples := by
  obtain ⟨hne, -⟩ := exists_tuples_of_ofNames h
  apply List.exists_mem_of_ne_nil
  rw [← List.length_pos_iff, length_tuples h]
  exact List.length_pos_iff.mpr hne

theorem mem_axis_iff (h : ofNames accepts fields names = .ok n) {d v : Nat} {axis : Axis}
    (hd : n.axes[d]? = some axis) : v ∈ axis.values ↔ ∃ t ∈ n.tuples, t[d]? = some v := by
  obtain ⟨-, ts, -, -, haxes, htuples⟩ := exists_tuples_of_ofNames h
  rw [haxes, Axis.ofTuples_eq_some_iff] at hd
  obtain ⟨-, rfl⟩ := hd
  simp only [Axis.mem_ofValues, List.mem_filterMap, htuples,
    Ascending.mem_ofList_iff fun _ _ => tupleBefore_iff]

theorem axis_ne_nil (h : ofNames accepts fields names = .ok n) {d : Nat} {axis : Axis}
    (hd : n.axes[d]? = some axis) : axis.values ≠ [] := by
  obtain ⟨t, ht⟩ := exists_mem_tuples h
  have hlt : d < t.length := by
    rw [length_of_mem_tuples h ht, ← arity_of_ofNames h]
    exact (List.getElem?_eq_some_iff.mp hd).1
  exact List.ne_nil_of_mem ((mem_axis_iff h hd).mpr ⟨t, ht, List.getElem?_eq_getElem hlt⟩)

end Numbering

namespace Snapshot

/-- The names that a scan is about: the accepted ones with `fields` runs of digits. -/
def wanted (accepts : List Char → Bool) (fields : Nat) (names : List (List Char)) :
    Finset (List Char) :=
  {name ∈ names.toFinset | accepts name = true ∧ (FileName.ofText name).arity = fields}

/-- The snapshot tells of these files and of no others. -/
structure Records (s : Snapshot) (fields : Nat) (files : Finset (List Char)) : Prop where
  found : ∀ name ∈ files, ∃ t, s.indicesOf? (String.ofList name) = some t ∧ s.has t = true ∧
    s.name t = .ok (String.ofList name)
  known : ∀ t, s.has t = true →
    t.length = fields ∧ ∃ name ∈ files, s.name t = .ok (String.ofList name)
  size : s.size = files.card
  nodup : s.fileNamesInOrder.Nodup
  listed : ∀ name, name ∈ s.fileNamesInOrder ↔ name.toList ∈ files
  /-- Read one after the other, the names have ascending indices. -/
  ordered : ∃ ts : List Indices, ts.Pairwise (· < ·) ∧
    s.fileNamesInOrder.map s.indicesOf? = ts.map some
  arity : s.arity = fields
  axes : ∀ (d : Nat) (axis : Axis), s.axes[d]? = some axis →
    axis.values.Pairwise (· < ·) ∧ axis.values ≠ [] ∧
    ∀ v, v ∈ axis.values ↔ ∃ t, s.has t = true ∧ t[d]? = some v

variable {accepts : List Char → Bool} {fields : Nat} {names : List (List Char)} {s : Snapshot}

theorem has_iff {t : Indices} : s.has t = true ↔ t ∈ s.tuples := List.contains_iff_mem

theorem wanted_eq_toFinset_candidates :
    wanted accepts fields names = (Numbering.candidates accepts fields names).toFinset := by
  ext name
  simp [wanted, Numbering.mem_candidates_iff]

theorem name_of_parse? (h : Numbering.ofNames accepts fields names = .ok s.toNumbering)
    {t : Indices} (ht : t ∈ s.tuples) {name : List Char}
    (hparse : s.template.parse? name = some t) : s.name t = .ok (String.ofList name) := by
  have hlength : t.length = s.arity :=
    (Numbering.length_of_mem_tuples h ht).trans (Numbering.arity_of_ofNames h).symm
  rw [Snapshot.name, if_pos hlength, Template.format_of_parse? hparse]

theorem indicesOf?_fileNamesInOrder
    (h : Numbering.ofNames accepts fields names = .ok s.toNumbering) :
    s.fileNamesInOrder.map s.indicesOf? = s.tuples.map some := by
  rw [fileNamesInOrder, Numbering.names, List.map_map, List.map_map]
  apply List.map_congr_left
  intro t ht
  obtain ⟨name, -, hparse⟩ := Numbering.exists_name_of_ofNames h ht
  simp [indicesOf?, Template.format_of_parse? hparse, hparse]

theorem mem_fileNamesInOrder_iff (h : Numbering.ofNames accepts fields names = .ok s.toNumbering)
    {name : String} : name ∈ s.fileNamesInOrder ↔
      name.toList ∈ Numbering.candidates accepts fields names := by
  simp only [fileNamesInOrder, Numbering.names, List.mem_map, exists_exists_and_eq_and]
  constructor
  · rintro ⟨t, ht, rfl⟩
    obtain ⟨found, hfound, hparse⟩ := (Numbering.mem_tuples_iff_of_ofNames h).mp ht
    rwa [Template.format_of_parse? hparse, String.toList_ofList]
  · intro hname
    obtain ⟨t, ht, hparse⟩ := Numbering.exists_parse_of_mem_candidates h hname
    exact ⟨t, ht, by rw [Template.format_of_parse? hparse, String.ofList_toList]⟩

theorem records_of_ofNames (h : Numbering.ofNames accepts fields names = .ok s.toNumbering) :
    s.Records fields (wanted accepts fields names) := by
  have hread := indicesOf?_fileNamesInOrder h
  rw [wanted_eq_toFinset_candidates]
  constructor
  case found =>
    intro name hname
    obtain ⟨t, ht, hparse⟩ :=
      Numbering.exists_parse_of_mem_candidates h (List.mem_toFinset.mp hname)
    refine ⟨t, ?_, has_iff.mpr ht, name_of_parse? h ht hparse⟩
    rw [indicesOf?, String.toList_ofList, hparse]
  case known =>
    intro t ht
    obtain ⟨name, hname, hparse⟩ := (Numbering.mem_tuples_iff_of_ofNames h).mp (has_iff.mp ht)
    exact ⟨Numbering.length_of_mem_tuples h (has_iff.mp ht), name, List.mem_toFinset.mpr hname,
      name_of_parse? h (has_iff.mp ht) hparse⟩
  case size =>
    rw [List.toFinset_card_of_nodup Numbering.nodup_candidates]
    exact Numbering.length_tuples h
  case nodup =>
    apply List.Nodup.of_map s.indicesOf?
    rw [hread]
    have hnodup : s.tuples.Nodup := (Numbering.pairwise_tuples h).imp fun hlt => hlt.ne
    exact hnodup.map (Option.some_injective _)
  case listed => exact fun name => (mem_fileNamesInOrder_iff h).trans List.mem_toFinset.symm
  case ordered => exact ⟨s.tuples, Numbering.pairwise_tuples h, hread⟩
  case arity => exact Numbering.arity_of_ofNames h
  case axes =>
    intro d axis hd
    refine ⟨axis.ascending, Numbering.axis_ne_nil h hd, fun v => ?_⟩
    simp only [Numbering.mem_axis_iff h hd, has_iff]

theorem length_of_mem_tuples (h : s.Scanned) {t : Indices} (ht : t ∈ s.tuples) :
    t.length = s.arity := by
  obtain ⟨matcher, fields, names, -, hs⟩ := h
  have hn := (ofNames_eq_ok_iff.mp hs).1
  exact (Numbering.length_of_mem_tuples hn ht).trans (Numbering.arity_of_ofNames hn).symm

theorem arity_pos (h : s.Scanned) : 0 < s.arity := by
  obtain ⟨matcher, fields, names, hfields, hs⟩ := h
  rw [Numbering.arity_of_ofNames (ofNames_eq_ok_iff.mp hs).1]
  exact hfields

theorem mem_axis_of_mem_tuples (h : s.Scanned) {t : Indices} (ht : t ∈ s.tuples) {d v : Nat}
    {axis : Axis} (hd : s.axes[d]? = some axis) (hv : t[d]? = some v) : v ∈ axis.values := by
  obtain ⟨matcher, fields, names, -, hs⟩ := h
  exact (Numbering.mem_axis_iff (ofNames_eq_ok_iff.mp hs).1 hd).mpr ⟨t, ht, hv⟩

/-- The name of a scanned file holds a number. -/
theorem arity_format_pos (h : s.Scanned) {t : Indices} (ht : t ∈ s.tuples) :
    0 < (FileName.ofText (s.template.format t)).arity := by
  obtain ⟨matcher, fields, names, hfields, hs⟩ := h
  obtain ⟨name, hname, hparse⟩ :=
    (Numbering.mem_tuples_iff_of_ofNames (ofNames_eq_ok_iff.mp hs).1).mp ht
  rw [Template.format_of_parse? hparse, (Numbering.mem_candidates_iff.mp hname).2.2]
  exact hfields

/-- A scan records exactly the files that it is about, whatever names its filter accepts and
whatever its glob stands for. -/
theorem records_of_scan :
    (∀ accepts fields names (s : Snapshot),
      Numbering.ofNames accepts fields names = .ok s.toNumbering →
        s.Records fields (wanted accepts fields names)) ∧
    ∀ readGlob d directory fields filter s,
      (scanWith readGlob d directory fields filter).outcome = .ok s →
      ∃ matcher entries, filter.compile readGlob = .ok matcher ∧
        d.list (Raw.ofString directory) = .ok entries ∧
        s.Records fields (wanted matcher.accepts fields (fileNames entries)) := by
  refine ⟨fun accepts fields names s h => records_of_ofNames h, ?_⟩
  intro readGlob d directory fields filter s h
  obtain ⟨-, matcher, entries, hm, hl, hs⟩ := exists_entries_of_scanWith h
  exact ⟨matcher, entries, hm, hl, records_of_ofNames (ofNames_eq_ok_iff.mp hs).1⟩

/-- A folder with two frames of a camera and a note. -/
def cameraDisk : Disk where
  nodes := [([Raw.ofString "cam_007-1.png", Raw.ofString "d"], .file []),
    ([Raw.ofString "note_1-2.txt", Raw.ofString "d"], .file []),
    ([Raw.ofString "cam_1234-0.png", Raw.ofString "d"], .file []),
    ([Raw.ofString "d"], .folder)]
  home := []

def cameraFilter : Filter := { extensions := ["PNG"], glob := some "cam*" }

def cameraFrames : Snapshot where
  template := ⟨['c', 'a', 'm', '_'], [(.zeros 3, ['-']), (.plain, [])], some ['p', 'n', 'g']⟩
  axes := [⟨[7, 1234], by decide⟩, ⟨[0, 1], by decide⟩]
  tuples := [[7, 1], [1234, 0]]
  directory := "d"
  filter := cameraFilter

theorem cameraFrames_recorded :
    (scan cameraDisk "d" 2 cameraFilter).outcome = .ok cameraFrames ∧
      (∃ matcher entries, cameraFilter.compile Glob.tester = .ok matcher ∧
        cameraDisk.list (Raw.ofString "d") = .ok entries ∧
        cameraFrames.Records 2 (wanted matcher.accepts 2 (fileNames entries))) ∧
      Numbering.ofNames (fun _ => true) 2
        ["cam_007-1.png".toList, "cam_07.png".toList, "cam_1234-0.png".toList] =
          .ok cameraFrames.toNumbering ∧
      cameraFrames.Records 2 (wanted (fun _ => true) 2
        ["cam_007-1.png".toList, "cam_07.png".toList, "cam_1234-0.png".toList]) := by
  have hscan : (scan cameraDisk "d" 2 cameraFilter).outcome = .ok cameraFrames := by cbv
  have hnames : Numbering.ofNames (fun _ => true) 2
      ["cam_007-1.png".toList, "cam_07.png".toList, "cam_1234-0.png".toList] =
        .ok cameraFrames.toNumbering := by cbv
  exact ⟨hscan, records_of_scan.2 Glob.tester _ _ _ _ _ hscan, hnames,
    records_of_scan.1 _ _ _ _ hnames⟩

end Snapshot

end FileSeries
