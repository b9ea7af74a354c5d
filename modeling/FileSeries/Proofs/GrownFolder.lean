import FileSeries.Proofs.SnapshotFiles
import Mathlib
/-!
Folders that are scanned again after files were added. Main statement: a later scan keeps each file
of an earlier one under the same indices and the same name, whatever padding it infers.
-/

namespace FileSeries

namespace Numbering

variable {accepts : List Char → Bool} {fields : Nat} {names later : List (List Char)}
  {n m : Numbering}

theorem candidates_subset (hsub : names ⊆ later) :
    candidates accepts fields names ⊆ candidates accepts fields later := by
  intro name hname
  obtain ⟨hmem, hwanted⟩ := mem_candidates_iff.mp hname
  exact mem_candidates_iff.mpr ⟨hsub hmem, hwanted⟩

/-- The indices of a name are the values of its runs, so all templates that read it agree on them. -/
theorem parse?_of_subset (hsub : names ⊆ later) (hm : ofNames accepts fields later = .ok m)
    {name : List Char} (hname : name ∈ candidates accepts fields names) {t : Indices}
    (hparse : n.template.parse? name = some t) : m.template.parse? name = some t := by
  obtain ⟨u, -, hparse'⟩ := exists_parse_of_mem_candidates hm (candidates_subset hsub hname)
  obtain rfl : t = u :=
    (Template.values_of_parse? hparse).symm.trans (Template.values_of_parse? hparse')
  exact hparse'

theorem tuples_subset (hsub : names ⊆ later) (hn : ofNames accepts fields names = .ok n)
    (hm : ofNames accepts fields later = .ok m) : n.tuples ⊆ m.tuples := by
  intro t ht
  obtain ⟨name, hname, hparse⟩ := (mem_tuples_iff_of_ofNames hn).mp ht
  exact (mem_tuples_iff_of_ofNames hm).mpr
    ⟨name, candidates_subset hsub hname, parse?_of_subset hsub hm hname hparse⟩

theorem exists_axis_of_subset (hsub : names ⊆ later) (hn : ofNames accepts fields names = .ok n)
    (hm : ofNames accepts fields later = .ok m) {d : Nat} {axis : Axis}
    (hd : n.axes[d]? = some axis) :
    ∃ axis', m.axes[d]? = some axis' ∧ axis.values ⊆ axis'.values := by
  have hlt : d < m.axes.length := by
    have hsize : m.axes.length = n.axes.length :=
      (arity_of_ofNames hm).trans (arity_of_ofNames hn).symm
    exact hsize ▸ (List.getElem?_eq_some_iff.mp hd).1
  refine ⟨m.axes[d], List.getElem?_eq_getElem hlt, fun v hv => ?_⟩
  obtain ⟨t, ht, hvalue⟩ := (mem_axis_iff hn hd).mp hv
  exact (mem_axis_iff hm (List.getElem?_eq_getElem hlt)).mpr
    ⟨t, tuples_subset hsub hn hm ht, hvalue⟩

end Numbering

namespace Snapshot

/-- A later snapshot has all files of an earlier one, by the same indices and names. -/
structure KeptBy (s later : Snapshot) : Prop where
  files : ∀ t, s.has t = true →
    later.has t = true ∧ ∃ name, s.name t = .ok name ∧ later.name t = .ok name
  read : ∀ name ∈ s.fileNamesInOrder,
    name ∈ later.fileNamesInOrder ∧ later.indicesOf? name = s.indicesOf? name
  axes : ∀ (d : Nat) (axis : Axis), s.axes[d]? = some axis →
    ∃ axis', later.axes[d]? = some axis' ∧ axis.values ⊆ axis'.values

variable {accepts : List Char → Bool} {fields : Nat} {names names' : List (List Char)}
  {s later : Snapshot}

theorem keptBy_of_subset (hsub : names ⊆ names')
    (hs : Numbering.ofNames accepts fields names = .ok s.toNumbering)
    (hlater : Numbering.ofNames accepts fields names' = .ok later.toNumbering) :
    s.KeptBy later := by
  constructor
  case files =>
    intro t ht
    rw [has_iff] at ht
    obtain ⟨name, hname, hparse⟩ := (Numbering.mem_tuples_iff_of_ofNames hs).mp ht
    have ht' := Numbering.tuples_subset hsub hs hlater ht
    have hparse' := Numbering.parse?_of_subset hsub hlater hname hparse
    exact ⟨has_iff.mpr ht', String.ofList name, name_of_parse? hs ht hparse,
      name_of_parse? hlater ht' hparse'⟩
  case read =>
    intro name hname
    rw [mem_fileNamesInOrder_iff hs] at hname
    obtain ⟨t, -, hparse⟩ := Numbering.exists_parse_of_mem_candidates hs hname
    refine ⟨(mem_fileNamesInOrder_iff hlater).mpr (Numbering.candidates_subset hsub hname), ?_⟩
    rw [indicesOf?, indicesOf?, hparse, Numbering.parse?_of_subset hsub hlater hname hparse]
  case axes => exact fun d axis hd => Numbering.exists_axis_of_subset hsub hs hlater hd

/-- A scan of more files, or of a folder that has more files, keeps all files of the first one. -/
theorem keptBy_of_rescan :
    (∀ accepts fields names names' (s later : Snapshot), names ⊆ names' →
      Numbering.ofNames accepts fields names = .ok s.toNumbering →
      Numbering.ofNames accepts fields names' = .ok later.toNumbering → s.KeptBy later) ∧
    ∀ readGlob d d' directory fields filter s later, (∀ entries entries',
        d.list (Raw.ofString directory) = .ok entries →
        d'.list (Raw.ofString directory) = .ok entries' →
        fileNames entries ⊆ fileNames entries') →
      (scanWith readGlob d directory fields filter).outcome = .ok s →
      (s.rescanWith readGlob d').outcome = .ok later → s.KeptBy later := by
  refine ⟨fun _ _ _ _ _ _ hsub hs hlater => keptBy_of_subset hsub hs hlater, ?_⟩
  intro readGlob d d' directory fields filter s later hsub hs hlater
  obtain ⟨-, matcher, entries, hm, hl, hs⟩ := exists_entries_of_scanWith hs
  obtain ⟨hn, rfl, rfl⟩ := ofNames_eq_ok_iff.mp hs
  obtain ⟨-, matcher', entries', hm', hl', hlater⟩ := exists_entries_of_scanWith hlater
  obtain rfl : matcher = matcher' := Except.ok.inj (hm.symm.trans hm')
  rw [Numbering.arity_of_ofNames hn] at hlater
  exact keptBy_of_subset (hsub entries entries' hl hl') hn (ofNames_eq_ok_iff.mp hlater).1

/-- A folder with two frames that are not padded. -/
def twoFrames : Disk where
  nodes := [([Raw.ofString "im345.tif", Raw.ofString "d"], .file []),
    ([Raw.ofString "im12.tif", Raw.ofString "d"], .file []), ([Raw.ofString "d"], .folder)]
  home := []

/-- The folder with a frame that shows a padding of width two. -/
def threeFrames : Disk :=
  { twoFrames with nodes :=
      ([Raw.ofString "im05.tif", Raw.ofString "d"], .file []) :: twoFrames.nodes }

def plainFrames : Snapshot where
  template := ⟨['i', 'm'], [(.plain, [])], some ['t', 'i', 'f']⟩
  axes := [⟨[12, 345], by decide⟩]
  tuples := [[12], [345]]
  directory := "d"
  filter := {}

def paddedFrames : Snapshot where
  template := ⟨['i', 'm'], [(.zeros 2, [])], some ['t', 'i', 'f']⟩
  axes := [⟨[5, 12, 345], by decide⟩]
  tuples := [[5], [12], [345]]
  directory := "d"
  filter := {}

theorem fileNames_twoFrames_subset {entries entries' : List Disk.Entry}
    (hl : twoFrames.list (Raw.ofString "d") = .ok entries)
    (hl' : threeFrames.list (Raw.ofString "d") = .ok entries') :
    fileNames entries ⊆ fileNames entries' := by
  have htwo : twoFrames.list (Raw.ofString "d") =
      .ok [⟨Raw.ofString "im345.tif", true⟩, ⟨Raw.ofString "im12.tif", true⟩] := by cbv
  have hthree : threeFrames.list (Raw.ofString "d") =
      .ok [⟨Raw.ofString "im05.tif", true⟩, ⟨Raw.ofString "im345.tif", true⟩,
        ⟨Raw.ofString "im12.tif", true⟩] := by cbv
  obtain rfl := Except.ok.inj (htwo.symm.trans hl)
  obtain rfl := Except.ok.inj (hthree.symm.trans hl')
  decide

theorem plainFrames_keptBy_paddedFrames :
    (scan twoFrames "d" 1 {}).outcome = .ok plainFrames ∧
      (plainFrames.rescan threeFrames).outcome = .ok paddedFrames ∧
      plainFrames.KeptBy paddedFrames ∧
      plainFrames.name [12] = .ok "im12.tif" ∧ paddedFrames.name [12] = .ok "im12.tif" ∧
      paddedFrames.name [5] = .ok "im05.tif" ∧
      Numbering.ofNames (fun _ => true) 1 ["im345.tif".toList, "im12.tif".toList] =
          .ok plainFrames.toNumbering ∧
      Numbering.ofNames (fun _ => true) 1
        ["im12.tif".toList, "im05.tif".toList, "im345.tif".toList, "ReadMe".toList] =
          .ok paddedFrames.toNumbering ∧
      plainFrames.KeptBy paddedFrames := by
  have hscan : (scan twoFrames "d" 1 {}).outcome = .ok plainFrames := by cbv
  have hrescan : (plainFrames.rescan threeFrames).outcome = .ok paddedFrames := by cbv
  have hkept : plainFrames.KeptBy paddedFrames :=
    keptBy_of_rescan.2 Glob.tester _ _ _ _ _ _ _ (fun _ _ => fileNames_twoFrames_subset) hscan
      hrescan
  have hn : Numbering.ofNames (fun _ => true) 1 ["im345.tif".toList, "im12.tif".toList] =
      .ok plainFrames.toNumbering := by cbv
  have hn' : Numbering.ofNames (fun _ => true) 1
      ["im12.tif".toList, "im05.tif".toList, "im345.tif".toList, "ReadMe".toList] =
          .ok paddedFrames.toNumbering := by cbv
  exact ⟨hscan, hrescan, hkept, by decide, by decide, by decide, hn, hn',
    keptBy_of_rescan.1 _ _ _ _ _ _ (by decide) hn hn'⟩

end Snapshot

end FileSeries
