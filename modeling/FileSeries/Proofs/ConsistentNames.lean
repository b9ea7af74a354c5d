import FileSeries.Proofs.PaddingInference
import FileSeries.Proofs.SnapshotFiles
import Mathlib
/-!
When a folder has a snapshot. Main statement: a scan succeeds exactly if the wanted names have one
skeleton, one padding for each field and numbers that are indices, and each of its defects tells what
is amiss with them.
-/

namespace FileSeries

namespace Template

variable {skeleton : Skeleton} {paddings : List Padding}

theorem skeleton_ofSkeleton (hl : paddings.length = skeleton.tails.length) :
    (ofSkeleton skeleton paddings).skeleton = skeleton := by
  rw [Template.skeleton, ofSkeleton, List.map_snd_zip hl.ge]

theorem paddings_ofSkeleton (hl : paddings.length = skeleton.tails.length) :
    (ofSkeleton skeleton paddings).paddings = paddings := by
  rw [Template.paddings, ofSkeleton, List.map_fst_zip hl.le]

end Template

namespace Snapshot

variable {listed fields : Nat} {files : Finset (List Char)}

/-- The names have the same texts between their numbers and the same extension. -/
def HaveOneSkeleton (files : Finset (List Char)) : Prop :=
  ∀ name ∈ files, ∀ other ∈ files,
    (FileName.ofText name).skeleton = (FileName.ofText other).skeleton

/-- One padding writes the runs that the names have in a field. -/
def HaveOnePadding (files : Finset (List Char)) (field : Nat) : Prop :=
  ∃ padding : Padding, padding.IsPositive ∧
    ∀ name ∈ files, ∀ run, (FileName.ofText name).fields[field]? = some run → padding.Writes run

/-- Names that one numbering can tell of. -/
structure Consistent (fields : Nat) (files : Finset (List Char)) : Prop where
  nonempty : files.Nonempty
  skeleton : HaveOneSkeleton files
  padding : ∀ field < fields, HaveOnePadding files field
  value : ∀ name ∈ files, ∀ run ∈ (FileName.ofText name).fields, Decimal.value run < 2 ^ 64

/-- What a scan finds in the wanted names among `listed` ones. No two of them ever have the same
indices, so no defect says this. -/
inductive Finding (listed fields : Nat) (files : Finset (List Char)) :
    Except Defect Numbering → Prop
  | numbered {n : Numbering} (h : Consistent fields files) : Finding listed fields files (.ok n)
  | noCandidate (h : files = ∅) : Finding listed fields files (.error (.noCandidate listed fields))
  | mixedNames {skeletons : List Skeleton} (h : ¬HaveOneSkeleton files)
      (hs : ∀ skeleton, skeleton ∈ skeletons ↔
        ∃ name ∈ files, (FileName.ofText name).skeleton = skeleton) :
      Finding listed fields files (.error (.mixedNames skeletons))
  | unevenPadding {field : Nat} {misfit : Padding.Misfit} (hs : HaveOneSkeleton files)
      (hfield : field < fields) (h : ¬HaveOnePadding files field) :
      Finding listed fields files (.error (.unevenPadding field misfit))
  | notRebuilt {name : List Char} {template : Template} (hs : HaveOneSkeleton files)
      (hp : ∀ field < fields, HaveOnePadding files field) (hname : name ∈ files)
      (h : ∃ run ∈ (FileName.ofText name).fields, 2 ^ 64 ≤ Decimal.value run) :
      Finding listed fields files (.error (.notRebuilt name template))

theorem Finding.exists_ok_iff {x : Except Defect Numbering} (h : Finding listed fields files x) :
    (∃ n, x = .ok n) ↔ Consistent fields files := by
  cases h with
  | numbered h => exact iff_of_true ⟨_, rfl⟩ h
  | noCandidate h => exact iff_of_false (by simp) fun hc => hc.nonempty.ne_empty h
  | mixedNames h => exact iff_of_false (by simp) fun hc => h hc.skeleton
  | unevenPadding hs hfield h => exact iff_of_false (by simp) fun hc => h (hc.padding _ hfield)
  | notRebuilt hs hp hname h =>
    obtain ⟨run, hrun, hlarge⟩ := h
    exact iff_of_false (by simp) fun hc => (hc.value _ hname run hrun).not_ge hlarge

end Snapshot

namespace Numbering

variable {fields : Nat} {parts : List FileName} {paddings : List Padding}

/-- The runs that a field has in some names. -/
def runsOf (field : Nat) (parts : List FileName) : List (List Char) :=
  parts.filterMap (·.fields[field]?)

theorem infer_of_inferPaddings (h : inferPaddings fields parts = .ok paddings) :
    paddings.length = fields ∧ ∀ field padding, paddings[field]? = some padding →
      Padding.infer (runsOf field parts) = .ok padding := by
  have hall := Outcome.mapM_eq_ok_iff.mp h
  have hlength : paddings.length = fields := by simpa using hall.length_eq.symm
  refine ⟨hlength, fun field padding hpadding => ?_⟩
  obtain ⟨hlt, rfl⟩ := List.getElem?_eq_some_iff.mp hpadding
  have hfield := hall.get (by simpa using hlength ▸ hlt) hlt
  simp only [List.get_eq_getElem, List.getElem_range] at hfield
  split at hfield
  · rename_i padding hinfer
    rw [runsOf, hinfer, Except.ok.inj hfield]
  · simp at hfield

theorem exists_misfit_of_inferPaddings {defect : Snapshot.Defect}
    (h : inferPaddings fields parts = .error defect) : ∃ field < fields, ∃ misfit,
      defect = .unevenPadding field misfit ∧
      Padding.infer (runsOf field parts) = .error misfit := by
  obtain ⟨field, hmem, hfield⟩ := Outcome.exists_of_mapM_eq_error h
  split at hfield
  · simp at hfield
  · rename_i misfit hinfer
    exact ⟨field, List.mem_range.mp hmem, misfit, (Except.error.inj hfield).symm, hinfer⟩

section Found

variable {found : List (List Char)} {skeleton : Skeleton} {name : List Char}

theorem mem_runsOf_iff {field : Nat} {run : List Char} :
    run ∈ runsOf field (found.map FileName.ofText) ↔
      ∃ name ∈ found, (FileName.ofText name).fields[field]? = some run := by
  simp only [runsOf, List.mem_filterMap, List.mem_map, exists_exists_and_eq_and]

theorem isRun_of_mem_fields {run : List Char} (h : run ∈ (FileName.ofText name).fields) :
    Decimal.IsRun run := by
  obtain ⟨x, hx, rfl⟩ := List.mem_map.mp h
  exact FileName.isRun_of_mem_runs hx

/-- A padding is inferred for a field exactly if the names have one there. -/
theorem haveOnePadding_iff {field : Nat} : Snapshot.HaveOnePadding found.toFinset field ↔
    ∃ padding, Padding.infer (runsOf field (found.map FileName.ofText)) = .ok padding := by
  rw [Padding.exists_infer_iff_writes]
  · refine exists_congr fun padding => and_congr_right fun _ => ?_
    simp only [mem_runsOf_iff, List.mem_toFinset]
    exact ⟨fun h run ⟨name, hname, hrun⟩ => h name hname run hrun,
      fun h name hname run hrun => h run ⟨name, hname, hrun⟩⟩
  · intro run hrun
    obtain ⟨name, -, hfield⟩ := mem_runsOf_iff.mp hrun
    exact isRun_of_mem_fields (List.mem_of_getElem? hfield)

theorem haveOnePadding_of_inferPaddings
    (hpaddings : inferPaddings fields (found.map FileName.ofText) = .ok paddings) {field : Nat}
    (hfield : field < fields) : Snapshot.HaveOnePadding found.toFinset field := by
  obtain ⟨hlength, hinfer⟩ := infer_of_inferPaddings hpaddings
  have hpadding := List.getElem?_eq_getElem (hlength.symm ▸ hfield : field < paddings.length)
  exact haveOnePadding_iff.mpr ⟨_, hinfer field _ hpadding⟩

theorem accepts_of_mem_zip
    (hpaddings : inferPaddings fields (found.map FileName.ofText) = .ok paddings)
    (hname : name ∈ found) {x : Padding × List Char}
    (hx : x ∈ paddings.zip (FileName.ofText name).fields) : x.1.accepts x.2 = true := by
  obtain ⟨field, hfield⟩ := List.getElem?_of_mem hx
  obtain ⟨hpadding, hrun⟩ := List.getElem?_zip_eq_some.mp hfield
  have hinfer := (infer_of_inferPaddings hpaddings).2 field x.1 hpadding
  exact (Padding.infer_eq_ok_iff.mp hinfer).1 x.2 (mem_runsOf_iff.mpr ⟨name, hname, hrun⟩)

/-- A template with the inferred paddings reads every name whose numbers are indices. -/
theorem exists_parse?_iff
    (hskeleton : ∀ name ∈ found, (FileName.ofText name).skeleton = skeleton)
    (harity : ∀ name ∈ found, (FileName.ofText name).arity = fields)
    (hpaddings : inferPaddings fields (found.map FileName.ofText) = .ok paddings)
    (hname : name ∈ found) :
    (∃ t, (Template.ofSkeleton skeleton paddings).parse? name = some t) ↔
      ∀ run ∈ (FileName.ofText name).fields, Decimal.value run < 2 ^ 64 := by
  have hfields : (FileName.ofText name).fields.length = paddings.length := by
    rw [(infer_of_inferPaddings hpaddings).1, ← harity name hname, FileName.fields,
      List.length_map, FileName.arity]
  have htails : paddings.length = skeleton.tails.length := by
    rw [← hfields, ← hskeleton name hname, FileName.fields, FileName.skeleton, List.length_map,
      List.length_map]
  have hruns : (paddings.zip (FileName.ofText name).fields).map Prod.snd =
      (FileName.ofText name).fields := List.map_snd_zip hfields.le
  simp only [Template.parse?_eq_some_iff_values, Template.skeleton_ofSkeleton htails,
    Template.paddings_ofSkeleton htails, hskeleton name hname, true_and, exists_and_left,
    exists_eq', and_true, fitsIndex_iff]
  constructor
  · intro hall run hrun
    rw [← hruns] at hrun
    obtain ⟨x, hx, rfl⟩ := List.mem_map.mp hrun
    exact (hall x hx).2
  · intro hall x hx
    exact ⟨accepts_of_mem_zip hpaddings hname hx, hall x.2 (List.of_mem_zip hx).2⟩

/-- What is found in names of one skeleton. -/
theorem finding_ofSkeleton (listed : Nat) (hnodup : found.Nodup) (hne : found ≠ [])
    (hskeleton : ∀ name ∈ found, (FileName.ofText name).skeleton = skeleton)
    (harity : ∀ name ∈ found, (FileName.ofText name).arity = fields) :
    Snapshot.Finding listed fields found.toFinset (ofSkeleton skeleton fields found) := by
  have hone : Snapshot.HaveOneSkeleton found.toFinset := fun name hname other hother =>
    (hskeleton name (List.mem_toFinset.mp hname)).trans
      (hskeleton other (List.mem_toFinset.mp hother)).symm
  cases h : ofSkeleton skeleton fields found with
  | ok n =>
    simp only [ofSkeleton, Outcome.bind_eq_ok_iff] at h
    obtain ⟨paddings, hpaddings, tuples, hnames, -⟩ := h
    obtain ⟨ts, hts, -⟩ := readNames_eq_ok_iff.mp hnames
    refine .numbered ⟨List.toFinset_nonempty_iff _ |>.mpr hne, hone,
      fun field hfield => haveOnePadding_of_inferPaddings hpaddings hfield, fun name hname => ?_⟩
    rw [List.mem_toFinset] at hname
    have hread : (Template.ofSkeleton skeleton paddings).parse? name ∈ ts.map some :=
      hts ▸ List.mem_map_of_mem hname
    obtain ⟨t, -, ht⟩ := List.mem_map.mp hread
    exact (exists_parse?_iff hskeleton harity hpaddings hname).mp ⟨t, ht.symm⟩
  | error defect =>
    simp only [ofSkeleton, Outcome.bind_eq_error_iff] at h
    rcases h with hpaddings | ⟨paddings, hpaddings, hnames | ⟨tuples, -, hn⟩⟩
    · obtain ⟨field, hfield, misfit, rfl, hinfer⟩ := exists_misfit_of_inferPaddings hpaddings
      refine .unevenPadding hone hfield fun hp => ?_
      obtain ⟨padding, hok⟩ := haveOnePadding_iff.mp hp
      simp [hinfer] at hok
    · obtain ⟨name, hname, hnone, rfl⟩ := exists_notRebuilt_of_readNames hnodup (by simp) hnames
      refine .notRebuilt hone
        (fun field hfield => haveOnePadding_of_inferPaddings hpaddings hfield)
        (List.mem_toFinset.mpr hname) ?_
      by_contra hsmall
      obtain ⟨t, ht⟩ := (exists_parse?_iff hskeleton harity hpaddings hname).mpr
        (by simpa using hsmall)
      simp [hnone] at ht
    · cases hn

end Found

theorem finding_ofNames (accepts : List Char → Bool) (fields : Nat) (names : List (List Char)) :
    Snapshot.Finding names.length fields (Snapshot.wanted accepts fields names)
      (ofNames accepts fields names) := by
  have hmem : ∀ skeleton,
      skeleton ∈ Ascending.ofList skeletonBefore
        ((candidates accepts fields names).map fun name => (FileName.ofText name).skeleton) ↔
      ∃ name ∈ (candidates accepts fields names).toFinset,
        (FileName.ofText name).skeleton = skeleton := fun skeleton => by
    rw [Ascending.mem_ofList_iff fun _ _ => skeletonBefore_iff, List.mem_map]
    simp only [List.mem_toFinset]
  rw [Snapshot.wanted_eq_toFinset_candidates]
  simp only [ofNames]
  split
  · rename_i hnil
    refine .noCandidate (Finset.eq_empty_iff_forall_notMem.mpr fun name hname => ?_)
    have hskeleton := (hmem (FileName.ofText name).skeleton).mpr ⟨name, hname, rfl⟩
    simp [hnil] at hskeleton
  · rename_i skeleton hone
    obtain ⟨hne, hall⟩ :=
      (Ascending.ofList_eq_singleton_iff fun _ _ => skeletonBefore_iff).mp hone
    refine finding_ofSkeleton _ nodup_candidates (by simpa using hne)
      (fun name hname => hall _ (List.mem_map_of_mem hname))
      fun name hname => (mem_candidates_iff.mp hname).2.2
  · rename_i skeletons hnil hone
    refine .mixedNames (fun hsame => ?_) hmem
    obtain ⟨first, hfirst⟩ := List.exists_mem_of_ne_nil _ hnil
    obtain ⟨name, hname, -⟩ := (hmem first).mp hfirst
    refine hone (FileName.ofText name).skeleton
      ((Ascending.ofList_eq_singleton_iff fun _ _ => skeletonBefore_iff).mpr ⟨?_, ?_⟩)
    · exact List.ne_nil_of_mem (List.mem_map_of_mem (List.mem_toFinset.mp hname))
    · rw [List.forall_mem_map]
      exact fun other hother => hsame other (List.mem_toFinset.mpr hother) name hname

end Numbering

namespace Snapshot

theorem Finding.ne_repeatedIndices {listed fields : Nat} {files : Finset (List Char)}
    {defect : Defect} (h : Finding listed fields files (.error defect)) (name : List Char) :
    defect ≠ .repeatedIndices name := by
  rintro rfl
  cases h

/-- A scan of a folder that can be listed, for at least one number, succeeds exactly if the wanted
names are consistent, whatever names its filter accepts and whatever its glob stands for; else its
defect is what was found in them. -/
theorem exists_scan_iff_consistent :
    (∀ accepts fields names,
      ((∃ n, Numbering.ofNames accepts fields names = .ok n) ↔
        Consistent fields (wanted accepts fields names)) ∧
      Finding names.length fields (wanted accepts fields names)
        (Numbering.ofNames accepts fields names)) ∧
    ∀ readGlob d directory fields filter matcher entries,
      filter.compile readGlob = .ok matcher → d.list (Raw.ofString directory) = .ok entries →
      ((∃ s, (scanWith readGlob d directory fields filter).outcome = .ok s) ↔
        0 < fields ∧ Consistent fields (wanted matcher.accepts fields (fileNames entries))) ∧
      ∀ fault, (scanWith readGlob d directory fields filter).outcome = .error fault →
        ∃ defect, fault = .scan directory defect ∧ (∀ name, defect ≠ .repeatedIndices name) ∧
          (fields = 0 ∧ defect = .noField ∨ 0 < fields ∧
            Finding (fileNames entries).length fields
              (wanted matcher.accepts fields (fileNames entries)) (.error defect)) := by
  refine ⟨fun accepts fields names => ?_, ?_⟩
  · have hfinding := Numbering.finding_ofNames accepts fields names
    exact ⟨hfinding.exists_ok_iff, hfinding⟩
  · intro readGlob d directory fields filter matcher entries hm hl
    have hfinding := Numbering.finding_ofNames matcher.accepts fields (fileNames entries)
    rcases Nat.eq_zero_or_pos fields with rfl | hpos
    · refine ⟨by simp [scanWith, Logged.fail], fun fault hfault => ?_⟩
      obtain rfl : Fault.scan directory .noField = fault := by
        simpa [scanWith, Logged.fail] using hfault
      exact ⟨.noField, rfl, fun name => by simp, .inl ⟨rfl, rfl⟩⟩
    · rw [outcome_scanWith_eq hpos hm hl, exists_ofNames_iff, hfinding.exists_ok_iff]
      refine ⟨by simp [hpos], fun fault hfault => ?_⟩
      obtain ⟨defect, hdefect, rfl⟩ := ofNames_eq_error_iff.mp hfault
      rw [hdefect] at hfinding
      exact ⟨defect, rfl, hfinding.ne_repeatedIndices, .inr ⟨hpos, hfinding⟩⟩

/-- The index of the second frame is one too large. -/
def farFrames : List (List Char) :=
  ["im00001.tif".toList, "im18446744073709551616.tif".toList]

theorem cameraDisk_consistent :
    (∃ matcher entries, cameraFilter.compile Glob.tester = .ok matcher ∧
      cameraDisk.list (Raw.ofString "d") = .ok entries ∧
      Consistent 2 (wanted matcher.accepts 2 (fileNames entries))) ∧
    Numbering.ofNames (fun _ => true) 1 farFrames = .error (.notRebuilt
      "im18446744073709551616.tif".toList
      ⟨"im".toList, [(.zeros 5, [])], some "tif".toList⟩) ∧
    ¬Consistent 1 (wanted (fun _ => true) 1 farFrames) := by
  have hscan : (scanWith Glob.tester cameraDisk "d" 2 cameraFilter).outcome = .ok cameraFrames := by
    cbv
  have hfar : Numbering.ofNames (fun _ => true) 1 farFrames = .error (.notRebuilt
      "im18446744073709551616.tif".toList
      ⟨"im".toList, [(.zeros 5, [])], some "tif".toList⟩) := by cbv
  obtain ⟨-, matcher, entries, hm, hl, -⟩ := exists_entries_of_scanWith hscan
  refine ⟨⟨matcher, entries, hm, hl, ?_⟩, hfar, ?_⟩
  · exact ((exists_scan_iff_consistent.2 _ _ _ _ _ _ _ hm hl).1.mp ⟨_, hscan⟩).2
  · rw [← (exists_scan_iff_consistent.1 _ _ _).1, hfar]
    simp

end Snapshot

end FileSeries
