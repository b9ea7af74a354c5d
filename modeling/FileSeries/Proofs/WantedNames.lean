import FileSeries.Proofs.ConsistentNames
import FileSeries.Proofs.GrownFolder
import Mathlib
/-!
What a scan depends on. Main statement: scans of two folders with the same wanted names have the same
outcome, in whatever order the names are listed and split and whatever other files there are; only
the defect that no name was wanted tells the number of listed files.
-/

namespace FileSeries

/-- The defect with this number of listed files, if it tells one. -/
def Snapshot.Defect.recount (listed : Nat) : Snapshot.Defect → Snapshot.Defect
  | .noCandidate _ fields => .noCandidate listed fields
  | defect => defect

/-- The fault with this number of listed files, if it tells one. -/
def Fault.recount (listed : Nat) : Fault → Fault
  | .scan directory defect => .scan directory (defect.recount listed)
  | fault => fault

theorem Fault.message_recount (fault : Fault) :
    (∀ listed, fault.recount listed = fault) ∨
      ∃ (directory : String) (fields : Nat), ∀ listed : Nat, (fault.recount listed).message =
        s!"Scan error in {directory}: " ++
          s!"none of the {listed} files carries {fields} numeric fields" := by
  cases fault with
  | scan directory defect =>
    cases defect with
    | noCandidate _ fields => exact .inr ⟨directory, fields, fun _ => rfl⟩
    | noField | unlistable | mixedNames | unevenPadding | notRebuilt | repeatedIndices =>
      exact .inl fun _ => rfl
  | disk | pattern | outOfRange | missingFile | load | config => exact .inl fun _ => rfl

namespace Numbering

variable {accepts : List Char → Bool} {fields : Nat} {names names' : List (List Char)}

section Groups

/-- A name after its skeleton. -/
abbrev Parsed := Skeleton ×ₗ List Char

/-- Names by their skeletons; those of one skeleton by themselves. -/
def parsedBefore (a b : Parsed) : Bool :=
  skeletonBefore (ofLex a).1 (ofLex b).1 ||
    ((ofLex a).1 == (ofLex b).1 && nameBefore (ofLex a).2 (ofLex b).2)

/-- The wanted names, split one after the other. -/
def parsed (accepts : List Char → Bool) (fields : Nat) (names : List (List Char)) : List Parsed :=
  (names.filter fun name => accepts name && (FileName.ofText name).arity == fields).map fun name =>
    toLex ((FileName.ofText name).skeleton, name)

/-- The skeletons in ascending order, each with its names in ascending order. -/
def groups (l : List Parsed) : List (Skeleton × List (List Char)) :=
  let sorted := Ascending.ofList parsedBefore l
  (Ascending.ofList skeletonBefore (sorted.map fun p => (ofLex p).1)).map fun skeleton =>
    (skeleton, (sorted.filter fun p => (ofLex p).1 == skeleton).map fun p => (ofLex p).2)

/-- The numbering of grouped names. -/
def ofGroups (listed fields : Nat) :
    List (Skeleton × List (List Char)) → Except Snapshot.Defect Numbering
  | [] => .error (.noCandidate listed fields)
  | [(skeleton, found)] => ofSkeleton skeleton fields found
  | groups => .error (.mixedNames (groups.map (·.1)))

variable {l : List Parsed}

theorem parsedBefore_iff {a b : Parsed} : parsedBefore a b = true ↔ a < b := by
  rw [Prod.Lex.lt_iff, parsedBefore, Bool.or_eq_true, Bool.and_eq_true, beq_iff_eq,
    skeletonBefore_iff, nameBefore_iff]

theorem mem_parsed_iff {p : Parsed} : p ∈ parsed accepts fields names ↔
    ∃ name ∈ candidates accepts fields names, toLex ((FileName.ofText name).skeleton, name) = p := by
  simp only [parsed, List.mem_map, candidates, Ascending.mem_ofList_iff fun _ _ => nameBefore_iff]

section

variable (hl : ∀ p, p ∈ l ↔ p ∈ parsed accepts fields names)

include hl

theorem skeletons_eq :
    Ascending.ofList skeletonBefore
        ((Ascending.ofList parsedBefore l).map fun p => (ofLex p).1) =
      Ascending.ofList skeletonBefore
        ((candidates accepts fields names).map fun name => (FileName.ofText name).skeleton) := by
  refine Ascending.ofList_congr (fun _ _ => skeletonBefore_iff) fun skeleton => ?_
  simp only [List.mem_map, Ascending.mem_ofList_iff fun _ _ => parsedBefore_iff, hl,
    mem_parsed_iff, exists_exists_and_eq_and, ofLex_toLex]

/-- Among names after one skeleton, the order of the names decides. -/
theorem names_after_skeleton_eq (skeleton : Skeleton) :
    ((Ascending.ofList parsedBefore l).filter fun p => (ofLex p).1 == skeleton).map
        (fun p => (ofLex p).2) =
      (candidates accepts fields names).filter
        fun name => (FileName.ofText name).skeleton == skeleton := by
  have hsorted : (Ascending.ofList parsedBefore l).Pairwise (· < ·) :=
    Ascending.pairwise_lt_ofList fun _ _ => parsedBefore_iff
  refine List.Pairwise.eq_of_mem_iff ?_ (pairwise_candidates.filter _) fun name => ?_
  · rw [List.pairwise_map, List.pairwise_filter]
    refine hsorted.imp fun {a b} hlt ha hb => ?_
    rw [beq_iff_eq] at ha hb
    rcases Prod.Lex.lt_iff.mp hlt with hfirst | ⟨-, hsecond⟩
    · exact absurd (ha.trans hb.symm) hfirst.ne
    · exact hsecond
  · simp only [List.mem_map, List.mem_filter, Ascending.mem_ofList_iff fun _ _ => parsedBefore_iff,
      hl, mem_parsed_iff]
    constructor
    · rintro ⟨p, ⟨⟨found, hfound, rfl⟩, hskeleton⟩, rfl⟩
      exact ⟨hfound, hskeleton⟩
    · rintro ⟨hname, hskeleton⟩
      exact ⟨_, ⟨⟨name, hname, rfl⟩, hskeleton⟩, rfl⟩

/-- Grouping gives the numbering that sorting by names gives. -/
theorem ofGroups_eq : ofGroups names.length fields (groups l) = ofNames accepts fields names := by
  simp only [groups, skeletons_eq hl, names_after_skeleton_eq hl, ofNames]
  split
  · rename_i hnil
    simp only [hnil, List.map_nil, ofGroups]
  · rename_i skeleton hone
    have hall : ∀ name ∈ candidates accepts fields names,
        (FileName.ofText name).skeleton = skeleton := by
      have hskeletons :=
        ((Ascending.ofList_eq_singleton_iff fun _ _ => skeletonBefore_iff).mp hone).2
      exact fun name hname => hskeletons _ (List.mem_map_of_mem hname)
    have hfilter : (candidates accepts fields names).filter
        (fun name => (FileName.ofText name).skeleton == skeleton) =
          candidates accepts fields names :=
      List.filter_eq_self.mpr fun name hname => beq_iff_eq.mpr (hall name hname)
    simp only [hone, List.map_cons, List.map_nil, ofGroups, hfilter]
  · rename_i skeletons hnil hone
    generalize Ascending.ofList skeletonBefore _ = skeletons at hnil hone ⊢
    cases skeletons with
    | nil => exact absurd rfl hnil
    | cons first rest =>
      cases rest with
      | nil => exact absurd rfl (hone first)
      | cons second rest =>
        simp only [List.map_cons, ofGroups, List.map_map, Function.comp_def, List.map_id']

end

end Groups

section Recount

variable {skeleton : Skeleton} {found : List (List Char)} {defect : Snapshot.Defect} {listed : Nat}

theorem recount_of_ofSkeleton (hnodup : found.Nodup)
    (h : ofSkeleton skeleton fields found = .error defect) : defect.recount listed = defect := by
  simp only [ofSkeleton, Outcome.bind_eq_error_iff] at h
  rcases h with hpaddings | ⟨paddings, -, hnames | ⟨tuples, -, hn⟩⟩
  · obtain ⟨field, -, misfit, rfl, -⟩ := exists_misfit_of_inferPaddings hpaddings
    rfl
  · obtain ⟨name, -, -, rfl⟩ := exists_notRebuilt_of_readNames hnodup (by simp) hnames
    rfl
  · cases hn

theorem mapError_ofSkeleton (hnodup : found.Nodup) :
    (ofSkeleton skeleton fields found).mapError (Snapshot.Defect.recount listed) =
      ofSkeleton skeleton fields found := by
  cases h : ofSkeleton skeleton fields found with
  | ok n => rfl
  | error defect => exact congrArg Except.error (recount_of_ofSkeleton hnodup h)

theorem ofNames_of_candidates_eq
    (h : candidates accepts fields names = candidates accepts fields names') :
    ofNames accepts fields names' =
      (ofNames accepts fields names).mapError (Snapshot.Defect.recount names'.length) := by
  simp only [ofNames, ← h]
  split
  · rfl
  · exact (mapError_ofSkeleton nodup_candidates).symm
  · rfl

end Recount

end Numbering

namespace Snapshot

variable {accepts : List Char → Bool} {fields : Nat} {names names' : List (List Char)}

theorem candidates_eq_of_wanted_eq
    (h : wanted accepts fields names = wanted accepts fields names') :
    Numbering.candidates accepts fields names = Numbering.candidates accepts fields names' := by
  rw [wanted_eq_toFinset_candidates, wanted_eq_toFinset_candidates] at h
  refine Numbering.pairwise_candidates.eq_of_mem_iff Numbering.pairwise_candidates fun name => ?_
  rw [← List.mem_toFinset, h, List.mem_toFinset]

theorem outcome_of_wanted_eq {readGlob : Glob.Reader} {d d' : Disk} {directory : String}
    {filter : Filter} {entries entries' : List Disk.Entry}
    (hl : d.list (Raw.ofString directory) = .ok entries)
    (hl' : d'.list (Raw.ofString directory) = .ok entries')
    (h : ∀ matcher, filter.compile readGlob = .ok matcher →
      wanted matcher.accepts fields (fileNames entries) =
        wanted matcher.accepts fields (fileNames entries')) :
    (scanWith readGlob d' directory fields filter).outcome =
      (scanWith readGlob d directory fields filter).outcome.mapError
        (Fault.recount (fileNames entries').length) := by
  rcases Nat.eq_zero_or_pos fields with rfl | hpos
  · simp [scanWith, Logged.fail, Except.mapError, Fault.recount, Defect.recount]
  cases hm : filter.compile readGlob with
  | error failure => simp [scanWith, hm, hpos.ne', Logged.fail, Except.mapError, Fault.recount]
  | ok matcher =>
    rw [outcome_scanWith_eq hpos hm hl, outcome_scanWith_eq hpos hm hl', ofNames, ofNames,
      Numbering.ofNames_of_candidates_eq (candidates_eq_of_wanted_eq (h matcher hm))]
    cases Numbering.ofNames matcher.accepts fields (fileNames entries) <;> rfl

/-- A scan depends on the wanted names only, but for the number of listed files in the text of one
defect. -/
theorem scan_depends_on_wanted :
    (∀ accepts fields names l, l.Perm (Numbering.parsed accepts fields names) →
      Numbering.ofGroups names.length fields (Numbering.groups l) =
        Numbering.ofNames accepts fields names) ∧
    (∀ accepts fields names names',
      wanted accepts fields names = wanted accepts fields names' →
      Numbering.ofNames accepts fields names' =
        (Numbering.ofNames accepts fields names).mapError (Defect.recount names'.length)) ∧
    (∀ readGlob d d' directory fields filter entries entries',
      d.list (Raw.ofString directory) = .ok entries →
      d'.list (Raw.ofString directory) = .ok entries' →
      (∀ matcher, filter.compile readGlob = .ok matcher →
        wanted matcher.accepts fields (fileNames entries) =
          wanted matcher.accepts fields (fileNames entries')) →
      (scanWith readGlob d' directory fields filter).outcome =
        (scanWith readGlob d directory fields filter).outcome.mapError
          (Fault.recount (fileNames entries').length)) ∧
    ∀ fault : Fault, (∀ listed, fault.recount listed = fault) ∨
      ∃ (directory : String) (fields : Nat), ∀ listed : Nat, (fault.recount listed).message =
        s!"Scan error in {directory}: " ++
          s!"none of the {listed} files carries {fields} numeric fields" :=
  ⟨fun _ _ _ _ hperm => Numbering.ofGroups_eq fun _ => hperm.mem_iff,
    fun _ _ _ _ h => Numbering.ofNames_of_candidates_eq (candidates_eq_of_wanted_eq h),
    fun _ _ _ _ _ _ _ _ hl hl' h => outcome_of_wanted_eq hl hl' h, Fault.message_recount⟩

/-- The three frames in another order, among files that are none. -/
def crowdedFrames : Disk :=
  { threeFrames with nodes :=
      ([Raw.ofString "im1-2.tif", Raw.ofString "d"], .file []) :: threeFrames.nodes.reverse ++
        [([Raw.ofString "ReadMe", Raw.ofString "d"], .file [])] }

def crowdedNames : List (List Char) :=
  ["im345.tif".toList, "ReadMe".toList, "im05.tif".toList]

theorem crowdedFrames_numbered_as_threeFrames :
    (scan threeFrames "d" 1 {}).outcome = .ok paddedFrames ∧
      (scan crowdedFrames "d" 1 {}).outcome = .ok paddedFrames ∧
      Numbering.ofGroups 3 1
          (Numbering.groups (Numbering.parsed (fun _ => true) 1 crowdedNames).reverse) =
        Numbering.ofNames (fun _ => true) 1 crowdedNames ∧
      Numbering.ofNames (fun _ => true) 1 ["ReadMe".toList] = .error (.noCandidate 1 1) ∧
      Numbering.ofNames (fun _ => true) 1 ["im1-2.tif".toList, "ReadMe".toList] =
        .error (.noCandidate 2 1) := by
  have hscan : (scan threeFrames "d" 1 {}).outcome = .ok paddedFrames := by cbv
  have hnone : Numbering.ofNames (fun _ => true) 1 ["ReadMe".toList] =
      .error (.noCandidate 1 1) := by cbv
  refine ⟨hscan, ?_, ?_, hnone, ?_⟩
  · have hlist : threeFrames.list (Raw.ofString "d") =
        .ok [⟨Raw.ofString "im05.tif", true⟩, ⟨Raw.ofString "im345.tif", true⟩,
          ⟨Raw.ofString "im12.tif", true⟩] := by cbv
    have hcrowd : crowdedFrames.list (Raw.ofString "d") =
        .ok [⟨Raw.ofString "im1-2.tif", true⟩, ⟨Raw.ofString "im12.tif", true⟩,
          ⟨Raw.ofString "im345.tif", true⟩, ⟨Raw.ofString "im05.tif", true⟩,
          ⟨Raw.ofString "ReadMe", true⟩] := by cbv
    have hm : Filter.compile Glob.tester {} = .ok ⟨[], none, false⟩ := by cbv
    refine (scan_depends_on_wanted.2.2.1 Glob.tester _ _ "d" 1 {} _ _ hlist hcrowd ?_).trans ?_
    · intro matcher hmatcher
      obtain rfl := Except.ok.inj (hm.symm.trans hmatcher)
      rw [wanted_eq_toFinset_candidates, wanted_eq_toFinset_candidates]
      exact congrArg List.toFinset (by cbv)
    · exact congrArg (Except.mapError _) hscan
  · exact scan_depends_on_wanted.1 _ _ crowdedNames _ (List.reverse_perm _)
  · rw [scan_depends_on_wanted.2.1 _ _ ["ReadMe".toList] _ (by decide), hnone]
    rfl

end Snapshot

end FileSeries
