import FileSeries.Proofs.AscendingSets
import FileSeries.Proofs.Outcome
import FileSeries.Proofs.TemplateNames
import FileSeries.Snapshot
import Mathlib
/-!
The names of the files of a scan. Main statements: each tuple of a scan was read from the name of a
file, which the template writes for it again, so that no two tuples share a name.
-/

namespace FileSeries

namespace Numbering

variable {accepts : List Char → Bool} {fields : Nat} {names : List (List Char)} {t : Indices}

/-- Reading succeeds if each name has a tuple of its own. -/
theorem readNames_eq_ok_iff {template : Template} {seen tuples : List Indices} :
    readNames template seen names = .ok tuples ↔
      ∃ ts, ts.map some = names.map template.parse? ∧ (ts.Nodup ∧ ∀ t ∈ ts, t ∉ seen) ∧
        seen.reverse ++ ts = tuples := by
  induction names generalizing seen with
  | nil => simp [readNames]
  | cons name names ih =>
    rw [readNames]
    cases hp : template.parse? name with
    | none => simp [hp, List.map_eq_cons_iff]
    | some t =>
      by_cases hseen : t ∈ seen
      · simp [hp, hseen, List.map_eq_cons_iff]
      · simp only [List.contains_eq_mem, hseen, decide_false, Bool.false_eq_true, if_false, ih,
          List.map_cons, hp, List.map_eq_cons_iff, Option.some.injEq, List.reverse_cons,
          List.append_assoc, List.singleton_append]
        constructor
        · rintro ⟨ts, hts, ⟨hnodup, hnew⟩, rfl⟩
          have ht : t ∉ ts := fun hmem => hnew t hmem List.mem_cons_self
          refine ⟨t :: ts, ⟨t, ts, rfl, rfl, hts⟩, ⟨hnodup.cons ht, ?_⟩, rfl⟩
          exact List.forall_mem_cons.mpr ⟨hseen, fun u hu hmem =>
            hnew u hu (List.mem_cons_of_mem _ hmem)⟩
        · rintro ⟨_, ⟨_, ts, rfl, rfl, hts⟩, ⟨hnodup, hnew⟩, rfl⟩
          obtain ⟨ht, hnodup⟩ := List.nodup_cons.mp hnodup
          refine ⟨ts, hts, ⟨hnodup, fun u hu hmem => ?_⟩, rfl⟩
          rcases List.mem_cons.mp hmem with rfl | hmem
          · exact ht hu
          · exact hnew u (List.mem_cons_of_mem _ hu) hmem

/-- Names that differ have tuples that differ, so reading them fails with one that has none. -/
theorem exists_notRebuilt_of_readNames {template : Template} {seen : List Indices}
    {defect : Snapshot.Defect} (hnodup : names.Nodup)
    (hseen : ∀ name ∈ names, ∀ t ∈ seen, template.parse? name ≠ some t)
    (h : readNames template seen names = .error defect) :
    ∃ name ∈ names, template.parse? name = none ∧ defect = .notRebuilt name template := by
  induction names generalizing seen with
  | nil => simp [readNames] at h
  | cons name names ih =>
    obtain ⟨hfirst, hnodup⟩ := List.nodup_cons.mp hnodup
    obtain ⟨hnew, hseen⟩ := List.forall_mem_cons.mp hseen
    rw [readNames] at h
    cases hp : template.parse? name with
    | none =>
      simp only [hp, Except.error.injEq] at h
      exact ⟨name, List.mem_cons_self, hp, h.symm⟩
    | some t =>
      have ht : t ∉ seen := fun hmem => hnew t hmem hp
      simp only [hp, List.contains_eq_mem, ht, decide_false, Bool.false_eq_true, if_false] at h
      have hrest : ∀ other ∈ names, ∀ u ∈ t :: seen, template.parse? other ≠ some u := by
        intro other hother
        refine List.forall_mem_cons.mpr ⟨fun heq => hfirst ?_, hseen other hother⟩
        rwa [← Template.format_of_parse? hp, Template.format_of_parse? heq]
      obtain ⟨found, hfound, hnone, hdefect⟩ := ih hnodup hrest h
      exact ⟨found, List.mem_cons_of_mem _ hfound, hnone, hdefect⟩

theorem mem_candidates_iff {name : List Char} :
    name ∈ candidates accepts fields names ↔
      name ∈ names ∧ accepts name = true ∧ (FileName.ofText name).arity = fields := by
  rw [candidates, Ascending.mem_ofList_iff fun _ _ => nameBefore_iff, List.mem_filter,
    Bool.and_eq_true, beq_iff_eq]

theorem pairwise_candidates : (candidates accepts fields names).Pairwise (· < ·) :=
  Ascending.pairwise_lt_ofList fun _ _ => nameBefore_iff

theorem nodup_candidates : (candidates accepts fields names).Nodup :=
  pairwise_candidates.imp fun hlt => hlt.ne

/-- The tuples of a numbering are read from the candidates, one from each. -/
theorem exists_tuples_of_ofNames {n : Numbering} (h : ofNames accepts fields names = .ok n) :
    candidates accepts fields names ≠ [] ∧
      ∃ ts, ts.map some = (candidates accepts fields names).map n.template.parse? ∧ ts.Nodup ∧
        n.axes = Axis.ofTuples fields ts ∧ n.tuples = Ascending.ofList tupleBefore ts := by
  simp only [ofNames] at h
  split at h
  · simp at h
  · rename_i skeleton hskeleton
    simp only [ofSkeleton, Outcome.bind_eq_ok_iff] at h
    obtain ⟨paddings, -, tuples, htuples, h⟩ := h
    obtain rfl := Except.ok.inj h
    obtain ⟨ts, hts, ⟨hnodup, -⟩, rfl⟩ := readNames_eq_ok_iff.mp htuples
    refine ⟨fun hnil => ?_, ts, hts, hnodup, rfl, rfl⟩
    simp [hnil, Ascending.ofList] at hskeleton
  · simp at h

theorem mem_tuples_iff_of_ofNames {n : Numbering} (h : ofNames accepts fields names = .ok n) :
    t ∈ n.tuples ↔ ∃ name ∈ candidates accepts fields names, n.template.parse? name = some t := by
  obtain ⟨-, ts, hts, -, -, htuples⟩ := exists_tuples_of_ofNames h
  rw [htuples, Ascending.mem_ofList_iff fun _ _ => tupleBefore_iff, ← List.mem_map, ← hts]
  exact (List.mem_map_of_injective (Option.some_injective _)).symm

theorem exists_name_of_ofNames {n : Numbering} (h : ofNames accepts fields names = .ok n)
    (ht : t ∈ n.tuples) : ∃ name ∈ names, n.template.parse? name = some t := by
  obtain ⟨name, hname, hparse⟩ := (mem_tuples_iff_of_ofNames h).mp ht
  exact ⟨name, (mem_candidates_iff.mp hname).1, hparse⟩

end Numbering

namespace Snapshot

variable {s : Snapshot} {t : Indices}

theorem ofNames_eq_ok_iff {directory : String} {filter : Filter} {matcher : Filter.Matcher}
    {fields : Nat} {names : List (List Char)} :
    ofNames directory filter matcher fields names = .ok s ↔
      Numbering.ofNames matcher.accepts fields names = .ok s.toNumbering ∧
        directory = s.directory ∧ filter = s.filter := by
  unfold ofNames
  obtain ⟨n, directory', filter'⟩ := s
  cases Numbering.ofNames matcher.accepts fields names <;> simp

theorem ofNames_eq_error_iff {directory : String} {filter : Filter} {matcher : Filter.Matcher}
    {fields : Nat} {names : List (List Char)} {fault : Fault} :
    ofNames directory filter matcher fields names = .error fault ↔
      ∃ defect, Numbering.ofNames matcher.accepts fields names = .error defect ∧
        .scan directory defect = fault := by
  unfold ofNames
  cases Numbering.ofNames matcher.accepts fields names <;> simp

theorem exists_ofNames_iff {directory : String} {filter : Filter} {matcher : Filter.Matcher}
    {fields : Nat} {names : List (List Char)} :
    (∃ s, ofNames directory filter matcher fields names = .ok s) ↔
      ∃ n, Numbering.ofNames matcher.accepts fields names = .ok n := by
  unfold ofNames
  cases Numbering.ofNames matcher.accepts fields names <;> simp

/-- Some files, seen through some filter, are what the snapshot tells of them. -/
def Scanned (s : Snapshot) : Prop :=
  ∃ matcher fields names, 0 < fields ∧ ofNames s.directory s.filter matcher fields names = .ok s

section Scan

variable {readGlob : Glob.Reader} {d : Disk} {directory : String} {fields : Nat} {filter : Filter}

/-- A scan of a folder that can be listed is about the names of its files. -/
theorem outcome_scanWith_eq {matcher : Filter.Matcher} {entries : List Disk.Entry}
    (hfields : 0 < fields) (hm : filter.compile readGlob = .ok matcher)
    (hl : d.list (Raw.ofString directory) = .ok entries) :
    (scanWith readGlob d directory fields filter).outcome =
      ofNames directory filter matcher fields (fileNames entries) := by
  simp only [scanWith, if_neg hfields.ne', hm, hl, ofEntries]
  cases ofNames directory filter matcher fields (fileNames entries) <;> rfl

/-- A scan that succeeds has seen the files of its folder through its filter. -/
theorem exists_entries_of_scanWith
    (h : (scanWith readGlob d directory fields filter).outcome = .ok s) :
    0 < fields ∧ ∃ matcher entries, filter.compile readGlob = .ok matcher ∧
      d.list (Raw.ofString directory) = .ok entries ∧
      ofNames directory filter matcher fields (fileNames entries) = .ok s := by
  rcases Nat.eq_zero_or_pos fields with rfl | hfields
  · simp [scanWith, Logged.fail] at h
  · cases hm : filter.compile readGlob with
    | error failure => simp [scanWith, hfields.ne', hm, Logged.fail] at h
    | ok matcher =>
      cases hl : d.list (Raw.ofString directory) with
      | error failure => simp [scanWith, hfields.ne', hm, hl, Logged.fail] at h
      | ok entries =>
        rw [outcome_scanWith_eq hfields hm hl] at h
        exact ⟨hfields, matcher, entries, rfl, rfl, h⟩

theorem scanned_of_scanWith (h : (scanWith readGlob d directory fields filter).outcome = .ok s) :
    s.Scanned := by
  obtain ⟨hfields, matcher, entries, -, -, hs⟩ := exists_entries_of_scanWith h
  obtain ⟨-, rfl, rfl⟩ := ofNames_eq_ok_iff.mp hs
  exact ⟨matcher, fields, fileNames entries, hfields, hs⟩

end Scan

theorem parse?_format (h : s.Scanned) (ht : t ∈ s.tuples) :
    s.template.parse? (s.template.format t) = some t := by
  obtain ⟨matcher, fields, names, -, hs⟩ := h
  obtain ⟨name, -, hparse⟩ := Numbering.exists_name_of_ofNames (ofNames_eq_ok_iff.mp hs).1 ht
  rw [Template.format_of_parse? hparse]
  exact hparse

theorem format_injOn (h : s.Scanned) : Set.InjOn s.template.format {t | t ∈ s.tuples} := by
  intro t ht u hu heq
  have hparse := parse?_format h ht
  rw [heq, parse?_format h hu] at hparse
  exact (Option.some.inj hparse).symm

end Snapshot

end FileSeries
