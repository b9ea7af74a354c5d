import FileSeries.Proofs.DigitRuns
import FileSeries.Proofs.NameParts
import FileSeries.Template
import Mathlib
/-!
Templates as codes of file names. Main statements: a template writes the indices that it has read
from a name as this name, and if its texts are those of a name, it reads exactly the names that it
writes.
-/

namespace FileSeries

theorem fitsIndex_iff {n : Nat} : fitsIndex n = true ↔ n < 2 ^ 64 := by
  rw [fitsIndex, decide_eq_true_eq, maxIndex]
  omega

theorem FileName.isRun_of_mem_runs {name : List Char} {x : List Char × List Char}
    (h : x ∈ (ofText name).runs) : Decimal.IsRun x.1 := isRun_of_mem_cutRuns h

namespace Template

theorem readRun?_eq_some_iff {padding : Padding} {run : List Char} {n : Nat} :
    readRun? padding run = some n ↔
      padding.accepts run = true ∧ fitsIndex n = true ∧ Decimal.value run = n := by
  unfold readRun?
  split <;> grind

/-- What was read from runs with the texts of the fields is written back as these runs. -/
theorem writeRuns_of_readRuns? {fields : List (Padding × List Char)}
    {runs : List (List Char × List Char)} {indices : Indices}
    (htexts : runs.map (·.2) = fields.map (·.2)) (hruns : ∀ x ∈ runs, Decimal.IsRun x.1)
    (h : readRuns? (fields.map (·.1)) (runs.map (·.1)) = some indices) :
    writeRuns fields indices = runs := by
  induction fields generalizing runs indices with
  | nil =>
    obtain rfl := List.map_eq_nil_iff.mp htexts
    rfl
  | cons field fields ih =>
    obtain ⟨padding, text⟩ := field
    cases runs with
    | nil => simp at htexts
    | cons x runs =>
      obtain ⟨run, text'⟩ := x
      rw [List.map_cons, List.map_cons, List.cons_eq_cons] at htexts
      obtain ⟨rfl, htexts⟩ := htexts
      simp only [List.map_cons, readRuns?, Option.bind_eq_bind, Option.bind_eq_some_iff,
        Option.pure_def, Option.some.injEq] at h
      obtain ⟨n, hn, rest, hrest, rfl⟩ := h
      obtain ⟨ha, -, rfl⟩ := readRun?_eq_some_iff.mp hn
      have hwrite := Padding.write_value (hruns _ List.mem_cons_self) ha
      have htail := ih htexts (fun x hx => hruns x (List.mem_cons_of_mem _ hx)) hrest
      rw [writeRuns, hwrite, htail]

/-- Tuples that have a name: an index for each field. -/
structure Fits (t : Template) (indices : Indices) : Prop where
  length : indices.length = t.arity
  index : ∀ n ∈ indices, fitsIndex n = true

/-- Runs are read one by one, each as its value. -/
theorem readRuns?_eq_some_iff_values {paddings : List Padding} {runs : List (List Char)}
    {indices : Indices} (hl : runs.length = paddings.length) :
    readRuns? paddings runs = some indices ↔
      (∀ x ∈ paddings.zip runs, x.1.accepts x.2 = true ∧ fitsIndex (Decimal.value x.2) = true) ∧
        runs.map Decimal.value = indices := by
  induction paddings generalizing runs indices with
  | nil =>
    obtain rfl := List.length_eq_zero_iff.mp hl
    simp [readRuns?]
  | cons padding paddings ih =>
    cases runs with
    | nil => simp at hl
    | cons run runs =>
      simp only [readRuns?, Option.bind_eq_bind, Option.bind_eq_some_iff, Option.pure_def,
        Option.some.injEq, readRun?_eq_some_iff, ih (Nat.succ.inj hl), List.zip_cons_cons,
        List.forall_mem_cons, List.map_cons]
      constructor
      · rintro ⟨_, ⟨haccepts, hfits, rfl⟩, _, ⟨hall, rfl⟩, rfl⟩
        exact ⟨⟨⟨haccepts, hfits⟩, hall⟩, rfl⟩
      · rintro ⟨⟨⟨haccepts, hfits⟩, hall⟩, rfl⟩
        exact ⟨_, ⟨haccepts, hfits, rfl⟩, _, ⟨hall, rfl⟩, rfl⟩

theorem length_fields_of_skeleton {t : Template} {name : List Char}
    (h : (FileName.ofText name).skeleton = t.skeleton) :
    (FileName.ofText name).fields.length = t.paddings.length := by
  have htexts : (FileName.ofText name).runs.length = t.fields.length := by
    simpa [FileName.skeleton, skeleton] using congrArg (·.tails.length) h
  rw [FileName.fields, paddings, List.length_map, List.length_map, htexts]

/-- A name with the texts of a template is read by the values of its runs. -/
theorem parse?_eq_some_iff_values {t : Template} {name : List Char} {indices : Indices} :
    t.parse? name = some indices ↔ (FileName.ofText name).skeleton = t.skeleton ∧
      (∀ x ∈ t.paddings.zip (FileName.ofText name).fields,
        x.1.accepts x.2 = true ∧ fitsIndex (Decimal.value x.2) = true) ∧
      (FileName.ofText name).fields.map Decimal.value = indices := by
  by_cases hs : (FileName.ofText name).skeleton = t.skeleton
  · rw [parse?, if_pos hs, readRuns?_eq_some_iff_values (length_fields_of_skeleton hs)]
    simp [hs]
  · simp [parse?, hs]

theorem skeleton_of_parse? {t : Template} {name : List Char} {indices : Indices}
    (h : t.parse? name = some indices) : (FileName.ofText name).skeleton = t.skeleton :=
  (parse?_eq_some_iff_values.mp h).1

theorem values_of_parse? {t : Template} {name : List Char} {indices : Indices}
    (h : t.parse? name = some indices) :
    (FileName.ofText name).fields.map Decimal.value = indices :=
  (parse?_eq_some_iff_values.mp h).2.2

theorem arity_of_parse? {t : Template} {name : List Char} {indices : Indices}
    (h : t.parse? name = some indices) : (FileName.ofText name).arity = t.arity := by
  have htexts := congrArg (·.tails.length) (skeleton_of_parse? h)
  simpa [FileName.skeleton, skeleton, FileName.arity, arity] using htexts

theorem fits_of_parse? {t : Template} {name : List Char} {indices : Indices}
    (h : t.parse? name = some indices) : t.Fits indices := by
  obtain ⟨hs, hall, rfl⟩ := parse?_eq_some_iff_values.mp h
  have hlength := length_fields_of_skeleton hs
  refine ⟨by rw [List.length_map, hlength, paddings, List.length_map, arity], fun n hn => ?_⟩
  obtain ⟨run, hrun, rfl⟩ := List.mem_map.mp hn
  rw [← List.map_snd_zip hlength.le] at hrun
  obtain ⟨x, hx, rfl⟩ := List.mem_map.mp hrun
  exact (hall x hx).2

theorem format_of_parse? {t : Template} {name : List Char} {indices : Indices}
    (h : t.parse? name = some indices) : t.format indices = name := by
  have hs := skeleton_of_parse? h
  obtain ⟨hlead, htexts, hext⟩ := Skeleton.mk.inj hs
  simp only [parse?, if_pos hs] at h
  have hruns := writeRuns_of_readRuns? htexts (fun x hx => FileName.isRun_of_mem_runs hx) h
  rw [format, hruns, ← hlead, ← hext]
  exact FileName.toText_ofText name

section Writing

variable {fields : List (Padding × List Char)} {indices : Indices}

theorem isRun_of_mem_writeRuns {x : List Char × List Char} (h : x ∈ writeRuns fields indices) :
    Decimal.IsRun x.1 := by
  induction fields generalizing indices with
  | nil => simp [writeRuns] at h
  | cons field fields ih =>
    cases indices with
    | nil => simp [writeRuns] at h
    | cons n indices =>
      rcases List.mem_cons.mp h with rfl | hx
      · exact field.1.isRun_write n
      · exact ih hx

theorem texts_writeRuns (hl : indices.length = fields.length) :
    (writeRuns fields indices).map (·.2) = fields.map (·.2) := by
  induction fields generalizing indices with
  | nil => simp [writeRuns]
  | cons field fields ih =>
    cases indices with
    | nil => simp at hl
    | cons n indices => simp [writeRuns, ih (Nat.succ.inj hl)]

theorem readRuns?_writeRuns (hp : ∀ field ∈ fields, field.1.IsPositive)
    (hl : indices.length = fields.length) (hn : ∀ n ∈ indices, fitsIndex n = true) :
    readRuns? (fields.map (·.1)) ((writeRuns fields indices).map (·.1)) = some indices := by
  induction fields generalizing indices with
  | nil =>
    obtain rfl := List.length_eq_zero_iff.mp hl
    rfl
  | cons field fields ih =>
    cases indices with
    | nil => simp at hl
    | cons n indices =>
      obtain ⟨hfield, hfields⟩ := List.forall_mem_cons.mp hp
      obtain ⟨hfirst, hrest⟩ := List.forall_mem_cons.mp hn
      have hread : readRun? field.1 (field.1.write n) = some n :=
        readRun?_eq_some_iff.mpr ⟨Padding.accepts_write hfield n, hfirst, field.1.value_write n⟩
      simp [writeRuns, readRuns?, hread, ih hfields (Nat.succ.inj hl) hrest]

end Writing

variable {t : Template} {original : List Char}

theorem parse?_format_of_fits (hs : t.skeleton = (FileName.ofText original).skeleton)
    (hp : ∀ padding ∈ t.paddings, padding.IsPositive) {indices : Indices} (h : t.Fits indices) :
    t.parse? (t.format indices) = some indices := by
  obtain ⟨hlead, htexts, hext⟩ := Skeleton.mk.inj hs
  have hwritten := texts_writeRuns h.length
  have hparts : FileName.ofText (t.format indices) =
      ⟨t.lead, writeRuns t.fields indices, t.extension⟩ := by
    rw [format, hlead, hext]
    exact FileName.ofText_toText_of_texts_eq (fun x hx => isRun_of_mem_writeRuns hx)
      (hwritten.trans htexts)
  have hskeleton : (FileName.ofText (t.format indices)).skeleton = t.skeleton := by
    rw [hparts, FileName.skeleton, hwritten]
    rfl
  have hread : t.parse? (t.format indices) =
      readRuns? t.paddings (FileName.ofText (t.format indices)).fields := if_pos hskeleton
  have hfields : ∀ field ∈ t.fields, field.1.IsPositive := fun field hf =>
    hp field.1 (List.mem_map_of_mem hf)
  rw [hread, hparts]
  exact readRuns?_writeRuns hfields h.length h.index

/-- A template with the texts of a name reads exactly the names that it writes, and no two tuples
share one. -/
theorem parse?_eq_some_iff (hs : t.skeleton = (FileName.ofText original).skeleton)
    (hp : ∀ padding ∈ t.paddings, padding.IsPositive) :
    (∀ name indices, t.parse? name = some indices ↔ t.Fits indices ∧ t.format indices = name) ∧
      Set.InjOn t.format {indices | t.Fits indices} := by
  constructor
  · intro name indices
    constructor
    · exact fun h => ⟨fits_of_parse? h, format_of_parse? h⟩
    · rintro ⟨h, rfl⟩
      exact parse?_format_of_fits hs hp h
  · intro indices h indices' h' heq
    have hread := parse?_format_of_fits hs hp h
    rw [heq, parse?_format_of_fits hs hp h', Option.some.injEq] at hread
    exact hread.symm

/-- The template of `cam_0012-3.png`. -/
def cameraTemplate : Template :=
  ⟨['c', 'a', 'm', '_'], [(.zeros 4, ['-']), (.plain, [])], some ['p', 'n', 'g']⟩

theorem cameraTemplate_reads_what_it_writes :
    cameraTemplate.skeleton = (FileName.ofText "cam_0012-3.png".toList).skeleton ∧
      (∀ padding ∈ cameraTemplate.paddings, padding.IsPositive) ∧
      cameraTemplate.parse? "cam_0007-18446744073709551615.png".toList = some [7, maxIndex] := by
  have hs : cameraTemplate.skeleton = (FileName.ofText "cam_0012-3.png".toList).skeleton := by
    decide
  have hp : ∀ padding ∈ cameraTemplate.paddings, padding.IsPositive := by
    rintro padding hm
    rcases List.mem_pair.mp hm with rfl | rfl
    · exact Nat.succ_pos 3
    · trivial
  refine ⟨hs, hp, ((parse?_eq_some_iff hs hp).1 _ _).mpr ⟨⟨rfl, by decide⟩, by decide⟩⟩

end Template

end FileSeries
