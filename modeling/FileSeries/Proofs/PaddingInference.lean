import FileSeries.Proofs.DigitRuns
/-!
The padding that the runs of a field show. Main statements: an inferred padding writes each of the
runs, one is inferred whenever some padding writes all of them, and which one it is depends on the
runs alone, not on their order or on how often they come.
-/

namespace FileSeries.Padding

variable {runs : List (List Char)} {run padded : List Char} {padding other : Padding}

/-- The padding writes the number of a run as this run. -/
def Writes (padding : Padding) (run : List Char) : Prop :=
  padding.write (Decimal.value run) = run

theorem accepts_iff_writes (hp : padding.IsPositive) (h : Decimal.IsRun run) :
    padding.accepts run = true ↔ padding.Writes run := by
  constructor
  · exact write_value h
  · intro hw
    rw [← hw]
    exact accepts_write hp _

theorem isPadded_iff : isPadded run = true ↔ 1 < run.length ∧ run.head? = some '0' := by
  simp [isPadded]

theorem accepts_plain_of_not_isPadded (h : isPadded run = false) :
    plain.accepts run = true := by
  rw [accepts, Bool.or_eq_true, decide_eq_true_eq, bne_iff_ne]
  by_contra hno
  obtain ⟨hrun, hhead⟩ := not_or.mp hno
  rw [not_not] at hhead
  cases run with
  | nil => simp at hhead
  | cons c rest =>
    obtain rfl : c = '0' := by simpa using hhead
    have hrest : rest ≠ [] := fun hnil => hrun (by rw [hnil])
    simp [isPadded, hrest] at h

/-- A padded run fixes its padding. -/
theorem eq_zeros_of_accepts (h : isPadded padded = true) (ha : other.accepts padded = true) :
    other = zeros padded.length := by
  obtain ⟨hlength, hhead⟩ := isPadded_iff.mp h
  cases other with
  | plain =>
    have hzero : padded = ['0'] := by simpa [accepts, hhead] using ha
    rw [hzero, List.length_singleton] at hlength
    omega
  | zeros width =>
    have hwidth : padded.length = width := by simpa [accepts, hhead] using ha
    rw [hwidth]

/-- Where a run is padded, the first one gives the width. -/
theorem exists_infer_iff_of_isPadded (hm : padded ∈ runs) (h : isPadded padded = true) :
    ∃ first ∈ runs, isPadded first = true ∧ ∀ padding, infer runs = .ok padding ↔
      zeros first.length = padding ∧ ∀ run ∈ runs, padding.accepts run = true := by
  cases hfind : runs.find? isPadded with
  | none => simp [List.find?_eq_none.mp hfind padded hm] at h
  | some first =>
    refine ⟨first, List.mem_of_find?_eq_some hfind, List.find?_some hfind, fun padding => ?_⟩
    simp only [infer, hfind]
    cases hmisfit : runs.find? (!accepts (zeros first.length) ·) with
    | none =>
      have hall : ∀ run ∈ runs, (zeros first.length).accepts run = true := fun run hrun => by
        simpa using List.find?_eq_none.mp hmisfit run hrun
      simp only [Except.ok.injEq]
      exact ⟨fun heq => ⟨heq, heq ▸ hall⟩, fun heq => heq.1⟩
    | some run =>
      have hrefused : (zeros first.length).accepts run = false := by
        simpa using List.find?_some hmisfit
      simp only [reduceCtorEq, false_iff]
      rintro ⟨rfl, hall⟩
      simp [hall run (List.mem_of_find?_eq_some hmisfit)] at hrefused

theorem infer_of_not_isPadded (h : ∀ run ∈ runs, isPadded run = false) :
    infer runs = .ok plain := by
  have hfind : runs.find? isPadded = none := List.find?_eq_none.mpr fun run hm => by simp [h run hm]
  simp only [infer, hfind]

/-- The inferred padding accepts all runs; its width, if it has one, is that of a padded run. -/
theorem infer_eq_ok_iff : infer runs = .ok padding ↔
    (∀ run ∈ runs, padding.accepts run = true) ∧
      (padding = plain ∨ ∃ padded ∈ runs, isPadded padded = true ∧ padding = zeros padded.length) := by
  by_cases hpadded : ∃ padded ∈ runs, isPadded padded = true
  · obtain ⟨padded, hm, hp⟩ := hpadded
    obtain ⟨first, hfirst, hp', hinfer⟩ := exists_infer_iff_of_isPadded hm hp
    rw [hinfer]
    constructor
    · rintro ⟨rfl, hall⟩
      exact ⟨hall, .inr ⟨first, hfirst, hp', rfl⟩⟩
    · rintro ⟨hall, -⟩
      exact ⟨(eq_zeros_of_accepts hp' (hall first hfirst)).symm, hall⟩
  · have hplain : ∀ run ∈ runs, isPadded run = false := by simpa using hpadded
    rw [infer_of_not_isPadded hplain, Except.ok.injEq]
    constructor
    · rintro rfl
      exact ⟨fun run hm => accepts_plain_of_not_isPadded (hplain run hm), .inl rfl⟩
    · rintro ⟨-, rfl | ⟨padded, hm, hp, -⟩⟩
      · rfl
      · exact absurd ⟨padded, hm, hp⟩ hpadded

theorem isPositive_of_infer (h : infer runs = .ok padding) : padding.IsPositive := by
  obtain ⟨-, rfl | ⟨padded, -, hp, rfl⟩⟩ := infer_eq_ok_iff.mp h
  · trivial
  · exact Nat.zero_lt_of_lt (isPadded_iff.mp hp).1

/-- A padding is inferred whenever one accepts all runs. -/
theorem exists_infer_iff_accepts :
    (∃ padding, infer runs = .ok padding) ↔
      ∃ padding : Padding, ∀ run ∈ runs, padding.accepts run = true := by
  constructor
  · rintro ⟨padding, h⟩
    exact ⟨padding, (infer_eq_ok_iff.mp h).1⟩
  · rintro ⟨padding, h⟩
    by_cases hpadded : ∃ padded ∈ runs, isPadded padded = true
    · obtain ⟨padded, hm, hp⟩ := hpadded
      obtain rfl := eq_zeros_of_accepts hp (h padded hm)
      exact ⟨_, infer_eq_ok_iff.mpr ⟨h, .inr ⟨padded, hm, hp, rfl⟩⟩⟩
    · exact ⟨plain, infer_of_not_isPadded (by simpa using hpadded)⟩

theorem writes_of_infer (hruns : ∀ run ∈ runs, Decimal.IsRun run) (h : infer runs = .ok padding) :
    ∀ run ∈ runs, padding.Writes run := by
  intro run hm
  have haccepts := (infer_eq_ok_iff.mp h).1 run hm
  exact (accepts_iff_writes (isPositive_of_infer h) (hruns run hm)).mp haccepts

theorem exists_infer_iff_writes (hruns : ∀ run ∈ runs, Decimal.IsRun run) :
    (∃ padding, infer runs = .ok padding) ↔
      ∃ padding : Padding, padding.IsPositive ∧ ∀ run ∈ runs, padding.Writes run := by
  constructor
  · rintro ⟨padding, h⟩
    exact ⟨padding, isPositive_of_infer h, writes_of_infer hruns h⟩
  · rintro ⟨padding, hp, h⟩
    exact exists_infer_iff_accepts.mpr ⟨padding, fun run hm =>
      (accepts_iff_writes hp (hruns run hm)).mpr (h run hm)⟩

/-- Only which runs there are matters for the padding. -/
theorem infer_eq_ok_congr {others : List (List Char)} (h : ∀ run, run ∈ others ↔ run ∈ runs) :
    infer others = .ok padding ↔ infer runs = .ok padding := by
  simp only [infer_eq_ok_iff, h]

/-- A padding is inferred exactly if one writes every run as it stands; then the inferred one does,
and it stays the same when the runs come in another order or come again. -/
theorem infer_sound_and_complete (hruns : ∀ run ∈ runs, Decimal.IsRun run) :
    ((∃ padding, infer runs = .ok padding) ↔
      ∃ padding : Padding, padding.IsPositive ∧ ∀ run ∈ runs, padding.Writes run) ∧
    (∀ padding, infer runs = .ok padding →
      padding.IsPositive ∧ ∀ run ∈ runs, padding.Writes run) ∧
    ∀ others : List (List Char), (∀ run, run ∈ others ↔ run ∈ runs) →
      ∀ padding, infer others = .ok padding ↔ infer runs = .ok padding := by
  refine ⟨exists_infer_iff_writes hruns, fun padding h => ?_, fun _ h _ => infer_eq_ok_congr h⟩
  exact ⟨isPositive_of_infer h, writes_of_infer hruns h⟩

/-- Two padded runs, and one that is longer than they are. -/
def longAndPadded : List (List Char) := [['1', '0', '0', '0'], ['0', '0', '7'], ['0', '1', '2']]

def paddedAndLong : List (List Char) :=
  [['0', '1', '2'], ['0', '1', '2'], ['1', '0', '0', '0'], ['0', '0', '7']]

/-- Two runs for the number one. -/
def twoForOne : List (List Char) := [['0', '1'], ['1']]

/-- The width is that of the padded runs, whichever of them comes first; no padding writes one number
in two ways. -/
theorem longAndPadded_inferred :
    (∀ run ∈ longAndPadded, Decimal.IsRun run) ∧ infer longAndPadded = .ok (zeros 3) ∧
      (∀ run ∈ longAndPadded, (zeros 3).Writes run) ∧ infer paddedAndLong = .ok (zeros 3) ∧
      (∀ run ∈ twoForOne, Decimal.IsRun run) ∧
      ¬∃ padding : Padding, padding.IsPositive ∧ ∀ run ∈ twoForOne, padding.Writes run := by
  have hruns : ∀ run ∈ longAndPadded, Decimal.IsRun run := by decide
  have hruns' : ∀ run ∈ twoForOne, Decimal.IsRun run := by decide
  have hinfer : infer longAndPadded = .ok (zeros 3) := rfl
  obtain ⟨-, hwrites, hmembers⟩ := infer_sound_and_complete hruns
  have hsame : ∀ run, run ∈ paddedAndLong ↔ run ∈ longAndPadded := fun run => by
    grind [paddedAndLong, longAndPadded]
  refine ⟨hruns, hinfer, (hwrites _ hinfer).2, (hmembers _ hsame _).mpr hinfer, hruns', ?_⟩
  rw [← (infer_sound_and_complete hruns').1]
  rintro ⟨padding, h⟩
  cases h

end FileSeries.Padding
