import FileSeries.Proofs.DigitRuns
import FileSeries.FileName
import Mathlib
/-!
The parts of a name when its digits change. Main statement: other runs of digits in the place of
those of a name, with the same texts between them, are what the new name is taken apart into, and its
extension is the old one.
-/

namespace FileSeries.FileName

/-- What can stand after the last dot of a name as its extension. -/
structure IsExtension (e : List Char) : Prop where
  nonempty : e ≠ []
  plain : ∀ c ∈ e, c ≠ '.' ∧ c.isDigit = false

theorem cutExtension_append_dot {stem e : List Char} (hstem : stem ≠ []) (he : IsExtension e) :
    cutExtension (stem ++ '.' :: e) = (stem, some e) := by
  have hplain : ∀ c ∈ e.reverse, (c != '.') = true := fun c hc => by
    simpa using (he.plain c (List.mem_reverse.mp hc)).1
  have hreverse : (stem ++ '.' :: e).reverse = e.reverse ++ '.' :: stem.reverse := by simp
  have htake : (stem ++ '.' :: e).reverse.takeWhile (· != '.') = e.reverse := by
    rw [hreverse, List.takeWhile_append_of_pos hplain]
    simp
  have hdrop : (stem ++ '.' :: e).reverse.dropWhile (· != '.') = '.' :: stem.reverse := by
    rw [hreverse, List.dropWhile_append_of_pos hplain]
    simp
  obtain ⟨c, front, hfront⟩ := List.exists_cons_of_ne_nil (List.reverse_ne_nil_iff.mpr hstem)
  have hbad : (e.isEmpty || e.any Char.isDigit) = false := by
    simpa [he.nonempty] using fun c hc => (he.plain c hc).2
  simp only [cutExtension, htake, hdrop, hfront, List.reverse_reverse, hbad]
  rw [← hfront, List.reverse_reverse]
  rfl

theorem isExtension_of_cutExtension {name stem e : List Char}
    (h : cutExtension name = (stem, some e)) : stem ≠ [] ∧ IsExtension e := by
  unfold cutExtension at h
  simp only at h
  split at h
  · split at h
    · simp at h
    · rename_i hbad
      obtain ⟨rfl, rfl⟩ : _ = stem ∧ _ = e := by
        simpa only [Prod.mk.injEq, Option.some.injEq] using h
      rw [Bool.not_eq_true, Bool.or_eq_false_iff, List.isEmpty_eq_false_iff] at hbad
      refine ⟨by simp, hbad.1, fun c hc => ⟨?_, ?_⟩⟩
      · simpa using List.mem_takeWhile_imp (List.mem_reverse.mp hc)
      · simpa using List.any_eq_false.mp hbad.2 c hc
  · simp at h

theorem cutExtension_eq_none_iff {name : List Char} :
    cutExtension name = (name, none) ↔
      ∀ stem e, name = stem ++ '.' :: e → IsExtension e → stem = [] := by
  constructor
  · rintro h stem e rfl he
    by_contra hstem
    simp [cutExtension_append_dot hstem he] at h
  · intro h
    have happend := cutExtension_append name
    cases hcut : cutExtension name with
    | mk stem extension =>
      rw [hcut] at happend
      cases extension with
      | none => rw [show stem = name by simpa [extensionText] using happend]
      | some e =>
        obtain ⟨hstem, he⟩ := isExtension_of_cutExtension hcut
        exact absurd (h stem e happend.symm he) hstem

/-- What holds no digit at the end of a name with runs stands in the text after the last one. -/
theorem exists_gap_of_joinRuns {lead run text v u : List Char}
    {runs : List (List Char × List Char)} (hrun : Decimal.IsRun run)
    (hu : ∀ c ∈ u, c.isDigit = false) (h : joinRuns lead (runs ++ [(run, text)]) = v ++ u) :
    ∃ gap, text = gap ++ u ∧ v = joinRuns lead runs ++ run ++ gap := by
  have hjoin : joinRuns lead (runs ++ [(run, text)]) = (joinRuns lead runs ++ run) ++ text := by
    simp [joinRuns]
  rw [hjoin] at h
  rcases List.append_eq_append_iff.mp h with ⟨gap, hv, htext⟩ | ⟨w, hw, rfl⟩
  · exact ⟨gap, htext, hv⟩
  · -- Otherwise the last digit of the run would be among the characters without digits.
    rcases List.eq_nil_or_concat' w with rfl | ⟨w, c, rfl⟩
    · exact ⟨[], rfl, by simpa using hw.symm⟩
    · have hc : c ∈ run := by
        have hlast : (joinRuns lead runs ++ run).getLast? = some c := by simp [hw]
        rw [List.getLast?_append_of_ne_nil _ hrun.nonempty] at hlast
        exact List.mem_of_getLast? hlast
      have hdigit := hrun.digits c hc
      simp [hu c (by simp)] at hdigit

theorem cutExtension_joinRuns_of_texts_eq {lead : List Char}
    {runs runs' : List (List Char × List Char)} (hruns : ∀ x ∈ runs, Decimal.IsRun x.1)
    (hruns' : ∀ x ∈ runs', Decimal.IsRun x.1) (htexts : runs'.map (·.2) = runs.map (·.2))
    (h : cutExtension (joinRuns lead runs) = (joinRuns lead runs, none)) :
    cutExtension (joinRuns lead runs') = (joinRuns lead runs', none) := by
  rcases List.eq_nil_or_concat' runs' with rfl | ⟨init', ⟨run', text⟩, rfl⟩
  · obtain rfl : runs = [] := by simpa using htexts.symm
    exact h
  · rcases List.eq_nil_or_concat' runs with rfl | ⟨init, ⟨run, text'⟩, rfl⟩
    · simp at htexts
    · obtain ⟨-, rfl⟩ : _ ∧ text = text' := by simpa using htexts
      rw [cutExtension_eq_none_iff] at h ⊢
      intro stem e heq he
      have hplain : ∀ c ∈ '.' :: e, c.isDigit = false :=
        List.forall_mem_cons.mpr ⟨rfl, fun c hc => (he.plain c hc).2⟩
      obtain ⟨gap, rfl, -⟩ := exists_gap_of_joinRuns (hruns' (run', text) (by simp)) hplain heq
      have hstem := h (joinRuns lead init ++ run ++ gap) e (by simp [joinRuns]) he
      have hrun := (hruns (run, gap ++ '.' :: e) (by simp)).nonempty
      simp [hrun] at hstem

/-- Texts that can stand before and after runs of digits: they hold no digit, and only the first one
and the last one can be empty. -/
structure IsFrame (lead : List Char) (texts : List (List Char)) : Prop where
  lead : ∀ c ∈ lead, c.isDigit = false
  plain : ∀ text ∈ texts, ∀ c ∈ text, c.isDigit = false
  gaps : ∀ text ∈ texts.dropLast, text ≠ []

theorem isRun_of_mem_cutRuns {s : List Char} {x : List Char × List Char}
    (h : x ∈ (cutRuns s).2) : Decimal.IsRun x.1 := by
  induction s generalizing x with
  | nil => simp [cutRuns] at h
  | cons c s ih =>
    unfold cutRuns at h
    generalize cutRuns s = cut at h ih
    obtain ⟨lead, runs⟩ := cut
    by_cases hc : c.isDigit = true
    · have hone : Decimal.IsRun [c] := ⟨by simp, by simpa using hc⟩
      simp only [hc, if_true] at h
      split at h
      · rename_i run text more
        obtain ⟨-, hrun⟩ := ih (x := (run, text)) List.mem_cons_self
        rcases List.mem_cons.mp h with rfl | hx
        · exact ⟨by simp, List.forall_mem_cons.mpr ⟨hc, hrun⟩⟩
        · exact ih (List.mem_cons_of_mem _ hx)
      · rcases List.mem_cons.mp h with rfl | hx
        · exact hone
        · exact ih hx
    · simp only [hc] at h
      exact ih h

theorem isFrame_cutRuns (s : List Char) : IsFrame (cutRuns s).1 ((cutRuns s).2.map (·.2)) := by
  induction s with
  | nil => constructor <;> simp [cutRuns]
  | cons c s ih =>
    unfold cutRuns
    generalize cutRuns s = cut at ih
    obtain ⟨lead, runs⟩ := cut
    by_cases hc : c.isDigit = true
    · simp only [hc, if_true]
      split
      · exact ih
      · rename_i hsplit
        refine ⟨by simp, List.forall_mem_cons.mpr ⟨ih.lead, ih.plain⟩, ?_⟩
        cases runs with
        | nil => simp
        | cons x runs =>
          obtain ⟨run, text⟩ := x
          have hlead : lead ≠ [] := fun hnil => hsplit run text runs hnil rfl
          exact List.forall_mem_cons.mpr ⟨hlead, ih.gaps⟩
    · have hc : c.isDigit = false := by simpa using hc
      simp only [hc]
      exact ⟨List.forall_mem_cons.mpr ⟨hc, ih.lead⟩, ih.plain, ih.gaps⟩

theorem cutRuns_append_of_plain {text rest : List Char} (h : ∀ c ∈ text, c.isDigit = false) :
    cutRuns (text ++ rest) = (text ++ (cutRuns rest).1, (cutRuns rest).2) := by
  induction text with
  | nil => rfl
  | cons c text ih =>
    obtain ⟨hc, htext⟩ := List.forall_mem_cons.mp h
    rw [List.cons_append, cutRuns, ih htext]
    simp [hc]

theorem cutRuns_append_of_isRun {run rest : List Char} (h : Decimal.IsRun run)
    (hrest : ∀ c, rest.head? = some c → c.isDigit = false) :
    cutRuns (run ++ rest) = ([], (run, (cutRuns rest).1) :: (cutRuns rest).2) := by
  induction run with
  | nil => exact absurd rfl h.nonempty
  | cons c run ih =>
    obtain ⟨hc, hrun⟩ := List.forall_mem_cons.mp h.digits
    rw [List.cons_append, cutRuns]
    by_cases hnil : run = []
    · subst hnil
      cases rest with
      | nil => simp [cutRuns, hc]
      | cons d rest =>
        have hd := hrest d rfl
        simp [cutRuns, hc, hd]
    · simp [ih ⟨hnil, hrun⟩, hc]

theorem cutRuns_joinRuns {lead : List Char} {runs : List (List Char × List Char)}
    (hframe : IsFrame lead (runs.map (·.2))) (hruns : ∀ x ∈ runs, Decimal.IsRun x.1) :
    cutRuns (joinRuns lead runs) = (lead, runs) := by
  have hmore : cutRuns (runs.flatMap fun x => x.1 ++ x.2) = ([], runs) := by
    obtain ⟨-, hplain, hgaps⟩ := hframe
    induction runs with
    | nil => rfl
    | cons x runs ih =>
      obtain ⟨run, text⟩ := x
      obtain ⟨hrun, hruns⟩ := List.forall_mem_cons.mp hruns
      obtain ⟨htext, hplain⟩ := List.forall_mem_cons.mp hplain
      have hrest : ∀ t ∈ (runs.map (·.2)).dropLast, t ≠ [] := by
        intro t ht
        cases runs with
        | nil => simp at ht
        | cons y runs => exact hgaps t (List.mem_cons_of_mem _ ht)
      have hcut := ih hruns hplain hrest
      have hhead : ∀ c, (text ++ runs.flatMap fun x => x.1 ++ x.2).head? = some c →
          c.isDigit = false := by
        intro c hc
        cases text with
        | nil =>
          -- Only the last text can be empty, so nothing follows it.
          cases runs with
          | nil => simp at hc
          | cons y runs => exact absurd rfl (hgaps [] (by simp))
        | cons d text =>
          obtain rfl : d = c := by simpa using hc
          exact htext d List.mem_cons_self
      rw [List.flatMap_cons, List.append_assoc, cutRuns_append_of_isRun hrun hhead,
        cutRuns_append_of_plain htext, hcut, List.append_nil]
  rw [joinRuns, cutRuns_append_of_plain hframe.lead]
  simp [hmore]

theorem ofText_toText_of_texts_eq {name : List Char} {runs : List (List Char × List Char)}
    (hruns : ∀ x ∈ runs, Decimal.IsRun x.1)
    (htexts : runs.map (·.2) = (ofText name).runs.map (·.2)) :
    ofText (toText { ofText name with runs }) = { ofText name with runs } := by
  cases hcut : cutExtension name with
  | mk stem extension =>
    have hparts : ofText name = ⟨(cutRuns stem).1, (cutRuns stem).2, extension⟩ := by
      simp [ofText, hcut]
    rw [hparts] at htexts ⊢
    have hruncut : cutRuns (joinRuns (cutRuns stem).1 runs) = ((cutRuns stem).1, runs) :=
      cutRuns_joinRuns (htexts ▸ isFrame_cutRuns stem) hruns
    have hext : cutExtension (joinRuns (cutRuns stem).1 runs ++ extensionText extension)
        = (joinRuns (cutRuns stem).1 runs, extension) := by
      cases extension with
      | none =>
        obtain rfl : stem = name := by simpa [hcut, extensionText] using cutExtension_append name
        have hold : cutExtension (joinRuns (cutRuns stem).1 (cutRuns stem).2)
            = (joinRuns (cutRuns stem).1 (cutRuns stem).2, none) := by
          rwa [joinRuns_cutRuns]
        have hnew := cutExtension_joinRuns_of_texts_eq (fun x hx => isRun_of_mem_cutRuns hx) hruns
          htexts hold
        simpa [extensionText] using hnew
      | some e =>
        obtain ⟨hstem, he⟩ := isExtension_of_cutExtension hcut
        refine cutExtension_append_dot (fun hnil => hstem ?_) he
        obtain ⟨hlead, hnone⟩ := List.append_eq_nil_iff.mp hnil
        have hempty : runs = [] := List.eq_nil_iff_forall_not_mem.mpr fun x hx =>
          (hruns x hx).nonempty (List.append_eq_nil_iff.mp (List.flatMap_eq_nil_iff.mp hnone x hx)).1
        have hold : (cutRuns stem).2 = [] := by simpa [hempty] using htexts.symm
        rw [← joinRuns_cutRuns stem, hlead, hold]
        rfl
    simp only [toText, ofText, hext, hruncut]

end FileSeries.FileName
