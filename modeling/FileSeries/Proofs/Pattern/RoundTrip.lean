import FileSeries.Proofs.Pattern.Canonical
/-!
Patterns written in their shortest notation and read again. The digits of the smallest offset are too
many to be read, whatever stands around them. Main statement: a pattern is read back from its text
exactly if it has no such bound.
-/

namespace FileSeries.Pattern

section Runs

variable {text a b front run back : List Char} {symbols : List Symbol}

/-- A text that is cut outside of a run of digits spells symbols on both sides. -/
theorem Spells.exists_of_append (hcut : Parted a b) (h : Spells (a ++ b) symbols) :
    ∃ x y, symbols = x ++ y ∧ Spells a x ∧ Spells b y := by
  generalize htext : a ++ b = text at h
  induction h generalizing a with
  | nil =>
    obtain ⟨rfl, rfl⟩ := List.append_eq_nil_iff.mp htext
    exact ⟨[], [], rfl, .nil, .nil⟩
  | @blank c text symbols hc h ih =>
    cases a with
    | nil =>
      obtain rfl : b = c :: text := htext
      exact ⟨[], symbols, rfl, .nil, .blank hc h⟩
    | cons c' a =>
      obtain ⟨rfl, hrest⟩ := List.cons.inj htext
      obtain ⟨x, y, rfl, ha, hb⟩ := ih (fun d hd => hcut d (List.mem_getLast?_cons hd)) hrest
      exact ⟨x, y, rfl, .blank hc ha, hb⟩
  | @mark c symbol text symbols hc h ih =>
    cases a with
    | nil =>
      obtain rfl : b = c :: text := htext
      exact ⟨[], symbol :: symbols, rfl, .nil, .mark hc h⟩
    | cons c' a =>
      obtain ⟨rfl, hrest⟩ := List.cons.inj htext
      obtain ⟨x, y, rfl, ha, hb⟩ := ih (fun d hd => hcut d (List.mem_getLast?_cons hd)) hrest
      exact ⟨symbol :: x, y, rfl, .mark hc ha, hb⟩
  | @number run text symbols hrun hend hfits h ih =>
    rcases eq_or_ne a [] with rfl | hne
    · obtain rfl : b = run ++ text := htext
      exact ⟨[], _, rfl, .nil, .number hrun hend hfits h⟩
    · rcases List.append_eq_append_iff.mp htext with ⟨more, rfl, rfl⟩ | ⟨a', rfl, rfl⟩
      · cases more with
        | nil =>
          rw [List.append_nil] at hrun hfits ⊢
          exact ⟨_, symbols, rfl, .run hrun hfits, h⟩
        | cons d more =>
          have hlast := hrun.digits _ (List.mem_append_left _ (List.getLast_mem hne))
          have hno := hcut _ (List.getLast_mem_getLast? hne) d rfl hlast
          have hnext := hrun.digits d (List.mem_append_right _ List.mem_cons_self)
          simp [hno] at hnext
      · obtain ⟨x, y, rfl, ha, hb⟩ :=
          ih (fun d hd => hcut d (List.mem_getLast?_append_of_mem_getLast? hd)) rfl
        exact ⟨_ :: x, y, rfl, .number hrun
          (fun c hc => hend c (List.mem_head?_append_of_mem_head? hc)) hfits ha, hb⟩

theorem Spells.value_le_of_isRun (hrun : Decimal.IsRun run) (h : Spells run symbols) :
    (Decimal.value run : Int) ≤ maxOffset := by
  cases h with
  | nil => exact absurd rfl hrun.nonempty
  | @blank c text symbols hc h =>
    simp [Text.not_isBlank_of_isDigit (hrun.digits c List.mem_cons_self)] at hc
  | @mark c symbol text symbols hc h =>
    have hdigit := hrun.digits c List.mem_cons_self
    simp [not_isDigit_of_ofChar? hc] at hdigit
  | @number run text symbols hrun' hend hfits h =>
    cases text with
    | nil => rwa [List.append_nil]
    | cons c text =>
      have hdigit := hrun.digits c (List.mem_append_right _ List.mem_cons_self)
      simp [hend c rfl] at hdigit

/-- A whole run of digits in a text that spells symbols is an offset. -/
theorem Spells.value_le (hrun : Decimal.IsRun run)
    (hfront : ∀ c ∈ front.getLast?, c.isDigit = false)
    (hback : EndsRun back) (h : Spells (front ++ (run ++ back)) symbols) :
    (Decimal.value run : Int) ≤ maxOffset := by
  have hcut : Parted front (run ++ back) := by
    intro c hc d hd hdigit
    simp [hfront c hc] at hdigit
  obtain ⟨-, y, -, -, hrest⟩ := exists_of_append hcut h
  obtain ⟨x, -, -, hx, -⟩ := exists_of_append (fun c hc d hd hdigit => hback d hd) hrest
  exact hx.value_le_of_isRun hrun

end Runs

section Digits

/-- Around a text in a row there are separators, if anything. -/
theorem exists_intercalate_eq {sep x : List Char} {texts : List (List Char)} (hne : sep ≠ [])
    (hsep : ∀ c ∈ sep, c.isDigit = false) (h : x ∈ texts) :
    ∃ front back, List.intercalate sep texts = front ++ (x ++ back) ∧
      (∀ c ∈ front.getLast?, c.isDigit = false) ∧ EndsRun back := by
  induction texts with
  | nil => simp at h
  | cons y texts ih =>
    rcases List.mem_cons.mp h with rfl | h
    · cases texts with
      | nil => exact ⟨[], [], by simp, by simp, by simp [EndsRun]⟩
      | cons z texts =>
        refine ⟨[], sep ++ List.intercalate sep (z :: texts), ?_, by simp, fun c hc => ?_⟩
        · rw [List.intercalate_cons_cons, List.append_assoc]
          rfl
        · rw [List.head?_append_of_ne_nil _ hne] at hc
          exact hsep c (List.mem_of_mem_head? hc)
    · obtain ⟨front, back, hwhole, hfront, hback⟩ := ih h
      obtain ⟨z, texts, rfl⟩ := List.exists_cons_of_ne_nil (List.ne_nil_of_mem h)
      refine ⟨y ++ (sep ++ front), back, ?_, fun c hc => ?_, hback⟩
      · rw [List.intercalate_cons_cons, hwhole]
        simp only [List.append_assoc]
      · rcases List.eq_nil_or_concat front with rfl | ⟨front, d, rfl⟩
        · rw [List.append_nil, List.getLast?_append_of_ne_nil _ hne] at hc
          exact hsep c (List.mem_of_mem_getLast? hc)
        · rw [← List.append_assoc, List.getLast?_append_of_ne_nil _ (by simp)] at hc
          exact hfront c hc

theorem signed_of_neg {n : Int} (h : n < 0) :
    Decimal.signed n = '-' :: Decimal.digits n.natAbs := if_pos h

theorem anchorText_of_neg {n : Int} (h : n < 0) :
    Selector.anchorText n = 'i' :: '-' :: Decimal.digits n.natAbs := by
  rw [Selector.anchorText, if_neg h.ne, if_neg h.not_gt]
  rfl

/-- The digits of a negative bound follow a minus sign, and nothing prolongs them. -/
theorem exists_text_eq_of_mem_bounds {x : Selector} {n : Int} (h : n ∈ x.bounds) (hneg : n < 0) :
    ∃ front back, x.text = front ++ '-' :: (Decimal.digits n.natAbs ++ back) ∧ EndsRun back := by
  cases x with
  | fixed value => simp [Selector.bounds] at h
  | slice start stop step =>
    rw [Selector.bounds, List.mem_cons, Option.mem_toList] at h
    rcases h with rfl | rfl
    · refine ⟨[], ':' :: ((stop.map Decimal.signed).getD [] ++ Selector.stepText step), ?_,
        endsRun_cons rfl⟩
      rw [Selector.text, if_neg hneg.ne, signed_of_neg hneg]
      rfl
    · refine ⟨(if start = 0 then [] else Decimal.signed start) ++ [':'], Selector.stepText step, ?_,
        endsRun_stepText step⟩
      rw [Selector.text, Option.map_some, Option.getD_some, signed_of_neg hneg, List.append_assoc]
      rfl
  | window start stop step =>
    rw [Selector.bounds, List.mem_pair] at h
    rcases h with rfl | rfl
    · refine ⟨['i'], ':' :: (Selector.anchorText stop ++ Selector.stepText step), ?_,
        endsRun_cons rfl⟩
      rw [Selector.text, anchorText_of_neg hneg]
      rfl
    · refine ⟨Selector.anchorText start ++ [':', 'i'], Selector.stepText step, ?_,
        endsRun_stepText step⟩
      rw [Selector.text, anchorText_of_neg hneg, List.append_assoc]
      rfl

theorem not_mem_bounds_of_parse_text {p q : Pattern} (h : parse p.text = .ok q) {x : Selector}
    (hx : x ∈ p.selectors) : minOffset ∉ x.bounds := by
  intro hmin
  obtain ⟨items, hreads, -⟩ := parse_eq_ok_iff.mp h
  have hsep : ∀ c ∈ [',', ' '], c.isDigit = false := by simp
  obtain ⟨front, back, hwhole, -, hback⟩ :=
    exists_intercalate_eq (List.cons_ne_nil _ _) hsep (List.mem_map_of_mem hx)
  obtain ⟨front', back', htext, hback'⟩ := exists_text_eq_of_mem_bounds hmin (by decide)
  have hrows : p.text.toList =
      (front ++ front' ++ ['-']) ++ (Decimal.digits minOffset.natAbs ++ (back' ++ back)) := by
    rw [text, String.toList_ofList, hwhole, htext]
    simp only [List.append_assoc, List.cons_append, List.nil_append]
  have hspells := hreads.spells
  rw [hrows] at hspells
  have hsign : ∀ c ∈ (front ++ front' ++ ['-']).getLast?, c.isDigit = false := by
    rw [List.getLast?_concat]
    exact fun c hc => Option.some.inj hc ▸ rfl
  have hle := Spells.value_le (Decimal.isRun_digits _) hsign (hback'.append hback) hspells
  rw [Decimal.value_digits] at hle
  exact absurd hle (by decide)

end Digits

/-- The text of a pattern is a pattern exactly if none of its bounds is the smallest offset, and then
it has the same selectors. -/
theorem parse_text_iff {raw : String} {p : Pattern} (h : parse raw = .ok p) :
    ((∃ q, parse p.text = .ok q) ↔ ∀ x ∈ p.selectors, minOffset ∉ x.bounds) ∧
      ∀ q, parse p.text = .ok q →
        q.selectors = p.selectors ∧ q.anchorDimension? = p.anchorDimension? := by
  have hback : (∀ x ∈ p.selectors, minOffset ∉ x.bounds) →
      ∃ q, parse p.text = .ok q ∧ q.selectors = p.selectors := fun hmin =>
    exists_parse_intercalate (wellFormed_of_parse h) hmin
      (List.forall_mem_singleton.mpr (by decide))
  refine ⟨⟨?_, fun hmin => ?_⟩, fun q hq => ?_⟩
  · rintro ⟨q, hq⟩ x hx
    exact not_mem_bounds_of_parse_text hq hx
  · obtain ⟨q, hq, -⟩ := hback hmin
    exact ⟨q, hq⟩
  · obtain ⟨q', hq', hselectors⟩ := hback fun x hx => not_mem_bounds_of_parse_text hq hx
    obtain rfl := Except.ok.inj (hq.symm.trans hq')
    exact ⟨hselectors, by rw [anchorDimension?, hselectors, anchorDimension?]⟩

set_option maxRecDepth 4000 in
theorem windowAndSlice_read_back : ∃ p q, parse " i - 2 : i+3 , 7-2 :: 5" = .ok p ∧
    p.text = "i-2:i+3, 5::5" ∧ parse p.text = .ok q ∧ q.selectors = p.selectors := by
  have h : parse " i - 2 : i+3 , 7-2 :: 5" =
      .ok ⟨"i - 2 : i+3 , 7-2 :: 5", [.window (-2) 3 1, .slice 5 none 5]⟩ := by cbv
  have hmin : ∀ x ∈ [Selector.window (-2) 3 1, .slice 5 none 5], minOffset ∉ x.bounds := by decide
  obtain ⟨haccepted, hsame⟩ := parse_text_iff h
  obtain ⟨q, hq⟩ := haccepted.mpr hmin
  exact ⟨_, q, h, rfl, hq, (hsame q hq).1⟩

set_option maxRecDepth 4000 in
/-- The sum is an offset, but its digits without the sign are not. -/
theorem smallestStart_not_read_back : ∃ p, parse "-9223372036854775807-1:" = .ok p ∧
    p.text = "-9223372036854775808:" ∧ ∃ e, parse p.text = .error e ∧
      e.defect = .integerTooLarge := by
  have h : parse "-9223372036854775807-1:" =
      .ok ⟨"-9223372036854775807-1:", [.slice minOffset none 1]⟩ := by cbv
  exact ⟨_, h, rfl, _, by cbv, rfl⟩

end FileSeries.Pattern
