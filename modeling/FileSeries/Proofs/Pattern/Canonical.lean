import FileSeries.Proofs.Pattern.Items
/-!
Selectors as items. Every selector of a pattern is what a canonical item stands for, and its text
spells this item unless one of its bounds is the smallest offset. Main statement: selectors without
such a bound are read back from their texts.
-/

namespace FileSeries

namespace Selector

/-- The bounds of a selector; an index is no bound. -/
def bounds : Selector → List Int
  | fixed _ => []
  | slice start stop _ => start :: stop.toList
  | window start stop _ => [start, stop]

/-- The numbers of a selector are in the ranges that patterns have for them. -/
def Fits : Selector → Prop
  | fixed value => (value : Int) ≤ maxOffset
  | slice start stop step =>
    fitsOffset start = true ∧ (∀ t ∈ stop, fitsOffset t = true) ∧
      1 ≤ step ∧ (step : Int) ≤ maxOffset
  | window start stop step =>
    fitsOffset start = true ∧ fitsOffset stop = true ∧ 1 ≤ step ∧ (step : Int) ≤ maxOffset

end Selector

namespace Pattern

theorem fitsOffset_natCast {n : Nat} (h : (n : Int) ≤ maxOffset) : fitsOffset n = true := by
  simp only [fitsOffset_iff, minOffset]
  omega

/-- An integer as a term. -/
def SignedTerm.ofInt (n : Int) : SignedTerm := ⟨n < 0, .integer n.natAbs⟩

theorem SignedTerm.summand_ofInt (n : Int) : (ofInt n).summand = n := by
  by_cases h : n < 0
  · simp only [summand, ofInt, h, decide_true, if_true]
    omega
  · simp only [summand, ofInt, h, decide_false, Bool.false_eq_true, if_false]
    omega

theorem SignedTerm.summand_anchor (minus : Bool) : summand ⟨minus, .anchor⟩ = 0 := rfl

namespace BoundTree

variable {n : Int}

/-- An integer as a bound. -/
def ofInt (n : Int) : BoundTree := ⟨if n < 0 then some true else none, .integer n.natAbs, []⟩

/-- An offset as a bound that is counted from the anchor. -/
def fromAnchor (n : Int) : BoundTree :=
  ⟨none, .anchor, if n = 0 then [] else [SignedTerm.ofInt n]⟩

theorem terms_ofInt (n : Int) : (ofInt n).terms = [SignedTerm.ofInt n] := by
  by_cases h : n < 0 <;> simp [terms, ofInt, SignedTerm.ofInt, h]

theorem terms_fromAnchor (n : Int) :
    (fromAnchor n).terms = ⟨false, .anchor⟩ :: if n = 0 then [] else [SignedTerm.ofInt n] := rfl

theorem offset_ofInt (n : Int) : (ofInt n).offset = n := by
  simp [offset, terms_ofInt, total, SignedTerm.summand_ofInt]

theorem offset_fromAnchor (n : Int) : (fromAnchor n).offset = n := by
  by_cases h : n = 0 <;>
    simp [offset, terms_fromAnchor, total, SignedTerm.summand_ofInt, SignedTerm.summand_anchor, h]

theorem anchored_ofInt (n : Int) : (ofInt n).anchored = false := by
  simp [anchored, terms_ofInt, SignedTerm.isAnchor, SignedTerm.ofInt]

theorem anchored_fromAnchor (n : Int) : (fromAnchor n).anchored = true := rfl

theorem legal_ofInt (h : fitsOffset n = true) : (ofInt n).Legal where
  fits front hfront := by
    rw [terms_ofInt] at hfront
    rcases List.prefix_cons_iff.mp hfront with rfl | ⟨rest, rfl, hrest⟩
    · rfl
    · obtain rfl := List.prefix_nil.mp hrest
      simpa [total, SignedTerm.summand_ofInt] using h
  once := by simp [terms_ofInt, SignedTerm.isAnchor, SignedTerm.ofInt]
  added x hx hanchor := by
    rw [terms_ofInt] at hx
    obtain rfl := List.mem_singleton.mp hx
    simp [SignedTerm.isAnchor, SignedTerm.ofInt] at hanchor

/-- An anchor in front of legal integers changes no sum. -/
theorem legal_fromAnchor (h : fitsOffset n = true) : (fromAnchor n).Legal := by
  have hint := legal_ofInt h
  have hrest : (if n = 0 then [] else [SignedTerm.ofInt n]) <+: (ofInt n).terms := by
    rw [terms_ofInt]
    split
    · exact List.nil_prefix
    · exact List.prefix_rfl
  constructor
  case fits =>
    intro front hfront
    rw [terms_fromAnchor] at hfront
    rcases List.prefix_cons_iff.mp hfront with rfl | ⟨rest, rfl, htail⟩
    · rfl
    · have hsum : total (⟨false, .anchor⟩ :: rest) = total rest := by
        simp [total, SignedTerm.summand_anchor]
      rw [hsum]
      exact hint.fits rest (htail.trans hrest)
  case once =>
    have hnone : (ofInt n).terms.countP SignedTerm.isAnchor = 0 := by
      simp [terms_ofInt, SignedTerm.isAnchor, SignedTerm.ofInt]
    have hle := hrest.sublist.countP_le (p := SignedTerm.isAnchor)
    rw [terms_fromAnchor, List.countP_cons_of_pos rfl]
    omega
  case added =>
    intro x hx hanchor
    rw [terms_fromAnchor] at hx
    rcases List.mem_cons.mp hx with rfl | hx
    · rfl
    · exact hint.added x (hrest.subset hx) hanchor

theorem of_mem_map_ofInt {t : Option Int} (h : ∀ n ∈ t, fitsOffset n = true) {b : BoundTree}
    (hb : b ∈ t.map ofInt) : b.Legal ∧ b.anchored = false := by
  obtain ⟨n, hn, rfl⟩ := Option.mem_map.mp hb
  exact ⟨legal_ofInt (h n hn), anchored_ofInt n⟩

end BoundTree

/-- The slice with these bounds; a step is left out when it is one. -/
def ItemTree.ofBounds (start stop : Option BoundTree) (step : Nat) : ItemTree :=
  if step = 1 then .slice start stop else .stepped start stop (some (.ofInt step))

/-- The item that a selector is written as. -/
def ItemTree.ofSelector : Selector → ItemTree
  | .fixed value => .single (.ofInt value)
  | .slice start stop step =>
    .ofBounds ((if start = 0 then none else some start).map .ofInt) (stop.map .ofInt) step
  | .window start stop step => .ofBounds (some (.fromAnchor start)) (some (.fromAnchor stop)) step

namespace ItemTree

variable {x : Selector} {start stop : Option BoundTree} {step : Nat}

theorem selector_ofBounds : (ofBounds start stop step).selector =
    if start.any (·.anchored) then
      .window ((start.map (·.offset)).getD 0) ((stop.map (·.offset)).getD 0) step
    else .slice ((start.map (·.offset)).getD 0) (stop.map (·.offset)) step := by
  by_cases h : step = 1 <;> simp [ofBounds, h, selector, sliceSelector, BoundTree.offset_ofInt]

theorem legal_ofBounds (hstep : 1 ≤ step ∧ (step : Int) ≤ maxOffset)
    (hstart : ∀ b ∈ start, b.Legal) (hstop : ∀ b ∈ stop, b.Legal)
    (hends : ((∀ b ∈ start, b.anchored = false) ∧ ∀ b ∈ stop, b.anchored = false) ∨
      (∃ b ∈ start, b.anchored = true) ∧ ∃ b ∈ stop, b.anchored = true) :
    (ofBounds start stop step).Legal := by
  have hevery : (BoundTree.ofInt step).Legal :=
    BoundTree.legal_ofInt (fitsOffset_natCast hstep.2)
  by_cases h : step = 1
  · rw [ofBounds, if_pos h]
    refine ⟨fun b hb => ?_, ⟨by simp, hends⟩⟩
    simp only [parts, List.mem_cons, List.not_mem_nil, or_false] at hb
    exact hb.elim (fun hb => hstart b hb.symm) fun hb => hstop b hb.symm
  · rw [ofBounds, if_neg h]
    refine ⟨fun b hb => ?_, ⟨fun b hb => ?_, hends⟩⟩
    · simp only [parts, List.mem_cons, List.not_mem_nil, or_false] at hb
      rcases hb with hb | hb | hb
      · exact hstart b hb.symm
      · exact hstop b hb.symm
      · exact Option.some.inj hb ▸ hevery
    · obtain rfl := Option.some.inj hb
      rw [BoundTree.anchored_ofInt, BoundTree.offset_ofInt]
      exact ⟨rfl, by omega⟩

theorem selector_ofSelector (x : Selector) : (ofSelector x).selector = x := by
  cases x with
  | fixed value => simp [ofSelector, selector, BoundTree.anchored_ofInt, BoundTree.offset_ofInt]
  | slice start stop step =>
    have hstop : (stop.map BoundTree.ofInt).map (·.offset) = stop := by
      simp [Function.comp_def, BoundTree.offset_ofInt]
    rw [ofSelector, selector_ofBounds, hstop]
    split <;> simp_all [BoundTree.anchored_ofInt, BoundTree.offset_ofInt]
  | window start stop step =>
    simp [ofSelector, selector_ofBounds, BoundTree.anchored_fromAnchor, BoundTree.offset_fromAnchor]

theorem legal_ofSelector (h : x.Fits) : (ofSelector x).Legal := by
  cases x with
  | fixed value =>
    refine ⟨fun b hb => ?_, ?_⟩
    · obtain rfl := Option.some.inj (List.mem_singleton.mp hb)
      exact BoundTree.legal_ofInt (fitsOffset_natCast h)
    · simp [ofSelector, Rules, BoundTree.anchored_ofInt, BoundTree.offset_ofInt]
  | slice start stop step =>
    obtain ⟨hstart, hstop, hstep⟩ := h
    have hfirst : ∀ n ∈ if start = 0 then none else some start, fitsOffset n = true := by
      intro n hn
      split at hn
      · simp at hn
      · exact Option.some.inj hn ▸ hstart
    have hb := fun b => BoundTree.of_mem_map_ofInt hfirst (b := b)
    have hb' := fun b => BoundTree.of_mem_map_ofInt hstop (b := b)
    exact legal_ofBounds hstep (fun b h => (hb b h).1) (fun b h => (hb' b h).1)
      (.inl ⟨fun b h => (hb b h).2, fun b h => (hb' b h).2⟩)
  | window start stop step =>
    obtain ⟨hstart, hstop, hstep⟩ := h
    refine legal_ofBounds hstep (fun b hb => ?_) (fun b hb => ?_)
      (.inr ⟨⟨_, rfl, rfl⟩, _, rfl, rfl⟩)
    · exact Option.some.inj hb ▸ BoundTree.legal_fromAnchor hstart
    · exact Option.some.inj hb ▸ BoundTree.legal_fromAnchor hstop

end ItemTree

theorem natAbs_le_iff {n : Int} (h : fitsOffset n = true) :
    (n.natAbs : Int) ≤ maxOffset ↔ n ≠ minOffset := by
  simp only [fitsOffset_iff, minOffset, maxOffset] at h ⊢
  omega

/-- A text into which no run of digits goes on. -/
def EndsRun (back : List Char) : Prop := ∀ c ∈ back.head?, c.isDigit = false

theorem EndsRun.append {a b : List Char} (ha : EndsRun a) (hb : EndsRun b) : EndsRun (a ++ b) := by
  cases a with
  | nil => exact hb
  | cons c a => exact ha

theorem endsRun_cons {c : Char} {rest : List Char} (h : c.isDigit = false) : EndsRun (c :: rest) :=
  fun _ hc => Option.some.inj hc ▸ h

theorem endsRun_stepText (step : Nat) : EndsRun (Selector.stepText step) := by
  unfold Selector.stepText
  split
  · simp [EndsRun]
  · exact endsRun_cons rfl

section Spelling

variable {n : Int} {start stop : Option BoundTree} {step : Nat} {a b : List Char}

theorem Spells.run {run : List Char} (hrun : Decimal.IsRun run)
    (hfits : (Decimal.value run : Int) ≤ maxOffset) :
    Spells run [.inner (.integer (Decimal.value run))] := by
  have hend : ∀ c, ([] : List Char).head? = some c → c.isDigit = false := by simp
  have hnumber := Spells.number hrun hend hfits .nil
  rwa [List.append_nil] at hnumber

theorem Spells.digits {n : Nat} (h : (n : Int) ≤ maxOffset) :
    Spells (Decimal.digits n) [.inner (.integer n)] := by
  have hvalue := Decimal.value_digits n
  have hrun := Spells.run (Decimal.isRun_digits n) (hvalue.symm ▸ h)
  rwa [hvalue] at hrun

theorem spells_signed (h : (n.natAbs : Int) ≤ maxOffset) :
    Spells (Decimal.signed n) ((BoundTree.ofInt n).kinds.map .inner) := by
  have hdigits := Spells.digits h
  by_cases hneg : n < 0
  · simp only [Decimal.signed, BoundTree.ofInt, BoundTree.kinds, if_pos hneg]
    exact .mark rfl hdigits
  · simp only [Decimal.signed, BoundTree.ofInt, BoundTree.kinds, if_neg hneg]
    exact hdigits

theorem spells_anchorText (h : (n.natAbs : Int) ≤ maxOffset) :
    Spells (Selector.anchorText n) ((BoundTree.fromAnchor n).kinds.map .inner) := by
  have hdigits := Spells.digits h
  rcases lt_trichotomy n 0 with hneg | rfl | hpos
  · simp only [Selector.anchorText, BoundTree.fromAnchor, BoundTree.kinds, SignedTerm.ofInt,
      if_neg hneg.ne, if_neg hneg.not_gt, hneg, decide_true]
    exact .mark rfl (.mark rfl hdigits)
  · exact .mark rfl .nil
  · simp only [Selector.anchorText, BoundTree.fromAnchor, BoundTree.kinds, SignedTerm.ofInt,
      if_neg hpos.ne', if_pos hpos, hpos.not_gt, decide_false]
    exact .mark rfl (.mark rfl hdigits)

/-- The tokens of a step that is written out. -/
def stepKinds (step : Nat) : List TokenKind := if step = 1 then [] else [.colon, .integer step]

theorem spells_stepText (h : (step : Int) ≤ maxOffset) :
    Spells (Selector.stepText step) ((stepKinds step).map .inner) := by
  by_cases hone : step = 1
  · rw [Selector.stepText, stepKinds, if_pos hone, if_pos hone]
    exact .nil
  · rw [Selector.stepText, stepKinds, if_neg hone, if_neg hone]
    exact .mark rfl (.digits h)

theorem ItemTree.kinds_ofBounds : (ofBounds start stop step).kinds =
    boundKinds start ++ .colon :: (boundKinds stop ++ stepKinds step) := by
  by_cases h : step = 1
  · simp [ofBounds, stepKinds, h, kinds, parts, List.intercalate_cons_cons]
  · have hevery : boundKinds (some (BoundTree.ofInt step)) = [.integer step] := rfl
    simp [ofBounds, stepKinds, h, kinds, parts, List.intercalate_cons_cons, hevery]

theorem spells_ofBounds (ha : Spells a ((ItemTree.boundKinds start).map .inner))
    (hb : Spells b ((ItemTree.boundKinds stop).map .inner)) (hstep : (step : Int) ≤ maxOffset) :
    Spells (a ++ ':' :: (b ++ Selector.stepText step))
      (ItemTree.ofBounds start stop step).symbols := by
  have htail := hb.append (spells_stepText hstep) (endsRun_stepText step)
  have hwhole := ha.append (.mark (c := ':') rfl htail) fun _ hc => Option.some.inj hc ▸ rfl
  simpa [ItemTree.symbols, ItemTree.kinds_ofBounds] using hwhole

/-- The text of a selector spells its item. -/
theorem spells_text {x : Selector} (h : x.Fits) (hmin : minOffset ∉ x.bounds) :
    Spells x.text (ItemTree.ofSelector x).symbols := by
  cases x with
  | fixed value =>
    have hneg : ¬(value : Int) < 0 := by omega
    have hkinds : (ItemTree.single (.ofInt value)).kinds = [.integer value] := by
      simp [ItemTree.kinds, ItemTree.parts, ItemTree.boundKinds, BoundTree.kinds, BoundTree.ofInt,
        hneg, Term.kind]
    rw [ItemTree.ofSelector, ItemTree.symbols, hkinds]
    exact .digits h
  | slice start stop step =>
    obtain ⟨hstart, hstop, -, hstep⟩ := h
    rw [Selector.bounds, List.mem_cons, not_or, Option.mem_toList] at hmin
    refine spells_ofBounds ?_ ?_ hstep
    · by_cases hzero : start = 0
      · rw [if_pos hzero, if_pos hzero]
        exact .nil
      · rw [if_neg hzero, if_neg hzero]
        exact spells_signed ((natAbs_le_iff hstart).mpr (Ne.symm hmin.1))
    · cases stop with
      | none => exact .nil
      | some t =>
        exact spells_signed ((natAbs_le_iff (hstop t rfl)).mpr fun ht => hmin.2 (congrArg some ht))
  | window start stop step =>
    obtain ⟨hstart, hstop, -, hstep⟩ := h
    simp only [Selector.bounds, List.mem_cons, List.not_mem_nil, or_false, not_or] at hmin
    exact spells_ofBounds (spells_anchorText ((natAbs_le_iff hstart).mpr (Ne.symm hmin.1)))
      (spells_anchorText ((natAbs_le_iff hstop).mpr (Ne.symm hmin.2))) hstep

end Spelling

theorem fits_getD_offset {b : Option BoundTree} (h : ∀ e ∈ b, e.Legal) :
    fitsOffset ((b.map (·.offset)).getD 0) = true := by
  cases b with
  | none => rfl
  | some e => exact (h e rfl).fits_offset

theorem fits_sliceSelector {start stop step : Option BoundTree} (h : SliceRules start stop step)
    (hstart : ∀ b ∈ start, b.Legal) (hstop : ∀ b ∈ stop, b.Legal) (hstep : ∀ b ∈ step, b.Legal) :
    (sliceSelector start stop step).Fits := by
  have hevery : 1 ≤ (step.map (·.offset.toNat)).getD 1 ∧
      (((step.map (·.offset.toNat)).getD 1 : Nat) : Int) ≤ maxOffset := by
    cases step with
    | none => exact ⟨le_rfl, by decide⟩
    | some b =>
      have hpos := (h.step b rfl).2
      have hle := (fitsOffset_iff.mp (hstep b rfl).fits_offset).2
      simp only [Option.map_some, Option.getD_some]
      omega
  unfold sliceSelector
  split
  · exact ⟨fits_getD_offset hstart, fits_getD_offset hstop, hevery⟩
  · refine ⟨fits_getD_offset hstart, fun t ht => ?_, hevery⟩
    obtain ⟨b, hb, rfl⟩ := Option.mem_map.mp ht
    exact (hstop b hb).fits_offset

/-- The items of a pattern stand for selectors with numbers in their ranges. -/
theorem ItemTree.Legal.fits_selector {e : ItemTree} (h : e.Legal) : e.selector.Fits := by
  obtain ⟨hbounds, hrules⟩ := h
  cases e with
  | single b =>
    have hfits := (hbounds b (List.mem_singleton.mpr rfl)).fits_offset
    have hle := fitsOffset_iff.mp hfits
    by_cases hanchored : b.anchored = true
    · rw [Rules, if_pos hanchored] at hrules
      rw [selector, if_pos hanchored]
      exact ⟨hfits, fitsOffset_iff.mpr ⟨by omega, by omega⟩, le_rfl, by decide⟩
    · rw [Rules, if_neg hanchored] at hrules
      rw [selector, if_neg hanchored, Selector.Fits]
      omega
  | slice start stop =>
    exact fits_sliceSelector hrules (fun b hb => hbounds b (by simp [parts, Option.mem_def.mp hb]))
      (fun b hb => hbounds b (by simp [parts, Option.mem_def.mp hb])) (by simp)
  | stepped start stop step =>
    exact fits_sliceSelector hrules (fun b hb => hbounds b (by simp [parts, Option.mem_def.mp hb]))
      (fun b hb => hbounds b (by simp [parts, Option.mem_def.mp hb]))
      (fun b hb => hbounds b (by simp [parts, Option.mem_def.mp hb]))

/-- What reading makes sure of about the selectors of a pattern. -/
structure WellFormed (xs : List Selector) : Prop where
  nonempty : xs ≠ []
  fits : ∀ x ∈ xs, x.Fits
  once : xs.countP Selector.isAnchored ≤ 1

theorem wellFormed_of_parse {raw : String} {p : Pattern} (h : parse raw = .ok p) :
    WellFormed p.selectors := by
  obtain ⟨items, hreads, rfl⟩ := parse_eq_ok_iff.mp h
  constructor
  case nonempty => exact mt List.map_eq_nil_iff.mp hreads.nonempty
  case fits =>
    intro x hx
    obtain ⟨e, he, rfl⟩ := List.mem_map.mp hx
    exact (hreads.legal e he).fits_selector
  case once => exact (countP_map_selector hreads.legal).trans_le hreads.once

/-- A text that spells the items of selectors is read as these selectors. -/
theorem exists_parse_of_spells {xs : List Selector} {text : List Char} (hxs : WellFormed xs)
    (h : Spells text
      (List.intercalate [.comma] (xs.map fun x => (ItemTree.ofSelector x).symbols))) :
    ∃ p, parse (String.ofList text) = .ok p ∧ p.selectors = xs := by
  have hselectors : (xs.map ItemTree.ofSelector).map ItemTree.selector = xs := by
    rw [List.map_map]
    exact List.map_id'' ItemTree.selector_ofSelector xs
  have hlegal : ∀ e ∈ xs.map ItemTree.ofSelector, e.Legal := by
    intro e he
    obtain ⟨x, hx, rfl⟩ := List.mem_map.mp he
    exact ItemTree.legal_ofSelector (hxs.fits x hx)
  refine ⟨_, parse_eq_ok_iff.mpr ⟨xs.map ItemTree.ofSelector, ⟨?_, ?_, hlegal, ?_⟩, rfl⟩,
    hselectors⟩
  · exact mt List.map_eq_nil_iff.mp hxs.nonempty
  · rwa [String.toList_ofList, List.map_map]
  · rw [← countP_map_selector hlegal, hselectors]
    exact hxs.once

/-- Selectors are read back from their texts with commas between them, and white space after the
commas. -/
theorem exists_parse_intercalate {xs : List Selector} {blanks : List Char} (hxs : WellFormed xs)
    (hmin : ∀ x ∈ xs, minOffset ∉ x.bounds) (hblanks : ∀ c ∈ blanks, Text.isBlank c = true) :
    ∃ p, parse (String.ofList (List.intercalate (',' :: blanks) (xs.map Selector.text))) = .ok p ∧
      p.selectors = xs := by
  refine exists_parse_of_spells hxs (Spells.intercalate_of_forall₂ hblanks ?_)
  rw [List.forall₂_map_left_iff, List.forall₂_map_right_iff, List.forall₂_same]
  exact fun x hx => spells_text (hxs.fits x hx) (hmin x hx)

end Pattern

end FileSeries
