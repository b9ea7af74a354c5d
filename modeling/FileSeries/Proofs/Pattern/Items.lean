import FileSeries.Pattern
import FileSeries.Proofs.Outcome
import FileSeries.Proofs.Pattern.Bounds
import FileSeries.Proofs.Pattern.Spelling
import Mathlib
/-!
Patterns read from texts. Main statement: the texts that are patterns are those of the grammar, and
each item of a pattern stands for its selector.
-/

namespace FileSeries.Pattern

section Selectors

variable {position : Nat} {b : Bound} {e : BoundTree} {start stop step : Option Bound}
  {first last every : Option BoundTree} {selector : Selector}

theorem stepOf_eq_ok_iff {n : Nat} (h : Option.Rel Bound.IsOf step every) :
    stepOf step = .ok n ↔ (∀ e ∈ every, e.anchored = false ∧ 1 ≤ e.offset) ∧
      (every.map (·.offset.toNat)).getD 1 = n := by
  cases h with
  | none => simp [stepOf]
  | @some b e h =>
    simp only [stepOf, h.anchored, h.offset, Option.mem_some, forall_eq', Option.map_some,
      Option.getD_some]
    cases e.anchored with
    | true => simp
    | false =>
      by_cases hle : e.offset ≤ 0
      · have hpos : ¬1 ≤ e.offset := by omega
        simp [hle, hpos]
      · have hpos : 1 ≤ e.offset := by omega
        simp [hle, hpos]

theorem sliceOf_eq_ok_iff (hstart : Option.Rel Bound.IsOf start first)
    (hstop : Option.Rel Bound.IsOf stop last) (hstep : Option.Rel Bound.IsOf step every) :
    sliceOf position start stop step = .ok selector ↔
      SliceRules first last every ∧ sliceSelector first last every = selector := by
  simp only [sliceOf, Outcome.bind_eq_ok_iff, stepOf_eq_ok_iff hstep, sliceRules_iff, sliceSelector]
  cases hstart with
  | none =>
    cases hstop with
    | none => simp [pure, Except.pure]
    | @some b e he =>
      cases hanchored : e.anchored <;>
        simp [he.anchored, he.offset, hanchored, pure, Except.pure, Outcome.throw_ne_ok]
  | @some a f hf =>
    cases hstop with
    | none =>
      cases hanchored : f.anchored <;>
        simp [hf.anchored, hf.offset, hanchored, pure, Except.pure, Outcome.throw_ne_ok]
    | @some b e he =>
      cases hfirst : f.anchored <;> cases hlast : e.anchored <;>
        simp [hf.anchored, hf.offset, he.anchored, he.offset, hfirst, hlast, pure, Except.pure,
          Outcome.throw_ne_ok]

theorem BoundTree.Legal.fits_offset (h : e.Legal) : fitsOffset e.offset = true :=
  h.fits e.terms List.prefix_rfl

theorem selectorOf_single_eq_ok_iff (h : b.IsOf e) :
    selectorOf position [some b] = .ok selector ↔
      (ItemTree.single e).Rules ∧ (ItemTree.single e).selector = selector := by
  have hle : minOffset ≤ e.offset := (fitsOffset_iff.mp h.legal.fits_offset).1
  have hnext : fitsOffset (e.offset + 1) = true ↔ e.offset < maxOffset := by
    rw [fitsOffset_iff]
    omega
  simp only [selectorOf, h.anchored, h.offset, ItemTree.Rules, ItemTree.selector, addOffsets?]
  cases e.anchored with
  | true =>
    by_cases hlt : e.offset < maxOffset
    · simp [hlt, hnext.mpr hlt]
    · simp [hlt, mt hnext.mp hlt]
  | false =>
    by_cases hneg : e.offset < 0
    · simp [hneg]
    · simp [hneg, not_lt.mp hneg]

/-- The item with these bounds. -/
def ItemTree.ofParts? : List (Option BoundTree) → Option ItemTree
  | [some b] => some (.single b)
  | [start, stop] => some (.slice start stop)
  | [start, stop, step] => some (.stepped start stop step)
  | _ => none

theorem ItemTree.parts_eq_iff {item : ItemTree} {trees : List (Option BoundTree)} :
    item.parts = trees ↔ ofParts? trees = some item := by
  constructor
  · rintro rfl
    cases item <;> simp [parts, ofParts?]
  · unfold ofParts?
    split <;> rintro ⟨⟩ <;> rfl

theorem selectorOf_eq_ok_iff {bounds : List (Option Bound)} {trees : List (Option BoundTree)}
    (h : List.Forall₂ (Option.Rel Bound.IsOf) bounds trees) :
    selectorOf position bounds = .ok selector ↔
      ∃ item : ItemTree, item.parts = trees ∧ item.Rules ∧ item.selector = selector := by
  simp only [ItemTree.parts_eq_iff]
  match bounds, trees, h with
  | [], [], .nil => simp [selectorOf, ItemTree.ofParts?]
  | [_], [_], .cons .none .nil => simp [selectorOf, ItemTree.ofParts?]
  | [_], [_], .cons (.some he) .nil =>
    simp [selectorOf_single_eq_ok_iff he, ItemTree.ofParts?]
  | [_, _], [_, _], .cons hfirst (.cons hlast .nil) =>
    simp [selectorOf, sliceOf_eq_ok_iff hfirst hlast .none, ItemTree.ofParts?, ItemTree.Rules,
      ItemTree.selector]
  | [_, _, _], [_, _, _], .cons hfirst (.cons hlast (.cons hevery .nil)) =>
    simp [selectorOf, sliceOf_eq_ok_iff hfirst hlast hevery, ItemTree.ofParts?, ItemTree.Rules,
      ItemTree.selector]
  | _ :: _ :: _ :: _ :: _, _ :: _ :: _ :: _ :: _, .cons _ (.cons _ (.cons _ (.cons _ _))) =>
    simp [selectorOf, ItemTree.ofParts?]

end Selectors

theorem ItemTree.kinds_ne_nil (e : ItemTree) : e.kinds ≠ [] := by
  cases e <;> simp [kinds, parts, boundKinds, BoundTree.kinds, List.intercalate_cons_cons]

theorem any_anchored_eq_false {b : Option BoundTree} (h : ∀ e ∈ b, e.anchored = false) :
    b.any (·.anchored) = false := by
  cases b with
  | none => rfl
  | some e => exact h e rfl

theorem isAnchored_sliceSelector {start stop step : Option BoundTree}
    (h : SliceRules start stop step) : (sliceSelector start stop step).isAnchored =
      (start.any (·.anchored) || (stop.any (·.anchored) || step.any (·.anchored))) := by
  rw [any_anchored_eq_false fun e he => (h.step e he).1, sliceSelector]
  rcases h.ends with ⟨hstart, hstop⟩ | ⟨⟨e, he, hanchored⟩, -⟩
  · rw [any_anchored_eq_false hstart, any_anchored_eq_false hstop]
    rfl
  · obtain rfl := Option.mem_def.mp he
    simp [hanchored, Selector.isAnchored]

theorem ItemTree.isAnchored_selector {e : ItemTree} (h : e.Legal) :
    e.selector.isAnchored = e.usesAnchor := by
  have hrules := h.rules
  cases e with
  | single b =>
    cases hb : b.anchored <;> simp [selector, usesAnchor, parts, hb, Selector.isAnchored]
  | slice start stop =>
    simpa [selector, usesAnchor, parts] using isAnchored_sliceSelector hrules
  | stepped start stop step =>
    simpa [selector, usesAnchor, parts] using isAnchored_sliceSelector hrules

theorem legal_of_forall₂ {bounds : List (Option Bound)} {trees : List (Option BoundTree)}
    (h : List.Forall₂ (Option.Rel Bound.IsOf) bounds trees) {e : BoundTree} (he : some e ∈ trees) :
    e.Legal := by
  induction h with
  | nil => simp at he
  | cons hb h ih =>
    rcases List.mem_cons.mp he with rfl | he
    · cases hb with
      | some hb => exact hb.legal
    · exact ih he

theorem Item.selector_eq_ok_iff {i : Item} {anchored : Option Nat} {tokens : List Token}
    {selector : Selector} : i.selector anchored tokens = .ok selector ↔
      ∃ e : ItemTree, (tokens.map (·.kind) = e.kinds ∧ e.Legal) ∧ e.selector = selector ∧
        (e.usesAnchor = true → anchored = none) := by
  constructor
  · intro h
    unfold Item.selector at h
    cases hread : readBounds i.unfinished tokens with
    | error e => simp [hread] at h
    | ok result =>
      obtain ⟨bounds, left⟩ := result
      simp only [hread] at h
      cases hselector : selectorOf ((tokens.head?.map (·.position)).getD i.stop) bounds with
      | error e => simp [hselector] at h
      | ok selector' =>
        simp only [hselector] at h
        split at h
        · simp at h
        · simp at h
        · rename_i hanchored
          obtain rfl := Except.ok.inj h
          obtain ⟨trees, hrow⟩ := readBounds_sound hread
          obtain ⟨e, rfl, hrules, rfl⟩ := (selectorOf_eq_ok_iff hrow.bounds).mp hselector
          have he : e.Legal := ⟨fun b hb => legal_of_forall₂ hrow.bounds hb, hrules⟩
          refine ⟨e, ⟨hrow.kinds, he⟩, rfl, fun huses => ?_⟩
          simpa [ItemTree.isAnchored_selector he, huses] using hanchored
  · rintro ⟨e, ⟨hkinds, he⟩, rfl, hanchored⟩
    have hne : e.parts ≠ [] := by cases e <;> exact List.cons_ne_nil _ _
    obtain ⟨bounds, hread, hall⟩ := readBounds_complete i.unfinished hne hkinds he.bounds
    have hselector : selectorOf ((tokens.head?.map (·.position)).getD i.stop) bounds =
        .ok e.selector := (selectorOf_eq_ok_iff hall).mpr ⟨e, rfl, he.rules, rfl⟩
    have hnone : (if e.selector.isAnchored then anchored else none) = none := by
      rw [ItemTree.isAnchored_selector he]
      split
      · exact hanchored ‹_›
      · rfl
    simp only [Item.selector, hread, hselector, hnone]

section Rows

variable {done selectors : List Selector} {items : List Item} {trees : List ItemTree}

theorem anchoredIn_eq_none_iff :
    anchoredIn done = none ↔ done.countP Selector.isAnchored = 0 := by
  rw [anchoredIn, List.findIdx?_eq_none_iff, List.countP_eq_zero]
  simp only [Bool.not_eq_true]

theorem countP_append_selector_le_iff {e : ItemTree} (he : e.Legal)
    (hdone : done.countP Selector.isAnchored ≤ 1) :
    (done ++ [e.selector]).countP Selector.isAnchored ≤ 1 ↔
      (e.usesAnchor = true → anchoredIn done = none) := by
  rw [anchoredIn_eq_none_iff, List.countP_append, List.countP_singleton,
    ItemTree.isAnchored_selector he]
  cases e.usesAnchor with
  | true => simp
  | false => simpa using hdone

/-- Items are read one after the other, as long as at most one of them uses the anchor. -/
theorem readItems_eq_ok_iff {pairs : List (Item × List Token)}
    (hdone : done.countP Selector.isAnchored ≤ 1) :
    readItems done pairs = .ok selectors ↔ ∃ trees,
      List.Forall₂ (fun x (e : ItemTree) => x.2.map (·.kind) = e.kinds ∧ e.Legal) pairs trees ∧
        done ++ trees.map ItemTree.selector = selectors ∧
        selectors.countP Selector.isAnchored ≤ 1 := by
  induction pairs generalizing done with
  | nil =>
    simp only [readItems, List.forall₂_nil_left_iff, exists_eq_left, List.map_nil, List.append_nil]
    constructor
    · rintro ⟨⟩
      exact ⟨rfl, hdone⟩
    · rintro ⟨rfl, -⟩
      rfl
  | cons x pairs ih =>
    -- The count of the windows so far decides whether the next item may use the anchor.
    obtain ⟨item, tokens⟩ := x
    constructor
    · intro h
      rw [readItems] at h
      cases hselector : item.selector (anchoredIn done) tokens with
      | error spot => simp [hselector] at h
      | ok selector =>
        simp only [hselector] at h
        obtain ⟨e, he, rfl, hanchored⟩ := Item.selector_eq_ok_iff.mp hselector
        have hnext := (countP_append_selector_le_iff he.2 hdone).mpr hanchored
        obtain ⟨trees, htrees, rfl, hcount⟩ := (ih hnext).mp h
        refine ⟨e :: trees, .cons he htrees, ?_, hcount⟩
        rw [List.append_assoc]
        rfl
    · rintro ⟨trees, hall, rfl, hcount⟩
      obtain ⟨e, trees, he, htrees, rfl⟩ := List.forall₂_cons_left_iff.mp hall
      have happend : done ++ (e :: trees).map ItemTree.selector =
          done ++ [e.selector] ++ trees.map ItemTree.selector := by
        rw [List.append_assoc]
        rfl
      rw [happend] at hcount
      have hnext : (done ++ [e.selector]).countP Selector.isAnchored ≤ 1 :=
        (List.sublist_append_left _ _).countP_le.trans hcount
      have hselector : item.selector (anchoredIn done) tokens = .ok e.selector :=
        Item.selector_eq_ok_iff.mpr
          ⟨e, he, rfl, (countP_append_selector_le_iff he.2 hdone).mp hnext⟩
      rw [readItems, hselector]
      exact (ih hnext).mpr ⟨trees, htrees, happend.symm, happend ▸ hcount⟩

theorem exists_tokens_iff : (∃ tokens, items.mapM Item.tokens = .ok tokens ∧
      List.Forall₂ (fun x (e : ItemTree) => x.2.map (·.kind) = e.kinds ∧ e.Legal)
        (items.zip tokens) trees) ↔
    List.Forall₂ (fun i (e : ItemTree) => Spells i.text e.symbols ∧ e.Legal) items trees := by
  simp only [Outcome.mapM_eq_ok_iff]
  induction items generalizing trees with
  | nil => simp
  | cons i items ih =>
    constructor
    · rintro ⟨tokens, htokens, hall⟩
      obtain ⟨first, more, hfirst, hmore, rfl⟩ := List.forall₂_cons_left_iff.mp htokens
      obtain ⟨e, trees, ⟨hkinds, he⟩, hrest, rfl⟩ := List.forall₂_cons_left_iff.mp hall
      have hspells := (ItemTree.spells_symbols_iff i.position).mp ⟨first, hfirst, hkinds⟩
      exact .cons ⟨hspells, he⟩ (ih.mp ⟨more, hmore, hrest⟩)
    · intro h
      obtain ⟨e, trees, ⟨hspells, he⟩, hall, rfl⟩ := List.forall₂_cons_left_iff.mp h
      obtain ⟨first, hfirst, hkinds⟩ := (ItemTree.spells_symbols_iff i.position).mpr hspells
      obtain ⟨tokens, htokens, hall⟩ := ih.mpr hall
      exact ⟨first :: tokens, .cons hfirst htokens, .cons ⟨hkinds, he⟩ hall⟩

theorem Item.map_text_place {position : Nat} {texts : List (List Char)} :
    (place position texts).map (·.text) = texts := by
  fun_induction place position texts with
  | case1 => rfl
  | case2 => rfl
  | case3 position text rest hrest ih => rw [List.map_cons, ih]

theorem readSelectors_eq_ok_iff {source : List Char} :
    readSelectors source = .ok selectors ↔ ∃ trees : List ItemTree,
      List.Forall₂ (fun text e => Spells text (ItemTree.symbols e) ∧ e.Legal)
        (source.splitOn ',') trees ∧ trees.map ItemTree.selector = selectors ∧
        selectors.countP Selector.isAnchored ≤ 1 := by
  have htexts : source.splitOn ',' = (Item.ofText source).map (·.text) :=
    Item.map_text_place.symm
  rw [htexts]
  simp only [List.forall₂_map_left_iff, ← exists_tokens_iff]
  simp only [readSelectors, Outcome.bind_eq_ok_iff]
  constructor
  · rintro ⟨tokens, htokens, h⟩
    split at h
    · obtain ⟨_, hthrow, -⟩ := Outcome.bind_eq_ok_iff.mp h
      exact absurd hthrow Outcome.throw_ne_ok
    · obtain ⟨trees, hall, hselectors, hcount⟩ := (readItems_eq_ok_iff (by simp)).mp h
      exact ⟨trees, ⟨tokens, htokens, hall⟩, hselectors, hcount⟩
  · rintro ⟨trees, ⟨tokens, htokens, hall⟩, hselectors, hcount⟩
    refine ⟨tokens, htokens, ?_⟩
    have hsome : tokens ≠ [[]] := by
      rintro rfl
      obtain ⟨i, items, -, -, hitems⟩ :=
        List.forall₂_cons_right_iff.mp (Outcome.mapM_eq_ok_iff.mp htokens)
      rw [hitems, List.zip_cons_cons] at hall
      obtain ⟨e, _, ⟨hkinds, -⟩, -⟩ := List.forall₂_cons_left_iff.mp hall
      exact e.kinds_ne_nil hkinds.symm
    rw [if_neg hsome]
    exact (readItems_eq_ok_iff (by simp)).mpr ⟨trees, hall, hselectors, hcount⟩

end Rows

section Anchors

variable {trees : List ItemTree}

theorem anchoredIn_map_selector (h : ∀ e ∈ trees, e.Legal) :
    anchoredIn (trees.map ItemTree.selector) = trees.findIdx? ItemTree.usesAnchor := by
  have hmap : trees.map (Selector.isAnchored ∘ ItemTree.selector) =
      trees.map ItemTree.usesAnchor :=
    List.map_congr_left fun e he => ItemTree.isAnchored_selector (h e he)
  calc anchoredIn (trees.map ItemTree.selector)
      = (trees.map (Selector.isAnchored ∘ ItemTree.selector)).findIdx? id := by
        rw [List.findIdx?_map, Function.id_comp, anchoredIn, List.findIdx?_map]
    _ = (trees.map ItemTree.usesAnchor).findIdx? id := by rw [hmap]
    _ = trees.findIdx? ItemTree.usesAnchor := by rw [List.findIdx?_map, Function.id_comp]

theorem countP_map_selector (h : ∀ e ∈ trees, e.Legal) :
    (trees.map ItemTree.selector).countP Selector.isAnchored =
      trees.countP ItemTree.usesAnchor := by
  rw [List.countP_map]
  apply List.countP_congr
  intro e he
  rw [Function.comp_apply, ItemTree.isAnchored_selector (h e he)]

end Anchors

theorem forall₂_spells_and_legal_iff {texts : List (List Char)} {trees : List ItemTree} :
    List.Forall₂ (fun text (e : ItemTree) => Spells text e.symbols ∧ e.Legal) texts trees ↔
      List.Forall₂ Spells texts (trees.map ItemTree.symbols) ∧ ∀ e ∈ trees, e.Legal := by
  rw [List.forall₂_map_right_iff]
  constructor
  · intro h
    induction h with
    | nil => exact ⟨.nil, List.forall_mem_nil _⟩
    | cons hfirst hrest ih =>
      exact ⟨.cons hfirst.1 ih.1, List.forall_mem_cons.mpr ⟨hfirst.2, ih.2⟩⟩
  · rintro ⟨h, hlegal⟩
    induction h with
    | nil => exact .nil
    | cons hfirst hrest ih =>
      obtain ⟨he, hlegal⟩ := List.forall_mem_cons.mp hlegal
      exact .cons ⟨hfirst, he⟩ (ih hlegal)

theorem reads_iff {text : List Char} {trees : List ItemTree} :
    Reads text trees ↔
      List.Forall₂ (fun text (e : ItemTree) => Spells text e.symbols ∧ e.Legal)
        (text.splitOn ',') trees ∧
        (trees.map ItemTree.selector).countP Selector.isAnchored ≤ 1 := by
  have hcommas : ∀ row ∈ trees.map ItemTree.symbols, Symbol.comma ∉ row := by
    simp [ItemTree.symbols]
  rw [forall₂_spells_and_legal_iff]
  constructor
  · rintro ⟨hne, hspells, hlegal, honce⟩
    have hrows : trees.map ItemTree.symbols ≠ [] := mt List.map_eq_nil_iff.mp hne
    exact ⟨⟨(Spells.intercalate_iff hrows hcommas).mp hspells, hlegal⟩,
      (countP_map_selector hlegal).trans_le honce⟩
  · rintro ⟨⟨hall, hlegal⟩, honce⟩
    have hrows : trees.map ItemTree.symbols ≠ [] := by
      intro hnil
      rw [hnil] at hall
      exact List.splitOn_ne_nil ',' text (List.forall₂_nil_right_iff.mp hall)
    exact ⟨mt List.map_eq_nil_iff.mpr hrows, (Spells.intercalate_iff hrows hcommas).mpr hall,
      hlegal, (countP_map_selector hlegal).symm.trans_le honce⟩

theorem parse_eq_ok_iff {raw : String} {p : Pattern} :
    parse raw = .ok p ↔ ∃ items, Reads raw.toList items ∧
      p = ⟨String.ofList (Text.trim raw.toList), items.map ItemTree.selector⟩ := by
  simp only [parse, Outcome.bind_eq_ok_iff, readSelectors_eq_ok_iff, pure, Except.pure,
    Except.ok.injEq]
  constructor
  · rintro ⟨_, ⟨items, hall, rfl, hcount⟩, rfl⟩
    exact ⟨items, reads_iff.mpr ⟨hall, hcount⟩, rfl⟩
  · rintro ⟨items, hreads, rfl⟩
    obtain ⟨hall, hcount⟩ := reads_iff.mp hreads
    exact ⟨_, ⟨items, hall, rfl, hcount⟩, rfl⟩

/-- The texts that are patterns are those of the grammar; the items of such a text stand for the
selectors, and the item with the anchor is the dimension that uses it. -/
theorem parse_eq_ok_iff_reads (raw : String) (p : Pattern) :
    (parse raw = .ok p ↔ ∃ items, Reads raw.toList items ∧
      p = ⟨String.ofList (Text.trim raw.toList), items.map ItemTree.selector⟩ ∧
      p.anchorDimension? = items.findIdx? ItemTree.usesAnchor) ∧
    ((∃ q, parse raw = .ok q) ↔ ∃ items, Reads raw.toList items) := by
  constructor
  · rw [parse_eq_ok_iff]
    refine exists_congr fun items => and_congr_right fun hreads => ?_
    refine ⟨?_, And.left⟩
    rintro rfl
    exact ⟨rfl, anchoredIn_map_selector hreads.legal⟩
  · constructor
    · rintro ⟨q, hq⟩
      obtain ⟨items, hreads, -⟩ := parse_eq_ok_iff.mp hq
      exact ⟨items, hreads⟩
    · rintro ⟨items, hreads⟩
      exact ⟨_, parse_eq_ok_iff.mpr ⟨items, hreads, rfl⟩⟩

end FileSeries.Pattern
