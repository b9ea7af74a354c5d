import FileSeries.Proofs.BoxTuples
import FileSeries.Proofs.Outcome
import FileSeries.Proofs.SelectorChoice
import FileSeries.Selection
import Mathlib
/-!
When a pattern resolves. Main statements: it does exactly if it has as many dimensions as the files
have fields, each selector chooses something on its axis, and the search finds every tuple among the
scanned ones; the tuples of a selection ascend as long as their exact number is an index.
-/

namespace FileSeries

theorem Pattern.checkArity_eq_ok_iff {p : Pattern} {fields : Nat} {u : Unit} :
    p.checkArity fields = .ok u ↔ p.arity = fields := by
  unfold Pattern.checkArity
  split <;> simp_all

theorem exists_getElem?_of_length_eq {α β : Type} {l : List α} {m : List β} {i : Nat} {a : α}
    (hl : l.length = m.length) (h : l[i]? = some a) : ∃ b, m[i]? = some b :=
  ⟨_, List.getElem?_eq_getElem (hl ▸ (List.getElem?_eq_some_iff.mp h).1)⟩

namespace Selection

theorem chooseAll_eq_ok_iff {anchor : Option Int} {i : Nat} {selectors : List Selector}
    {axes : List Axis} {cs : List Selector.Choice} :
    chooseAll anchor i selectors axes = .ok cs ↔
      List.Forall₂ (fun x c => Selector.choose x.1 anchor x.2 = .ok c) (selectors.zip axes) cs := by
  induction selectors generalizing i axes cs with
  | nil => simp [chooseAll, eq_comm]
  | cons selector selectors ih =>
    cases axes with
    | nil => simp [chooseAll, eq_comm]
    | cons axis axes =>
      simp only [chooseAll, List.zip_cons_cons, List.forall₂_cons_left_iff]
      cases hc : selector.choose anchor axis with
      | error refusal => simp
      | ok c =>
        simp only [Outcome.bind_eq_ok_iff, ih, pure, Except.pure, Except.ok.injEq]
        constructor
        · rintro ⟨ds, hds, rfl⟩
          exact ⟨c, ds, rfl, hds, rfl⟩
        · rintro ⟨d, ds, rfl, hds, rfl⟩
          exact ⟨ds, hds, rfl⟩

/-- The choices place by place. -/
theorem chooseAll_eq_ok_iff_getElem? {anchor : Option Int} {i : Nat} {selectors : List Selector}
    {axes : List Axis} {cs : List Selector.Choice} (hl : selectors.length = axes.length) :
    chooseAll anchor i selectors axes = .ok cs ↔ cs.length = selectors.length ∧
      ∀ (e : Nat) (selector : Selector) (axis : Axis) (c : Selector.Choice),
        selectors[e]? = some selector → axes[e]? = some axis → cs[e]? = some c →
          selector.choose anchor axis = .ok c := by
  have hz : (selectors.zip axes).length = selectors.length := by simp [hl]
  rw [chooseAll_eq_ok_iff, List.forall₂_iff_get]
  constructor
  · rintro ⟨hc, h⟩
    refine ⟨hc.symm.trans hz, fun e selector axis c hs hx he => ?_⟩
    obtain ⟨hse, rfl⟩ := List.getElem?_eq_some_iff.mp hs
    obtain ⟨hxe, rfl⟩ := List.getElem?_eq_some_iff.mp hx
    obtain ⟨hce, rfl⟩ := List.getElem?_eq_some_iff.mp he
    simpa using h e (by simp [hse, hxe]) hce
  · rintro ⟨hc, h⟩
    refine ⟨hz.trans hc.symm, fun e hze hce => ?_⟩
    rw [List.length_zip, Nat.lt_min] at hze
    simpa using h e _ _ _ (List.getElem?_eq_getElem hze.1) (List.getElem?_eq_getElem hze.2)
      (List.getElem?_eq_getElem hce)

theorem exists_chooseAll_iff {anchor : Option Int} {i : Nat} {selectors : List Selector}
    {axes : List Axis} :
    (∃ cs, chooseAll anchor i selectors axes = .ok cs) ↔
      ∀ (e : Nat) (selector : Selector) (axis : Axis),
        selectors[e]? = some selector → axes[e]? = some axis →
          ∃ c, selector.choose anchor axis = .ok c := by
  simp only [chooseAll_eq_ok_iff]
  rw [Outcome.exists_forall₂_iff]
  constructor
  · intro h e selector axis hs hx
    exact h (selector, axis) (List.mem_of_getElem? (List.getElem?_zip_eq_some.mpr ⟨hs, hx⟩))
  · rintro h ⟨selector, axis⟩ hmem
    obtain ⟨e, he⟩ := List.getElem?_of_mem hmem
    obtain ⟨hs, hx⟩ := List.getElem?_zip_eq_some.mp he
    exact h e selector axis hs hx

/-- A failed choice names the first dimension that chooses nothing. -/
theorem exists_refusal_of_chooseAll {anchor : Option Int} {i : Nat} {selectors : List Selector}
    {axes : List Axis} {e : Fault} (h : chooseAll anchor i selectors axes = .error e) :
    ∃ d refusal, e = .outOfRange (.refused (i + d) refusal) ∧
      (∃ x, (selectors.zip axes)[d]? = some x ∧ x.1.choose anchor x.2 = .error refusal) ∧
      ∀ j < d, ∀ x, (selectors.zip axes)[j]? = some x → ∃ c, x.1.choose anchor x.2 = .ok c := by
  induction selectors generalizing i axes with
  | nil => simp [chooseAll] at h
  | cons selector selectors ih =>
    cases axes with
    | nil => simp [chooseAll] at h
    | cons axis axes =>
      rw [chooseAll] at h
      cases hc : selector.choose anchor axis with
      | error refusal =>
        simp only [hc, Except.error.injEq] at h
        exact ⟨0, refusal, h.symm, ⟨(selector, axis), rfl, hc⟩, by simp⟩
      | ok c =>
        simp only [hc, Outcome.bind_eq_error_iff] at h
        rcases h with h | ⟨cs, -, h⟩
        · obtain ⟨d, refusal, rfl, hrefused, hbefore⟩ := ih h
          refine ⟨d + 1, refusal, by rw [Nat.add_right_comm]; rfl, hrefused, ?_⟩
          rintro (_ | j) hj x hx
          · obtain rfl : (selector, axis) = x := by simpa using hx
            exact ⟨c, hc⟩
          · exact hbefore j (by omega) x hx
        · cases h

theorem resolve_eq_ok_iff {p : Pattern} {s : Snapshot} {anchor : Option Int} {x : Selection} :
    resolve p s anchor = .ok x ↔ p.arity = s.arity ∧
      ∃ cs, chooseAll (usedAnchor p anchor) 0 p.selectors s.axes = .ok cs ∧
        Box.firstUnknown? (cs.map (·.values)) s.tuples = none ∧
        x = ⟨s, usedAnchor p anchor, cs.map (·.values), cs.any (·.clipped)⟩ := by
  simp only [resolve, Outcome.bind_eq_ok_iff, Outcome.mapError_eq_ok_iff,
    Pattern.checkArity_eq_ok_iff, exists_const]
  refine and_congr_right fun _ => exists_congr fun cs => and_congr_right fun _ => ?_
  cases Box.firstUnknown? (cs.map (·.values)) s.tuples with
  | none => simp [pure, Except.pure, eq_comm]
  | some tuple => simp [Outcome.throw_ne_ok]

/-- A selection depends on its anchor by what is chosen there only. -/
theorem resolve_of_chooseAll {p q : Pattern} {s : Snapshot} {a b : Option Int}
    {x : Selection} (harity : q.arity = p.arity)
    (hchoose : ∀ cs, chooseAll (usedAnchor p a) 0 p.selectors s.axes = .ok cs →
      chooseAll (usedAnchor q b) 0 q.selectors s.axes = .ok cs)
    (h : resolve p s a = .ok x) :
    resolve q s b = .ok { x with anchor := usedAnchor q b } := by
  obtain ⟨hn, cs, hcs, hknown, rfl⟩ := resolve_eq_ok_iff.mp h
  exact resolve_eq_ok_iff.mpr ⟨harity.trans hn, cs, hchoose cs hcs, hknown, rfl⟩

theorem anchor_of_resolve {p : Pattern} {s : Snapshot} {anchor : Option Int} {x : Selection}
    (h : resolve p s anchor = .ok x) : x.anchor = usedAnchor p anchor := by
  obtain ⟨-, cs, -, -, rfl⟩ := resolve_eq_ok_iff.mp h
  rfl

/-- Two selections of the same files in the same order, whatever their anchors. -/
structure SameFiles (x y : Selection) : Prop where
  box : y.box = x.box
  clipped : y.clipped = x.clipped
  size : y.size = x.size
  tuples : y.tuples = x.tuples
  fileNames : y.fileNames = x.fileNames
  paths : y.paths = x.paths

theorem sameFiles_withAnchor (x : Selection) (anchor : Option Int) :
    SameFiles x { x with anchor } := ⟨rfl, rfl, rfl, rfl, rfl, rfl⟩

/-- The choices for a coordinate are those of a selector on its axis. -/
theorem exists_choose_of_mem_values {anchor : Option Int} {i : Nat} {selectors : List Selector}
    {axes : List Axis} {cs : List Selector.Choice}
    (hcs : chooseAll anchor i selectors axes = .ok cs) {choices : List Nat}
    (hm : choices ∈ cs.map (·.values)) : ∃ (selector : Selector) (axis : Axis)
      (c : Selector.Choice), selector.choose anchor axis = .ok c ∧ c.values = choices := by
  obtain ⟨c, hc, rfl⟩ := List.mem_map.mp hm
  obtain ⟨e, he, rfl⟩ := List.getElem_of_mem hc
  obtain ⟨hl, hall⟩ := List.forall₂_iff_get.mp (chooseAll_eq_ok_iff.mp hcs)
  exact ⟨_, _, _, hall e (hl ▸ he) he, rfl⟩

theorem pairwise_of_mem_values {anchor : Option Int} {i : Nat} {selectors : List Selector}
    {axes : List Axis} {cs : List Selector.Choice}
    (hcs : chooseAll anchor i selectors axes = .ok cs) {choices : List Nat}
    (hm : choices ∈ cs.map (·.values)) : choices.Pairwise (· < ·) := by
  obtain ⟨selector, axis, c, hc, rfl⟩ := exists_choose_of_mem_values hcs hm
  exact Selector.pairwise_of_choose hc

theorem ne_nil_of_mem_values {anchor : Option Int} {i : Nat} {selectors : List Selector}
    {axes : List Axis} {cs : List Selector.Choice}
    (hcs : chooseAll anchor i selectors axes = .ok cs) {choices : List Nat}
    (hm : choices ∈ cs.map (·.values)) : choices ≠ [] := by
  obtain ⟨selector, axis, c, hc, rfl⟩ := exists_choose_of_mem_values hcs hm
  exact Selector.ne_nil_of_choose hc

theorem length_tuples (x : Selection) : x.tuples.length = x.size := Box.length_list x.box

theorem indicesAt_eq_ok_iff {x : Selection} {k : Nat} {t : Indices} :
    x.indicesAt k = .ok t ↔ x.tuples[k]? = some t := by
  rw [indicesAt, size, tuples, Box.list, List.getElem?_map]
  split
  case isTrue hk =>
    rw [List.getElem?_range hk, Option.map_some, Except.ok.injEq, Option.some.injEq]
  case isFalse hk =>
    rw [List.getElem?_eq_none (by rw [List.length_range]; exact Nat.not_lt.mp hk)]
    simp

section Resolved

variable {p : Pattern} {s : Snapshot} {anchor : Option Int} {x : Selection}
  (h : resolve p s anchor = .ok x)
include h

theorem pairwise_of_mem_box {choices : List Nat} (hm : choices ∈ x.box) :
    choices.Pairwise (· < ·) := by
  obtain ⟨-, cs, hcs, -, rfl⟩ := resolve_eq_ok_iff.mp h
  exact pairwise_of_mem_values hcs hm

theorem ne_nil_of_mem_box {choices : List Nat} (hm : choices ∈ x.box) : choices ≠ [] := by
  obtain ⟨-, cs, hcs, -, rfl⟩ := resolve_eq_ok_iff.mp h
  exact ne_nil_of_mem_values hcs hm

/-- Every tuple of a selection was scanned, even where its count has come round. -/
theorem has_of_mem_tuples {t : Indices} (ht : t ∈ x.tuples) : s.has t = true := by
  obtain ⟨-, cs, -, hknown, rfl⟩ := resolve_eq_ok_iff.mp h
  exact List.contains_iff_mem.mpr (Box.firstUnknown?_eq_none_iff.mp hknown t ht)

/-- A selection whose size is an index has its tuples in order. -/
theorem pairwise_tuples (hsize : Box.size x.box ≤ maxIndex) : x.tuples.Pairwise (· < ·) := by
  rw [tuples, Box.list_eq_tuples hsize]
  exact Box.pairwise_lt_tuples fun choices hm => pairwise_of_mem_box h hm

theorem nodup_tuples (hsize : Box.size x.box ≤ maxIndex) : x.tuples.Nodup :=
  (pairwise_tuples h hsize).imp fun hlt => hlt.ne

end Resolved

end Selection

end FileSeries
