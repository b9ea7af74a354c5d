import FileSeries.Numbering
import Mathlib
/-!
Ascending lists as finite sets. Main statements: where the test of an order decides `<` of a linear
order, the ascending list of some items has exactly these items, strictly ascending, and lists of
them are compared by the lexicographic order; so are file names and tuples of indices.
-/

namespace FileSeries

variable {α : Type} [LinearOrder α] {before : Before α} {l : List α} {x : α}

theorem Before.list_eq_true_iff (h : ∀ a b, before a b = true ↔ a < b) {l m : List α} :
    Before.list before l m = true ↔ l < m := by
  induction l generalizing m with
  | nil => cases m <;> simp [Before.list]
  | cons a l ih =>
    cases m with
    | nil => simp [Before.list]
    | cons b m =>
      rw [Before.list, Bool.or_eq_true, Bool.and_eq_true, Bool.not_eq_true', h, ih,
        List.cons_lt_cons_iff, ← Bool.not_eq_true, h, not_lt]
      constructor
      · rintro (hlt | ⟨hle, hrest⟩)
        · exact .inl hlt
        · exact hle.lt_or_eq.imp id fun heq => ⟨heq, hrest⟩
      · rintro (hlt | ⟨rfl, hrest⟩)
        · exact .inl hlt
        · exact .inr ⟨le_rfl, hrest⟩

theorem nameBefore_iff {a b : List Char} : nameBefore a b = true ↔ a < b :=
  Before.list_eq_true_iff fun _ _ => decide_eq_true_iff

theorem tupleBefore_iff {a b : Indices} : tupleBefore a b = true ↔ a < b :=
  Before.list_eq_true_iff fun _ _ => decide_eq_true_iff

/-- What skeletons are compared by: their texts, then their extensions. -/
def Skeleton.key (s : Skeleton) : List (List Char) ×ₗ List (List Char) :=
  toLex (s.lead :: s.tails, s.extension.toList)

theorem Skeleton.key_injective : Function.Injective Skeleton.key := by
  rintro ⟨lead, tails, extension⟩ ⟨lead', tails', extension'⟩ h
  obtain ⟨htexts, hext⟩ := Prod.mk.inj (toLex_inj.mp h)
  obtain ⟨rfl, rfl⟩ : lead = lead' ∧ tails = tails' := List.cons.inj htexts
  obtain rfl : extension = extension' := by simpa using congrArg List.head? hext
  rfl

instance : LinearOrder Skeleton := LinearOrder.lift' Skeleton.key Skeleton.key_injective

theorem skeletonBefore_iff {a b : Skeleton} : skeletonBefore a b = true ↔ a < b := by
  have hnames : ∀ l m : List (List Char), Before.list nameBefore l m = true ↔ l < m :=
    fun l m => Before.list_eq_true_iff fun _ _ => nameBefore_iff
  have hkey : a < b ↔ a.key < b.key := Iff.rfl
  rw [hkey, Skeleton.key, Skeleton.key, Prod.Lex.toLex_lt_toLex, skeletonBefore, Bool.or_eq_true,
    Bool.and_eq_true, beq_iff_eq, hnames, hnames]

namespace Ascending

theorem mem_insert_iff (h : ∀ a b, before a b = true ↔ a < b) {a : α} :
    x ∈ insert before a l ↔ x = a ∨ x ∈ l := by
  refine ⟨mem_of_mem_insert, fun hx => ?_⟩
  induction l with
  | nil => simpa [insert] using hx
  | cons b l ih =>
    unfold insert
    split
    · exact List.mem_cons.mpr hx
    · rename_i hab
      split
      · rcases hx with hxa | hx
        · exact List.mem_cons_of_mem _ (ih (.inl hxa))
        · rcases List.mem_cons.mp hx with rfl | hx
          · exact List.mem_cons_self
          · exact List.mem_cons_of_mem _ (ih (.inr hx))
      · rename_i hba
        obtain rfl : a = b := le_antisymm (not_lt.mp (mt (h b a).mpr hba))
          (not_lt.mp (mt (h a b).mpr hab))
        rcases hx with rfl | hx
        · exact List.mem_cons_self
        · exact hx

theorem mem_ofList_iff (h : ∀ a b, before a b = true ↔ a < b) : x ∈ ofList before l ↔ x ∈ l := by
  induction l with
  | nil => rfl
  | cons a l ih => rw [ofList, List.foldr_cons, mem_insert_iff h, List.mem_cons, ← ih, ofList]

theorem pairwise_lt_ofList (h : ∀ a b, before a b = true ↔ a < b) :
    (ofList before l).Pairwise (· < ·) := by
  refine (pairwise_ofList (fun a b c hab hbc => ?_) l).imp fun hab => (h _ _).mp hab
  exact (h a c).mpr (((h a b).mp hab).trans ((h b c).mp hbc))

theorem nodup_ofList (h : ∀ a b, before a b = true ↔ a < b) : (ofList before l).Nodup :=
  (pairwise_lt_ofList h).imp fun hlt => hlt.ne

/-- The ascending list of some items is the only one with these items. -/
theorem ofList_eq_iff (h : ∀ a b, before a b = true ↔ a < b) {m : List α} :
    ofList before l = m ↔ m.Pairwise (· < ·) ∧ ∀ x, x ∈ m ↔ x ∈ l := by
  constructor
  · rintro rfl
    exact ⟨pairwise_lt_ofList h, fun x => mem_ofList_iff h⟩
  · rintro ⟨hm, hmem⟩
    exact (pairwise_lt_ofList h).eq_of_mem_iff hm fun x => (mem_ofList_iff h).trans (hmem x).symm

theorem ofList_congr (h : ∀ a b, before a b = true ↔ a < b) {m : List α}
    (hmem : ∀ x, x ∈ l ↔ x ∈ m) : ofList before l = ofList before m :=
  (ofList_eq_iff h).mpr
    ⟨pairwise_lt_ofList h, fun x => (mem_ofList_iff h).trans (hmem x).symm⟩

theorem ofList_eq_singleton_iff (h : ∀ a b, before a b = true ↔ a < b) :
    ofList before l = [x] ↔ l ≠ [] ∧ ∀ y ∈ l, y = x := by
  simp only [ofList_eq_iff h, List.pairwise_singleton, true_and, List.mem_singleton]
  constructor
  · intro hmem
    exact ⟨List.ne_nil_of_mem ((hmem x).mp rfl), fun y hy => (hmem y).mpr hy⟩
  · rintro ⟨hne, hall⟩ y
    refine ⟨?_, hall y⟩
    rintro rfl
    obtain ⟨z, hz⟩ := List.exists_mem_of_ne_nil l hne
    exact hall z hz ▸ hz

theorem length_ofList_of_nodup (h : ∀ a b, before a b = true ↔ a < b) (hl : l.Nodup) :
    (ofList before l).length = l.length :=
  ((List.perm_ext_iff_of_nodup (nodup_ofList h) hl).mpr fun _ => mem_ofList_iff h).length_eq

end Ascending

namespace Axis

theorem mem_ofValues {values : List Nat} {n : Nat} : n ∈ (ofValues values).values ↔ n ∈ values :=
  Ascending.mem_ofList_iff fun _ _ => decide_eq_true_iff

theorem ofTuples_eq_some_iff {fields d : Nat} {tuples : List (List Nat)} {axis : Axis} :
    (ofTuples fields tuples)[d]? = some axis ↔
      d < fields ∧ ofValues (tuples.filterMap (·[d]?)) = axis := by
  rw [ofTuples, List.getElem?_map, Option.map_eq_some_iff]
  constructor
  · rintro ⟨e, he, rfl⟩
    obtain ⟨hlt, rfl⟩ := List.getElem?_eq_some_iff.mp he
    simpa using hlt
  · rintro ⟨hlt, rfl⟩
    exact ⟨d, by simp [hlt], rfl⟩

end Axis

end FileSeries
