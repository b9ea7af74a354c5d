import FileSeries.Box
import Mathlib
/-!
The tuples of a box. Its size is the exact number of its tuples, which is the number that is kept as
long as it is an index. Main statements: a tuple belongs to a box if each of its coordinates is one
of the choices for it, ascending choices give ascending tuples, and where the size is an index the
box lists all of its tuples and the search for an unknown tuple finds the first one.
-/

namespace FileSeries.Box

/-- The exact number of tuples. -/
def size (b : Box) : Nat := (b.map List.length).prod

/-- All tuples in order. -/
def tuples : Box → List (List Nat)
  | [] => [[]]
  | choices :: rest => choices.flatMap fun n => (tuples rest).map (n :: ·)

variable {b rest : Box} {choices t : List Nat} {known : List (List Nat)} {k : Nat}

@[simp]
theorem size_nil : size [] = 1 := rfl

@[simp]
theorem size_cons : size (choices :: rest) = choices.length * size rest := by
  simp [size]

theorem size_pos (h : ∀ choices ∈ b, choices ≠ []) : 0 < size b := by
  refine List.prod_pos fun n hn => ?_
  obtain ⟨choices, hc, rfl⟩ := List.mem_map.mp hn
  exact List.length_pos_iff.mpr (h choices hc)

theorem size_rest_le (h : choices ≠ []) : size rest ≤ size (choices :: rest) := by
  rw [size_cons]
  exact Nat.le_mul_of_pos_left _ (List.length_pos_iff.mpr h)

/-- The number that is kept is the exact one, come round. -/
theorem count_eq_wrapIndex (b : Box) : count b = wrapIndex (size b) := by
  induction b with
  | nil => rfl
  | cons choices rest ih =>
    rw [count, ih, size_cons, wrapIndex, wrapIndex, wrapIndex, Nat.mul_mod_mod]

theorem count_of_size_le (h : size b ≤ maxIndex) : count b = size b := by
  rw [count_eq_wrapIndex, wrapIndex_of_le h]

/-- The number that is kept is the exact one only if that is an index. -/
theorem count_eq_size_iff : count b = size b ↔ size b ≤ maxIndex := by
  refine ⟨fun h => ?_, count_of_size_le⟩
  rw [← h, count_eq_wrapIndex]
  exact wrapIndex_le _

theorem length_tuples (b : Box) : (tuples b).length = size b := by
  induction b with
  | nil => rfl
  | cons choices rest ih => simp [tuples, List.length_flatMap, ih]

theorem length_list (b : Box) : (list b).length = count b := by
  rw [list, List.length_map, List.length_range]

theorem mem_tuples_iff : t ∈ tuples b ↔ List.Forall₂ (fun n choices => n ∈ choices) t b := by
  induction b generalizing t with
  | nil => simp [tuples]
  | cons choices rest ih =>
    simp only [tuples, List.mem_flatMap, List.mem_map, ih, List.forall₂_cons_right_iff]
    constructor
    · rintro ⟨n, hn, u, hu, rfl⟩
      exact ⟨n, u, hn, hu, rfl⟩
    · rintro ⟨n, u, hn, hu, rfl⟩
      exact ⟨n, hn, u, hu, rfl⟩

/-- Membership place by place. -/
theorem mem_tuples_iff_getElem? :
    t ∈ tuples b ↔ t.length = b.length ∧
      ∀ (i n : Nat) (choices : List Nat),
        t[i]? = some n → b[i]? = some choices → n ∈ choices := by
  rw [mem_tuples_iff, List.forall₂_iff_get]
  constructor
  · rintro ⟨hl, h⟩
    refine ⟨hl, fun i n choices hn hc => ?_⟩
    obtain ⟨hi, rfl⟩ := List.getElem?_eq_some_iff.mp hn
    obtain ⟨hj, rfl⟩ := List.getElem?_eq_some_iff.mp hc
    exact h i hi hj
  · rintro ⟨hl, h⟩
    refine ⟨hl, fun i hi hj => ?_⟩
    exact h i _ _ (List.getElem?_eq_getElem hi) (List.getElem?_eq_getElem hj)

/-- Where all choices ascend, the tuples do so in the lexicographic order. -/
theorem pairwise_lt_tuples (h : ∀ choices ∈ b, choices.Pairwise (· < ·)) :
    (tuples b).Pairwise (· < ·) := by
  induction b with
  | nil => simp [tuples]
  | cons choices rest ih =>
    have hrest : (tuples rest).Pairwise (· < ·) := ih fun c hc => h c (List.mem_cons_of_mem _ hc)
    refine List.pairwise_flatMap.mpr ⟨fun n _ => List.pairwise_map.mpr ?_, ?_⟩
    · exact hrest.imp fun hlt => List.cons_lt_cons_iff.mpr (.inr ⟨rfl, hlt⟩)
    · refine (h choices List.mem_cons_self).imp fun {m n} hlt t ht u hu => ?_
      obtain ⟨t, -, rfl⟩ := List.mem_map.mp ht
      obtain ⟨u, -, rfl⟩ := List.mem_map.mp hu
      exact List.cons_lt_cons_iff.mpr (.inl hlt)

theorem nodup_tuples (h : ∀ choices ∈ b, choices.Pairwise (· < ·)) : (tuples b).Nodup :=
  (pairwise_lt_tuples h).imp fun hlt => hlt.ne

/-- A box of known tuples has at most as many tuples as are known. -/
theorem size_le_of_forall_mem (h : ∀ choices ∈ b, choices.Pairwise (· < ·))
    (hknown : ∀ t ∈ tuples b, t ∈ known) : size b ≤ known.length := by
  rw [← length_tuples]
  exact ((nodup_tuples h).subperm hknown).length_le

/-- A position in a row of blocks of one length is a block and a position in it. -/
theorem getElem?_flatMap_of_length {α β : Type} {f : α → List β} {m : Nat}
    (hm : ∀ a, (f a).length = m) (l : List α) (i : Nat) :
    (l.flatMap f)[i]? = l[i / m]?.bind fun a => (f a)[i % m]? := by
  rcases Nat.eq_zero_or_pos m with rfl | hpos
  · have hnil : l.flatMap f = [] := List.flatMap_eq_nil_iff.mpr fun a _ =>
      List.length_eq_zero_iff.mp (hm a)
    cases l[i / 0]? with
    | none => simp [hnil]
    | some a => simp [hnil, List.length_eq_zero_iff.mp (hm a)]
  · induction l generalizing i with
    | nil => simp
    | cons a l ih =>
      rw [List.flatMap_cons]
      rcases Nat.lt_or_ge i m with hlt | hge
      · rw [List.getElem?_append_left (by rwa [hm]), Nat.div_eq_of_lt hlt, Nat.mod_eq_of_lt hlt]
        rfl
      · rw [List.getElem?_append_right (by rwa [hm]), hm, ih, Nat.div_eq_sub_div hpos hge,
          Nat.mod_eq_sub_mod hge, List.getElem?_cons_succ]

/-- Whatever the count, the tuple at a position belongs to the box. -/
theorem tupleAt_mem_tuples (h : ∀ choices ∈ b, choices ≠ []) (k : Nat) :
    tupleAt b k ∈ tuples b := by
  induction b with
  | nil => simp [tupleAt, tuples]
  | cons choices rest ih =>
    obtain ⟨hchoices, hrest⟩ := List.forall_mem_cons.mp h
    have hlt : k / count rest % choices.length < choices.length :=
      Nat.mod_lt _ (List.length_pos_iff.mpr hchoices)
    refine List.mem_flatMap.mpr ⟨_, ?_, List.mem_map_of_mem (ih hrest)⟩
    rw [List.getD_eq_getElem _ _ hlt]
    exact List.getElem_mem hlt

/-- Positions that differ by the size of the box have the same tuple. -/
theorem tupleAt_mod (h : size b ≤ maxIndex) (hpos : 0 < size b) (k : Nat) :
    tupleAt b (k % size b) = tupleAt b k := by
  induction b generalizing k with
  | nil => rfl
  | cons choices rest ih =>
    have hne : choices ≠ [] := by
      rintro rfl
      simp at hpos
    have hle : size rest ≤ maxIndex := (size_rest_le hne).trans h
    have hrest : 0 < size rest := by
      rw [size_cons] at hpos
      exact Nat.pos_of_mul_pos_left hpos
    have htail : tupleAt rest (k % (choices.length * size rest)) = tupleAt rest k := by
      rw [← ih hle hrest, Nat.mod_mul_left_mod, ih hle hrest]
    simp only [tupleAt, count_of_size_le hle, size_cons, htail, Nat.mod_mul_left_div_self,
      Nat.mod_mod]

theorem getElem?_tuples (h : size b ≤ maxIndex) (hk : k < size b) :
    (tuples b)[k]? = some (tupleAt b k) := by
  induction b generalizing k with
  | nil =>
    obtain rfl : k = 0 := by simpa using hk
    rfl
  | cons choices rest ih =>
    have hne : choices ≠ [] := by
      rintro rfl
      simp at hk
    have hle : size rest ≤ maxIndex := (size_rest_le hne).trans h
    rw [size_cons] at hk
    have hrest : 0 < size rest := Nat.pos_of_mul_pos_left (Nat.zero_lt_of_lt hk)
    have hblock : k / size rest < choices.length := Nat.div_lt_of_lt_mul (Nat.mul_comm _ _ ▸ hk)
    have hlength : ∀ n : Nat, ((tuples rest).map (n :: ·)).length = size rest := fun n => by
      rw [List.length_map, length_tuples]
    rw [tuples, getElem?_flatMap_of_length hlength, List.getElem?_eq_getElem hblock,
      Option.bind_some, List.getElem?_map, ih hle (Nat.mod_lt k hrest), Option.map_some,
      tupleAt_mod hle hrest, tupleAt, count_of_size_le hle, Nat.mod_eq_of_lt hblock,
      List.getD_eq_getElem _ _ hblock]

/-- A box whose size is an index lists all of its tuples. -/
theorem list_eq_tuples (h : size b ≤ maxIndex) : list b = tuples b := by
  apply List.ext_getElem?
  intro k
  rw [list, count_of_size_le h, List.getElem?_map]
  rcases Nat.lt_or_ge k (size b) with hk | hk
  · rw [List.getElem?_range hk, getElem?_tuples h hk, Option.map_some]
  · rw [List.getElem?_eq_none (by rwa [List.length_range]), Option.map_none,
      List.getElem?_eq_none (by rwa [length_tuples])]

theorem unknownFrom?_eq_find? (position left : Nat) :
    unknownFrom? b known position left =
      ((List.range' position left).map b.tupleAt).find? fun t => !known.contains t := by
  induction left generalizing position with
  | zero => rfl
  | succ left ih =>
    rw [unknownFrom?, List.range'_succ, List.map_cons, List.find?_cons, ih]
    cases known.contains (b.tupleAt position) <;> rfl

/-- The search goes through the listed tuples in order. -/
theorem firstUnknown?_eq_find? :
    firstUnknown? b known = (list b).find? fun t => !known.contains t := by
  rw [firstUnknown?, unknownFrom?_eq_find?, list, List.range_eq_range']

theorem firstUnknown?_eq_none_iff :
    firstUnknown? b known = none ↔ ∀ t ∈ list b, t ∈ known := by
  rw [firstUnknown?_eq_find?, List.find?_eq_none]
  simp

/-- Whatever the count, what the search finds is an unknown tuple of the box. -/
theorem mem_of_firstUnknown?_eq_some (h : ∀ choices ∈ b, choices ≠ [])
    (hfirst : firstUnknown? b known = some t) : t ∈ tuples b ∧ t ∉ known := by
  rw [firstUnknown?_eq_find?] at hfirst
  obtain ⟨k, -, rfl⟩ := List.mem_map.mp (List.mem_of_find?_eq_some hfirst)
  exact ⟨tupleAt_mem_tuples h k, by simpa using List.find?_some hfirst⟩

/-- In an ascending list the first member with a property is the least one. -/
theorem find?_eq_some_iff_isLeast {α : Type} [LinearOrder α] {l : List α} {p : α → Bool} {a : α}
    (h : l.Pairwise (· < ·)) : l.find? p = some a ↔ IsLeast {x | x ∈ l ∧ p x = true} a := by
  have hfirst : ∀ {a}, l.find? p = some a → IsLeast {x | x ∈ l ∧ p x = true} a := by
    intro a ha
    obtain ⟨hp, front, back, rfl, hfront⟩ := List.find?_eq_some_iff_append.mp ha
    obtain ⟨-, hback, -⟩ := List.pairwise_append.mp h
    refine ⟨⟨by simp, hp⟩, ?_⟩
    rintro x ⟨hx, hpx⟩
    rcases List.mem_append.mp hx with hx | hx
    · exact absurd hpx (by simpa using hfront x hx)
    · rcases List.mem_cons.mp hx with rfl | hx
      · exact le_rfl
      · exact ((List.pairwise_cons.mp hback).1 x hx).le
  refine ⟨hfirst, fun hleast => ?_⟩
  obtain ⟨b, hb⟩ := Option.isSome_iff_exists.mp (List.find?_isSome.mpr ⟨a, hleast.1.1, hleast.1.2⟩)
  rw [hb, (hfirst hb).unique hleast]

theorem firstUnknown?_eq_some_iff (h : ∀ choices ∈ b, choices.Pairwise (· < ·))
    (hsize : size b ≤ maxIndex) :
    firstUnknown? b known = some t ↔ IsLeast {t | t ∈ tuples b ∧ t ∉ known} t := by
  rw [firstUnknown?_eq_find?, list_eq_tuples hsize,
    find?_eq_some_iff_isLeast (pairwise_lt_tuples h)]
  simp

end FileSeries.Box
