import FileSeries.Proofs.BoxTuples
import Mathlib
/-!
Positions in a box. Main statements: a tuple has a position exactly if it belongs to the box, and
where no choice comes twice and the size of the box is an index, its position is the one number
below the size at which it stands.
-/

namespace FileSeries.Box

variable {b : Box} {t : List Nat}

theorem idxOf?_eq_some_iff_getElem? {l : List Nat} (h : l.Nodup) {n i : Nat} :
    l.idxOf? n = some i ↔ l[i]? = some n := by
  rw [List.idxOf?_eq_some_iff, List.getElem?_eq_some_iff]
  refine exists_congr fun hi => ⟨And.left, fun hn => ⟨hn, fun j hj heq => ?_⟩⟩
  have hij : j = i := (h.getElem_inj_iff).mp (heq.trans hn.symm)
  omega

/-- A tuple without a position lies outside of the box. -/
theorem positionOf?_eq_none_iff :
    positionOf? b t = none ↔ ¬List.Forall₂ (fun n choices => n ∈ choices) t b := by
  induction b generalizing t with
  | nil => cases t <;> simp [positionOf?]
  | cons choices rest ih =>
    cases t with
    | nil => simp [positionOf?]
    | cons n t =>
      rw [List.forall₂_cons, not_and_or, ← ih, ← List.idxOf?_eq_none_iff, positionOf?]
      cases choices.idxOf? n <;> cases positionOf? rest t <;> simp

/-- The position of a tuple is a number in mixed radix: the offset of its first coordinate is what
a division by the size of the rest of the box gives, and the position of its tail is what is left. -/
theorem positionOf?_eq_some_iff (h : ∀ choices ∈ b, choices.Nodup) (hsize : size b ≤ maxIndex)
    {k : Nat} : positionOf? b t = some k ↔ (tuples b)[k]? = some t := by
  induction b generalizing t k with
  | nil =>
    cases t with
    | nil => cases k <;> simp [positionOf?, tuples]
    | cons n t => cases k <;> simp [positionOf?, tuples]
  | cons choices rest ih =>
    obtain ⟨hchoices, hrest⟩ := List.forall_mem_cons.mp h
    have hlength : ∀ n : Nat, ((tuples rest).map (n :: ·)).length = size rest := fun n => by
      rw [List.length_map, length_tuples]
    have hrow := getElem?_flatMap_of_length hlength choices
    cases t with
    | nil => simp [positionOf?, tuples, hrow, Option.bind_eq_some_iff]
    | cons n t =>
      rcases eq_or_ne choices [] with rfl | hne
      · simp [positionOf?, tuples]
      have hle : size rest ≤ maxIndex := (size_rest_le hne).trans hsize
      simp only [positionOf?, tuples, hrow, count_of_size_le hle, Option.bind_eq_bind,
        Option.bind_eq_some_iff, Option.pure_def, Option.some.injEq, List.getElem?_map,
        Option.map_eq_some_iff, List.cons.injEq, idxOf?_eq_some_iff_getElem? hchoices,
        ih hrest hle]
      constructor
      · rintro ⟨offset, hn, position, ht, rfl⟩
        have hlt : position < size rest :=
          length_tuples rest ▸ (List.getElem?_eq_some_iff.mp ht).1
        have hoffset : offset < choices.length := (List.getElem?_eq_some_iff.mp hn).1
        -- Below the size of the box nothing comes round.
        have hbelow : offset * size rest + position < size (choices :: rest) := by
          have := Nat.mul_le_mul_right (size rest) (Nat.succ_le_of_lt hoffset)
          rw [Nat.succ_mul] at this
          rw [size_cons]
          omega
        have hdiv : (offset * size rest + position) / size rest = offset := by
          rw [Nat.mul_comm, Nat.mul_add_div (by omega), Nat.div_eq_of_lt hlt, Nat.add_zero]
        have hmod : (offset * size rest + position) % size rest = position := by
          rw [Nat.mul_comm, Nat.mul_add_mod, Nat.mod_eq_of_lt hlt]
        rw [wrapIndex_of_le (hbelow.le.trans hsize), hdiv, hmod]
        exact ⟨n, hn, t, ht, rfl, rfl⟩
      · rintro ⟨_, hn, _, ht, rfl, rfl⟩
        have hk : k < size (choices :: rest) := by
          have hblock := (List.getElem?_eq_some_iff.mp hn).1
          have hlt := length_tuples rest ▸ (List.getElem?_eq_some_iff.mp ht).1
          rw [size_cons]
          exact Nat.lt_mul_of_div_lt hblock (Nat.zero_lt_of_lt hlt)
        refine ⟨_, hn, _, ht, ?_⟩
        rw [Nat.div_add_mod', wrapIndex_of_le (hk.le.trans hsize)]

end FileSeries.Box
