import FileSeries.Walk
import Mathlib
/-!
The items that a walk has still to visit. Main statements: a walk through the items of a list visits
those that are not behind it, and some steps on it has as many items fewer to come, down to none.
-/

namespace FileSeries.Walk

variable {α : Type} {w v : Walk α} {f : Nat → α}

theorem rest_of_next?_eq_none (h : w.next? = none) : w.rest = [] := by
  rw [rest]
  split
  · rfl
  · simp_all

theorem rest_of_next?_eq_some {a : α} (h : w.next? = some (a, v)) :
    w.rest = (v.left, a) :: v.rest := by
  rw [rest]
  split <;> simp_all

theorem next?_of_lt (h : ∀ i, w.item? i = some (f i)) (hlt : w.position < w.size) :
    w.next? = some (f w.position, { w with position := w.position + 1 }) := by
  simp only [next?, if_pos hlt, h, Option.map_some]

theorem next?_eq_none_of_le (hle : w.size ≤ w.position) : w.next? = none := by
  rw [next?, if_neg (by omega)]

/-- The items come in the order of their numbers, each with the number of those after it. -/
theorem rest_eq (h : ∀ i, w.item? i = some (f i)) :
    w.rest = (List.range' w.position w.left).map fun i => (w.size - (i + 1), f i) := by
  generalize hn : w.left = n
  induction n generalizing w with
  | zero =>
    have hle : w.size ≤ w.position := by
      unfold left at hn
      omega
    exact rest_of_next?_eq_none (next?_eq_none_of_le hle)
  | succ n ih =>
    have hlt : w.position < w.size := by
      unfold left at hn
      omega
    have hleft : ({ w with position := w.position + 1 } : Walk α).left = n := by
      simp only [left] at hn ⊢
      omega
    rw [rest_of_next?_eq_some (next?_of_lt h hlt),
      ih (w := { w with position := w.position + 1 }) h hleft, List.range'_succ]
    rfl

/-- The items of a walk are those of a list. -/
structure Through (w : Walk α) (l : List α) : Prop where
  size : w.size = l.length
  item : ∀ i < w.size, w.item? i = l[i]?

namespace Through

variable {l : List α}

theorem move (h : w.Through l) (position : Nat) : Through { w with position := position } l :=
  ⟨h.size, h.item⟩

theorem next?_eq (h : w.Through l) :
    w.next? = l[w.position]?.map (·, { w with position := w.position + 1 }) := by
  unfold next?
  split
  · rename_i hlt
    rw [h.item _ hlt]
  · rename_i hlt
    rw [h.size] at hlt
    rw [List.getElem?_eq_none (by omega), Option.map_none]

theorem map_rest (h : w.Through l) : w.rest.map (·.2) = l.drop w.position := by
  generalize hn : l.length - w.position = n
  induction n generalizing w with
  | zero =>
    have hle : l.length ≤ w.position := by omega
    have hnext : w.next? = none := next?_eq_none_of_le (h.size ▸ hle)
    rw [rest_of_next?_eq_none hnext, List.drop_eq_nil_of_le hle, List.map_nil]
  | succ n ih =>
    have hlt : w.position < l.length := by omega
    have hnext := h.next?_eq
    rw [List.getElem?_eq_getElem hlt, Option.map_some] at hnext
    have hrest := ih (h.move (w.position + 1)) (by simp only; omega)
    rw [rest_of_next?_eq_some hnext, List.map_cons, hrest, List.drop_eq_getElem_cons hlt]

/-- Steps beyond the last item leave a walk where it is. -/
theorem skip_eq (h : w.Through l) (count : Nat) : w.skip count =
    (min count w.left, { w with position := w.position + min count w.left }) := by
  induction count generalizing w with
  | zero => simp [skip]
  | succ count ih =>
    rw [skip, h.next?_eq]
    rcases Nat.lt_or_ge w.position l.length with hlt | hge
    · have hleft : w.left = l.length - w.position := by rw [left, h.size]
      have hmoved : ({ w with position := w.position + 1 } : Walk α).left =
          l.length - (w.position + 1) := by rw [left, h.size]
      have hmin : min (count + 1) (l.length - w.position) =
          min count (l.length - (w.position + 1)) + 1 := by omega
      rw [List.getElem?_eq_getElem hlt, Option.map_some]
      simp only [ih (h.move (w.position + 1)), hleft, hmoved, hmin, Nat.add_assoc, Nat.add_comm 1]
    · have hleft : w.left = 0 := by
        rw [left, h.size]
        omega
      rw [List.getElem?_eq_none hge, Option.map_none]
      simp [hleft]

end Through

end FileSeries.Walk
