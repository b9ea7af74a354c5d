/-!
Walks: numbered items visited one by one from the first on.
-/

namespace FileSeries

/-- A walk through `size` items, `position` of which are behind it. -/
structure Walk (α : Type) where
  size : Nat
  item? : Nat → Option α
  position : Nat := 0

namespace Walk

variable {α : Type}

/-- The number of items to come. -/
def left (w : Walk α) : Nat := w.size - w.position

/-- The next item, and the walk after it. -/
def next? (w : Walk α) : Option (α × Walk α) :=
  if w.position < w.size then
    (w.item? w.position).map (·, { w with position := w.position + 1 })
  else none

/-- Visits `count` items at most; gives how many there were and the walk after them. -/
def skip (w : Walk α) : Nat → Nat × Walk α
  | 0 => (0, w)
  | count + 1 =>
    match w.next? with
    | none => (0, w)
    | some (_, w) =>
      match w.skip count with
      | (met, w) => (met + 1, w)

/-- All items to come, each with the number of items that come after it. -/
def rest (w : Walk α) : List (Nat × α) :=
  match _h : w.next? with
  | none => []
  | some (a, v) => (v.left, a) :: v.rest
termination_by w.left
decreasing_by
  simp only [next?] at _h
  split at _h
  · obtain ⟨b, _, he⟩ := Option.map_eq_some_iff.1 _h
    cases he
    simp only [left]
    omega
  · simp at _h

end Walk

end FileSeries
