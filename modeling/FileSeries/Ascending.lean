/-!
Finite sets written as strictly ascending lists. A set is built by inserting its members one by one;
a member met twice is kept once, so equal sets have equal lists.
-/

namespace FileSeries

/-- A strict order given by its test. -/
abbrev Before (α : Type) := α → α → Bool

/-- The order of lists by their first difference; an initial part comes first. -/
def Before.list {α : Type} (before : Before α) : Before (List α)
  | [], [] => false
  | [], _ :: _ => true
  | _ :: _, [] => false
  | a :: as, b :: bs => before a b || (!before b a && Before.list before as bs)

namespace Ascending

variable {α : Type}

/-- Puts `a` in its place, unless it is there already. -/
def insert (before : Before α) (a : α) : List α → List α
  | [] => [a]
  | b :: rest =>
    if before a b then a :: b :: rest
    else if before b a then b :: insert before a rest
    else b :: rest

/-- The members of a list in ascending order, each once. -/
def ofList (before : Before α) (l : List α) : List α := l.foldr (insert before) []

theorem mem_of_mem_insert {before : Before α} {a x : α} {l : List α} (h : x ∈ insert before a l) :
    x = a ∨ x ∈ l := by
  induction l with
  | nil => simpa [insert] using h
  | cons b rest ih =>
    unfold insert at h
    split at h
    · simpa using h
    · split at h
      · rcases List.mem_cons.1 h with h | h
        · exact .inr (h ▸ List.mem_cons_self)
        · rcases ih h with h | h
          · exact .inl h
          · exact .inr (List.mem_cons_of_mem _ h)
      · exact .inr h

theorem pairwise_insert {before : Before α}
    (trans : ∀ x y z, before x y = true → before y z = true → before x z = true) (a : α)
    {l : List α} (h : l.Pairwise (before · · = true)) :
    (insert before a l).Pairwise (before · · = true) := by
  induction l with
  | nil => simp [insert]
  | cons b rest ih =>
    obtain ⟨hb, hr⟩ := List.pairwise_cons.1 h
    unfold insert
    split
    · rename_i hab
      refine List.pairwise_cons.2 ⟨fun x hx => ?_, h⟩
      rcases List.mem_cons.1 hx with rfl | hx
      · exact hab
      · exact trans a b x hab (hb x hx)
    · split
      · rename_i hba
        refine List.pairwise_cons.2 ⟨fun x hx => ?_, ih hr⟩
        rcases mem_of_mem_insert hx with rfl | hx
        · exact hba
        · exact hb x hx
      · exact h

theorem pairwise_ofList {before : Before α}
    (trans : ∀ x y z, before x y = true → before y z = true → before x z = true) (l : List α) :
    (ofList before l).Pairwise (before · · = true) := by
  induction l with
  | nil => exact .nil
  | cons a l ih => exact pairwise_insert trans a ih

end Ascending

end FileSeries
