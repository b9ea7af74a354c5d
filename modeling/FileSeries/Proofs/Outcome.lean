import Mathlib
/-!
Results that may be faults: when a chain of steps, or a step for each item of a list, succeeds.
-/

namespace FileSeries.Outcome

variable {ε α β : Type}

theorem bind_eq_ok_iff {x : Except ε α} {f : α → Except ε β} {b : β} :
    x >>= f = .ok b ↔ ∃ a, x = .ok a ∧ f a = .ok b := by
  cases x with
  | error e => simp [bind, Except.bind]
  | ok a => simp [bind, Except.bind]

theorem bind_eq_error_iff {x : Except ε α} {f : α → Except ε β} {e : ε} :
    x >>= f = .error e ↔ x = .error e ∨ ∃ a, x = .ok a ∧ f a = .error e := by
  cases x with
  | error e' => simp [bind, Except.bind]
  | ok a => simp [bind, Except.bind]

theorem throw_ne_ok {e : ε} {a : α} : (throw e : Except ε α) ≠ .ok a := by
  intro h
  cases h

theorem mapError_eq_ok_iff {ε' : Type} {x : Except ε α} {g : ε → ε'} {a : α} :
    x.mapError g = .ok a ↔ x = .ok a := by
  cases x with
  | error e => simp [Except.mapError]
  | ok b => simp [Except.mapError]

/-- A step for each item succeeds if it succeeds for each of them. -/
theorem mapM_eq_ok_iff {f : α → Except ε β} {l : List α} {ys : List β} :
    l.mapM f = .ok ys ↔ List.Forall₂ (fun a b => f a = .ok b) l ys := by
  induction l generalizing ys with
  | nil => simp [pure, Except.pure, eq_comm]
  | cons a l ih =>
    simp only [List.mapM_cons, bind_eq_ok_iff, ih, List.forall₂_cons_left_iff, pure, Except.pure,
      Except.ok.injEq]
    constructor
    · rintro ⟨b, hb, bs, hbs, rfl⟩
      exact ⟨b, bs, hb, hbs, rfl⟩
    · rintro ⟨b, bs, hb, hbs, rfl⟩
      exact ⟨b, hb, bs, hbs, rfl⟩

theorem mapM_eq_ok_iff_map {f : α → Except ε β} {l : List α} {ys : List β} :
    l.mapM f = .ok ys ↔ l.map f = ys.map .ok := by
  rw [mapM_eq_ok_iff, ← List.forall₂_eq_eq_eq, List.forall₂_map_left_iff,
    List.forall₂_map_right_iff]

theorem exists_forall₂_iff {R : α → β → Prop} {l : List α} :
    (∃ ys, List.Forall₂ R l ys) ↔ ∀ a ∈ l, ∃ b, R a b := by
  induction l with
  | nil => simp
  | cons a l ih =>
    simp only [List.forall₂_cons_left_iff, List.forall_mem_cons, ← ih]
    constructor
    · rintro ⟨-, b, bs, hb, hbs, rfl⟩
      exact ⟨⟨b, hb⟩, bs, hbs⟩
    · rintro ⟨⟨b, hb⟩, bs, hbs⟩
      exact ⟨b :: bs, b, bs, hb, hbs, rfl⟩

theorem exists_mapM_eq_ok_iff {f : α → Except ε β} {l : List α} :
    (∃ ys, l.mapM f = .ok ys) ↔ ∀ a ∈ l, ∃ b, f a = .ok b := by
  simp only [mapM_eq_ok_iff]
  exact exists_forall₂_iff

theorem mem_iff_of_mapM_eq_ok {f : α → Except ε β} {l : List α} {ys : List β}
    (h : l.mapM f = .ok ys) {y : β} : y ∈ ys ↔ ∃ a ∈ l, f a = .ok y := by
  rw [mapM_eq_ok_iff] at h
  induction h with
  | nil => simp
  | cons hab h ih => simp [ih, hab, eq_comm]

/-- A step for each item fails with the fault of one of them. -/
theorem exists_of_mapM_eq_error {f : α → Except ε β} {l : List α} {e : ε}
    (h : l.mapM f = .error e) : ∃ a ∈ l, f a = .error e := by
  induction l with
  | nil => simp [pure, Except.pure] at h
  | cons a l ih =>
    rw [List.mapM_cons, bind_eq_error_iff] at h
    rcases h with h | ⟨b, -, h⟩
    · exact ⟨a, List.mem_cons_self, h⟩
    · rcases bind_eq_error_iff.mp h with h | ⟨bs, -, h⟩
      · obtain ⟨c, hc, hfault⟩ := ih h
        exact ⟨c, List.mem_cons_of_mem _ hc, hfault⟩
      · cases h

theorem mapM_congr {f g : α → Except ε β} {l : List α} (h : ∀ a ∈ l, f a = g a) :
    l.mapM f = l.mapM g := by
  induction l with
  | nil => rfl
  | cons a l ih =>
    obtain ⟨ha, hl⟩ := List.forall_mem_cons.mp h
    rw [List.mapM_cons, List.mapM_cons, ha, ih hl]

/-- The steps for the first items come first. -/
theorem exists_prefix_of_mapM_eq_ok {f : α → Except ε β} {l l' : List α} {ys : List β}
    (hl : l <+: l') (h : l'.mapM f = .ok ys) : ∃ xs, l.mapM f = .ok xs ∧ xs <+: ys := by
  obtain ⟨rest, rfl⟩ := hl
  simp only [List.mapM_append, bind_eq_ok_iff] at h
  obtain ⟨xs, hxs, zs, -, hys⟩ := h
  exact ⟨xs, hxs, zs, Except.ok.inj hys⟩

/-- Results stand to each other as their items make them stand. -/
theorem pairwise_of_mapM_eq_ok {f : α → Except ε β} {l : List α} {ys : List β}
    {R : α → α → Prop} {S : β → β → Prop} (h : l.mapM f = .ok ys) (hl : l.Pairwise R)
    (hs : ∀ a ∈ l, ∀ b ∈ l, ∀ x y, R a b → f a = .ok x → f b = .ok y → S x y) :
    ys.Pairwise S := by
  rw [mapM_eq_ok_iff] at h
  induction h with
  | nil => exact .nil
  | @cons a x l ys hax h ih =>
    obtain ⟨hfirst, hrest⟩ := List.pairwise_cons.mp hl
    refine List.pairwise_cons.mpr ⟨fun y hy => ?_, ih hrest fun a ha b hb =>
      hs a (List.mem_cons_of_mem _ ha) b (List.mem_cons_of_mem _ hb)⟩
    obtain ⟨b, hb, hby⟩ := (mem_iff_of_mapM_eq_ok (mapM_eq_ok_iff.mpr h)).mp hy
    exact hs a List.mem_cons_self b (List.mem_cons_of_mem _ hb) x y (hfirst b hb) hax hby

section Meets

variable {fault : ε → Prop} {value : α → Prop} {x : Except ε α}

/-- A fault with the one property, or a value with the other. -/
def Meets (fault : ε → Prop) (value : α → Prop) : Except ε α → Prop
  | .error e => fault e
  | .ok a => value a

theorem Meets.of_error {e : ε} (h : Meets fault value x) (hx : x = .error e) : fault e := by
  rwa [hx] at h

theorem Meets.of_ok {a : α} (h : Meets fault value x) (hx : x = .ok a) : value a := by
  rwa [hx] at h

theorem Meets.bind {f : α → Except ε β} {next : β → Prop} (hx : Meets fault value x)
    (hf : ∀ a, value a → Meets fault next (f a)) : Meets fault next (x >>= f) := by
  cases x with
  | error e => exact hx
  | ok a => exact hf a hx

end Meets

end FileSeries.Outcome
