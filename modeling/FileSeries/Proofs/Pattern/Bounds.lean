import FileSeries.Pattern.Item
import FileSeries.Proofs.Pattern.Grammar
import Mathlib
/-!
Tokens read as bounds. Main statements: the tokens of a bound are read exactly if the bound is legal,
and give the sum of its integers; a row of bounds is read exactly if there are single colons between
them.
-/

namespace FileSeries.Pattern

/-- A bound with terms added to it. -/
def Bound.plus (b : Bound) (terms : List SignedTerm) : Bound :=
  ⟨b.anchored || terms.any SignedTerm.isAnchor, b.offset + total terms, b.position⟩

/-- The terms may be added to the bound, one after the other. -/
@[mk_iff]
structure Bound.Takes (b : Bound) (terms : List SignedTerm) : Prop where
  fits : ∀ front, front <+: terms → fitsOffset (b.offset + total front) = true
  added : ∀ x ∈ terms, x.isAnchor = true → x.minus = false
  once : b.anchored.toNat + terms.countP SignedTerm.isAnchor ≤ 1

namespace Bound

variable {b c : Bound} {x : SignedTerm} {terms : List SignedTerm} {unfinished : Spot}
  {minus : Bool} {t : Token} {tokens left : List Token}

theorem plus_cons : b.plus (x :: terms) = (b.plus [x]).plus terms := by
  simp [plus, total, Bool.or_assoc, add_assoc]

theorem fits_cons_iff {n : Int} :
    (∀ front, front <+: x :: terms → fitsOffset (n + total front) = true) ↔
      (∀ front, front <+: [x] → fitsOffset (n + total front) = true) ∧
        ∀ front, front <+: terms → fitsOffset (n + total [x] + total front) = true := by
  have hcons : ∀ front, total (x :: front) = total [x] + total front := by simp [total]
  constructor
  · refine fun h => ⟨fun front hfront => h front ?_, fun front hfront => ?_⟩
    · exact hfront.trans (List.prefix_append [x] terms)
    · rw [add_assoc, ← hcons]
      exact h (x :: front) (List.cons_prefix_cons.mpr ⟨rfl, hfront⟩)
  · rintro ⟨hfirst, hrest⟩ front hfront
    rcases List.prefix_cons_iff.mp hfront with rfl | ⟨front, rfl, hrear⟩
    · exact hfirst [] List.nil_prefix
    · rw [hcons, ← add_assoc]
      exact hrest front hrear

theorem takes_cons_iff : b.Takes (x :: terms) ↔ b.Takes [x] ∧ (b.plus [x]).Takes terms := by
  have honce : b.anchored.toNat + (x :: terms).countP SignedTerm.isAnchor ≤ 1 ↔
      b.anchored.toNat + [x].countP SignedTerm.isAnchor ≤ 1 ∧
        (b.plus [x]).anchored.toNat + terms.countP SignedTerm.isAnchor ≤ 1 := by
    simp only [plus, List.countP_cons, List.countP_nil, List.any_cons, List.any_nil, Bool.or_false]
    cases b.anchored <;> cases x.isAnchor <;> simp
  rw [takes_iff, takes_iff, takes_iff, fits_cons_iff, honce, List.forall_mem_cons,
    List.forall_mem_singleton]
  tauto

theorem takes_singleton_iff (hb : fitsOffset b.offset = true) : b.Takes [x] ↔
    (x.isAnchor = true → x.minus = false ∧ b.anchored = false) ∧
      fitsOffset (b.offset + x.summand) = true := by
  have hfits : (∀ front, front <+: [x] → fitsOffset (b.offset + total front) = true) ↔
      fitsOffset (b.offset + x.summand) = true := by
    simp [List.prefix_cons_iff, total, hb]
  have honce : b.anchored.toNat + [x].countP SignedTerm.isAnchor ≤ 1 ↔
      (x.isAnchor = true → b.anchored = false) := by
    rw [List.countP_singleton]
    cases b.anchored <;> cases x.isAnchor <;> simp
  simp only [takes_iff, hfits, honce, List.forall_mem_singleton]
  tauto

theorem addTerm_of_term {term : Term} (hb : fitsOffset b.offset = true) (ht : t.kind = term.kind) :
    b.addTerm minus t = .ok c ↔ b.Takes [⟨minus, term⟩] ∧ b.plus [⟨minus, term⟩] = c := by
  rw [takes_singleton_iff hb, addTerm, ht]
  cases term with
  | integer n =>
    have hsummand : (⟨minus, .integer n⟩ : SignedTerm).summand =
        if minus then -(n : Int) else n := rfl
    have hplus : b.plus [⟨minus, .integer n⟩] =
        { b with offset := b.offset + if minus then -(n : Int) else n } := by
      simp [plus, total, hsummand, SignedTerm.isAnchor]
    simp only [Term.kind, addOffsets?, hplus, hsummand]
    by_cases hfits : fitsOffset (b.offset + if minus then -(n : Int) else n) = true
    · simp [hfits, SignedTerm.isAnchor]
    · simp [hfits]
  | anchor =>
    have hplus : b.plus [⟨minus, .anchor⟩] = { b with anchored := true } := by
      simp [plus, total, SignedTerm.summand, SignedTerm.isAnchor]
    have hfits : fitsOffset (b.offset + (⟨minus, .anchor⟩ : SignedTerm).summand) = true := by
      simpa [SignedTerm.summand] using hb
    simp only [Term.kind, hplus, hfits, SignedTerm.isAnchor]
    cases minus <;> cases b.anchored <;> simp

theorem addTerm_eq_ok_iff (hb : fitsOffset b.offset = true) :
    b.addTerm minus t = .ok c ↔ ∃ term : Term, t.kind = term.kind ∧ b.Takes [⟨minus, term⟩] ∧
      b.plus [⟨minus, term⟩] = c := by
  constructor
  · intro h
    obtain ⟨term, ht⟩ : ∃ term : Term, t.kind = term.kind := by
      unfold addTerm at h
      split at h
      · exact ⟨.integer _, ‹_›⟩
      · exact ⟨.anchor, ‹_›⟩
      · simp at h
    exact ⟨term, ht, (addTerm_of_term hb ht).mp h⟩
  · rintro ⟨term, ht, h⟩
    exact (addTerm_of_term hb ht).mpr h

/-- There is no sign in front. -/
def Unsigned (tokens : List Token) : Prop :=
  ∀ t, tokens.head? = some t → ∀ minus, t.kind ≠ signKind minus

theorem readTerms_of_sign {s : Token} {next : Bool} (hs : s.kind = signKind next) :
    b.readTerms unfinished minus (t :: s :: tokens) =
      match b.addTerm minus t with
      | .error e => .error e
      | .ok b => b.readTerms unfinished next tokens := by
  obtain ⟨kind, position⟩ := s
  obtain rfl := hs
  rw [readTerms]
  cases next <;> rfl

theorem readTerms_of_unsigned (h : Unsigned left) :
    b.readTerms unfinished minus (t :: left) =
      match b.addTerm minus t with
      | .error e => .error e
      | .ok b => .ok (b, left) := by
  rw [readTerms]
  cases b.addTerm minus t with
  | error e => rfl
  | ok b =>
    cases left with
    | nil => rfl
    | cons s left =>
      obtain ⟨kind, position⟩ := s
      have hplus : kind ≠ .plus := h _ rfl false
      have hminus : kind ≠ .minus := h _ rfl true
      cases kind <;> first | rfl | contradiction

/-- The tokens before `left` are terms, the first one without its sign, and make `c` out of `b`. -/
def ReadsTerms (b : Bound) (minus : Bool) (tokens : List Token) (c : Bound) (left : List Token) :
    Prop :=
  ∃ first rest front, tokens = front ++ left ∧
    front.map (·.kind) = first.kind :: rest.flatMap SignedTerm.kinds ∧ Unsigned left ∧
    b.Takes (⟨minus, first⟩ :: rest) ∧ b.plus (⟨minus, first⟩ :: rest) = c

theorem fits_of_takes (h : b.Takes terms) : fitsOffset b.offset = true := by
  simpa [total] using h.fits [] List.nil_prefix

theorem fits_of_addTerm (hb : fitsOffset b.offset = true) (h : b.addTerm minus t = .ok c) :
    fitsOffset c.offset = true := by
  obtain ⟨term, -, htakes, rfl⟩ := (addTerm_eq_ok_iff hb).mp h
  exact htakes.fits _ List.prefix_rfl

theorem readsTerms_of_sign {b' : Bound} {s : Token} {next : Bool} (hb : fitsOffset b.offset = true)
    (hadd : b.addTerm minus t = .ok b') (hs : s.kind = signKind next)
    (h : b'.ReadsTerms next tokens c left) : b.ReadsTerms minus (t :: s :: tokens) c left := by
  obtain ⟨term, ht, htakes, rfl⟩ := (addTerm_eq_ok_iff hb).mp hadd
  obtain ⟨first, rest, front, rfl, hkinds, hleft, hrest, rfl⟩ := h
  refine ⟨term, ⟨next, first⟩ :: rest, t :: s :: front, rfl, ?_, hleft,
    takes_cons_iff.mpr ⟨htakes, hrest⟩, plus_cons⟩
  rw [List.map_cons, List.map_cons, ht, hs, hkinds]
  rfl

theorem readsTerms_of_readTerms (hb : fitsOffset b.offset = true)
    (h : b.readTerms unfinished minus tokens = .ok (c, left)) :
    b.ReadsTerms minus tokens c left := by
  fun_induction readTerms unfinished minus b tokens with
  | case1 => simp at h
  | case2 => simp at h
  | case3 minus b t b' hadd position tokens ih =>
    exact readsTerms_of_sign hb hadd rfl (ih (fits_of_addTerm hb hadd) h)
  | case4 minus b t b' hadd position tokens ih =>
    exact readsTerms_of_sign hb hadd rfl (ih (fits_of_addTerm hb hadd) h)
  | case5 minus b t b' hadd rest hplus hminus =>
    obtain ⟨rfl, rfl⟩ := Prod.mk.inj (Except.ok.inj h)
    obtain ⟨term, ht, htakes, rfl⟩ := (addTerm_eq_ok_iff hb).mp hadd
    refine ⟨term, [], [t], rfl, by simp [ht], ?_, htakes, rfl⟩
    rintro ⟨kind, position⟩ hs next rfl
    obtain ⟨rest, rfl⟩ := List.head?_eq_some_iff.mp hs
    cases next with
    | false => exact hplus position rest rfl
    | true => exact hminus position rest rfl

theorem readTerms_of_readsTerms (h : b.ReadsTerms minus tokens c left) :
    b.readTerms unfinished minus tokens = .ok (c, left) := by
  obtain ⟨first, rest, front, rfl, hkinds, hleft, htakes, rfl⟩ := h
  induction rest generalizing b minus first front with
  | nil =>
    obtain ⟨t, front, rfl, ht, hfront⟩ := List.map_eq_cons_iff.mp hkinds
    obtain rfl := List.map_eq_nil_iff.mp hfront
    have hadd := (addTerm_of_term (fits_of_takes htakes) ht).mpr ⟨htakes, rfl⟩
    rw [List.cons_append, List.nil_append, readTerms_of_unsigned hleft, hadd]
  | cons x rest ih =>
    obtain ⟨t, front, rfl, ht, hfront⟩ := List.map_eq_cons_iff.mp hkinds
    obtain ⟨s, front, rfl, hs, hfront⟩ := List.map_eq_cons_iff.mp hfront
    obtain ⟨hfirst, hrest⟩ := takes_cons_iff.mp htakes
    have hadd := (addTerm_of_term (fits_of_takes htakes) ht).mpr ⟨hfirst, rfl⟩
    have hplus : b.plus (⟨minus, first⟩ :: x :: rest) =
        (b.plus [⟨minus, first⟩]).plus (x :: rest) := plus_cons
    rw [List.cons_append, List.cons_append, readTerms_of_sign hs, hadd, hplus]
    exact ih _ _ hfront hrest

section Reading

variable {position : Nat} {e : BoundTree} {front : List Token}

theorem takes_terms_iff : (⟨false, 0, position⟩ : Bound).Takes e.terms ↔ e.Legal := by
  constructor
  · intro h
    exact ⟨fun front hfront => by simpa using h.fits front hfront, by simpa using h.once, h.added⟩
  · intro h
    exact ⟨fun front hfront => by simpa using h.fits front hfront, h.added, by simpa using h.once⟩

theorem plus_terms :
    (⟨false, 0, position⟩ : Bound).plus e.terms = ⟨e.anchored, e.offset, position⟩ := by
  simp [plus, BoundTree.anchored, BoundTree.offset]

theorem read_of_sign {s : Token} (hs : s.kind = signKind minus) :
    read unfinished position (s :: tokens) =
      (⟨false, 0, position⟩ : Bound).readTerms unfinished minus tokens := by
  obtain ⟨kind, position⟩ := s
  obtain rfl := hs
  cases minus <;> rfl

theorem read_of_term {term : Term} (ht : t.kind = term.kind) :
    read unfinished position (t :: tokens) =
      (⟨false, 0, position⟩ : Bound).readTerms unfinished false (t :: tokens) := by
  obtain ⟨kind, position⟩ := t
  obtain rfl := ht
  cases term <;> rfl

theorem exists_tree_of_readTerms (sign : Option Bool)
    (h : (⟨false, 0, position⟩ : Bound).readTerms unfinished (sign.getD false) tokens =
      .ok (c, left)) :
    ∃ (e : BoundTree) (front : List Token), tokens = front ++ left ∧
      (sign.map signKind).toList ++ front.map (·.kind) = e.kinds ∧ e.Legal ∧
      c = ⟨e.anchored, e.offset, position⟩ := by
  have hzero : fitsOffset 0 = true := by decide
  obtain ⟨first, rest, front, rfl, hkinds, -, htakes, rfl⟩ := readsTerms_of_readTerms hzero h
  have hlegal : (⟨sign, first, rest⟩ : BoundTree).Legal := takes_terms_iff.mp htakes
  refine ⟨⟨sign, first, rest⟩, front, rfl, ?_, hlegal, plus_terms (e := ⟨sign, first, rest⟩)⟩
  rw [hkinds]
  rfl

theorem read_sound (h : read unfinished position tokens = .ok (c, left)) :
    ∃ (e : BoundTree) (front : List Token), tokens = front ++ left ∧
      front.map (·.kind) = e.kinds ∧ e.Legal ∧ c = ⟨e.anchored, e.offset, position⟩ := by
  unfold read at h
  split at h
  case h_1 sign rest =>
    obtain ⟨e, front, rfl, hkinds, he⟩ := exists_tree_of_readTerms (some false) h
    exact ⟨e, ⟨.plus, sign⟩ :: front, rfl, hkinds, he⟩
  case h_2 sign rest =>
    obtain ⟨e, front, rfl, hkinds, he⟩ := exists_tree_of_readTerms (some true) h
    exact ⟨e, ⟨.minus, sign⟩ :: front, rfl, hkinds, he⟩
  case h_3 => exact exists_tree_of_readTerms none h

theorem read_complete (hkinds : front.map (·.kind) = e.kinds) (he : e.Legal)
    (hleft : Unsigned left) :
    read unfinished position (front ++ left) = .ok (⟨e.anchored, e.offset, position⟩, left) := by
  have hread : ∀ front : List Token,
      front.map (·.kind) = e.first.kind :: e.rest.flatMap SignedTerm.kinds →
      (⟨false, 0, position⟩ : Bound).readTerms unfinished (e.sign.getD false) (front ++ left) =
        .ok (⟨e.anchored, e.offset, position⟩, left) := fun front hfront =>
    readTerms_of_readsTerms
      ⟨e.first, e.rest, front, rfl, hfront, hleft, takes_terms_iff.mpr he, plus_terms⟩
  cases hsign : e.sign with
  | none =>
    rw [BoundTree.kinds, hsign] at hkinds
    obtain ⟨t, front, rfl, ht, -⟩ := List.map_eq_cons_iff.mp hkinds
    rw [hsign] at hread
    rw [List.cons_append, read_of_term ht]
    exact hread _ hkinds
  | some minus =>
    rw [BoundTree.kinds, hsign] at hkinds
    obtain ⟨s, front, rfl, hs, hfront⟩ := List.map_eq_cons_iff.mp hkinds
    rw [hsign] at hread
    rw [List.cons_append, read_of_sign hs]
    exact hread _ hfront

end Reading

end Bound

/-- A bound that was read from a legal tree. -/
structure Bound.IsOf (b : Bound) (e : BoundTree) : Prop where
  legal : e.Legal
  anchored : b.anchored = e.anchored
  offset : b.offset = e.offset

section Row

variable {unfinished : Spot} {tokens left front : List Token} {s t : Token} {b : Bound}
  {bounds : List (Option Bound)} {trees : List (Option BoundTree)}

/-- The tokens are a row of bounds with colons between them. -/
structure RowOf (tokens : List Token) (bounds : List (Option Bound))
    (trees : List (Option BoundTree)) : Prop where
  nonempty : trees ≠ []
  kinds : tokens.map (·.kind) = List.intercalate [.colon] (trees.map ItemTree.boundKinds)
  bounds : List.Forall₂ (Option.Rel Bound.IsOf) bounds trees

theorem rowOf_singleton {b : Option Bound} {e : Option BoundTree}
    (hfront : front.map (·.kind) = ItemTree.boundKinds e) (hb : Option.Rel Bound.IsOf b e) :
    RowOf front [b] [e] :=
  ⟨List.cons_ne_nil _ _, by rw [hfront, List.map_singleton, List.intercalate_singleton],
    .cons hb .nil⟩

theorem RowOf.cons {b : Option Bound} {e : Option BoundTree} (h : RowOf tokens bounds trees)
    (hs : s.kind = .colon) (hfront : front.map (·.kind) = ItemTree.boundKinds e)
    (hb : Option.Rel Bound.IsOf b e) : RowOf (front ++ s :: tokens) (b :: bounds) (e :: trees) := by
  have hne : trees.map ItemTree.boundKinds ≠ [] := mt List.map_eq_nil_iff.mp h.nonempty
  refine ⟨List.cons_ne_nil _ _, ?_, .cons hb h.bounds⟩
  rw [List.map_append, List.map_cons, hfront, hs, h.kinds, List.map_cons,
    List.intercalate_cons_of_ne_nil hne, List.append_assoc, List.singleton_append]

theorem readBounds_sound (h : readBounds unfinished tokens = .ok (bounds, [])) :
    ∃ trees, RowOf tokens bounds trees := by
  fun_induction readBounds unfinished tokens generalizing bounds with
  | case1 =>
    obtain ⟨rfl, -⟩ := Prod.mk.inj (Except.ok.inj h)
    exact ⟨[none], rowOf_singleton rfl .none⟩
  | case3 position tokens bounds' left hrest ih =>
    obtain ⟨rfl, rfl⟩ := Prod.mk.inj (Except.ok.inj h)
    obtain ⟨trees, htrees⟩ := ih hrest
    exact ⟨none :: trees, RowOf.cons htrees (s := ⟨.colon, position⟩) rfl List.map_nil .none⟩
  | case6 t tokens ht b position rest hread bounds' left hrest ih =>
    obtain ⟨rfl, rfl⟩ := Prod.mk.inj (Except.ok.inj h)
    obtain ⟨trees, htrees⟩ := ih hrest
    obtain ⟨e, front, htokens, hkinds, he, rfl⟩ := Bound.read_sound hread
    rw [htokens]
    exact ⟨some e :: trees, htrees.cons rfl hkinds (.some ⟨he, rfl, rfl⟩)⟩
  | case7 t tokens ht b left hleft hread =>
    obtain ⟨rfl, rfl⟩ := Prod.mk.inj (Except.ok.inj h)
    obtain ⟨e, front, htokens, hkinds, he, rfl⟩ := Bound.read_sound hread
    rw [htokens, List.append_nil]
    exact ⟨[some e], rowOf_singleton hkinds (.some ⟨he, rfl, rfl⟩)⟩
  | _ => simp at h

theorem readBounds_of_colon (hs : s.kind = .colon)
    (h : readBounds unfinished tokens = .ok (bounds, left)) :
    readBounds unfinished (s :: tokens) = .ok (none :: bounds, left) := by
  obtain ⟨kind, position⟩ := s
  obtain rfl := hs
  rw [readBounds, h]

theorem readBounds_of_read (ht : t.kind ≠ .colon)
    (h : Bound.read unfinished t.position (t :: tokens) = .ok (b, [])) :
    readBounds unfinished (t :: tokens) = .ok ([some b], []) := by
  have hcolon : ∀ position, t = ⟨.colon, position⟩ → False := fun _ heq => ht (heq ▸ rfl)
  rw [readBounds.eq_3 _ _ _ hcolon]
  split <;> simp_all

theorem readBounds_of_read_colon (ht : t.kind ≠ .colon) (hs : s.kind = .colon)
    (h : Bound.read unfinished t.position (t :: tokens) = .ok (b, s :: front))
    (hrest : readBounds unfinished front = .ok (bounds, left)) :
    readBounds unfinished (t :: tokens) = .ok (some b :: bounds, left) := by
  obtain ⟨kind, position⟩ := s
  obtain rfl := hs
  have hcolon : ∀ position, t = ⟨.colon, position⟩ → False := fun _ heq => ht (heq ▸ rfl)
  rw [readBounds.eq_3 _ _ _ hcolon]
  split <;> simp_all

theorem exists_front_of_kinds {e : BoundTree} (h : front.map (·.kind) = e.kinds) :
    ∃ t tokens, front = t :: tokens ∧ t.kind ≠ .colon := by
  obtain ⟨sign, first, rest⟩ := e
  cases sign with
  | none =>
    obtain ⟨t, tokens, rfl, ht, -⟩ := List.map_eq_cons_iff.mp h
    exact ⟨t, tokens, rfl, by rw [ht]; cases first <;> simp [Term.kind]⟩
  | some minus =>
    obtain ⟨t, tokens, rfl, ht, -⟩ := List.map_eq_cons_iff.mp h
    exact ⟨t, tokens, rfl, by rw [ht]; cases minus <;> decide⟩

theorem readBounds_complete (unfinished : Spot) (hne : trees ≠ [])
    (hkinds : tokens.map (·.kind) = List.intercalate [.colon] (trees.map ItemTree.boundKinds))
    (hlegal : ∀ e, some e ∈ trees → e.Legal) :
    ∃ bounds, readBounds unfinished tokens = .ok (bounds, []) ∧
      List.Forall₂ (Option.Rel Bound.IsOf) bounds trees := by
  induction trees generalizing tokens with
  | nil => exact absurd rfl hne
  | cons e trees ih =>
    cases trees with
    | nil =>
      rw [List.map_singleton, List.intercalate_singleton] at hkinds
      cases e with
      | none =>
        obtain rfl := List.map_eq_nil_iff.mp hkinds
        exact ⟨[none], by rw [readBounds], .cons .none .nil⟩
      | some e =>
        obtain ⟨t, tokens, rfl, ht⟩ := exists_front_of_kinds hkinds
        have he := hlegal e List.mem_cons_self
        have hread : Bound.read unfinished t.position (t :: tokens ++ []) = .ok (_, []) :=
          Bound.read_complete hkinds he fun u hu => absurd hu (by simp)
        rw [List.append_nil] at hread
        exact ⟨_, readBounds_of_read ht hread, .cons (.some ⟨he, rfl, rfl⟩) .nil⟩
    | cons e' trees =>
      rw [List.map_cons, List.map_cons, List.intercalate_cons_cons, List.append_assoc,
        List.singleton_append, List.map_eq_append_iff] at hkinds
      obtain ⟨front, rear, rfl, hfront, hrear⟩ := hkinds
      obtain ⟨s, tokens, rfl, hs, htokens⟩ := List.map_eq_cons_iff.mp hrear
      obtain ⟨bounds, hbounds, hall⟩ := ih (List.cons_ne_nil _ _) htokens fun e he =>
        hlegal e (List.mem_cons_of_mem _ he)
      cases e with
      | none =>
        obtain rfl := List.map_eq_nil_iff.mp hfront
        exact ⟨none :: bounds, readBounds_of_colon hs hbounds, .cons .none hall⟩
      | some e =>
        obtain ⟨t, front, rfl, ht⟩ := exists_front_of_kinds hfront
        have hunsigned : Bound.Unsigned (s :: tokens) := by
          rintro u hu minus
          obtain rfl := Option.some.inj hu
          rw [hs]
          cases minus <;> decide
        have he := hlegal e List.mem_cons_self
        have hread : Bound.read unfinished t.position (t :: front ++ s :: tokens) =
            .ok (_, s :: tokens) := Bound.read_complete hfront he hunsigned
        exact ⟨_, readBounds_of_read_colon ht hs hread hbounds, .cons (.some ⟨he, rfl, rfl⟩) hall⟩

end Row

end FileSeries.Pattern
