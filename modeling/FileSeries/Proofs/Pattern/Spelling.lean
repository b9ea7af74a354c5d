import FileSeries.Proofs.Outcome
import FileSeries.Proofs.Pattern.Grammar
import Mathlib
/-!
Texts read as tokens. Main statements: a text that is read spells its tokens, and a text that spells
tokens is read as them if no two terms stand side by side.
-/

namespace FileSeries

namespace Text

theorem Ranges.exists_of_holds {c : Char} {ranges : Ranges} (h : ranges.holds c = true) :
    ∃ x ∈ ranges, x.1 ≤ c.toNat ∧ c.toNat ≤ x.2 := by
  induction ranges with
  | nil => simp [Ranges.holds] at h
  | cons x ranges ih =>
    obtain ⟨low, high⟩ := x
    simp only [Ranges.holds, Bool.and_eq_true, Bool.or_eq_true, decide_eq_true_eq] at h
    obtain ⟨hlow, hhigh | hrest⟩ := h
    · exact ⟨_, List.mem_cons_self, hlow, hhigh⟩
    · obtain ⟨x, hx, hc⟩ := ih hrest
      exact ⟨x, List.mem_cons_of_mem _ hx, hc⟩

theorem Ranges.not_holds_of_apart {c : Char} {a b : Ranges} (h : a.holds c = true)
    (hab : ∀ x ∈ a, ∀ y ∈ b, x.2 < y.1 ∨ y.2 < x.1) : b.holds c = false := by
  by_contra hb
  obtain ⟨x, hx, hlow, hhigh⟩ := exists_of_holds h
  obtain ⟨y, hy, hlow', hhigh'⟩ := exists_of_holds ((Bool.not_eq_false _).mp hb)
  have := hab x hx y hy
  omega

theorem not_isAlphanumeric_of_isBlank {c : Char} (h : isBlank c = true) :
    isAlphanumeric c = false :=
  Ranges.not_holds_of_apart h (by decide +kernel)

theorem not_isBlank_of_isDigit {c : Char} (h : c.isDigit = true) : isBlank c = false := by
  have hc : 48 ≤ c.toNat ∧ c.toNat ≤ 57 := Char.isDigit_iff_toNat.mp h
  have hdigits : Ranges.holds c [(48, 57)] = true := by simp [Ranges.holds, hc]
  exact Ranges.not_holds_of_apart hdigits (by decide)

end Text

namespace Pattern

/-- Tokens that stand for a number. -/
def TokenKind.isTerm : TokenKind → Bool
  | integer _ | anchor => true
  | _ => false

/-- No two terms stand side by side. Texts such as `i2` spell two terms but are read as one word. -/
def Apart (kinds : List TokenKind) : Prop :=
  kinds.IsChain fun k k' => k.isTerm = true → k'.isTerm = false

section Marks

variable {c d : Char} {symbol : Symbol} {kind : TokenKind}

theorem not_isBlank_of_ofChar? (h : Symbol.ofChar? c = some symbol) : Text.isBlank c = false := by
  unfold Symbol.ofChar? at h
  split at h <;> first | decide | simp at h

theorem not_isDigit_of_ofChar? (h : Symbol.ofChar? c = some symbol) : c.isDigit = false := by
  unfold Symbol.ofChar? at h
  split at h <;> first | decide | simp at h

theorem not_isWordPart_of_ofChar? (h : Symbol.ofChar? c = some (.inner kind))
    (hkind : kind.isTerm = false) : isWordPart c = false := by
  unfold Symbol.ofChar? at h
  split at h
  case h_5 =>
    obtain rfl := Symbol.inner.inj (Option.some.inj h)
    cases hkind
  all_goals first | decide | simp at h

theorem not_isWordPart_of_isBlank (h : Text.isBlank c = true) : isWordPart c = false := by
  have hother : c ≠ '_' ∧ c ≠ '.' := by
    constructor <;> (rintro rfl; exact absurd h (by decide))
  simp [isWordPart, Text.not_isAlphanumeric_of_isBlank h, hother]

theorem continues_eq_false (hc : Symbol.ofChar? c = some (.inner kind))
    (hd : kind.isTerm = true → isWordPart d = false) : continues c d = false := by
  rw [continues, not_isDigit_of_ofChar? hc]
  cases hkind : kind.isTerm with
  | false => simp [not_isWordPart_of_ofChar? hc hkind]
  | true =>
    by_cases hword : isWordPart c = true
    · simpa [hword] using hd hkind
    · simp [hword]

end Marks

theorem Lexeme.token_eq_ok_iff {l : Lexeme} {t : Token} :
    l.token = .ok t ↔ t.position = l.position ∧
      ((∃ c, l.text = [c] ∧ Symbol.ofChar? c = some (.inner t.kind)) ∨
        l.text.all Char.isDigit = true ∧ (Decimal.value l.text : Int) ≤ maxOffset ∧
          t.kind = .integer (Decimal.value l.text)) := by
  obtain ⟨text, position⟩ := l
  obtain ⟨kind, position'⟩ := t
  unfold Lexeme.token
  split
  case h_5 hplus hminus hcolon hanchor =>
    have hmark : ¬∃ c, text = [c] ∧ Symbol.ofChar? c = some (.inner kind) := by
      rintro ⟨c, rfl, hc⟩
      unfold Symbol.ofChar? at hc
      split at hc <;> simp_all
    simp only [hmark, false_or]
    by_cases hdigits : text.all Char.isDigit = true
    · by_cases hfits : (Decimal.value text : Int) ≤ maxOffset
      · simp only [hdigits, hfits, if_true, Except.ok.injEq, Token.mk.injEq, true_and]
        exact ⟨fun h => ⟨h.2.symm, h.1.symm⟩, fun h => ⟨h.2.symm, h.1.symm⟩⟩
      · simp [hdigits, hfits]
    · simp [hdigits]
  all_goals
    rename_i heq
    simp only at heq
    subst heq
    simp [Symbol.ofChar?, eq_comm, and_comm]

theorem lexemes_of_run {c : Char} {run rest : List Char} (position : Nat)
    (hc : Text.isBlank c = false) (hrun : ∀ d ∈ run, continues c d = true)
    (hend : ∀ d, rest.head? = some d → continues c d = false) :
    lexemes position (c :: (run ++ rest)) =
      ⟨c :: run, position⟩ :: lexemes (position + byteSize (c :: run)) rest := by
  have hstop : rest.takeWhile (continues c) = [] ∧ rest.dropWhile (continues c) = rest := by
    cases rest with
    | nil => exact ⟨rfl, rfl⟩
    | cons d rest => simp [hend d rfl]
  rw [lexemes, hc, List.takeWhile_append_of_pos hrun, List.dropWhile_append_of_pos hrun, hstop.1,
    hstop.2, List.append_nil]
  rfl

theorem spells_of_lexemes {position : Nat} {text : List Char} {tokens : List Token}
    (h : (lexemes position text).mapM Lexeme.token = .ok tokens) :
    Spells text (tokens.map (.inner ·.kind)) := by
  fun_induction lexemes position text generalizing tokens with
  | case1 =>
    obtain rfl := Except.ok.inj h
    exact .nil
  | case2 position c rest hc ih => exact .blank hc (ih h)
  | case3 position c rest hc text =>
    rename_i ih
    rw [Outcome.mapM_eq_ok_iff, List.forall₂_cons_left_iff] at h
    obtain ⟨t, tokens, ht, hrest, rfl⟩ := h
    have hspells := ih (Outcome.mapM_eq_ok_iff.mpr hrest)
    have hwhole : rest.takeWhile (continues c) ++ rest.dropWhile (continues c) = rest :=
      List.takeWhile_append_dropWhile
    obtain ⟨-, ⟨d, hd, hmark⟩ | ⟨hdigits, hfits, hkind⟩⟩ := Lexeme.token_eq_ok_iff.mp ht
    · obtain ⟨rfl, hnil⟩ := List.cons.inj hd
      rw [hnil, List.nil_append] at hwhole
      rw [hwhole] at hspells
      exact .mark hmark hspells
    · have hdigit := List.all_eq_true.mp hdigits
      have hclass : continues c = Char.isDigit := if_pos (hdigit c List.mem_cons_self)
      have hend : ∀ d, (rest.dropWhile (continues c)).head? = some d → d.isDigit = false := by
        intro d hd
        have hnot := List.head?_dropWhile_not (continues c) rest
        rw [hd] at hnot
        simpa [hclass] using hnot
      rw [List.map_cons, hkind, ← hwhole, ← List.cons_append]
      exact .number ⟨List.cons_ne_nil _ _, hdigit⟩ hend hfits hspells

theorem not_isWordPart_of_spells {text : List Char} {kinds : List TokenKind}
    (h : Spells text (kinds.map .inner)) (hkinds : ∀ k, kinds.head? = some k → k.isTerm = false)
    {c : Char} (hc : text.head? = some c) : isWordPart c = false := by
  generalize hsymbols : kinds.map Symbol.inner = symbols at h
  have hhead : ∀ k rest, .inner k :: rest = symbols → k.isTerm = false := by
    rintro k rest rfl
    obtain ⟨k', kinds, rfl, hk, -⟩ := List.map_eq_cons_iff.mp hsymbols
    obtain rfl := Symbol.inner.inj hk
    exact hkinds k' rfl
  cases h with
  | nil => simp at hc
  | blank hblank h =>
    obtain rfl := Option.some.inj hc
    exact not_isWordPart_of_isBlank hblank
  | @mark d symbol text symbols hmark h =>
    obtain rfl := Option.some.inj hc
    obtain ⟨k, kinds, -, rfl, -⟩ := List.map_eq_cons_iff.mp hsymbols
    exact not_isWordPart_of_ofChar? hmark (hhead k symbols rfl)
  | number hrun hend hfits h => simpa [TokenKind.isTerm] using hhead _ _ rfl

theorem exists_tokens_of_spells {text : List Char} {kinds : List TokenKind}
    (h : Spells text (kinds.map .inner)) (hkinds : Apart kinds) (position : Nat) :
    ∃ tokens, (lexemes position text).mapM Lexeme.token = .ok tokens ∧
      tokens.map (·.kind) = kinds := by
  generalize hsymbols : kinds.map Symbol.inner = symbols at h
  induction h generalizing kinds position with
  | nil =>
    obtain rfl := List.map_eq_nil_iff.mp hsymbols
    exact ⟨[], by rw [lexemes]; rfl, rfl⟩
  | @blank c text symbols hc h ih =>
    rw [lexemes, if_pos hc]
    exact ih hkinds _ hsymbols
  | @mark c symbol text symbols hc h ih =>
    obtain ⟨k, kinds, rfl, rfl, rfl⟩ := List.map_eq_cons_iff.mp hsymbols
    obtain ⟨hnext, hrest⟩ := List.isChain_cons.mp hkinds
    -- After `i` no term follows, so that the word ends here.
    have hend : ∀ d, text.head? = some d → continues c d = false := fun d hd =>
      continues_eq_false hc fun hk => not_isWordPart_of_spells h (fun k' hk' => hnext k' hk' hk) hd
    have hlexemes :=
      lexemes_of_run position (not_isBlank_of_ofChar? hc) (List.forall_mem_nil _) hend
    obtain ⟨tokens, htokens, rfl⟩ := ih hrest (position + byteSize [c]) rfl
    refine ⟨⟨k, position⟩ :: tokens, ?_, rfl⟩
    rw [List.nil_append] at hlexemes
    rw [hlexemes, Outcome.mapM_eq_ok_iff]
    exact .cons (Lexeme.token_eq_ok_iff.mpr ⟨rfl, .inl ⟨c, rfl, hc⟩⟩)
      (Outcome.mapM_eq_ok_iff.mp htokens)
  | @number run text symbols hrun hend hfits h ih =>
    obtain ⟨k, kinds, rfl, hk, rfl⟩ := List.map_eq_cons_iff.mp hsymbols
    obtain rfl := Symbol.inner.inj hk
    obtain ⟨-, hrest⟩ := List.isChain_cons.mp hkinds
    obtain ⟨c, run, rfl⟩ := List.exists_cons_of_ne_nil hrun.nonempty
    obtain ⟨hc, hdigits⟩ := List.forall_mem_cons.mp hrun.digits
    have hclass : continues c = Char.isDigit := if_pos hc
    have hlexemes := lexemes_of_run position (Text.not_isBlank_of_isDigit hc)
      (hclass ▸ hdigits) (hclass ▸ hend)
    obtain ⟨tokens, htokens, rfl⟩ := ih hrest (position + byteSize (c :: run)) rfl
    refine ⟨⟨.integer (Decimal.value (c :: run)), position⟩ :: tokens, ?_, rfl⟩
    rw [List.cons_append, hlexemes, Outcome.mapM_eq_ok_iff]
    refine .cons (Lexeme.token_eq_ok_iff.mpr ⟨rfl, .inr ⟨?_, hfits, rfl⟩⟩)
      (Outcome.mapM_eq_ok_iff.mp htokens)
    exact List.all_eq_true.mpr hrun.digits

/-- Rows with separators between them are chains if the rows are. -/
theorem isChain_intercalate {α : Type} {R : α → α → Prop} {sep : α} (hsep : ∀ a, R a sep ∧ R sep a)
    {rows : List (List α)} (h : ∀ row ∈ rows, row.IsChain R) :
    (List.intercalate [sep] rows).IsChain R := by
  induction rows with
  | nil => exact .nil
  | cons row rows ih =>
    obtain ⟨hrow, hrows⟩ := List.forall_mem_cons.mp h
    cases rows with
    | nil => simpa using hrow
    | cons row' rows =>
      rw [List.intercalate_cons_cons, List.append_assoc, List.singleton_append]
      refine hrow.append ((ih hrows).cons fun b _ => (hsep b).2) fun a _ b hb => ?_
      obtain rfl := Option.some.inj hb
      exact (hsep a).1

section Kinds

theorem signKind_isTerm (minus : Bool) : (signKind minus).isTerm = false := by
  cases minus <;> rfl

theorem apart_cons_of_not_isTerm {k : TokenKind} {tail : List TokenKind} (hk : k.isTerm = false)
    (h : Apart tail) : Apart (k :: tail) :=
  h.cons fun _ _ hterm => absurd hterm (by simp [hk])

theorem apart_terms (first : Term) (rest : List SignedTerm) :
    Apart (first.kind :: rest.flatMap SignedTerm.kinds) := by
  induction rest generalizing first with
  | nil => exact .singleton _
  | cons x rest ih =>
    have htail := apart_cons_of_not_isTerm (signKind_isTerm x.minus) (ih x.term)
    refine htail.cons fun k hk _ => ?_
    obtain rfl := Option.some.inj hk
    exact signKind_isTerm x.minus

theorem apart_boundKinds (e : Option BoundTree) : Apart (ItemTree.boundKinds e) := by
  cases e with
  | none => exact .nil
  | some e =>
    have hterms := apart_terms e.first e.rest
    obtain ⟨_ | minus, first, rest⟩ := e
    · exact hterms
    · exact apart_cons_of_not_isTerm (signKind_isTerm minus) hterms

theorem apart_intercalate (trees : List (Option BoundTree)) :
    Apart (List.intercalate [.colon] (trees.map ItemTree.boundKinds)) := by
  refine isChain_intercalate (fun k => ⟨fun _ => rfl, fun h => absurd h (by decide)⟩) ?_
  intro row hrow
  obtain ⟨e, -, rfl⟩ := List.mem_map.mp hrow
  exact apart_boundKinds e

theorem ItemTree.spells_symbols_iff {e : ItemTree} {text : List Char} (position : Nat) :
    (∃ tokens, (lexemes position text).mapM Lexeme.token = .ok tokens ∧
      tokens.map (·.kind) = e.kinds) ↔ Spells text e.symbols := by
  constructor
  · rintro ⟨tokens, htokens, hkinds⟩
    rw [symbols, ← hkinds, List.map_map]
    exact spells_of_lexemes htokens
  · intro h
    exact exists_tokens_of_spells h (apart_intercalate e.parts) position

end Kinds

end Pattern

end FileSeries
