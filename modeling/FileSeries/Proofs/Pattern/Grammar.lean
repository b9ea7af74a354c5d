import FileSeries.Pattern.Token
import FileSeries.Proofs.DigitRuns
import FileSeries.Selector
import Mathlib
/-!
The notation of patterns as a grammar. A text spells symbols, items are syntax trees that are written
with these symbols, and a tree that follows the rules stands for a selector. Main statement: a text
spells a row of items with commas between them exactly if its pieces between commas spell the items.
-/

namespace FileSeries.Pattern

/-- A token inside an item, or the comma between two items. -/
inductive Symbol where
  | inner (kind : TokenKind)
  | comma
  deriving DecidableEq

/-- The symbol that one character stands for. -/
def Symbol.ofChar? : Char → Option Symbol
  | '+' => some (.inner .plus)
  | '-' => some (.inner .minus)
  | ':' => some (.inner .colon)
  | ',' => some .comma
  | 'i' => some (.inner .anchor)
  | _ => none

/-- The symbols of a text. White space stands for nothing, but ends a run of digits; a run is as long
as can be, and its value is an offset. -/
inductive Spells : List Char → List Symbol → Prop where
  | nil : Spells [] []
  | blank {c : Char} {text : List Char} {symbols : List Symbol} (hc : Text.isBlank c = true)
    (h : Spells text symbols) : Spells (c :: text) symbols
  | mark {c : Char} {symbol : Symbol} {text : List Char} {symbols : List Symbol}
    (hc : Symbol.ofChar? c = some symbol) (h : Spells text symbols) :
    Spells (c :: text) (symbol :: symbols)
  | number {run text : List Char} {symbols : List Symbol} (hrun : Decimal.IsRun run)
    (hend : ∀ c, text.head? = some c → c.isDigit = false)
    (hfits : (Decimal.value run : Int) ≤ maxOffset) (h : Spells text symbols) :
    Spells (run ++ text) (.inner (.integer (Decimal.value run)) :: symbols)

inductive Term where
  | integer (n : Nat)
  | anchor
  deriving DecidableEq

def Term.kind : Term → TokenKind
  | integer n => .integer n
  | anchor => .anchor

def signKind (minus : Bool) : TokenKind := if minus then .minus else .plus

/-- A term that is added, or taken away after a minus sign. -/
structure SignedTerm where
  minus : Bool
  term : Term
  deriving DecidableEq

namespace SignedTerm

def kinds (x : SignedTerm) : List TokenKind := [signKind x.minus, x.term.kind]

def isAnchor (x : SignedTerm) : Bool := x.term = .anchor

/-- What a term adds to the sum of the integers. -/
def summand (x : SignedTerm) : Int :=
  match x.term with
  | .integer n => if x.minus then -n else n
  | .anchor => 0

end SignedTerm

/-- The sum of the integers among terms. -/
def total (terms : List SignedTerm) : Int := (terms.map SignedTerm.summand).sum

/-- A bound: `sign? term (sign term)*`. -/
structure BoundTree where
  sign : Option Bool
  first : Term
  rest : List SignedTerm
  deriving DecidableEq

namespace BoundTree

def kinds (b : BoundTree) : List TokenKind :=
  (b.sign.map signKind).toList ++ b.first.kind :: b.rest.flatMap SignedTerm.kinds

def terms (b : BoundTree) : List SignedTerm := ⟨b.sign.getD false, b.first⟩ :: b.rest

def offset (b : BoundTree) : Int := total b.terms

def anchored (b : BoundTree) : Bool := b.terms.any SignedTerm.isAnchor

/-- The rules for a bound: all sums from the left are offsets, and the anchor occurs at most once and
never after a minus sign. -/
structure Legal (b : BoundTree) : Prop where
  fits : ∀ front, front <+: b.terms → fitsOffset (total front) = true
  once : b.terms.countP SignedTerm.isAnchor ≤ 1
  added : ∀ x ∈ b.terms, x.isAnchor = true → x.minus = false

end BoundTree

/-- An item: `bound`, `bound? : bound?` or `bound? : bound? : bound?`. -/
inductive ItemTree where
  | single (b : BoundTree)
  | slice (start stop : Option BoundTree)
  | stepped (start stop step : Option BoundTree)
  deriving DecidableEq

/-- The rules for a slice: its step is a positive integer, and both its ends use the anchor or
neither does. -/
@[mk_iff]
structure SliceRules (start stop step : Option BoundTree) : Prop where
  step : ∀ b ∈ step, b.anchored = false ∧ 1 ≤ b.offset
  ends : ((∀ b ∈ start, b.anchored = false) ∧ ∀ b ∈ stop, b.anchored = false) ∨
    (∃ b ∈ start, b.anchored = true) ∧ ∃ b ∈ stop, b.anchored = true

/-- What a slice stands for. -/
def sliceSelector (start stop step : Option BoundTree) : Selector :=
  let step := (step.map (·.offset.toNat)).getD 1
  if start.any (·.anchored) then
    .window ((start.map (·.offset)).getD 0) ((stop.map (·.offset)).getD 0) step
  else .slice ((start.map (·.offset)).getD 0) (stop.map (·.offset)) step

namespace ItemTree

/-- The bounds of an item, the absent ones too. -/
def parts : ItemTree → List (Option BoundTree)
  | single b => [some b]
  | slice start stop => [start, stop]
  | stepped start stop step => [start, stop, step]

def boundKinds (b : Option BoundTree) : List TokenKind := (b.map BoundTree.kinds).getD []

def kinds (e : ItemTree) : List TokenKind :=
  List.intercalate [.colon] (e.parts.map boundKinds)

def usesAnchor (e : ItemTree) : Bool := e.parts.any (·.any (·.anchored))

/-- The rules for an item beyond those for its bounds. An index is not negative, and the end of an
index with the anchor is an offset too. -/
def Rules : ItemTree → Prop
  | single b => if b.anchored then b.offset < maxOffset else 0 ≤ b.offset
  | slice start stop => SliceRules start stop none
  | stepped start stop step => SliceRules start stop step

structure Legal (e : ItemTree) : Prop where
  bounds : ∀ b, some b ∈ e.parts → b.Legal
  rules : e.Rules

/-- What an item stands for. -/
def selector : ItemTree → Selector
  | single b =>
    if b.anchored then .window b.offset (b.offset + 1) 1 else .fixed b.offset.toNat
  | slice start stop => sliceSelector start stop none
  | stepped start stop step => sliceSelector start stop step

/-- The symbols of one item. -/
def symbols (e : ItemTree) : List Symbol := e.kinds.map .inner

end ItemTree

/-- A text is a pattern with these items. -/
structure Reads (text : List Char) (items : List ItemTree) : Prop where
  nonempty : items ≠ []
  spells : Spells text (List.intercalate [.comma] (items.map ItemTree.symbols))
  legal : ∀ e ∈ items, e.Legal
  once : items.countP ItemTree.usesAnchor ≤ 1

theorem ofChar?_eq_some_comma_iff {c : Char} : Symbol.ofChar? c = some .comma ↔ c = ',' := by
  unfold Symbol.ofChar?
  split <;> simp_all

/-- No run of digits goes on from one text into the next. -/
def Parted (a b : List Char) : Prop :=
  ∀ c ∈ a.getLast?, ∀ d ∈ b.head?, c.isDigit = true → d.isDigit = false

namespace Spells

variable {text a b : List Char} {symbols x y : List Symbol}

theorem join (ha : Spells a x) (hcut : Parted a b) (hb : Spells b y) : Spells (a ++ b) (x ++ y) := by
  induction ha with
  | nil => exact hb
  | blank hc h ih => exact .blank hc (ih fun d hd => hcut d (List.mem_getLast?_cons hd))
  | mark hc h ih => exact .mark hc (ih fun d hd => hcut d (List.mem_getLast?_cons hd))
  | @number run text symbols hrun hnext hfits h ih =>
    rw [List.append_assoc]
    refine .number hrun (fun c hc => ?_) hfits
      (ih fun d hd => hcut d (List.mem_getLast?_append_of_mem_getLast? hd))
    cases text with
    | nil =>
      rw [List.append_nil] at hcut
      have hlast := hrun.digits _ (List.getLast_mem hrun.nonempty)
      exact hcut _ (List.getLast_mem_getLast? hrun.nonempty) c hc hlast
    | cons d text => exact hnext c hc

theorem append (ha : Spells a x) (hb : Spells b y)
    (hend : ∀ c, b.head? = some c → c.isDigit = false) : Spells (a ++ b) (x ++ y) :=
  ha.join (fun _ _ d hd _ => hend d hd) hb

theorem append_comma (ha : Spells a x) (hb : Spells b y) :
    Spells (a ++ ',' :: b) (x ++ .comma :: y) :=
  ha.append (.mark rfl hb) fun _ hc => Option.some.inj hc ▸ rfl

theorem blanks_append {blanks : List Char} (hblanks : ∀ c ∈ blanks, Text.isBlank c = true)
    (h : Spells text symbols) : Spells (blanks ++ text) symbols := by
  induction blanks with
  | nil => exact h
  | cons c blanks ih =>
    obtain ⟨hc, hblanks⟩ := List.forall_mem_cons.mp hblanks
    exact .blank hc (ih hblanks)

theorem comma_not_mem (h : Spells text symbols) (hsymbols : .comma ∉ symbols) : ',' ∉ text := by
  induction h with
  | nil => exact List.not_mem_nil
  | blank hc h ih =>
    rintro (_ | ⟨_, hmem⟩)
    · exact absurd hc (by decide)
    · exact ih hsymbols hmem
  | mark hc h ih =>
    rw [List.mem_cons, not_or] at hsymbols
    rintro (_ | ⟨_, hmem⟩)
    · exact hsymbols.1 (Option.some.inj hc)
    · exact ih hsymbols.2 hmem
  | number hrun hend hfits h ih =>
    rw [List.mem_cons, not_or] at hsymbols
    rw [List.mem_append, not_or]
    exact ⟨fun hmem => absurd (hrun.digits _ hmem) (by decide), ih hsymbols.2⟩

theorem exists_pieces (h : Spells text (x ++ .comma :: y)) :
    ∃ a b, text = a ++ ',' :: b ∧ Spells a x ∧ Spells b y := by
  generalize hsymbols : x ++ .comma :: y = symbols at h
  induction h generalizing x with
  | nil => simp at hsymbols
  | @blank c text symbols hc h ih =>
    obtain ⟨a, b, rfl, ha, hb⟩ := ih hsymbols
    exact ⟨c :: a, b, rfl, .blank hc ha, hb⟩
  | @mark c symbol text symbols hc h ih =>
    cases x with
    | nil =>
      obtain ⟨rfl, rfl⟩ := List.cons.inj hsymbols
      obtain rfl := ofChar?_eq_some_comma_iff.mp hc
      exact ⟨[], text, rfl, .nil, h⟩
    | cons symbol' x =>
      obtain ⟨rfl, hrest⟩ := List.cons.inj hsymbols
      obtain ⟨a, b, rfl, ha, hb⟩ := ih hrest
      exact ⟨c :: a, b, rfl, .mark hc ha, hb⟩
  | @number run text symbols hrun hend hfits h ih =>
    cases x with
    | nil => simp at hsymbols
    | cons symbol' x =>
      obtain ⟨rfl, hrest⟩ := List.cons.inj hsymbols
      obtain ⟨a, b, rfl, ha, hb⟩ := ih hrest
      -- A run of digits ends before the comma, if not earlier.
      refine ⟨run ++ a, b, by rw [List.append_assoc], .number hrun (fun c hc => ?_) hfits ha, hb⟩
      cases a with
      | nil => simp at hc
      | cons d a => exact hend c hc

theorem exists_pieces_of_intercalate {rows : List (List Symbol)} (hne : rows ≠ [])
    (hrows : ∀ row ∈ rows, .comma ∉ row) (h : Spells text (List.intercalate [.comma] rows)) :
    ∃ pieces, text = List.intercalate [','] pieces ∧ (∀ piece ∈ pieces, ',' ∉ piece) ∧
      List.Forall₂ Spells pieces rows := by
  induction rows generalizing text with
  | nil => exact absurd rfl hne
  | cons row rows ih =>
    obtain ⟨hrow, hrest⟩ := List.forall_mem_cons.mp hrows
    cases rows with
    | nil =>
      rw [List.intercalate_singleton] at h
      refine ⟨[text], List.intercalate_singleton.symm, ?_, .cons h .nil⟩
      exact List.forall_mem_singleton.mpr (comma_not_mem h hrow)
    | cons row' rows =>
      rw [List.intercalate_cons_cons, List.append_assoc, List.singleton_append] at h
      obtain ⟨a, b, rfl, ha, hb⟩ := exists_pieces h
      obtain ⟨pieces, rfl, hplain, hall⟩ := ih (List.cons_ne_nil _ _) hrest hb
      obtain ⟨piece, pieces, -, -, rfl⟩ := List.forall₂_cons_right_iff.mp hall
      refine ⟨a :: piece :: pieces, ?_, ?_, .cons ha hall⟩
      · rw [List.intercalate_cons_cons, List.append_assoc, List.singleton_append]
      · exact List.forall_mem_cons.mpr ⟨comma_not_mem ha hrow, hplain⟩

theorem intercalate_of_forall₂ {blanks : List Char} {pieces : List (List Char)}
    {rows : List (List Symbol)} (hblanks : ∀ c ∈ blanks, Text.isBlank c = true)
    (h : List.Forall₂ Spells pieces rows) :
    Spells (List.intercalate (',' :: blanks) pieces) (List.intercalate [.comma] rows) := by
  induction h with
  | nil => exact .nil
  | cons hpiece hrest ih =>
    cases hrest with
    | nil => simpa only [List.intercalate_singleton] using hpiece
    | cons hpiece' hrest =>
      simp only [List.intercalate_cons_cons, List.append_assoc, List.cons_append]
      exact append_comma hpiece (blanks_append hblanks ih)

theorem intercalate_iff {rows : List (List Symbol)} (hne : rows ≠ [])
    (hrows : ∀ row ∈ rows, .comma ∉ row) :
    Spells text (List.intercalate [.comma] rows) ↔
      List.Forall₂ Spells (text.splitOn ',') rows := by
  constructor
  · intro h
    obtain ⟨pieces, rfl, hplain, hall⟩ := exists_pieces_of_intercalate hne hrows h
    have hsome : pieces ≠ [] := by
      rintro rfl
      exact hne (List.forall₂_nil_left_iff.mp hall)
    rwa [List.splitOn_intercalate ',' hplain hsome]
  · intro h
    have hpieces := intercalate_of_forall₂ (List.forall_mem_nil _) h
    rwa [List.intercalate_splitOn] at hpieces

end Spells

end FileSeries.Pattern
