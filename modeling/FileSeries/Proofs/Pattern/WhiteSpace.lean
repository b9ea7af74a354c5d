import FileSeries.Proofs.Pattern.RoundTrip
import Mathlib
/-!
White space in patterns. White space ends a run of digits and means nothing else, and no two numbers
of a pattern stand side by side. Main statement: a pattern stays the same pattern wherever white
space is taken out, and wherever it is put in without parting two digits.
-/

namespace FileSeries

namespace Text

variable {s : List Char} {c : Char}

theorem not_isBlank_of_head?_trimStart (h : c ∈ (trimStart s).head?) : isBlank c = false := by
  have hnot := List.head?_dropWhile_not isBlank s
  rw [trimStart, Option.mem_def] at h
  simpa [h] using hnot

theorem trimStart_of_head? (h : ∀ c ∈ s.head?, isBlank c = false) : trimStart s = s := by
  cases s with
  | nil => rfl
  | cons c s => rw [trimStart, List.dropWhile_cons_of_neg (by simp [h c rfl])]

theorem exists_eq_trimStart_append (s : List Char) :
    ∃ blanks, s = blanks ++ trimStart s ∧ ∀ c ∈ blanks, isBlank c = true :=
  ⟨s.takeWhile isBlank, List.takeWhile_append_dropWhile.symm, fun _ => List.mem_takeWhile_imp⟩

theorem exists_eq_trimEnd_append (s : List Char) :
    ∃ blanks, s = trimEnd s ++ blanks ∧ ∀ c ∈ blanks, isBlank c = true := by
  obtain ⟨blanks, hs, hblanks⟩ := exists_eq_trimStart_append s.reverse
  refine ⟨blanks.reverse, ?_, fun c hc => hblanks c (List.mem_reverse.mp hc)⟩
  rw [trimEnd, ← List.reverse_append]
  exact List.reverse_eq_iff.mp hs

theorem trimEnd_trimEnd (s : List Char) : trimEnd (trimEnd s) = trimEnd s := by
  have hstart : trimStart (trimStart s.reverse) = trimStart s.reverse :=
    trimStart_of_head? fun _ => not_isBlank_of_head?_trimStart
  rw [trimEnd, trimEnd, List.reverse_reverse]
  exact congrArg List.reverse hstart

theorem trim_trim (s : List Char) : trim (trim s) = trim s := by
  -- What is left after trimming the end starts as it did before.
  have hstart : trimStart (trimEnd (trimStart s)) = trimEnd (trimStart s) := by
    obtain ⟨blanks, hs, -⟩ := exists_eq_trimEnd_append (trimStart s)
    refine trimStart_of_head? fun c hc => not_isBlank_of_head?_trimStart (s := s) ?_
    rw [hs]
    exact List.mem_head?_append_of_mem_head? hc
  rw [trim, trim, hstart, trimEnd_trimEnd]

end Text

namespace Pattern

/-- One character of white space is taken out of a text, or put in where it parts no two digits. -/
inductive Respace : List Char → List Char → Prop where
  | takeOut {front back : List Char} {c : Char} (hc : Text.isBlank c = true) :
    Respace (front ++ c :: back) (front ++ back)
  | putIn {front back : List Char} {c : Char} (hc : Text.isBlank c = true)
    (hcut : ¬((∃ d ∈ front.getLast?, d.isDigit = true) ∧ ∃ d ∈ back.head?, d.isDigit = true)) :
    Respace (front ++ back) (front ++ c :: back)

/-- White space is taken out and put in any number of times. -/
abbrev Respaced : List Char → List Char → Prop := Relation.ReflTransGen Respace

theorem respaced_of_blanks {blanks : List Char} (hblanks : ∀ c ∈ blanks, Text.isBlank c = true)
    (front back : List Char) : Respaced (front ++ (blanks ++ back)) (front ++ back) := by
  induction blanks with
  | nil => exact .refl
  | cons c blanks ih =>
    obtain ⟨hc, hblanks⟩ := List.forall_mem_cons.mp hblanks
    exact .head (.takeOut hc) (ih hblanks)

theorem respaced_trim (s : List Char) : Respaced s (Text.trim s) := by
  obtain ⟨before, hs, hbefore⟩ := Text.exists_eq_trimStart_append s
  obtain ⟨after, ht, hafter⟩ := Text.exists_eq_trimEnd_append (Text.trimStart s)
  have hstart : Respaced s (Text.trimStart s) := by
    have h := respaced_of_blanks hbefore [] (Text.trimStart s)
    rwa [List.nil_append, List.nil_append, ← hs] at h
  have hend : Respaced (Text.trimStart s) (Text.trim s) := by
    have h := respaced_of_blanks hafter (Text.trim s) []
    rwa [List.append_nil, List.append_nil, Text.trim, ← ht] at h
  exact hstart.trans hend

def Symbol.isTerm : Symbol → Bool
  | .inner kind => kind.isTerm
  | .comma => false

theorem isChain_symbols (items : List ItemTree) :
    (List.intercalate [.comma] (items.map ItemTree.symbols)).IsChain
      fun a b => Symbol.isTerm a = true → Symbol.isTerm b = false := by
  refine isChain_intercalate (fun a => ⟨fun _ => rfl, fun h => absurd h (by decide)⟩) ?_
  intro row hrow
  obtain ⟨e, -, rfl⟩ := List.mem_map.mp hrow
  exact (List.isChain_map _).mpr (apart_intercalate e.parts)

namespace Spells

variable {text : List Char} {symbols : List Symbol} {c : Char}

theorem eq_nil (h : Spells [] symbols) : symbols = [] := by
  generalize htext : [] = text at h
  cases h with
  | nil => rfl
  | blank hc h => simp at htext
  | mark hc h => simp at htext
  | number hrun hend hfits h =>
    exact absurd (List.append_eq_nil_iff.mp htext.symm).1 hrun.nonempty

theorem exists_term_of_head? (h : Spells text symbols) (hc : c ∈ text.head?)
    (hdigit : c.isDigit = true) : ∃ a ∈ symbols.head?, a.isTerm = true := by
  cases h with
  | nil => simp at hc
  | blank hblank h =>
    obtain rfl := Option.some.inj hc
    simp [Text.not_isBlank_of_isDigit hdigit] at hblank
  | mark hmark h =>
    obtain rfl := Option.some.inj hc
    simp [not_isDigit_of_ofChar? hmark] at hdigit
  | number hrun hend hfits h => exact ⟨_, rfl, rfl⟩

theorem exists_term_of_getLast? (h : Spells text symbols) (hc : c ∈ text.getLast?)
    (hdigit : c.isDigit = true) : ∃ a ∈ symbols.getLast?, a.isTerm = true := by
  induction h with
  | nil => simp at hc
  | @blank d text symbols hblank h ih =>
    cases text with
    | nil =>
      obtain rfl : d = c := Option.some.inj hc
      simp [Text.not_isBlank_of_isDigit hdigit] at hblank
    | cons e text => exact ih (List.getLast?_cons_cons ▸ hc)
  | @mark d symbol text symbols hmark h ih =>
    cases text with
    | nil =>
      obtain rfl : d = c := Option.some.inj hc
      simp [not_isDigit_of_ofChar? hmark] at hdigit
    | cons e text =>
      obtain ⟨a, ha, hterm⟩ := ih (List.getLast?_cons_cons ▸ hc)
      exact ⟨a, List.mem_getLast?_cons ha, hterm⟩
  | @number run text symbols hrun hend hfits h ih =>
    cases text with
    | nil =>
      rw [eq_nil h]
      exact ⟨_, rfl, rfl⟩
    | cons e text =>
      rw [List.getLast?_append_of_ne_nil _ (List.cons_ne_nil _ _)] at hc
      obtain ⟨a, ha, hterm⟩ := ih hc
      exact ⟨a, List.mem_getLast?_cons ha, hterm⟩

theorem of_blank (hc : Text.isBlank c = true) (h : Spells (c :: text) symbols) :
    Spells text symbols := by
  generalize hwhole : c :: text = whole at h
  cases h with
  | nil => simp at hwhole
  | blank hblank h =>
    obtain ⟨rfl, rfl⟩ := List.cons.inj hwhole
    exact h
  | mark hmark h =>
    obtain ⟨rfl, rfl⟩ := List.cons.inj hwhole
    simp [not_isBlank_of_ofChar? hmark] at hc
  | @number run text symbols hrun hend hfits h =>
    obtain ⟨d, run, rfl⟩ := List.exists_cons_of_ne_nil hrun.nonempty
    obtain ⟨rfl, -⟩ := List.cons.inj hwhole
    simp [Text.not_isBlank_of_isDigit (hrun.digits c List.mem_cons_self)] at hc

theorem parted_of_blank {front : List Char} (hc : Text.isBlank c = true) :
    Parted front (c :: text) := by
  intro d _ e he _
  obtain rfl := Option.some.inj he
  by_contra hdigit
  simp [Text.not_isBlank_of_isDigit ((Bool.not_eq_false _).mp hdigit)] at hc

theorem respace {text' : List Char} (h : Spells text symbols)
    (happart : symbols.IsChain fun a b => a.isTerm = true → b.isTerm = false)
    (hr : Respace text text') : Spells text' symbols := by
  cases hr with
  | @takeOut front back c hc =>
    obtain ⟨x, y, rfl, hfront, hrest⟩ := exists_of_append (parted_of_blank hc) h
    have hback := hrest.of_blank hc
    refine hfront.join ?_ hback
    intro d hd e he hdigit
    by_contra hdigit'
    -- Numbers on both sides would be two terms side by side.
    obtain ⟨a, ha, hterm⟩ := hfront.exists_term_of_getLast? hd hdigit
    obtain ⟨b, hb, hterm'⟩ := hback.exists_term_of_head? he ((Bool.not_eq_false _).mp hdigit')
    have hnot := (List.isChain_append.mp happart).2.2 a ha b hb hterm
    simp [hterm'] at hnot
  | @putIn front back c hc hcut =>
    have hparted : Parted front back := by
      intro d hd e he hdigit
      by_contra hdigit'
      exact hcut ⟨⟨d, hd, hdigit⟩, e, he, (Bool.not_eq_false _).mp hdigit'⟩
    obtain ⟨x, y, rfl, hfront, hback⟩ := exists_of_append hparted h
    exact hfront.join (parted_of_blank hc) (.blank hc hback)

end Spells

variable {text text' : List Char} {items : List ItemTree}

theorem Reads.respaced (h : Reads text items) (hr : Respaced text text') : Reads text' items := by
  induction hr with
  | refl => exact h
  | tail _ hstep ih => exact { ih with spells := ih.spells.respace (isChain_symbols items) hstep }

/-- A pattern stays the same wherever white space is taken out, or put in without parting two
digits; so it does when it is read again from its source. -/
theorem parse_respaced {raw : String} {p : Pattern} (h : parse raw = .ok p) :
    (∀ raw' : String, Respaced raw.toList raw'.toList → ∃ q, parse raw' = .ok q ∧
      q.selectors = p.selectors ∧ q.anchorDimension? = p.anchorDimension?) ∧
    parse p.source = .ok p := by
  obtain ⟨items, hreads, rfl⟩ := parse_eq_ok_iff.mp h
  constructor
  · intro raw' hr
    exact ⟨_, parse_eq_ok_iff.mpr ⟨items, hreads.respaced hr, rfl⟩, rfl, rfl⟩
  · have hsource : Reads (String.ofList (Text.trim raw.toList)).toList items := by
      rw [String.toList_ofList]
      exact hreads.respaced (respaced_trim raw.toList)
    refine parse_eq_ok_iff.mpr ⟨items, hsource, ?_⟩
    rw [String.toList_ofList, Text.trim_trim]

set_option maxRecDepth 4000 in
/-- A blank before the colon is taken out, and a wide one is put in before the number. -/
theorem spacedWindow_respaced : ∃ p q, parse "i :i+4" = .ok p ∧
    Respaced "i :i+4".toList "i:i+\u30004".toList ∧ parse "i:i+\u30004" = .ok q ∧
    q.selectors = p.selectors ∧ p.source = "i :i+4" ∧ parse p.source = .ok p := by
  have h : parse "i :i+4" = .ok ⟨"i :i+4", [.window 0 4 1]⟩ := by cbv
  have hout : Respace "i :i+4".toList "i:i+4".toList :=
    @Respace.takeOut ['i'] [':', 'i', '+', '4'] ' ' rfl
  have hin : Respace "i:i+4".toList "i:i+\u30004".toList :=
    @Respace.putIn ['i', ':', 'i', '+'] ['4'] '\u3000' rfl (by simp)
  have hr : Respaced "i :i+4".toList "i:i+\u30004".toList := .head hout (.single hin)
  obtain ⟨hsame, hsource⟩ := parse_respaced h
  obtain ⟨q, hq, hselectors, -⟩ := hsame _ hr
  exact ⟨_, q, h, hr, hq, hselectors, rfl, hsource⟩

end Pattern

end FileSeries
