import FileSeries.Proofs.Pattern.Items
import FileSeries.Proofs.Pattern.Places
import Mathlib
/-!
The places of errors in the text of a pattern. Main statement: an error is at a place of the text,
and what it shows stands there or is the item around it.
-/

namespace FileSeries.Pattern

/-- The defects that are found before any item is read. -/
def Defect.precedesItems : Defect → Bool
  | emptyPattern | unknownToken _ | integerTooLarge => true
  | _ => false

theorem Lexeme.meets_token (l : Lexeme) : Outcome.Meets
    (fun e => e.fragment = l.text ∧ e.position = l.position ∧ e.defect.precedesItems = true)
    (fun t => t.position = l.position) l.token := by
  unfold token
  split
  case h_5 =>
    split
    · split
      · rfl
      · exact ⟨rfl, rfl, rfl⟩
    · exact ⟨rfl, rfl, rfl⟩
  all_goals rfl

theorem Item.holds_of_tokens {i : Item} {tokens : List Token} (h : i.tokens = .ok tokens)
    {t : Token} (ht : t ∈ tokens) : i.Holds t.position := by
  obtain ⟨l, hl, htoken⟩ := (Outcome.mem_iff_of_mapM_eq_ok h).mp ht
  obtain ⟨a, b, htext, hposition⟩ := exists_append_of_mem_lexemes hl
  exact ⟨a, l.text ++ b, htext, hposition.trans (l.meets_token.of_ok htoken).symm⟩

/-- What is wrong with an item, at a place among these. -/
structure Spot.IsAmong (places : Nat → Prop) (s : Spot) : Prop where
  place : places s.position
  item : s.defect.precedesItems = false

section Spots

variable {places : Nat → Prop} {b : Bound} {t : Token} {tokens : List Token} {minus : Bool}
  {unfinished : Spot} {position : Nat}

theorem Bound.meets_addTerm (hb : places b.position) (ht : places t.position) :
    Outcome.Meets (Spot.IsAmong places) (fun c => places c.position) (b.addTerm minus t) := by
  unfold addTerm
  split
  · split
    · exact hb
    · exact ⟨ht, rfl⟩
  · split
    · exact ⟨ht, rfl⟩
    · split
      · exact ⟨ht, rfl⟩
      · exact hb
  · exact ⟨ht, rfl⟩

theorem Bound.meets_readTerms (hunfinished : unfinished.IsAmong places) (hb : places b.position)
    (htokens : ∀ t ∈ tokens, places t.position) :
    Outcome.Meets (Spot.IsAmong places)
      (fun r => places r.1.position ∧ ∀ t ∈ r.2, places t.position)
      (readTerms unfinished minus b tokens) := by
  fun_induction readTerms unfinished minus b tokens with
  | case1 => exact hunfinished
  | case2 minus b t rest e he =>
    exact (meets_addTerm hb (htokens t List.mem_cons_self)).of_error he
  | case3 minus b t c hc position rest ih | case4 minus b t c hc position rest ih =>
    obtain ⟨ht, hrest⟩ := List.forall_mem_cons.mp htokens
    exact ih ((meets_addTerm hb ht).of_ok hc) (List.forall_mem_cons.mp hrest).2
  | case5 minus b t c hc rest =>
    obtain ⟨ht, hrest⟩ := List.forall_mem_cons.mp htokens
    exact ⟨(meets_addTerm hb ht).of_ok hc, hrest⟩

theorem Bound.meets_read (hunfinished : unfinished.IsAmong places) (hposition : places position)
    (htokens : ∀ t ∈ tokens, places t.position) :
    Outcome.Meets (Spot.IsAmong places)
      (fun r => places r.1.position ∧ ∀ t ∈ r.2, places t.position)
      (read unfinished position tokens) := by
  unfold read
  split
  · exact meets_readTerms hunfinished hposition (List.forall_mem_cons.mp htokens).2
  · exact meets_readTerms hunfinished hposition (List.forall_mem_cons.mp htokens).2
  · exact meets_readTerms hunfinished hposition htokens

theorem meets_readBounds (hunfinished : unfinished.IsAmong places)
    (htokens : ∀ t ∈ tokens, places t.position) :
    Outcome.Meets (Spot.IsAmong places)
      (fun r => (∀ b, some b ∈ r.1 → places b.position) ∧ ∀ t ∈ r.2, places t.position)
      (readBounds unfinished tokens) := by
  fun_induction readBounds unfinished tokens with
  | case1 => exact ⟨by simp, by simp⟩
  | case2 position rest e he ih => exact (ih (List.forall_mem_cons.mp htokens).2).of_error he
  | case3 position rest bounds left hread ih =>
    obtain ⟨hbounds, hleft⟩ := (ih (List.forall_mem_cons.mp htokens).2).of_ok hread
    exact ⟨by simpa using hbounds, hleft⟩
  | case4 t rest hcolon e he =>
    exact (Bound.meets_read hunfinished (htokens t List.mem_cons_self) htokens).of_error he
  | case5 t rest hcolon b position rest' hbound e he ih =>
    have hfirst := Bound.meets_read hunfinished (htokens t List.mem_cons_self) htokens
    obtain ⟨-, hrest⟩ := hfirst.of_ok hbound
    exact (ih (List.forall_mem_cons.mp hrest).2).of_error he
  | case6 t rest hcolon b position rest' hbound bounds left hread ih =>
    have hfirst := Bound.meets_read hunfinished (htokens t List.mem_cons_self) htokens
    obtain ⟨hb, hrest⟩ := hfirst.of_ok hbound
    obtain ⟨hbounds, hleft⟩ := (ih (List.forall_mem_cons.mp hrest).2).of_ok hread
    refine ⟨fun b' hb' => ?_, hleft⟩
    rcases List.mem_cons.mp hb' with hb' | hb'
    · obtain rfl := Option.some.inj hb'
      exact hb
    · exact hbounds b' hb'
  | case7 t rest hcolon b left hend hbound =>
    have hfirst := Bound.meets_read hunfinished (htokens t List.mem_cons_self) htokens
    obtain ⟨hb, hleft⟩ := hfirst.of_ok hbound
    exact ⟨by simpa using hb, hleft⟩

theorem meets_stepOf {step : Option Bound} (hstep : ∀ b ∈ step, places b.position) :
    Outcome.Meets (Spot.IsAmong places) (fun _ => True) (stepOf step) := by
  unfold stepOf
  split
  · trivial
  · split
    · exact ⟨hstep _ rfl, rfl⟩
    · split
      · exact ⟨hstep _ rfl, rfl⟩
      · trivial

theorem meets_sliceOf {start stop step : Option Bound} (hposition : places position)
    (hstep : ∀ b ∈ step, places b.position) :
    Outcome.Meets (Spot.IsAmong places) (fun _ => True) (sliceOf position start stop step) := by
  unfold sliceOf
  refine (meets_stepOf hstep).bind fun step _ => ?_
  split
  · split_ifs
    · trivial
    · exact ⟨hposition, rfl⟩
    · trivial
  · split_ifs
    · exact ⟨hposition, rfl⟩
    · trivial

theorem meets_selectorOf {bounds : List (Option Bound)} (hposition : places position)
    (hbounds : ∀ b, some b ∈ bounds → places b.position) :
    Outcome.Meets (Spot.IsAmong places) (fun _ => True) (selectorOf position bounds) := by
  unfold selectorOf
  split
  · exact ⟨hposition, rfl⟩
  · exact ⟨hposition, rfl⟩
  · rename_i b
    have hb := hbounds b List.mem_cons_self
    split
    · split
      · trivial
      · exact ⟨hb, rfl⟩
    · split
      · exact ⟨hb, rfl⟩
      · trivial
  · exact meets_sliceOf hposition (by simp)
  · exact meets_sliceOf hposition fun b hb => hbounds b (by simp [Option.mem_def.mp hb])
  · exact ⟨hposition, rfl⟩

theorem Item.meets_selector {i : Item} {anchored : Option Nat}
    (htokens : ∀ t ∈ tokens, i.Holds t.position) :
    Outcome.Meets (Spot.IsAmong i.Holds) (fun _ => True) (i.selector anchored tokens) := by
  have hunfinished : i.unfinished.IsAmong i.Holds := by
    refine ⟨i.holds_stop, ?_⟩
    unfold unfinished
    split <;> rfl
  have hposition : i.Holds ((tokens.head?.map (·.position)).getD i.stop) := by
    cases tokens with
    | nil => exact i.holds_stop
    | cons t tokens => exact htokens t List.mem_cons_self
  have hread := meets_readBounds hunfinished htokens
  unfold selector
  dsimp only
  split
  · exact hread.of_error ‹_›
  · rename_i bounds left hbounds
    obtain ⟨hplaces, hleft⟩ := hread.of_ok hbounds
    have hselector := meets_selectorOf hposition hplaces
    split
    · exact hselector.of_error ‹_›
    · split
      · exact ⟨hposition, rfl⟩
      · exact ⟨hleft _ List.mem_cons_self, rfl⟩
      · trivial

end Spots

/-- The place of an error is one of the text. Before any item is read, the text goes on from there
with what the error shows; later on, the error shows the item that the place belongs to. -/
structure SyntaxError.PointsInto (text : String) (e : SyntaxError) : Prop where
  inText : e.position ≤ text.utf8ByteSize
  valid : String.Pos.Raw.IsValid text ⟨e.position⟩
  token : e.defect.precedesItems = true →
    ∃ front back, text.toList = front ++ (e.fragment ++ back) ∧ byteSize front = e.position
  item : e.defect.precedesItems = false → ∃ front piece back,
    IsPiece text.toList front piece back ∧ e.fragment = Text.trim piece ∧
      byteSize front ≤ e.position ∧ e.position ≤ byteSize front + byteSize piece

section Errors

variable {text : String} {e : SyntaxError} {i : Item}

theorem SyntaxError.PointsInto.of_append {front back : List Char}
    (h : text.toList = front ++ (e.fragment ++ back)) (hplace : byteSize front = e.position)
    (hearly : e.defect.precedesItems = true) : e.PointsInto text := by
  have hvalid := isValid_of_append h hplace
  exact ⟨hvalid.le_rawEndPos, hvalid, fun _ => ⟨front, back, h, hplace⟩, by simp [hearly]⟩

theorem SyntaxError.PointsInto.of_item (hi : i ∈ Item.ofText text.toList) {s : Spot}
    (hs : s.IsAmong i.Holds) : (s.within i.fragment).PointsInto text := by
  obtain ⟨front, back, hpiece, hfront⟩ := Item.exists_isPiece hi
  obtain ⟨⟨a, b, hab, hplace⟩, hlate⟩ := hs
  have hsize : byteSize (front ++ a) = s.position := by rw [byteSize_append, hfront, hplace]
  have htext : text.toList = (front ++ a) ++ (b ++ back) := by
    rw [hpiece.whole, hab]
    simp only [List.append_assoc]
  have hvalid := isValid_of_append htext hsize
  have hle : s.position ≤ byteSize front + byteSize i.text := by
    rw [hab, byteSize_append]
    omega
  exact ⟨hvalid.le_rawEndPos, hvalid, by simp [Spot.within, hlate], fun _ =>
    ⟨front, i.text, back, hpiece, rfl, by simp only [Spot.within]; omega, hle⟩⟩

theorem pointsInto_of_tokens (hi : i ∈ Item.ofText text.toList) (he : i.tokens = .error e) :
    e.PointsInto text := by
  obtain ⟨front, back, hpiece, hfront⟩ := Item.exists_isPiece hi
  obtain ⟨l, hl, hfault⟩ := Outcome.exists_of_mapM_eq_error he
  obtain ⟨a, b, hab, hplace⟩ := exists_append_of_mem_lexemes hl
  obtain ⟨hfragment, hposition, hearly⟩ := l.meets_token.of_error hfault
  have htext : text.toList = (front ++ a) ++ (e.fragment ++ (b ++ back)) := by
    rw [hpiece.whole, hab, hfragment]
    simp only [List.append_assoc]
  have hsize : byteSize (front ++ a) = e.position := by
    rw [byteSize_append, hfront, hplace, hposition]
  exact .of_append htext hsize hearly

theorem exists_of_readItems_eq_error {done : List Selector} {pairs : List (Item × List Token)}
    (hpairs : ∀ x ∈ pairs, x.1.tokens = .ok x.2) (he : readItems done pairs = .error e) :
    ∃ x ∈ pairs, ∃ s : Spot, s.IsAmong x.1.Holds ∧ s.within x.1.fragment = e := by
  induction pairs generalizing done with
  | nil => simp [readItems] at he
  | cons x pairs ih =>
    obtain ⟨item, tokens⟩ := x
    obtain ⟨htokens, hrest⟩ := List.forall_mem_cons.mp hpairs
    rw [readItems] at he
    cases hselector : item.selector (anchoredIn done) tokens with
    | error s =>
      simp only [hselector, Except.error.injEq] at he
      have hmeets : Outcome.Meets (Spot.IsAmong item.Holds) (fun _ => True)
          (item.selector (anchoredIn done) tokens) :=
        Item.meets_selector fun _ ht => Item.holds_of_tokens htokens ht
      exact ⟨_, List.mem_cons_self, s, hmeets.of_error hselector, he⟩
    | ok selector =>
      simp only [hselector] at he
      obtain ⟨x, hx, hspot⟩ := ih hrest he
      exact ⟨x, List.mem_cons_of_mem _ hx, hspot⟩

theorem pointsInto_of_readSelectors (he : readSelectors text.toList = .error e) :
    e.PointsInto text := by
  rw [readSelectors, Outcome.bind_eq_error_iff] at he
  rcases he with he | ⟨tokens, htokens, he⟩
  · obtain ⟨i, hi, hfault⟩ := Outcome.exists_of_mapM_eq_error he
    exact pointsInto_of_tokens hi hfault
  · split at he
    · rcases Outcome.bind_eq_error_iff.mp he with he | ⟨_, hthrow, -⟩
      · obtain rfl := Except.error.inj he
        have htext : text.toList = [] ++ (text.toList ++ []) := by simp
        exact .of_append htext rfl rfl
      · exact absurd hthrow Outcome.throw_ne_ok
    · obtain ⟨-, hzip⟩ := List.forall₂_iff_zip.mp (Outcome.mapM_eq_ok_iff.mp htokens)
      obtain ⟨x, hx, s, hs, rfl⟩ := exists_of_readItems_eq_error (fun _ hx => hzip hx) he
      exact .of_item (List.of_mem_zip hx).1 hs

/-- An error points into the text of the pattern. No piece that is cut out on the way is cut inside
a character or behind the end of the text: neither a lexeme, nor what is between the commas around
the place of a token or around the end of an item, which is that item. -/
theorem parse_error_pointsInto (raw : String) :
    (∀ e, parse raw = .error e → e.PointsInto raw) ∧
      ∀ i ∈ Item.ofText raw.toList,
        (∀ l ∈ lexemes i.position i.text,
          slice? l.position (l.position + byteSize l.text) raw.toList = some l.text) ∧
        ∀ tokens, i.tokens = .ok tokens → ∀ place ∈ i.stop :: tokens.map (·.position),
          fragmentAt? place raw.toList = some i.fragment := by
  constructor
  · intro e he
    rcases Outcome.bind_eq_error_iff.mp he with he | ⟨_, -, he⟩
    · exact pointsInto_of_readSelectors he
    · cases he
  · intro i hi
    refine ⟨fun l hl => Item.slice?_lexeme hi hl, fun tokens htokens place hplace => ?_⟩
    rcases List.mem_cons.mp hplace with rfl | hplace
    · exact Item.fragmentAt?_eq hi i.holds_stop
    · obtain ⟨t, ht, rfl⟩ := List.mem_map.mp hplace
      exact Item.fragmentAt?_eq hi (Item.holds_of_tokens htokens ht)

set_option maxRecDepth 4000 in
/-- A term is missing where the second comma stands. The item before it is shown, without the wide
blank that it starts with. -/
theorem openSum_error_pointsInto : ∃ e, parse "1,\u30002+,3" = .error e ∧
    e.PointsInto "1,\u30002+,3" ∧ e.position = 7 ∧ e.fragment = ['2', '+'] ∧
    fragmentAt? e.position "1,\u30002+,3".toList = some e.fragment := by
  have h : parse "1,\u30002+,3" = .error ⟨['2', '+'], 7, .termExpected⟩ := by cbv
  have hitem : (⟨2, ['\u3000', '2', '+'], false⟩ : Item) ∈ Item.ofText "1,\u30002+,3".toList := by
    have htext : Item.ofText "1,\u30002+,3".toList = [⟨0, ['1'], false⟩,
        ⟨2, ['\u3000', '2', '+'], false⟩, ⟨8, ['3'], true⟩] := by cbv
    rw [htext]
    exact List.mem_cons_of_mem _ List.mem_cons_self
  have htokens : (⟨2, ['\u3000', '2', '+'], false⟩ : Item).tokens =
      .ok [⟨.integer 2, 5⟩, ⟨.plus, 6⟩] := by cbv
  obtain ⟨herror, hplaces⟩ := parse_error_pointsInto "1,\u30002+,3"
  exact ⟨_, h, herror _ h, rfl, rfl,
    (hplaces _ hitem).2 _ htokens _ List.mem_cons_self⟩

end Errors

end FileSeries.Pattern
