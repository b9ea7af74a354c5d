import FileSeries.Pattern.Item
import Mathlib
/-!
Places in the text of a pattern, counted in bytes, so that a place may be inside a character. Main
statements: a search for commas to both sides of a place in an item finds the item, and each lexeme
stands at its place.
-/

namespace FileSeries.Pattern

section Cuts

variable {text front back : List Char} {place : Nat}

theorem byteSize_eq_utf8Len (text : List Char) : byteSize text = String.utf8Len text := by
  induction text with
  | nil => rfl
  | cons c text ih => rw [byteSize, ih, String.utf8Len_cons, add_comm]

theorem byteSize_append (a b : List Char) : byteSize (a ++ b) = byteSize a + byteSize b := by
  simp only [byteSize_eq_utf8Len, String.utf8Len_append]

/-- What is before a place of a text and what is after it; nothing if the place is inside a
character or behind the end. -/
def cutAt? (place : Nat) : List Char → Option (List Char × List Char)
  | [] => if place = 0 then some ([], []) else none
  | c :: rest =>
    if place = 0 then some ([], c :: rest)
    else if place < c.utf8Size then none
    else (cutAt? (place - c.utf8Size) rest).map fun (front, back) => (c :: front, back)

theorem cutAt?_eq_some_iff :
    cutAt? place text = some (front, back) ↔ text = front ++ back ∧ byteSize front = place := by
  induction text generalizing place front with
  | nil => cases front <;> by_cases hzero : place = 0 <;> simp [cutAt?, byteSize, hzero, eq_comm]
  | cons c text ih =>
    have hpos := c.utf8Size_pos
    cases front with
    | nil =>
      by_cases hzero : place = 0
      · simp [cutAt?, byteSize, hzero]
      · simp [cutAt?, byteSize, hzero, Ne.symm hzero]
    | cons d front =>
      have hrest : (cutAt? (place - c.utf8Size) text).map (fun x => (c :: x.1, x.2)) =
          some (d :: front, back) ↔
            c = d ∧ text = front ++ back ∧ byteSize front = place - c.utf8Size := by
        simp [← ih, and_assoc, and_left_comm]
      rw [cutAt?, byteSize, List.cons_append, List.cons.injEq]
      split_ifs with hzero hinside
      · have hne : d.utf8Size ≠ 0 := Nat.pos_iff_ne_zero.mp d.utf8Size_pos
        simp [hzero, hne]
      · suffices c = d → text = front ++ back → d.utf8Size + byteSize front ≠ place by simpa
        rintro rfl -
        omega
      · rw [hrest]
        constructor
        · rintro ⟨rfl, htext, hsize⟩
          exact ⟨⟨rfl, htext⟩, by omega⟩
        · rintro ⟨⟨rfl, htext⟩, hsize⟩
          exact ⟨rfl, htext, by omega⟩

/-- The text between two places. -/
def slice? (start stop : Nat) (text : List Char) : Option (List Char) := do
  let (front, _) ← cutAt? stop text
  let (_, piece) ← cutAt? start front
  return piece

theorem slice?_append (front piece back : List Char) :
    slice? (byteSize front) (byteSize front + byteSize piece) (front ++ (piece ++ back)) =
      some piece := by
  have hstop : cutAt? (byteSize front + byteSize piece) (front ++ (piece ++ back)) =
      some (front ++ piece, back) :=
    cutAt?_eq_some_iff.mpr ⟨(List.append_assoc _ _ _).symm, byteSize_append front piece⟩
  have hstart : cutAt? (byteSize front) (front ++ piece) = some (front, piece) :=
    cutAt?_eq_some_iff.mpr ⟨rfl, rfl⟩
  simp only [slice?, hstop, hstart, Option.bind_eq_bind, Option.bind_some, Option.pure_def]

/-- The piece between commas around a place, found by looking for commas to both sides of it. -/
def fragmentAt? (place : Nat) (text : List Char) : Option (List Char) := do
  let (front, back) ← cutAt? place text
  let start := byteSize (front.rdropWhile (· ≠ ','))
  let stop := place + byteSize (back.takeWhile (· ≠ ','))
  return Text.trim (← slice? start stop text)

theorem isValid_of_append {text : String} (h : text.toList = front ++ back)
    (hplace : byteSize front = place) : String.Pos.Raw.IsValid text ⟨place⟩ := by
  refine String.Pos.Raw.isValid_iff_exists_append.mpr
    ⟨String.ofList front, String.ofList back, ?_, ?_⟩
  · rw [← String.ofList_append, ← h, String.ofList_toList]
  · rw [String.rawEndPos, String.utf8ByteSize_ofList, ← byteSize_eq_utf8Len, hplace]

end Cuts

section Pieces

/-- A piece of a text with no comma in it, from a comma or the start up to a comma or the end. -/
structure IsPiece (text front piece back : List Char) : Prop where
  whole : text = front ++ (piece ++ back)
  plain : ',' ∉ piece
  opens : ∀ c ∈ front.getLast?, c = ','
  closes : ∀ c ∈ back.head?, c = ','

theorem rdropWhile_append_of_pos {α : Type} {p : α → Bool} {a b : List α}
    (hb : ∀ x ∈ b, p x = true) : (a ++ b).rdropWhile p = a.rdropWhile p := by
  rw [List.rdropWhile, List.reverse_append,
    List.dropWhile_append_of_pos fun x hx => hb x (List.mem_reverse.mp hx), List.rdropWhile]

theorem IsPiece.fragmentAt?_eq {text front a b back : List Char}
    (h : IsPiece text front (a ++ b) back) :
    fragmentAt? (byteSize front + byteSize a) text = some (Text.trim (a ++ b)) := by
  obtain ⟨rfl, hplain, hopens, hcloses⟩ := h
  obtain ⟨ha, hb⟩ : ',' ∉ a ∧ ',' ∉ b := by simpa [not_or] using hplain
  have hcut : cutAt? (byteSize front + byteSize a) (front ++ (a ++ b ++ back)) =
      some (front ++ a, b ++ back) :=
    cutAt?_eq_some_iff.mpr ⟨by simp only [List.append_assoc], byteSize_append front a⟩
  have hstart : (front ++ a).rdropWhile (· ≠ ',') = front := by
    rw [rdropWhile_append_of_pos fun c hc => decide_eq_true (ne_of_mem_of_not_mem hc ha),
      List.rdropWhile_eq_self_iff]
    intro hne
    simpa using hopens _ (List.getLast_mem_getLast? hne)
  have hstop : (b ++ back).takeWhile (· ≠ ',') = b := by
    rw [List.takeWhile_append_of_pos fun c hc => decide_eq_true (ne_of_mem_of_not_mem hc hb)]
    cases back with
    | nil => simp
    | cons c back => simp [hcloses c rfl]
  have hslice := slice?_append front (a ++ b) back
  rw [byteSize_append, ← add_assoc] at hslice
  simp only [fragmentAt?, hcut, hstart, hstop, hslice, Option.bind_eq_bind, Option.bind_some,
    Option.pure_def]

theorem comma_not_mem_of_mem_splitOn {text piece : List Char} (h : piece ∈ text.splitOn ',') :
    ',' ∉ piece := by
  induction text generalizing piece with
  | nil =>
    obtain rfl := List.mem_singleton.mp (List.splitOn_nil ',' ▸ h)
    exact List.not_mem_nil
  | cons c text ih =>
    rw [List.splitOn_cons_eq_if_modifyHead] at h
    obtain ⟨first, rest, hsplit⟩ := List.exists_cons_of_ne_nil (List.splitOn_ne_nil ',' text)
    rw [hsplit] at h ih
    split at h
    · rcases List.mem_cons.mp h with rfl | h
      · exact List.not_mem_nil
      · exact ih h
    · rename_i hc
      rcases List.mem_cons.mp h with rfl | h
      · have hne : ',' ≠ c := fun heq => hc (beq_iff_eq.mpr heq.symm)
        exact List.not_mem_cons_of_ne_of_not_mem hne (ih List.mem_cons_self)
      · exact ih (List.mem_cons_of_mem _ h)

theorem Item.exists_isPiece_of_mem_place {texts : List (List Char)} {front : List Char} {i : Item}
    (hplain : ∀ text ∈ texts, ',' ∉ text) (hopens : ∀ c ∈ front.getLast?, c = ',')
    (hi : i ∈ place (byteSize front) texts) :
    ∃ before back, IsPiece (front ++ List.intercalate [','] texts) before i.text back ∧
      byteSize before = i.position := by
  induction texts generalizing front with
  | nil => simp [place] at hi
  | cons text texts ih =>
    obtain ⟨htext, htexts⟩ := List.forall_mem_cons.mp hplain
    cases texts with
    | nil =>
      obtain rfl := List.mem_singleton.mp hi
      exact ⟨front, [], ⟨by simp, htext, hopens, by simp⟩, rfl⟩
    | cons text' texts =>
      rw [List.intercalate_cons_cons]
      rcases List.mem_cons.mp hi with rfl | hi
      · refine ⟨front, ',' :: List.intercalate [','] (text' :: texts),
          ⟨by simp, htext, hopens, by simp⟩, rfl⟩
      · have hnext : byteSize (front ++ (text ++ [','])) = byteSize front + byteSize text + 1 := by
          rw [byteSize_append, byteSize_append, add_assoc]
          rfl
        rw [← hnext] at hi
        obtain ⟨before, back, hpiece, hbefore⟩ := ih htexts (by simp) hi
        rw [List.append_assoc, List.append_assoc] at hpiece
        exact ⟨before, back, by simpa using hpiece, hbefore⟩

theorem Item.exists_isPiece {text : List Char} {i : Item} (hi : i ∈ ofText text) :
    ∃ front back, IsPiece text front i.text back ∧ byteSize front = i.position := by
  have hopens : ∀ c ∈ ([] : List Char).getLast?, c = ',' := by simp
  have h := exists_isPiece_of_mem_place (fun _ => comma_not_mem_of_mem_splitOn) hopens hi
  rwa [List.intercalate_splitOn] at h

end Pieces

section Lexemes

variable {l : Lexeme} {position : Nat} {text : List Char}

theorem exists_append_of_mem_lexemes (h : l ∈ lexemes position text) :
    ∃ a b, text = a ++ (l.text ++ b) ∧ position + byteSize a = l.position := by
  fun_induction lexemes position text with
  | case1 => simp at h
  | case2 position c rest hc ih =>
    obtain ⟨a, b, rfl, hposition⟩ := ih h
    exact ⟨c :: a, b, rfl, by rw [byteSize, ← add_assoc, hposition]⟩
  | case3 position c rest hc run ih =>
    have hwhole : run ++ rest.dropWhile (continues c) = c :: rest :=
      congrArg (c :: ·) List.takeWhile_append_dropWhile
    rcases List.mem_cons.mp h with rfl | h
    · exact ⟨[], rest.dropWhile (continues c), hwhole.symm, rfl⟩
    · obtain ⟨a, b, htext, hposition⟩ := ih h
      refine ⟨run ++ a, b, ?_, ?_⟩
      · rw [← hwhole, htext, List.append_assoc]
      · rw [byteSize_append, ← add_assoc, hposition]

end Lexemes

/-- A place in an item or at one of its ends, between two characters. -/
def Item.Holds (i : Item) (place : Nat) : Prop :=
  ∃ a b, i.text = a ++ b ∧ i.position + byteSize a = place

theorem Item.holds_stop (i : Item) : i.Holds i.stop := ⟨i.text, [], by simp, rfl⟩

theorem Item.slice?_lexeme {text : List Char} {i : Item} (hi : i ∈ ofText text) {l : Lexeme}
    (hl : l ∈ lexemes i.position i.text) :
    slice? l.position (l.position + byteSize l.text) text = some l.text := by
  obtain ⟨front, back, hpiece, hfront⟩ := exists_isPiece hi
  obtain ⟨a, b, hab, hplace⟩ := exists_append_of_mem_lexemes hl
  have hslice := slice?_append (front ++ a) l.text (b ++ back)
  rw [byteSize_append, hfront, hplace] at hslice
  rw [hpiece.whole, hab]
  simpa only [List.append_assoc] using hslice

theorem Item.fragmentAt?_eq {text : List Char} {i : Item} (hi : i ∈ ofText text) {place : Nat}
    (hplace : i.Holds place) : fragmentAt? place text = some i.fragment := by
  obtain ⟨front, back, hpiece, hfront⟩ := exists_isPiece hi
  obtain ⟨a, b, hab, rfl⟩ := hplace
  rw [fragment, ← hfront, hab]
  rw [hab] at hpiece
  exact hpiece.fragmentAt?_eq

end FileSeries.Pattern
