import FileSeries.Proofs.Slide.Selections
/-!
Slides in use: calls on a slide one after the other, in any order. Main statement: whatever was
called before, the cursor stands at the number of selections asked for since the last reset, and the
next selection is the one with that number.
-/

namespace FileSeries.Slide

/-- A call on a slide. -/
inductive Call where
  | next
  | reset
  | selection (index : Nat)
  | anchorAt (index : Nat)
  /-- A walk from the first selection on that visits `steps` of them at most. -/
  | walk (steps : Nat)
  | allFileNames
  deriving DecidableEq

/-- What a call gives back. -/
inductive Answer where
  | done
  | next (x : Option (Except Fault Selection))
  | selection (x : Except Fault Selection)
  | anchor (anchor : Option Int)
  | visited (items : List (Except Fault Selection))
  | names (names : Except Fault (List String))

/-- The answer of a slide to a call, and the slide after it. -/
def call (slide : Slide) : Call → Answer × Slide
  | .next =>
    match slide.next? with
    | some (x, after) => (.next (some x), after)
    | none => (.next none, slide)
  | .reset => (.done, slide.reset)
  | .selection index => (.selection (slide.selection index), slide)
  | .anchorAt index => (.anchor (slide.anchorAt? index), slide)
  | .walk steps => (.visited ((slide.walk.rest.take steps).map (·.2)), slide)
  | .allFileNames => (.names slide.allFileNames, slide)

/-- The answer of a slide to a call. -/
def answer (slide : Slide) (c : Call) : Answer := (slide.call c).1

/-- The slide after some calls. -/
def after (slide : Slide) (calls : List Call) : Slide :=
  calls.foldl (fun slide c => (slide.call c).2) slide

/-- How often the next selection was asked for since the last reset. -/
def asked (calls : List Call) : Nat := (calls.reverse.takeWhile (· ≠ .reset)).count .next

variable {p : Pattern} {s : Snapshot} {r : AnchorRange} {slide : Slide} {calls : List Call}

theorem after_append_singleton (slide : Slide) (calls : List Call) (c : Call) :
    slide.after (calls ++ [c]) = ((slide.after calls).call c).2 := by
  rw [after, List.foldl_append]
  rfl

theorem asked_append_next (calls : List Call) : asked (calls ++ [.next]) = asked calls + 1 := by
  simp [asked]

theorem asked_append_reset (calls : List Call) : asked (calls ++ [.reset]) = 0 := by
  simp [asked]

theorem asked_append_other {c : Call} (hn : c ≠ .next) (hr : c ≠ .reset) (calls : List Call) :
    asked (calls ++ [c]) = asked calls := by
  simp [asked, hn, hr]

/-- A call that is neither `next` nor `reset` leaves the slide as it is. -/
theorem call_other {c : Call} (hn : c ≠ .next) (hr : c ≠ .reset) : (slide.call c).2 = slide := by
  cases c with
  | next => exact absurd rfl hn
  | reset => exact absurd rfl hr
  | selection index => rfl
  | anchorAt index => rfl
  | walk steps => rfl
  | allFileNames => rfl

theorem call_next_of_lt (slide : Slide) (h : slide.cursor < slide.size) :
    slide.call .next =
      (.next (some (slide.selection slide.cursor)), { slide with cursor := slide.cursor + 1 }) := by
  simp only [call, next?, if_pos h]

theorem call_next_of_le (slide : Slide) (h : slide.size ≤ slide.cursor) :
    slide.call .next = (.next none, slide) := by
  simp only [call, next?, if_neg h.not_gt]

/-- A step of the cursor: it follows the number of selections asked for, up to the size. -/
theorem call_next_withCursor (slide : Slide) (j : Nat) :
    (call { slide with cursor := min slide.size j } .next).2 =
      { slide with cursor := min slide.size (j + 1) } := by
  rcases Nat.lt_or_ge j slide.size with hlt | hle
  · have hcursor : min slide.size j = j := Nat.min_eq_right hlt.le
    have hnext : min slide.size (j + 1) = j + 1 := Nat.min_eq_right hlt
    rw [hcursor, hnext, call_next_of_lt { slide with cursor := j } hlt]
  · have hcursor : min slide.size j = slide.size := Nat.min_eq_left hle
    have hnext : min slide.size (j + 1) = slide.size := Nat.min_eq_left (by omega)
    rw [hcursor, hnext, call_next_of_le { slide with cursor := slide.size } le_rfl]

/-- Calls change the cursor of a slide and nothing else. -/
theorem after_eq_withCursor (h : slide.cursor = 0) (calls : List Call) :
    slide.after calls = { slide with cursor := min slide.size (asked calls) } := by
  induction calls using List.reverseRecOn with
  | nil =>
    have hasked : min slide.size (asked []) = slide.cursor := by rw [h]; exact Nat.min_zero _
    rw [hasked]
    rfl
  | append_singleton calls c ih =>
    rw [after_append_singleton, ih]
    by_cases hn : c = .next
    · rw [hn, asked_append_next, call_next_withCursor]
    · by_cases hr : c = .reset
      · rw [hr, asked_append_reset, Nat.min_zero]
        rfl
      · rw [call_other hn hr, asked_append_other hn hr]

theorem answer_walk (slide : Slide) (steps : Nat) : slide.answer (.walk steps) =
    .visited ((List.range (min steps slide.size)).map slide.selection) := by
  rw [answer, call, walk_rest, ← List.map_take, List.take_range, List.map_map]
  rfl

/-- The answers of a slide do not depend on its cursor, but for the next selection. -/
theorem answer_withCursor {c : Call} (hn : c ≠ .next) (cursor : Nat) :
    answer { slide with cursor } c = slide.answer c := by
  cases c with
  | next => exact absurd rfl hn
  | reset => rfl
  | selection index => rfl
  | anchorAt index => rfl
  | walk steps => rw [answer_walk, answer_walk]; rfl
  | allFileNames => rfl

/-- A slide whose cursor is in step with the calls made on it. -/
structure InStep (slide : Slide) (calls : List Call) : Prop where
  cursor : (slide.after calls).cursor = min slide.size (asked calls)
  /-- The next selection is the one whose number says how many were asked for before it. -/
  next : asked calls < slide.size → ∃ x, slide.selection (asked calls) = .ok x ∧
    x.anchor = some (slide.requested.start + asked calls * slide.requested.step) ∧
    (slide.after calls).answer .next = .next (some (.ok x))
  exhausted : slide.size ≤ asked calls → (slide.after calls).answer .next = .next none
  other : ∀ c, c ≠ .next → c ≠ .reset →
    (slide.after (calls ++ [c])).cursor = (slide.after calls).cursor
  answer : ∀ c, c ≠ .next → (slide.after calls).answer c = slide.answer c
  walk : ∀ steps, (slide.after calls).answer (.walk steps) =
    .visited ((List.range (min steps slide.size)).map slide.selection)
  same : (slide.after calls).pattern = slide.pattern ∧
    (slide.after calls).snapshot = slide.snapshot ∧
    (slide.after calls).requested = slide.requested ∧
    (slide.after calls).stop = slide.stop ∧ (slide.after calls).size = slide.size

theorem anchor_of_selection {k : Nat} {x : Selection} (hstop : slide.stop ≤ maxOffset)
    (h : ofSnapshot s p r = .ok slide) (hk : k < slide.size) (hx : slide.selection k = .ok x) :
    x.anchor = some (r.start + k * r.step) := by
  obtain ⟨-, -, d, e, hd, -⟩ := ofSnapshot_eq_ok_iff.mp h
  rw [selection_of_stop_le hstop h hk] at hx
  rw [Selection.anchor_of_resolve hx, Selection.usedAnchor_of_anchorDimension? hd]

theorem cursor_of_ofSnapshot (h : ofSnapshot s p r = .ok slide) : slide.cursor = 0 := by
  obtain ⟨-, -, d, e, -, -, -, rfl⟩ := ofSnapshot_eq_ok_iff.mp h
  rfl

/-- A slide that opens, with a stop that is kept as an offset, is in step with all calls on it, in
whatever order they are made. -/
theorem inStep_of_ofSnapshot (hr : r.Fits) (h : ofSnapshot s p r = .ok slide)
    (hstop : fitsOffset slide.stop = true) (calls : List Call) : slide.InStep calls := by
  have hle : slide.stop ≤ maxOffset := (fitsOffset_iff.mp hstop).2
  have hafter := after_eq_withCursor (cursor_of_ofSnapshot h) calls
  obtain ⟨-, -, hreq⟩ := fields_of_ofSnapshot h
  constructor
  case cursor => rw [hafter]
  case next =>
    intro hlt
    obtain ⟨x, hx, -⟩ := exists_selection_of_stop_le hr hle h hlt
    refine ⟨x, hx, hreq ▸ anchor_of_selection hle h hlt hx, ?_⟩
    have hcursor : min slide.size (asked calls) = asked calls := Nat.min_eq_right hlt.le
    rw [hafter, hcursor, answer, call_next_of_lt { slide with cursor := asked calls } hlt]
    exact congrArg (fun x => Answer.next (some x)) hx
  case exhausted =>
    intro hge
    have hcursor : min slide.size (asked calls) = slide.size := Nat.min_eq_left hge
    rw [hafter, hcursor, answer,
      call_next_of_le { slide with cursor := slide.size } le_rfl]
  case other =>
    intro c hn hr
    rw [after_append_singleton, call_other hn hr]
  case answer =>
    intro c hn
    rw [hafter, answer_withCursor hn]
  case walk =>
    intro steps
    rw [answer_walk, hafter]
    rfl
  case same =>
    rw [hafter]
    exact ⟨rfl, rfl, rfl, rfl, rfl⟩

/-- Two selections are asked for, then a reset and two more, with other calls in between. -/
def mixedCalls : List Call :=
  [.next, .selection 3, .next, .reset, .walk 2, .next, .anchorAt 1, .next, .allFileNames]

theorem everyOtherOfEight_inStep :
    toEight.Fits ∧ ofSnapshot eightFiles everyOther toEight = .ok everyOtherOfEight ∧
      fitsOffset everyOtherOfEight.stop = true ∧ asked mixedCalls = 2 ∧
      everyOtherOfEight.size = 4 ∧ everyOtherOfEight.InStep mixedCalls :=
  ⟨toEight_fits, everyOtherOfEight_opens, rfl, rfl, rfl,
    inStep_of_ofSnapshot (p := everyOther) (s := eightFiles) toEight_fits everyOtherOfEight_opens
      rfl mixedCalls⟩

end FileSeries.Slide
