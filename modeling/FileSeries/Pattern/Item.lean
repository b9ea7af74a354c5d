import FileSeries.Pattern.Token
import FileSeries.Selector
/-!
The items of a pattern, one for each dimension, with commas between them. An item is a bound alone,
or up to three bounds with colons between them, each of which may be left out. A bound is a sum of
integers in which the anchor may occur once.
-/

namespace FileSeries.Pattern

/-- The text between two commas, the place where it starts, and whether it is the last one. -/
structure Item where
  position : Nat
  text : List Char
  isLast : Bool
  deriving DecidableEq

namespace Item

/-- The items whose texts are given, when the first one starts at `position`. -/
def place (position : Nat) : List (List Char) → List Item
  | [] => []
  | [text] => [⟨position, text, true⟩]
  | text :: rest => ⟨position, text, false⟩ :: place (position + byteSize text + 1) rest

/-- The items of a pattern. -/
def ofText (source : List Char) : List Item := place 0 (source.splitOn ',')

/-- The place of the comma after an item, or of the end of the pattern. -/
def stop (i : Item) : Nat := i.position + byteSize i.text

/-- The text of an item as messages show it. -/
def fragment (i : Item) : List Char := Text.trim i.text

/-- What is wrong when an item ends where a term has to stand. -/
def unfinished (i : Item) : Spot := ⟨i.stop, if i.isLast then .unfinishedBound else .termExpected⟩

def tokens (i : Item) : Except SyntaxError (List Token) :=
  (lexemes i.position i.text).mapM Lexeme.token

end Item

/-- A sum of integers, counted from the anchor or not, and the place where it starts. -/
structure Bound where
  anchored : Bool
  offset : Int
  position : Nat
  deriving DecidableEq

namespace Bound

/-- Adds the term that a token stands for, or takes it away after a minus sign. -/
def addTerm (minus : Bool) (b : Bound) (t : Token) : Except Spot Bound :=
  match t.kind with
  | .integer n =>
    match addOffsets? b.offset (if minus then -n else n) with
    | some offset => .ok { b with offset }
    | none => .error ⟨t.position, .sumTooLarge⟩
  | .anchor =>
    if minus then .error ⟨t.position, .anchorSubtracted⟩
    else if b.anchored then .error ⟨t.position, .anchorRepeated⟩
    else .ok { b with anchored := true }
  | _ => .error ⟨t.position, .termExpected⟩

/-- Reads a term and all signs and terms that follow it; gives the bound and the tokens left. -/
def readTerms (unfinished : Spot) (minus : Bool) (b : Bound) :
    List Token → Except Spot (Bound × List Token)
  | [] => .error unfinished
  | t :: rest =>
    match b.addTerm minus t with
    | .error e => .error e
    | .ok b =>
      match rest with
      | ⟨.plus, _⟩ :: rest => readTerms unfinished false b rest
      | ⟨.minus, _⟩ :: rest => readTerms unfinished true b rest
      | rest => .ok (b, rest)

/-- Reads a bound that starts at `position`; it may have a sign in front. -/
def read (unfinished : Spot) (position : Nat) : List Token → Except Spot (Bound × List Token)
  | ⟨.plus, _⟩ :: rest => readTerms unfinished false ⟨false, 0, position⟩ rest
  | ⟨.minus, _⟩ :: rest => readTerms unfinished true ⟨false, 0, position⟩ rest
  | tokens => readTerms unfinished false ⟨false, 0, position⟩ tokens

theorem length_of_readTerms {unfinished : Spot} {minus : Bool} {b c : Bound}
    {tokens left : List Token} (h : readTerms unfinished minus b tokens = .ok (c, left)) :
    left.length < tokens.length := by
  fun_induction readTerms unfinished minus b tokens with
  | case1 => simp at h
  | case2 => simp at h
  | case3 minus b t b' hb position rest ih => exact Nat.lt_succ_of_lt (Nat.lt_succ_of_lt (ih h))
  | case4 minus b t b' hb position rest ih => exact Nat.lt_succ_of_lt (Nat.lt_succ_of_lt (ih h))
  | case5 => simp_all

theorem length_of_read {unfinished : Spot} {position : Nat} {c : Bound} {tokens left : List Token}
    (h : read unfinished position tokens = .ok (c, left)) : left.length < tokens.length := by
  unfold read at h
  split at h
  · exact Nat.lt_succ_of_lt (length_of_readTerms h)
  · exact Nat.lt_succ_of_lt (length_of_readTerms h)
  · exact length_of_readTerms h

end Bound

/-- Reads the bounds of an item, the absent ones too; gives them and the tokens left. -/
def readBounds (unfinished : Spot) (tokens : List Token) :
    Except Spot (List (Option Bound) × List Token) :=
  match tokens with
  | [] => .ok ([none], [])
  | ⟨.colon, _⟩ :: rest =>
    match readBounds unfinished rest with
    | .error e => .error e
    | .ok (bounds, left) => .ok (none :: bounds, left)
  | t :: rest =>
    match _h : Bound.read unfinished t.position (t :: rest) with
    | .error e => .error e
    | .ok (b, ⟨.colon, _⟩ :: rest) =>
      match readBounds unfinished rest with
      | .error e => .error e
      | .ok (bounds, left) => .ok (some b :: bounds, left)
    | .ok (b, left) => .ok ([some b], left)
termination_by tokens.length
decreasing_by
  · simp
  · have := Bound.length_of_read _h
    simp only [List.length_cons] at *
    omega

/-- The step of a slice: a positive integer, and one if there is none. -/
def stepOf : Option Bound → Except Spot Nat
  | none => .ok 1
  | some b =>
    if b.anchored then .error ⟨b.position, .anchoredStep⟩
    else if b.offset ≤ 0 then .error ⟨b.position, .stepNotPositive⟩
    else .ok b.offset.toNat

/-- The slice or window with these bounds; the item starts at `position`. -/
def sliceOf (position : Nat) (start stop step : Option Bound) : Except Spot Selector := do
  let step ← stepOf step
  match start, stop with
  | some start, some stop =>
    if start.anchored && stop.anchored then return .window start.offset stop.offset step
    else if start.anchored || stop.anchored then throw ⟨position, .halfAnchored⟩
    else return .slice start.offset (some stop.offset) step
  | start, stop =>
    if (start <|> stop).any (·.anchored) then throw ⟨position, .halfAnchored⟩
    else return .slice ((start.map (·.offset)).getD 0) (stop.map (·.offset)) step

/-- The selector that the bounds of an item stand for. -/
def selectorOf (position : Nat) : List (Option Bound) → Except Spot Selector
  | [] | [none] => .error ⟨position, .itemExpected⟩
  | [some b] =>
    if b.anchored then
      match addOffsets? b.offset 1 with
      | some stop => .ok (.window b.offset stop 1)
      | none => .error ⟨b.position, .sumTooLarge⟩
    else if b.offset < 0 then .error ⟨b.position, .negativeIndex⟩
    else .ok (.fixed b.offset.toNat)
  | [start, stop] => sliceOf position start stop none
  | [start, stop, step] => sliceOf position start stop step
  | _ => .error ⟨position, .tooManyBounds⟩

namespace Item

/-- Reads an item with these tokens; `anchored` is the dimension before it that uses the anchor. -/
def selector (i : Item) (anchored : Option Nat) (tokens : List Token) : Except Spot Selector :=
  let position := (tokens.head?.map (·.position)).getD i.stop
  match readBounds i.unfinished tokens with
  | .error e => .error e
  | .ok (bounds, left) =>
    match selectorOf position bounds with
    | .error e => .error e
    | .ok selector =>
      match if selector.isAnchored then anchored else none, left with
      | some dimension, _ => .error ⟨position, .secondAnchor dimension⟩
      | none, t :: _ => .error ⟨t.position, .trailingToken⟩
      | none, [] => .ok selector

end Item

end FileSeries.Pattern
