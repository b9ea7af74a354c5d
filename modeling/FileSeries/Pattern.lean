import FileSeries.Pattern.Item
/-!
Patterns: one selector for each dimension of the files, written with commas between them. At most
one of them is a window.
-/

namespace FileSeries

/-- A pattern and the text that it was read from, without white space at its ends. -/
structure Pattern where
  source : String
  selectors : List Selector
  deriving DecidableEq

namespace Pattern

/-- The dimension that uses the anchor. -/
def anchoredIn (selectors : List Selector) : Option Nat := selectors.findIdx? Selector.isAnchored

/-- Reads items and their tokens in order; `done` are the selectors of the items before. -/
def readItems (done : List Selector) :
    List (Item × List Token) → Except SyntaxError (List Selector)
  | [] => .ok done
  | (item, tokens) :: rest =>
    match item.selector (anchoredIn done) tokens with
    | .error spot => .error (spot.within item.fragment)
    | .ok selector => readItems (done ++ [selector]) rest

/-- The selectors of a pattern. All of its text is read as tokens before any item is looked at. -/
def readSelectors (source : List Char) : Except SyntaxError (List Selector) := do
  let items := Item.ofText source
  let tokens ← items.mapM Item.tokens
  if tokens = [[]] then throw ⟨source, 0, .emptyPattern⟩
  readItems [] (items.zip tokens)

def parse (raw : String) : Except SyntaxError Pattern := do
  return ⟨String.ofList (Text.trim raw.toList), ← readSelectors raw.toList⟩

def arity (p : Pattern) : Nat := p.selectors.length

def anchorDimension? (p : Pattern) : Option Nat := anchoredIn p.selectors

def anchorSelector? (p : Pattern) : Option Selector := p.selectors.find? Selector.isAnchored

/-- A defect of the pattern as a whole. -/
def errorAt (p : Pattern) (position : Nat) (defect : Defect) : SyntaxError :=
  ⟨p.source.toList, position, defect⟩

/-- A pattern needs as many dimensions as the files have fields. -/
def checkArity (p : Pattern) (fields : Nat) : Except SyntaxError Unit :=
  if p.arity = fields then .ok ()
  else .error (p.errorAt p.source.utf8ByteSize (.wrongArity p.arity fields))

def parseWithArity (raw : String) (fields : Nat) : Except SyntaxError Pattern := do
  let p ← parse raw
  p.checkArity fields
  return p

/-- The pattern in its shortest notation. -/
def text (p : Pattern) : String :=
  String.ofList (List.intercalate [',', ' '] (p.selectors.map Selector.text))

/-- The dimension that uses the anchor has a window. -/
theorem selector_of_anchorDimension? {p : Pattern} {d : Nat}
    (h : p.anchorDimension? = some d) :
    ∃ start stop step, p.selectors[d]? = some (.window start stop step) := by
  obtain ⟨hd, ha, -⟩ := List.findIdx?_eq_some_iff_getElem.mp h
  cases hs : p.selectors[d] with
  | fixed value => simp [hs, Selector.isAnchored] at ha
  | slice start stop step => simp [hs, Selector.isAnchored] at ha
  | window start stop step => exact ⟨start, stop, step, by rw [List.getElem?_eq_getElem hd, hs]⟩

end Pattern

end FileSeries
