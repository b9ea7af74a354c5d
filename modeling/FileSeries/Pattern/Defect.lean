/-!
What can be wrong with the text of a pattern, and where.
-/

namespace FileSeries.Pattern

/-- A rule of the pattern notation that a text breaks. -/
inductive Defect where
  | emptyPattern
  | unknownToken (text : List Char)
  | integerTooLarge
  | sumTooLarge
  | unfinishedBound
  | termExpected
  | anchorSubtracted
  | anchorRepeated
  | itemExpected
  | negativeIndex
  | tooManyBounds
  | anchoredStep
  | stepNotPositive
  | halfAnchored
  | secondAnchor (dimension : Nat)
  | trailingToken
  | wrongArity (dimensions fields : Nat)
  | anchorNeeded
  deriving DecidableEq

namespace Defect

def message : Defect → String
  | emptyPattern => "pattern is empty"
  | unknownToken text => "unknown token `" ++ String.ofList text ++ "`"
  | integerTooLarge => "integer does not fit in 64 bits"
  | sumTooLarge => "integer overflow"
  | unfinishedBound => "expected an integer or `i` but reached end of pattern"
  | termExpected => "expected an integer or `i`"
  | anchorSubtracted => "the anchor `i` cannot be subtracted"
  | anchorRepeated => "the anchor `i` appears twice in one bound"
  | itemExpected => "expected an index, a slice or `i`"
  | negativeIndex => "file index must not be negative"
  | tooManyBounds => "a slice takes at most start:stop:step"
  | anchoredStep => "slice step cannot depend on the anchor"
  | stepNotPositive => "slice step must be a positive integer"
  | halfAnchored => "an anchored slice needs `i` in both its start and stop"
  | secondAnchor dimension =>
    s!"only one dimension may use the anchor `i`, dimension {dimension} already does"
  | trailingToken => "unexpected token"
  | wrongArity dimensions fields =>
    s!"pattern has {dimensions} dimensions but the files carry {fields} numeric fields"
  | anchorNeeded => "a sliding series needs one dimension using the anchor `i`"

end Defect

/-- A defect at a place of the text, counted in bytes of its UTF-8 form. -/
structure Spot where
  position : Nat
  defect : Defect
  deriving DecidableEq

/-- A defect with its place and the part of the text that it is about. -/
structure SyntaxError where
  fragment : List Char
  position : Nat
  defect : Defect
  deriving DecidableEq

def Spot.within (fragment : List Char) (s : Spot) : SyntaxError := ⟨fragment, s.position, s.defect⟩

end FileSeries.Pattern
