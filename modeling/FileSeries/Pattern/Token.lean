import FileSeries.Limits
import FileSeries.Pattern.Defect
import FileSeries.Text.Alphanumeric
import FileSeries.Text.Blank
import FileSeries.Text.Decimal
/-!
The tokens of a pattern. A text is cut into lexemes first: runs of digits, words and single
characters, each as long as can be, without the white space between them. A lexeme is then read as a
token, or found to be none.
-/

namespace FileSeries.Pattern

/-- The kinds of tokens inside one item of a pattern. -/
inductive TokenKind where
  | integer (n : Nat)
  | anchor
  | plus
  | minus
  | colon
  deriving DecidableEq

/-- A token and the place where it starts. -/
structure Token where
  kind : TokenKind
  position : Nat
  deriving DecidableEq

/-- The number of bytes of a text in UTF-8. -/
def byteSize : List Char → Nat
  | [] => 0
  | c :: rest => c.utf8Size + byteSize rest

/-- Letters, numbers, underscores and dots make up words. -/
def isWordPart (c : Char) : Bool := Text.isAlphanumeric c || c == '_' || c == '.'

/-- A piece of text that is read as a whole, and the place where it starts. -/
structure Lexeme where
  text : List Char
  position : Nat
  deriving DecidableEq

/-- The characters that belong to the lexeme which starts with `c`, as far as they follow it. -/
def continues (c : Char) : Char → Bool :=
  if c.isDigit then Char.isDigit else if isWordPart c then isWordPart else fun _ => false

/-- The lexemes of a text that starts at `position`. -/
def lexemes (position : Nat) : List Char → List Lexeme
  | [] => []
  | c :: rest =>
    if Text.isBlank c then lexemes (position + c.utf8Size) rest
    else
      let text := c :: rest.takeWhile (continues c)
      ⟨text, position⟩ :: lexemes (position + byteSize text) (rest.dropWhile (continues c))
termination_by text => text.length
decreasing_by
  · simp
  · have := (List.dropWhile_sublist (l := rest) (continues c)).length_le
    simp only [List.length_cons]
    omega

/-- Reads a lexeme: a run of digits is an integer, and `i` is the only word. -/
def Lexeme.token (l : Lexeme) : Except SyntaxError Token :=
  match l.text with
  | ['+'] => .ok ⟨.plus, l.position⟩
  | ['-'] => .ok ⟨.minus, l.position⟩
  | [':'] => .ok ⟨.colon, l.position⟩
  | ['i'] => .ok ⟨.anchor, l.position⟩
  | text =>
    if text.all Char.isDigit then
      if (Decimal.value text : Int) ≤ maxOffset then
        .ok ⟨.integer (Decimal.value text), l.position⟩
      else .error ⟨text, l.position, .integerTooLarge⟩
    else .error ⟨text, l.position, .unknownToken text⟩

end FileSeries.Pattern
