import FileSeries.Text.Decimal
/-!
The tokens of JSON texts. A string may name halves of surrogate pairs by escapes; it stands for a
text only if each half has its other half beside it.
-/

namespace FileSeries.Json

/-- A character of a string, or half of a surrogate pair. -/
inductive CodeUnit where
  | char (c : Char)
  | half (code : Nat)
  deriving DecidableEq

/-- The text of a string; none if a half stands alone. -/
def textOf? : List CodeUnit → Option (List Char)
  | [] => some []
  | .char c :: rest => (textOf? rest).map (c :: ·)
  | .half high :: .half low :: rest =>
    if high < 0xDC00 && 0xDC00 ≤ low then
      (textOf? rest).map (Char.ofNat (0x10000 + (high - 0xD800) * 0x400 + (low - 0xDC00)) :: ·)
    else none
  | .half _ :: _ => none

def hexDigit? (c : Char) : Option Nat :=
  if '0' ≤ c && c ≤ '9' then some (c.toNat - '0'.toNat)
  else if 'a' ≤ c && c ≤ 'f' then some (c.toNat - 'a'.toNat + 10)
  else if 'A' ≤ c && c ≤ 'F' then some (c.toNat - 'A'.toNat + 10)
  else none

/-- The unit with a code of 16 bits. -/
def unitOf (code : Nat) : CodeUnit :=
  if 0xD800 ≤ code && code < 0xE000 then .half code else .char (Char.ofNat code)

/-- The characters that stand for others after a backslash. -/
def escaped? : Char → Option Char
  | '"' => some '"'
  | '\\' => some '\\'
  | '/' => some '/'
  | 'b' => some '\x08'
  | 'f' => some '\x0c'
  | 'n' => some '\n'
  | 'r' => some '\r'
  | 't' => some '\t'
  | _ => none

/-- Reads a string after its opening quote; gives its units and the text after the closing quote. -/
def readString : List Char → Option (List CodeUnit × List Char)
  | [] => none
  | '"' :: rest => some ([], rest)
  | '\\' :: 'u' :: a :: b :: c :: d :: rest => do
    let a ← hexDigit? a
    let b ← hexDigit? b
    let c ← hexDigit? c
    let d ← hexDigit? d
    let (units, after) ← readString rest
    return (unitOf (((a * 16 + b) * 16 + c) * 16 + d) :: units, after)
  | '\\' :: c :: rest => do
    let c ← escaped? c
    let (units, after) ← readString rest
    return (.char c :: units, after)
  | c :: rest =>
    if c.toNat < 0x20 then none
    else (readString rest).map fun (units, after) => (.char c :: units, after)

/-- Whether `digits` is a run of at least one digit. -/
def isRun (digits : List Char) : Bool := !digits.isEmpty && digits.all Char.isDigit

/-- An exponent, with a sign or without. -/
def isExponent : List Char → Bool
  | '+' :: digits | '-' :: digits => isRun digits
  | digits => isRun digits

/-- What may come after the integer part of a number that is more than an integer: a fraction, an
exponent, or both. -/
def isFractional : List Char → Bool
  | '.' :: rest =>
    isRun (rest.takeWhile Char.isDigit) &&
      match rest.dropWhile Char.isDigit with
      | [] => true
      | c :: exponent => (c == 'e' || c == 'E') && isExponent exponent
  | c :: exponent => (c == 'e' || c == 'E') && isExponent exponent
  | [] => false

/-- Reads a number without its sign: the integer, or none within if it is written as a fraction. An
integer part does not start with a zero, unless it is zero. -/
def readMagnitude (run : List Char) : Option (Option Nat) :=
  let whole := run.takeWhile Char.isDigit
  let rest := run.dropWhile Char.isDigit
  if !isRun whole || (whole.length > 1 && whole.head? == some '0') then none
  else if rest.isEmpty then some (some (Decimal.value whole))
  else if isFractional rest then some none
  else none

/-- Reads a number. Minus zero is no integer. -/
def readNumber : List Char → Option (Option Int)
  | '-' :: run => (readMagnitude run).map fun
    | some 0 | none => none
    | some n => some (-n)
  | run => (readMagnitude run).map fun n => n.map Int.ofNat

/-- A token; a number is an integer or none, a string is a text or none. -/
inductive Token where
  | openList
  | closeList
  | openRecord
  | closeRecord
  | colon
  | comma
  | null
  | bool (b : Bool)
  | number (n : Option Int)
  | string (s : Option (List Char))
  deriving DecidableEq

def isSpace (c : Char) : Bool := c == ' ' || c == '\t' || c == '\n' || c == '\r'

def symbol? : Char → Option Token
  | '[' => some .openList
  | ']' => some .closeList
  | '\x7b' => some .openRecord
  | '\x7d' => some .closeRecord
  | ':' => some .colon
  | ',' => some .comma
  | _ => none

/-- The characters that words and numbers are made of. -/
def isWordPart (c : Char) : Bool := c.isAlphanum || c == '+' || c == '-' || c == '.'

/-- Reads a word or a number. -/
def readWord (word : List Char) : Option Token :=
  if word = "null".toList then some .null
  else if word = "true".toList then some (.bool true)
  else if word = "false".toList then some (.bool false)
  else (readNumber word).map .number

theorem length_of_readString {text after : List Char} {units : List CodeUnit}
    (h : readString text = some (units, after)) : after.length < text.length := by
  fun_induction readString text generalizing units after with
  | case1 => simp at h
  | case2 rest => simp_all
  | case3 a b c d rest ih =>
    simp only [Option.bind_eq_bind, Option.bind_eq_some_iff] at h
    obtain ⟨_, _, _, _, _, _, _, _, ⟨us, r⟩, hr, he⟩ := h
    have := ih hr
    simp_all
    omega
  | case4 c rest _ ih =>
    simp only [Option.bind_eq_bind, Option.bind_eq_some_iff] at h
    obtain ⟨_, _, ⟨us, r⟩, hr, he⟩ := h
    have := ih hr
    simp_all
    omega
  | case5 => simp at h
  | case6 c rest _ _ _ _ ih =>
    obtain ⟨⟨us, r⟩, hr, he⟩ := Option.map_eq_some_iff.1 h
    have := ih hr
    simp_all
    omega

/-- The tokens of a text. -/
def tokens : List Char → Option (List Token)
  | [] => some []
  | c :: rest =>
    if isSpace c then tokens rest
    else if c = '"' then
      match _h : readString rest with
      | none => none
      | some (units, after) => (tokens after).map (.string (textOf? units) :: ·)
    else
      match symbol? c with
      | some token => (tokens rest).map (token :: ·)
      | none => do
        let token ← readWord (c :: rest.takeWhile isWordPart)
        let more ← tokens (rest.dropWhile isWordPart)
        return token :: more
termination_by text => text.length
decreasing_by
  · simp
  · have := length_of_readString _h
    simp only [List.length_cons]
    omega
  · simp
  · have := (List.dropWhile_sublist (l := rest) isWordPart).length_le
    simp only [List.length_cons]
    omega

end FileSeries.Json
