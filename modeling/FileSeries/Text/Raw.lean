import FileSeries.Text.Quoted
/-!
Names as a disk keeps them: runs of bytes that need not be UTF-8. A raw text is held as characters
with the stray bytes between them, so that a text is a raw text without stray bytes. Main statement:
`text?` gives back the texts that `ofText` writes.
-/

namespace FileSeries

/-- A character, or the bytes of one ill-formed sequence. -/
inductive Piece where
  | char (c : Char)
  | stray (bytes : List UInt8)
  deriving DecidableEq

/-- A text with stray bytes in it. -/
abbrev Raw := List Piece

namespace Raw

def ofText (s : List Char) : Raw := s.map .char

def ofString (s : String) : Raw := ofText s.toList

/-- The text, if no byte is stray. -/
def text? : Raw → Option (List Char)
  | [] => some []
  | .char c :: rest => (text? rest).map (c :: ·)
  | .stray _ :: _ => none

theorem text?_ofText (s : List Char) : text? (ofText s) = some s := by
  induction s with
  | nil => rfl
  | cons c s ih => simp_all [ofText, text?]

/-- The text shown for a raw text: each ill-formed sequence becomes one replacement character. -/
def shown (r : Raw) : String :=
  String.ofList (r.map fun
    | .char c => c
    | .stray _ => '\uFFFD')

@[simp]
theorem shown_ofString (s : String) : shown (ofString s) = s := by
  simp [shown, ofString, ofText, Function.comp_def]

/-- The number of bytes. -/
def byteSize : Raw → Nat
  | [] => 0
  | .char c :: rest => c.utf8Size + byteSize rest
  | .stray bytes :: rest => bytes.length + byteSize rest

/-- A byte as two upper-case hexadecimal digits. -/
def hexByte (b : UInt8) : List Char :=
  ['\\', 'x', (Nat.digitChar (b.toNat / 16)).toUpper, (Nat.digitChar (b.toNat % 16)).toUpper]

/-- A raw text in quotes: its characters as in a quoted text, and its stray bytes by their numbers. -/
def quoted (r : Raw) : String :=
  String.ofList ('"' :: (r.flatMap fun
    | .char c => Text.escape c
    | .stray bytes => bytes.flatMap hexByte) ++ ['"'])

/-- What the first byte of a sequence of several bytes says: how many bytes follow, the ends between
which the next one lies, and how many values the low bits of the first byte have. -/
structure LeadRule where
  more : Nat
  low : UInt8
  high : UInt8
  bits : Nat

def leadRule? (b : UInt8) : Option LeadRule :=
  if 0xC2 ≤ b && b ≤ 0xDF then some ⟨1, 0x80, 0xBF, 32⟩
  else if b = 0xE0 then some ⟨2, 0xA0, 0xBF, 16⟩
  else if b = 0xED then some ⟨2, 0x80, 0x9F, 16⟩
  else if 0xE1 ≤ b && b ≤ 0xEF then some ⟨2, 0x80, 0xBF, 16⟩
  else if b = 0xF0 then some ⟨3, 0x90, 0xBF, 8⟩
  else if 0xF1 ≤ b && b ≤ 0xF3 then some ⟨3, 0x80, 0xBF, 8⟩
  else if b = 0xF4 then some ⟨3, 0x80, 0x8F, 8⟩
  else none

/-- The bytes that continue a sequence: at most `count`, the first of them between `low` and
`high`. -/
def continuation (count : Nat) (low high : UInt8) : List UInt8 → List UInt8
  | [] => []
  | b :: rest =>
    match count with
    | 0 => []
    | count + 1 =>
      if low ≤ b && b ≤ high then b :: continuation count 0x80 0xBF rest else []

/-- The character of a full sequence, from the low bits of its bytes. -/
def assemble (bits : Nat) (lead : UInt8) (rest : List UInt8) : Char :=
  Char.ofNat (rest.foldl (fun n b => n * 64 + b.toNat % 64) (lead.toNat % bits))

/-- The piece that starts with byte `b`, where `rest` follows, and the number of bytes that it takes
of `rest`. An ill-formed sequence is cut where it can no longer become a character. -/
def firstPiece (b : UInt8) (rest : List UInt8) : Piece × Nat :=
  if b < 0x80 then (.char (Char.ofNat b.toNat), 0)
  else
    match leadRule? b with
    | none => (.stray [b], 0)
    | some rule =>
      let more := continuation rule.more rule.low rule.high rest
      if more.length = rule.more then (.char (assemble rule.bits b more), more.length)
      else (.stray (b :: more), more.length)

/-- Reads bytes as UTF-8. -/
def ofBytes : List UInt8 → Raw
  | [] => []
  | b :: rest => (firstPiece b rest).1 :: ofBytes (rest.drop (firstPiece b rest).2)
termination_by bytes => bytes.length
decreasing_by simp only [List.length_cons, List.length_drop]; omega

end Raw

end FileSeries
