import FileSeries.Text.Printable
/-!
Quoted texts in messages. A quoted text stands between double quotes on one line; control
characters, backslashes and double quotes are escaped, and so is every character that is not
printable.
-/

namespace FileSeries.Text

/-- A character by the hexadecimal number of its code point. -/
def numbered (c : Char) : List Char :=
  ['\\', 'u', '\x7b'] ++ Nat.toDigits 16 c.toNat ++ ['\x7d']

/-- The form of one character between quotes. -/
def escape (c : Char) : List Char :=
  if c = '\x00' then ['\\', '0']
  else if c = '\t' then ['\\', 't']
  else if c = '\r' then ['\\', 'r']
  else if c = '\n' then ['\\', 'n']
  else if c = '"' || c = '\\' then ['\\', c]
  else if isPrintable c then [c]
  else numbered c

def quoted (s : List Char) : List Char := '"' :: s.flatMap escape ++ ['"']

/-- A string in quotes. -/
def quote (s : String) : String := String.ofList (quoted s.toList)

end FileSeries.Text
