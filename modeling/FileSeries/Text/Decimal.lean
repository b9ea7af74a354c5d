/-!
Natural numbers as runs of decimal digits. Main statement: reading the shortest run of a number
gives the number.
-/

namespace FileSeries.Decimal

/-- The shortest run of digits of a number. -/
def digits (n : Nat) : List Char := Nat.toDigits 10 n

/-- An integer, with a minus sign if it is negative. -/
def signed (n : Int) : List Char := if n < 0 then '-' :: digits n.natAbs else digits n.natAbs

/-- The number that a run of digits stands for, leading zeros allowed. -/
def value (run : List Char) : Nat := Nat.ofDigitChars 10 run 0

theorem value_digits (n : Nat) : value (digits n) = n := Nat.ofDigitChars_ten_toDigits

theorem isDigit_of_mem_digits {n : Nat} {c : Char} (h : c ∈ digits n) : c.isDigit = true :=
  Nat.isDigit_of_mem_toDigits (by decide) (by decide) h

end FileSeries.Decimal
