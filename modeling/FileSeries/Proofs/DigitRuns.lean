import FileSeries.Padding
import Mathlib
/-!
Runs of digits and the numbers that they stand for. Main statements: a run of digits is the shortest
one of its number with zeros in front, a padding that accepts a run writes it back, and a padding of
positive width accepts what it writes.
-/

namespace FileSeries

namespace Decimal

/-- A run of digits as it stands in a name: not empty, and of decimal digits only. -/
structure IsRun (run : List Char) : Prop where
  nonempty : run ≠ []
  digits : ∀ c ∈ run, c.isDigit = true

theorem isRun_iff {run : List Char} : IsRun run ↔ run ≠ [] ∧ run.all Char.isDigit = true := by
  rw [List.all_eq_true]
  exact ⟨fun h => ⟨h.nonempty, h.digits⟩, fun h => ⟨h.1, h.2⟩⟩

instance (run : List Char) : Decidable (IsRun run) := decidable_of_iff _ isRun_iff.symm

theorem exists_eq_digitChar {c : Char} (h : c.isDigit = true) : ∃ n < 10, c = Nat.digitChar n := by
  have hc : 48 ≤ c.toNat ∧ c.toNat ≤ 57 := Char.isDigit_iff_toNat.mp h
  refine ⟨c.toNat - 48, by omega, Char.toNat_inj.mp ?_⟩
  rw [Nat.toNat_digitChar_of_lt_ten (by omega)]
  omega

/-- Digits after those of a positive number prolong them. -/
theorem digits_append {run : List Char} {n : Nat} (hn : 0 < n)
    (hd : ∀ c ∈ run, c.isDigit = true) :
    digits n ++ run = digits (Nat.ofDigitChars 10 run n) := by
  induction run generalizing n with
  | nil => simp
  | cons c run ih =>
    obtain ⟨m, hm, rfl⟩ := exists_eq_digitChar (hd c List.mem_cons_self)
    have hone : digits m = [m.digitChar] := Nat.toDigits_of_lt_base hm
    calc digits n ++ m.digitChar :: run
        = (digits n ++ digits m) ++ run := by rw [hone, List.append_assoc, List.singleton_append]
      _ = digits (10 * n + m) ++ run := by
          rw [digits, digits, Nat.toDigits_append_toDigits (by decide) hn hm, digits]
      _ = digits (Nat.ofDigitChars 10 run (10 * n + m)) :=
          ih (by omega) fun c hc => hd c (List.mem_cons_of_mem _ hc)
      _ = digits (Nat.ofDigitChars 10 (m.digitChar :: run) n) := by
          rw [Nat.ofDigitChars_cons_digitChar_of_lt_ten hm]

theorem exists_eq_zeros_append {run : List Char} (h : IsRun run) :
    ∃ k, run = List.replicate k '0' ++ digits (value run) := by
  induction run with
  | nil => exact absurd rfl h.nonempty
  | cons c run ih =>
    obtain ⟨n, hn, rfl⟩ := exists_eq_digitChar (h.digits c List.mem_cons_self)
    have hrest : ∀ c ∈ run, c.isDigit = true := fun c hc => h.digits c (List.mem_cons_of_mem _ hc)
    have hvalue : value (n.digitChar :: run) = Nat.ofDigitChars 10 run n := by
      rw [value, Nat.ofDigitChars_cons_digitChar_of_lt_ten hn, Nat.mul_zero, Nat.zero_add]
    have hone : digits n = [n.digitChar] := Nat.toDigits_of_lt_base hn
    rcases Nat.eq_zero_or_pos n with rfl | hpos
    · -- A zero in front adds nothing, unless it is the whole run.
      by_cases hrun : run = []
      · subst hrun
        exact ⟨0, rfl⟩
      · obtain ⟨k, hk⟩ := ih ⟨hrun, hrest⟩
        refine ⟨k + 1, ?_⟩
        rw [hvalue, List.replicate_succ, List.cons_append]
        exact congrArg ('0' :: ·) hk
    · refine ⟨0, ?_⟩
      rw [hvalue, ← digits_append hpos hrest, hone]
      rfl

/-- A run without a zero in front of other digits is the shortest one. -/
theorem digits_value {run : List Char} (h : IsRun run)
    (hzero : run = ['0'] ∨ run.head? ≠ some '0') : digits (value run) = run := by
  obtain ⟨k, hk⟩ := exists_eq_zeros_append h
  rcases hzero with rfl | hhead
  · rfl
  · cases k with
    | zero => exact hk.symm
    | succ k =>
      rw [hk, List.replicate_succ] at hhead
      exact absurd rfl hhead

theorem isRun_digits (n : Nat) : IsRun (digits n) :=
  ⟨Nat.toDigits_ne_nil, fun _ hc => isDigit_of_mem_digits hc⟩

/-- The shortest run of a positive number does not start with a zero. -/
theorem head?_digits_ne {n : Nat} (hn : 0 < n) : (digits n).head? ≠ some '0' := by
  induction n using Nat.strong_induction_on with
  | h n ih =>
    rcases Nat.lt_or_ge n 10 with hlt | hge
    · rw [digits, Nat.toDigits_of_lt_base hlt]
      simpa using hn.ne'
    · rw [digits, Nat.toDigits_of_base_le (by decide) hge,
        List.head?_append_of_ne_nil _ Nat.toDigits_ne_nil]
      exact ih (n / 10) (by omega) (by omega)

theorem digits_eq_zero_or_head?_ne (n : Nat) :
    digits n = ['0'] ∨ (digits n).head? ≠ some '0' := by
  rcases Nat.eq_zero_or_pos n with rfl | hn
  · exact .inl rfl
  · exact .inr (head?_digits_ne hn)

theorem value_zeros_append (k : Nat) (run : List Char) :
    value (List.replicate k '0' ++ run) = value run := by
  rw [value, value, Nat.ofDigitChars_append, Nat.ofDigitChars_replicate_zero, Nat.mul_zero]

end Decimal

namespace Padding

theorem write_value {padding : Padding} {run : List Char} (h : Decimal.IsRun run)
    (ha : padding.accepts run = true) : padding.write (Decimal.value run) = run := by
  cases padding with
  | plain =>
    apply Decimal.digits_value h
    simpa [accepts] using ha
  | zeros width =>
    have hlong : run.length = width ∨ width < run.length ∧ run.head? ≠ some '0' := by
      simpa [accepts] using ha
    rcases hlong with rfl | ⟨hlt, hhead⟩
    · obtain ⟨k, hk⟩ := Decimal.exists_eq_zeros_append h
      have hl := congrArg List.length hk
      rw [List.length_append, List.length_replicate] at hl
      rw [write, show run.length - (Decimal.digits (Decimal.value run)).length = k by omega]
      exact hk.symm
    · have hdigits := Decimal.digits_value h (.inr hhead)
      rw [write, hdigits, Nat.sub_eq_zero_of_le hlt.le]
      rfl

/-- The paddings that are inferred from runs: a width is that of a run. -/
def IsPositive : Padding → Prop
  | plain => True
  | zeros width => 0 < width

theorem isRun_write (padding : Padding) (n : Nat) : Decimal.IsRun (padding.write n) := by
  have hdigits := Decimal.isRun_digits n
  cases padding with
  | plain => exact hdigits
  | zeros width =>
    refine ⟨by simp [write, hdigits.nonempty], fun c hc => ?_⟩
    rcases List.mem_append.mp hc with hzero | hdigit
    · rw [List.eq_of_mem_replicate hzero]
      rfl
    · exact hdigits.digits c hdigit

theorem value_write (padding : Padding) (n : Nat) : Decimal.value (padding.write n) = n := by
  cases padding with
  | plain => exact Decimal.value_digits n
  | zeros width => rw [write, Decimal.value_zeros_append, Decimal.value_digits]

theorem accepts_write {padding : Padding} (h : padding.IsPositive) (n : Nat) :
    padding.accepts (padding.write n) = true := by
  cases padding with
  | plain =>
    rw [write, accepts, Bool.or_eq_true, decide_eq_true_eq, bne_iff_ne]
    exact Decimal.digits_eq_zero_or_head?_ne n
  | zeros width =>
    have hwidth : 0 < width := h
    simp only [accepts, write, Bool.or_eq_true, Bool.and_eq_true, beq_iff_eq, bne_iff_ne,
      decide_eq_true_eq, List.length_append, List.length_replicate]
    rcases Nat.lt_or_ge width (Decimal.digits n).length with hlong | hshort
    · -- A number longer than the width is written whole, and it is not zero.
      right
      rw [Nat.sub_eq_zero_of_le hlong.le, List.replicate_zero, List.nil_append]
      refine ⟨by omega, (Decimal.digits_eq_zero_or_head?_ne n).resolve_left fun hzero => ?_⟩
      rw [hzero, List.length_singleton] at hlong
      omega
    · left
      omega

end Padding

end FileSeries
