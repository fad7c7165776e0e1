import NotebookGoto.Json.Token

/-!
# Numbers that a double can hold

A whole number for which the significand has room is held exactly, with no power of ten behind it
(`ofNumeral_digits`). Rounding at most doubles a number (`rounded_le`), which leaves it far below
the range of the doubles, so such a number is never too large to be read.
-/

namespace NotebookGoto.Json

open Text

namespace Magnitude

/-- More digits never make a number smaller. -/
theorem le_ofDigitChars (n : Nat) (ds : List Char) : n ≤ Nat.ofDigitChars 10 ds n := by
  induction ds generalizing n with
  | nil => exact Nat.le_refl n
  | cons d ds ih =>
    have hstep : n ≤ 10 * n + (d.toNat - '0'.toNat) := by omega
    rw [Nat.ofDigitChars_cons]
    exact Nat.le_trans hstep (ih _)

/-- Digits are all taken where there is room for the number that they make up. -/
theorem take_of_lt {n : Nat} {ds : List Char} (h : Nat.ofDigitChars 10 ds n < room) :
    take n ds = (Nat.ofDigitChars 10 ds n, []) := by
  induction ds generalizing n with
  | nil => rfl
  | cons d ds ih =>
    have hnext : n * 10 + Decimal.value [d] = 10 * n + (d.toNat - '0'.toNat) := by
      rw [Decimal.value, Nat.ofDigitChars_cons, Nat.ofDigitChars_nil]
      omega
    rw [Nat.ofDigitChars_cons] at h ⊢
    have hroom : 10 * n + (d.toNat - '0'.toNat) < room :=
      Nat.lt_of_le_of_lt (le_ofDigitChars _ ds) h
    rw [take, hnext, if_pos hroom]
    exact ih h

theorem ofNumeral_digits {n : Nat} (h : n < room) :
    ofNumeral (Decimal.digits n) [] false 0 = ⟨n, 0⟩ := by
  have hvalue : Nat.ofDigitChars 10 (Decimal.digits n) 0 = n := Decimal.value_digits n
  have htake : take 0 (Decimal.digits n) = (n, []) := by
    rw [take_of_lt (by rwa [hvalue]), hvalue]
  rw [ofNumeral, htake]
  rfl

/-- Rounding goes up by less than the number itself. -/
theorem rounded_le (n : Nat) : rounded n ≤ 2 * n := by
  by_cases hn : n = 0
  · subst hn
    decide
  · have hunit : Nat.pow 2 (n.log2 - 52) ≤ n :=
      Nat.le_trans (Nat.pow_le_pow_right (by decide) (Nat.sub_le _ _)) (Nat.log2_self_le hn)
    have hbelow : n / Nat.pow 2 (n.log2 - 52) * Nat.pow 2 (n.log2 - 52) ≤ n :=
      Nat.div_mul_le_self _ _
    rw [rounded]
    split
    · rw [Nat.add_mul, Nat.one_mul]
      omega
    · omega

theorem isTooLarge_whole {n : Nat} (h : n < room) : isTooLarge ⟨n, 0⟩ = false := by
  have hrounded : rounded n * rounded (Nat.pow 10 0) < Decimal.beyondDouble := by
    have hone : rounded (Nat.pow 10 0) = 1 := by decide
    have hlimit : 2 * room ≤ Decimal.beyondDouble := by decide +kernel
    have := rounded_le n
    rw [hone]
    omega
  simp only [isTooLarge, Int.toNat_zero, Nat.not_le.2 hrounded]
  simp

end Magnitude

/-- **A number of 64 bits is never too large.** -/
theorem Number.isTooLarge_digits {n : Nat} (h : n < Magnitude.room) (negative : Bool) :
    Number.isTooLarge ⟨negative, Decimal.digits n, [], none⟩ = false := by
  have hmagnitude : Number.isTooLarge ⟨negative, Decimal.digits n, [], none⟩ =
      (Magnitude.ofNumeral (Decimal.digits n) [] false 0).isTooLarge :=
    rfl
  rw [hmagnitude, Magnitude.ofNumeral_digits h, Magnitude.isTooLarge_whole h]

end NotebookGoto.Json
