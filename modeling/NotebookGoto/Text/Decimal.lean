/-!
# Decimal numerals

Writing a number in decimal, reading a run of digits back, and the one question about size
that both file formats ask of a number with a fraction or an exponent: does it lie beyond the
range of binary64, so that its nearest double is infinite?
-/

namespace NotebookGoto.Text.Decimal

/-- The decimal digits of a number, most significant first and without leading zeros. -/
def digits (n : Nat) : List Char :=
  Nat.toDigits 10 n

/-- The number that a run of decimal digits denotes. -/
def value (ds : List Char) : Nat :=
  Nat.ofDigitChars 10 ds 0

/-- A number as a text. -/
def text (n : Nat) : String :=
  String.ofList (digits n)

theorem value_digits (n : Nat) : value (digits n) = n :=
  Nat.ofDigitChars_toDigits (by decide) (by decide)

/-- The value of a digit below sixteen in either letter case. -/
def hexDigit? (c : Char) : Option Nat :=
  if '0' ≤ c ∧ c ≤ '9' then some (c.toNat - '0'.toNat)
  else if 'a' ≤ c ∧ c ≤ 'f' then some (c.toNat - 'a'.toNat + 10)
  else if 'A' ≤ c ∧ c ≤ 'F' then some (c.toNat - 'A'.toNat + 10)
  else none

/-- The number that a run of digits to base sixteen denotes. Other characters count as zero. -/
def hexValue (ds : List Char) : Nat :=
  ds.foldl (fun n c => n * 16 + (hexDigit? c).getD 0) 0

/-- The digits of a number to base sixteen, in lower case and without leading zeros. -/
def hexDigits (n : Nat) : List Char :=
  Nat.toDigits 16 n

/-- A 32-bit word, for a number that fits into one. -/
def word? (n : Nat) : Option UInt32 :=
  if h : n < UInt32.size then some (UInt32.ofNatLT n h) else none

theorem word?_eq_some_iff {n : Nat} {w : UInt32} : word? n = some w ↔ w.toNat = n := by
  unfold word?
  split
  · rename_i h
    constructor
    · rintro ⟨⟩; simp
    · rintro rfl; simp
  · rename_i h
    constructor
    · intro e; cases e
    · rintro rfl; exact absurd w.toNat_lt h

theorem word?_toNat (w : UInt32) : word? w.toNat = some w :=
  word?_eq_some_iff.2 rfl

theorem word?_eq_none_iff {n : Nat} : word? n = none ↔ UInt32.size ≤ n := by
  unfold word?
  split
  · rename_i h
    constructor
    · intro e; cases e
    · intro hle; omega
  · rename_i h
    exact iff_of_true rfl (Nat.le_of_not_lt h)

/-- The sum of two words, where it fits into a word. -/
def add? (a b : UInt32) : Option UInt32 :=
  word? (a.toNat + b.toNat)

/-- A sum made in two steps fits where the exact one does: what has become too large stays so. -/
theorem word?_bind_eq {f : UInt32 → Option UInt32} {b : Nat} (hf : ∀ w, f w = word? (w.toNat + b))
    (a : Nat) : (word? a).bind f = word? (a + b) := by
  cases ha : word? a with
  | none =>
    have hsize := word?_eq_none_iff.1 ha
    exact (word?_eq_none_iff.2 (by omega)).symm
  | some w => rw [← word?_eq_some_iff.1 ha, Option.bind_some, hf]

/-- The least magnitude whose nearest double is infinite: halfway between the greatest finite
double, `2^1024 - 2^971`, and `2^1024`. -/
def beyondDouble : Nat :=
  Nat.pow 2 1024 - Nat.pow 2 970

/-- Whether a decimal numeral lies beyond the doubles: the digits of its whole part and of its
fraction, followed by a power of ten that is divided by when `down` is set. Exponents so large
that they settle the answer alone are not expanded. -/
def exceedsDouble (whole fraction : List Char) (down : Bool) (exponent : Nat) : Bool :=
  let significand := value (whole ++ fraction)
  let places := fraction.length
  if significand = 0 then false
  else if down then
    -- A significand of `n` digits is less than `10 ^ n`.
    if exponent > whole.length + places then false
    else beyondDouble * Nat.pow 10 (places + exponent) ≤ significand
  -- A significand of at least one, times more than `10 ^ 400`.
  else if exponent > 400 + places then true
  else beyondDouble * Nat.pow 10 places ≤ significand * Nat.pow 10 exponent

end NotebookGoto.Text.Decimal
