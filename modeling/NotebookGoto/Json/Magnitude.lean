import NotebookGoto.Text.Decimal

/-!
# Magnitudes of JSON numbers

A number that is read is held as a significand of 64 bits and a power of ten. Digits for which the
significand has no room are dropped: each one of the whole part raises the power by one, and those
behind the point do not count. Significand and power are then rounded to doubles, and so is their
product. A number is too large when the product leaves the range of the doubles.
-/

namespace NotebookGoto.Json

open Text

/-- A significand, and the power of ten that it is multiplied by. -/
structure Magnitude where
  significand : Nat
  exponent : Int
  deriving DecidableEq, Repr

namespace Magnitude

/-- A significand stays below this number. -/
def room : Nat :=
  Nat.pow 2 64

/-- A significand followed by the digits for which it has room, and the digits that are left. -/
def take (n : Nat) : List Char → Nat × List Char
  | [] => (n, [])
  | d :: ds =>
    let next := n * 10 + Decimal.value [d]
    if next < room then take next ds else (n, d :: ds)

/-- The magnitude of a numeral: the digits of its whole part and of its fraction, and the power of
ten behind them, which is divided by when `down` is set. -/
def ofNumeral (whole fraction : List Char) (down : Bool) (exponent : Nat) : Magnitude :=
  let (n, dropped) := take 0 whole
  -- A digit smaller than the one that found no room may still find some.
  let (n, ignored) := take n fraction
  let places : Int := fraction.length - ignored.length
  let power : Int := if down then -exponent else exponent
  ⟨n, dropped.length - places + power⟩

/-- A number rounded to 53 binary digits, from halfway to the even neighbour. -/
def rounded (n : Nat) : Nat :=
  let unit := Nat.pow 2 (n.log2 - 52)
  let below := n / unit
  let rest := n % unit
  if unit < 2 * rest ∨ unit = 2 * rest ∧ below % 2 = 1 then (below + 1) * unit else below * unit

/-- Whether the product of significand and power is no finite double. No power above `10 ^ 308` is
one. -/
def isTooLarge (m : Magnitude) : Bool :=
  m.significand ≠ 0 && 0 ≤ m.exponent
    && (308 < m.exponent
      || Decimal.beyondDouble ≤ rounded m.significand * rounded (Nat.pow 10 m.exponent.toNat))

end Magnitude

end NotebookGoto.Json
