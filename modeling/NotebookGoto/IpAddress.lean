import NotebookGoto.Text.Affix
import NotebookGoto.Text.Decimal

/-!
# IP addresses

The address of version 4 is four numbers with points between them. The one of version 6 is eight
groups of digits to base sixteen with colons between them, of which `::` stands for one or more
that are zero, and of which the last two may be written as an address of version 4.
-/

namespace NotebookGoto

open Text

/-- An IP address: four bytes, or eight groups of sixteen bits. -/
inductive IpAddress where
  | v4 (a b c d : Nat)
  | v6 (groups : List Nat)
  deriving DecidableEq, Repr

namespace IpAddress

/-! ## Reading -/

/-- A number in decimal up to a bound, and the text after it. -/
def readDecimal? (bound : Nat) (s : List Char) : Option (Nat × List Char) :=
  let n := Decimal.value (s.takeWhile Char.isDigit)
  if (s.takeWhile Char.isDigit).isEmpty || bound < n then none
  else some (n, s.dropWhile Char.isDigit)

/-- A byte in decimal, with at most three digits and no zero in front. -/
def readByte? (s : List Char) : Option (Nat × List Char) :=
  let ds := s.takeWhile Char.isDigit
  if 3 < ds.length || (ds.head? = some '0' && 1 < ds.length) then none
  else readDecimal? 255 s

/-- An address of version 4, and the text after it. -/
def readV4? (s : List Char) : Option ((Nat × Nat × Nat × Nat) × List Char) := do
  let (a, s) ← readByte? s
  let (b, s) ← readByte? (← afterPrefix? ['.'] s)
  let (c, s) ← readByte? (← afterPrefix? ['.'] s)
  let (d, s) ← readByte? (← afterPrefix? ['.'] s)
  return ((a, b, c, d), s)

/-- A group, of one to four digits to base sixteen, and the text after it. -/
def readGroup? (s : List Char) : Option (Nat × List Char) :=
  let isDigit := fun c => (Decimal.hexDigit? c).isSome
  let ds := s.takeWhile isDigit
  if ds.isEmpty || 4 < ds.length then none
  else some (Decimal.hexValue ds, s.dropWhile isDigit)

/-- Groups with colons between them, as many as there are and at most `room`. The last two may be
an address of version 4, which is told by the flag. -/
def readGroups (first : Bool) : Nat → List Char → List Nat × Bool × List Char
  | 0, s => ([], false, s)
  | room + 1, s =>
    match if first then some s else afterPrefix? [':'] s with
    | none => ([], false, s)
    | some start =>
      -- An address of version 4 takes the room of two groups.
      match if room = 0 then none else readV4? start with
      | some ((a, b, c, d), rest) => ([a * 256 + b, c * 256 + d], true, rest)
      | none =>
        match readGroup? start with
        | none => ([], false, s)
        | some (g, rest) =>
          let (gs, embedded, rest) := readGroups false room rest
          (g :: gs, embedded, rest)

/-- The groups of an address of version 6, and the text after it. -/
def readV6? (s : List Char) : Option (List Nat × List Char) :=
  let (front, embedded, rest) := readGroups true 8 s
  if front.length = 8 then some (front, rest)
  else if embedded then none
  else
    (afterPrefix? [':', ':'] rest).map fun rest =>
      let (back, _, rest) := readGroups true (7 - front.length) rest
      (front ++ List.replicate (8 - front.length - back.length) 0 ++ back, rest)

/-! ## Writing -/

/-- Four bytes with points between them. -/
def textV4 (a b c d : Nat) : List Char :=
  ['.'].intercalate ([a, b, c, d].map Decimal.digits)

/-- Groups with colons between them. -/
def textGroups (groups : List Nat) : List Char :=
  [':'].intercalate (groups.map Decimal.hexDigits)

/-- How many zeros stand at the head of a list. -/
def zeros (groups : List Nat) : Nat :=
  (groups.takeWhile (· = 0)).length

/-- Where the longest run of zeros starts, the first of several, and how long it is. -/
def longestZeros : List Nat → Nat × Nat
  | [] => (0, 0)
  | g :: rest =>
    let here := zeros (g :: rest)
    let (start, length) := longestZeros rest
    if here ≠ 0 ∧ length ≤ here then (0, here) else (start + 1, length)

/-- The groups of an address of version 6 as they are written: the longest run of two or more
that are zero is left out. -/
def textV6 (groups : List Nat) : List Char :=
  let (start, length) := longestZeros groups
  if length < 2 then textGroups groups
  else textGroups (groups.take start) ++ [':', ':'] ++ textGroups (groups.drop (start + length))

/-- An IP address as it is written. One of version 6 that stands for one of version 4 shows it. -/
def text : IpAddress → List Char
  | .v4 a b c d => textV4 a b c d
  | .v6 [0, 0, 0, 0, 0, 0xFFFF, h, l] =>
    [':', ':', 'f', 'f', 'f', 'f', ':'] ++ textV4 (h / 256) (h % 256) (l / 256) (l % 256)
  | .v6 groups => textV6 groups

end IpAddress

end NotebookGoto
