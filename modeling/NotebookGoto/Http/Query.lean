import NotebookGoto.Text.Decimal
import NotebookGoto.Text.Utf8

/-!
# Queries

A query is a list of pairs joined by ampersands, each a key and a value with the first equals
sign between them. In both a plus stands for a space and `%` with two digits to base sixteen for
a byte; the bytes are read as UTF-8 leniently. A `%` that no digits follow stands for itself.
-/

namespace NotebookGoto.Http.Query

open Text

/-- Bytes with their escapes resolved. -/
def unescape : Bytes → Bytes
  | [] => []
  | 0x25 :: a :: b :: rest =>
    match hexDigit? a, hexDigit? b with
    | some a, some b => UInt8.ofNat (a * 16 + b) :: unescape rest
    | _, _ => 0x25 :: unescape (a :: b :: rest)
  | b :: rest => b :: unescape rest
where
  /-- The value of a byte that is a digit to base sixteen. -/
  hexDigit? (b : UInt8) : Option Nat :=
    Decimal.hexDigit? (Char.ofNat b.toNat)

/-- A key or a value as it was meant. -/
def component (s : List Char) : List Char :=
  Utf8.lenient (unescape (Utf8.encode (s.map fun c => if c = '+' then ' ' else c)))

/-- A pair as it was meant. Without an equals sign the value is empty. -/
def pair (s : List Char) : List Char × List Char :=
  (component (s.takeWhile (· ≠ '=')), component ((s.dropWhile (· ≠ '=')).drop 1))

/-- The pairs of a query. -/
def pairs (s : List Char) : List (List Char × List Char) :=
  ((s.splitOn '&').filter (· ≠ [])).map pair

/-- The value of a key that stands in exactly one pair of a query. -/
def single? (key : List Char) (s : List Char) : Option (List Char) :=
  match (pairs s).filter (·.1 = key) with
  | [(_, value)] => some value
  | _ => none

end NotebookGoto.Http.Query
