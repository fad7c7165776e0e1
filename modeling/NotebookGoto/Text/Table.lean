import NotebookGoto.Text.Decimal

/-!
# Tables of characters

A property that many characters have in common is given by a table: spans of characters, each with
a value, in ascending order and apart from one another. A table is written in rows of words with
blanks between them. A word is a span: the numbers of its first and of its last character to base
sixteen, or one number for a single character, and then its value, as in `300-314=n230`.
-/

namespace NotebookGoto.Text

/-- Characters in a row, by the numbers of the first and of the last, and what holds for them. -/
structure Span (α : Type) where
  first : Nat
  last : Nat
  value : α
  deriving DecidableEq, Repr

/-- The spans of a property, in ascending order. -/
abbrev Table (α : Type) := Array (Span α)

variable {α : Type}

/-- A number to base sixteen at the head of a text, and the text after it. -/
def Span.readNumber (s : List Char) : Nat × List Char :=
  let isDigit := fun c => (Decimal.hexDigit? c).isSome
  (Decimal.hexValue (s.takeWhile isDigit), s.dropWhile isDigit)

/-- The span that a word writes. -/
def Span.ofWord? (value? : List Char → Option α) (word : List Char) : Option (Span α) := do
  let (first, rest) := readNumber word
  let (last, rest) := match rest with
    | '-' :: rest => readNumber rest
    | rest => (first, rest)
  return ⟨first, last, ← value? rest⟩

namespace Table

/-- The table that some rows write. -/
def ofRows (value? : List Char → Option α) (rows : List String) : Table α :=
  (rows.flatMap fun row => (row.toList.splitOn ' ').filterMap (Span.ofWord? value?)).toArray

/-- The span that a number lies in, looked for from one place of a table to before another. -/
def search (t : Table α) (n low high : Nat) : Option (Span α) :=
  if low < high then
    let middle := (low + high) / 2
    match t[middle]? with
    | none => none
    | some s =>
      if n < s.first then search t n low middle
      else if s.last < n then search t n (middle + 1) high
      else some s
  else none
termination_by high - low
decreasing_by all_goals omega

/-- The span that a character lies in. -/
def span? (t : Table α) (c : Char) : Option (Span α) :=
  t.search c.toNat 0 t.size

end Table

end NotebookGoto.Text
