import NotebookGoto.Toml.Token

/-!
# TOML documents

A document is a list of lines, each of which gives a key its value or opens a table. Of a value
only a text is kept; all others are checked for their form and dropped. A key may be dotted, and
then leads through tables that only dotted keys make. The header of a table may stand once,
unless it is the header of a list of tables, each of which starts afresh below that path.
-/

namespace NotebookGoto.Toml

open Text

/-- A key. -/
abbrev Key := List Char

/-- A value, of which only a text is kept. -/
inductive Value where
  | text (s : List Char)
  | other
  deriving DecidableEq, Repr

/-- What a key leads to: a value, or a table made by dotted keys. -/
inductive Entry where
  | value (v : Value)
  | dotted (entries : List (Key × Entry))
  deriving Repr

/-- The keys of a table, in the order in which they are given. -/
abbrev Entries := List (Key × Entry)

/-- A table with a value under a dotted key. There is none if the key leads through a value. -/
def Entries.add (v : Value) : List Key → Key → Entries → Option Entries
  | [], key, entries => some (entries ++ [(key, .value v)])
  | next :: path, key, entries =>
    match entries.span (·.1 ≠ key) with
    | (before, []) => (add v path next []).map fun es => before ++ [(key, .dotted es)]
    | (before, (_, .dotted es) :: after) =>
      (add v path next es).map fun es => before ++ (key, .dotted es) :: after
    | (_, (_, .value _) :: _) => none

/-! ## Numbers and dates -/

namespace Number

/-- The digits of a word with single underscores between them, and the rest of the word. -/
def digits? (sign zeros : Bool) (isDigit : Char → Bool) (s : List Char) :
    Option (List Char × List Char) :=
  let s := match s with
    | '+' :: rest => if sign then rest else s
    | '-' :: rest => if sign then rest else s
    | _ => s
  let inside := fun c => isDigit c || c = '_'
  let span := s.takeWhile inside
  let groups := span.splitOn '_'
  let ds := span.filter (· ≠ '_')
  if groups.any (·.isEmpty) then none
  else if !zeros && ds.head? = some '0' && 1 < ds.length then none
  else some (ds, s.dropWhile inside)

/-- Whether a word starts with a minus. -/
def isNegative (s : List Char) : Bool :=
  s.head? = some '-'

/-- The value of digits to a base. -/
def valueOf (base : Nat) (ds : List Char) : Nat :=
  ds.foldl (fun n c => n * base + (Decimal.hexDigit? c).getD 0) 0

/-- Whether a word is a whole number to base sixteen, eight, two or ten in 64 bits. -/
def isInteger (base : Nat) (s : List Char) : Bool :=
  let isDigit := fun c => (Decimal.hexDigit? c).any (· < base)
  match digits? (base = 10) (base ≠ 10) isDigit s with
  | some (ds, []) =>
    let bound := if base = 10 && isNegative s then Nat.pow 2 63 else Nat.pow 2 63 - 1
    valueOf base ds ≤ bound
  | _ => false

/-- The exponent of a number, after its mark, and the tokens after it. A mark at the end of a word
may be followed by a plus and another word. -/
def exponent? (s : List Char) (ts : List Token) : Option ((Bool × List Char) × List Token) :=
  match s with
  | [] =>
    let ts := match ts with
      | .plus :: ts => ts
      | ts => ts
    match ts with
    | .word s :: ts =>
      match digits? false true Char.isDigit s with
      | some (ds, []) => some ((false, ds), ts)
      | _ => none
    | _ => none
  | s =>
    match digits? true true Char.isDigit s with
    | some (ds, []) => some ((isNegative s, ds), ts)
    | _ => none

/-- The tokens after a number with a fraction or an exponent. It must not be too large. -/
def float? (s : List Char) (after : Option (List Char)) (ts : List Token) :
    Option (List Token) := do
  let (whole, suffix) ← digits? true false Char.isDigit s
  let (fraction, suffix) ← match after with
    | none => some ([], suffix)
    | some after => if suffix.isEmpty then digits? false true Char.isDigit after else none
  let ((down, exponent), ts) ← match suffix with
    | [] => some ((false, []), ts)
    | c :: rest => if c = 'e' ∨ c = 'E' then exponent? rest ts else none
  if Decimal.exceedsDouble whole fraction down (Decimal.value exponent) then none else some ts

/-- The tokens after a number that starts with a word. -/
def number? (s : List Char) (ts : List Token) : Option (List Token) :=
  match s with
  | '0' :: 'x' :: rest => if isInteger 16 rest then some ts else none
  | '0' :: 'o' :: rest => if isInteger 8 rest then some ts else none
  | '0' :: 'b' :: rest => if isInteger 2 rest then some ts else none
  | _ =>
    if s.any fun c => c = 'e' ∨ c = 'E' then float? s none ts
    else match ts with
      | .period :: .word after :: ts => float? s (some after) ts
      | .period :: _ => none
      | ts =>
        let magnitude := if isNegative s then s.drop 1 else s
        if magnitude = ['i', 'n', 'f'] ∨ magnitude = ['n', 'a', 'n'] ∨ isInteger 10 s then some ts
        else none

/-- The tokens after a word, where there must be one. -/
def afterWord? : List Token → Option (List Token)
  | .word _ :: ts => some ts
  | _ => none

/-- The tokens after a word that a mark may introduce. -/
def afterMark? (mark : Token) : List Token → Option (List Token)
  | t :: ts => if t = mark then afterWord? ts else some (t :: ts)
  | [] => some []

/-- The tokens after the minutes of a time, its seconds, its fraction and its offset. -/
def time? (ts : List Token) : Option (List Token) := do
  match ← afterWord? ts with
  | .colon :: ts =>
    let ts ← afterWord? ts
    let ts ← afterMark? .period ts
    let ts ← afterMark? .plus ts
    afterMark? .colon ts
  | _ => none

/-- The tokens after a date, perhaps with a time after a single space. -/
def date? (ts : List Token) : Option (List Token) :=
  let ts := match ts with
    | .blank true :: .word _ :: ts => ts
    | ts => ts
  match ts with
  | .colon :: ts => time? ts
  | ts => some ts

/-- Whether a word is a date by its look. -/
def isDate (s : List Char) : Bool :=
  s.any (fun c => c = 'T' ∨ c = 't')
    || ((s.drop 1).any (· = '-') && !occurs ['e', '-'] s && !occurs ['E', '-'] s)

/-- Whether a word is a number, a date or a time by its look. -/
def isNumeric (s : List Char) : Bool :=
  s = ['i', 'n', 'f'] || s = ['n', 'a', 'n'] || s.head?.any fun c => c = '-' || c.isDigit

/-- The tokens after a bare word that is a value. -/
def bare? (s : List Char) (ts : List Token) : Option (List Token) :=
  if s = ['t', 'r', 'u', 'e'] ∨ s = ['f', 'a', 'l', 's', 'e'] then some ts
  else if !isNumeric s then none
  else if isDate s then date? ts
  else match ts with
    | .colon :: ts => time? ts
    | ts => number? s ts

end Number

/-! ## Values -/

/-- The tokens after a blank, where there is one. -/
def afterBlank : List Token → List Token
  | .blank _ :: ts => ts
  | ts => ts

/-- The tokens after white space over any number of lines, with comments. -/
def afterSpace : List Token → List Token
  | .blank _ :: ts => afterSpace ts
  | .newline :: ts => afterSpace ts
  | .comment true :: ts => afterSpace ts
  | ts => ts

/-- A key without dots, and the tokens after it. -/
def key? : List Token → Option (Key × List Token)
  | .word s :: ts => some (s, ts)
  | .text s false :: ts => some (s, ts)
  | _ => none

theorem length_afterBlank (ts : List Token) : (afterBlank ts).length ≤ ts.length := by
  unfold afterBlank
  split <;> simp

theorem length_of_key? {ts rest : List Token} {k : Key} (h : key? ts = some (k, rest)) :
    rest.length < ts.length := by
  unfold key? at h
  split at h <;> cases h <;> simp

/-- The keys of a dotted key after those in `done`, the latest of which comes first, and the
tokens after them. -/
def keysAfter (done : List Key) (ts : List Token) : Option (List Key × List Token) :=
  match _h : afterBlank ts with
  | .period :: ts' =>
    match _hk : key? (afterBlank ts') with
    | some (k, rest) => keysAfter (k :: done) rest
    | none => none
  | ts => some (done.reverse, ts)
termination_by ts.length
decreasing_by
  have h₁ := length_afterBlank ts
  have h₂ := length_afterBlank ts'
  have h₃ := length_of_key? _hk
  rw [_h, List.length_cons] at h₁
  omega

/-- A dotted key with the blanks around it: its first key, the keys after that, and the tokens
after them. -/
def dottedKey? (ts : List Token) : Option (Key × List Key × List Token) := do
  let (k, ts) ← key? (afterBlank ts)
  let (path, ts) ← keysAfter [] ts
  return (k, path, afterBlank ts)

/-- The tokens after an equals sign and the blank after it. -/
def afterEquals? : List Token → Option (List Token)
  | .equals :: ts => some (afterBlank ts)
  | _ => none

mutual

/-- The value at the head of some tokens, and the tokens after it. -/
def value? : Nat → List Token → Option (Value × List Token)
  | 0, _ => none
  | fuel + 1, ts =>
    match ts with
    | .text s _ :: ts => some (.text s, ts)
    | .word s :: ts => (Number.bare? s ts).map (.other, ·)
    | .plus :: .word s :: ts => (Number.number? s ts).map (.other, ·)
    | .leftBracket :: ts => (items? fuel ts).map (.other, ·)
    | .leftBrace :: ts =>
      match afterBlank ts with
      | .rightBrace :: ts => some (.other, ts)
      | ts => (members? fuel [] ts).map (.other, ·)
    | _ => none

/-- The tokens after the items of an array and its closing bracket. -/
def items? : Nat → List Token → Option (List Token)
  | 0, _ => none
  | fuel + 1, ts =>
    match afterSpace ts with
    | .rightBracket :: ts => some ts
    | ts => do
      let (_, ts) ← value? fuel ts
      match afterSpace ts with
      | .comma :: ts => items? fuel ts
      | .rightBracket :: ts => some ts
      | _ => none

/-- The tokens after the members of an inline table and its closing brace. -/
def members? : Nat → Entries → List Token → Option (List Token)
  | 0, _, _ => none
  | fuel + 1, entries, ts => do
    let (key, path, ts) ← dottedKey? ts
    let (v, ts) ← value? fuel (← afterEquals? ts)
    let entries ← entries.add v path key
    match afterBlank ts with
    | .rightBrace :: ts => some ts
    | .comma :: ts => members? fuel entries ts
    | _ => none

end

/-! ## Lines -/

/-- The header of a table, or of one more table of a list. -/
structure Header where
  path : List Key
  list : Bool
  deriving DecidableEq, Repr

/-- The tokens after the end of a line, before which a blank and a clean comment may stand. -/
def afterLine? (ts : List Token) : Option (List Token) :=
  let ts := match afterBlank ts with
    | .comment true :: ts => ts
    | ts => ts
  match ts with
  | [] => some []
  | .newline :: ts => some ts
  | _ => none

/-- The header at the head of some tokens, after its first bracket, and the tokens after it. -/
def header? (ts : List Token) : Option (Header × List Token) := do
  let (list, ts) := match ts with
    | .leftBracket :: ts => (true, ts)
    | ts => (false, ts)
  let (key, path, ts) ← dottedKey? ts
  let ts ← match list, ts with
    | true, .rightBracket :: .rightBracket :: ts => some ts
    | false, .rightBracket :: ts => some ts
    | _, _ => none
  return (⟨key :: path, list⟩, ← afterLine? ts)

/-- A file: the keys before the first header, and the headers. -/
structure Document where
  entries : Entries
  headers : List Header
  deriving Repr

/-- The lines of a document. `root` holds the keys before the first header, `headers` those read so
far, the latest first, and `entries` the keys after the latest one. -/
def lines? : Nat → Entries → List Header → Entries → List Token → Option Document
  | 0, _, _, _, _ => none
  | fuel + 1, root, headers, entries, ts =>
    match afterSpace ts with
    | [] => some ⟨if headers.isEmpty then entries else root, headers.reverse⟩
    | .leftBracket :: ts => do
      let (h, ts) ← header? ts
      lines? fuel (if headers.isEmpty then entries else root) (h :: headers) [] ts
    | ts => do
      let (key, path, ts) ← dottedKey? ts
      let ts ← afterEquals? ts
      let (v, ts) ← value? (2 * ts.length) ts
      let entries ← entries.add v path key
      lines? fuel root headers entries (← afterLine? ts)

/-- Whether headers may follow one another, after some others in the same list of tables. A header
may stand once; one of a list must come before all others below its path, and each time it stands
the headers below it are forgotten. -/
def compatible (seen : List Header) : List Header → Bool
  | [] => true
  | h :: rest =>
    -- A header is below itself.
    let below := fun (other : Header) => h.path.isPrefixOf other.path
    if h.list then
      if ⟨h.path, true⟩ ∈ seen then
        compatible (h :: seen.filter (!below ·)) rest
      else !seen.any below && compatible (h :: seen) rest
    else !seen.any (·.path = h.path) && compatible (h :: seen) rest

/-- The document of a text. -/
def Document.ofText? (s : List Char) : Option Document := do
  let ts := tokens s
  let d ← lines? (ts.length + 1) [] [] [] ts
  if compatible [] d.headers then some d else none

end NotebookGoto.Toml
