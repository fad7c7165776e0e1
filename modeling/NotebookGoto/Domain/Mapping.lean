import NotebookGoto.Domain.MappingRows
import NotebookGoto.Text.Table

/-!
# The mapping of characters in names

Names that differ in letter case, in width or in other ways that a reader hardly sees are meant to
be one name. So before it is looked at a name is mapped, character by character: a character stays
as it is, or others take its place, or it is dropped, or no name may hold it.
-/

namespace NotebookGoto.Domain.Mapping

open Text

/-- What becomes of the characters of a span. `moved` gives the number that the first of them
becomes; those behind it, of which only each `step`th counts, keep their distance. -/
inductive Change where
  | refused
  | dropped
  | moved (step target : Nat)
  | replaced (target : List Char)
  deriving DecidableEq, Repr

/-- The numbers that points separate, as characters. -/
def targets (s : List Char) : List Char :=
  (s.splitOn '.').map fun word => Char.ofNat (Decimal.hexValue word)

/-- The change that the end of a word writes: `!` refuses and `~` drops. After `>` stands what
takes the place of the first character, with `/2` before it if every second character changes. -/
def Change.ofWord? : List Char → Option Change
  | ['!'] => some .refused
  | ['~'] => some .dropped
  | '/' :: '2' :: '>' :: target => some (.moved 2 (Decimal.hexValue target))
  | '>' :: target =>
    match targets target with
    | [c] => some (.moved 1 c.toNat)
    | cs => some (.replaced cs)
  | _ => none

/-- The table of changes. -/
def table : Table Change :=
  Table.ofRows Change.ofWord? rows

/-- What takes the place of a character of a span. -/
def Change.apply? (s : Span Change) (c : Char) : Option (List Char) :=
  match s.value with
  | .refused => none
  | .dropped => some []
  | .moved step target =>
    let distance := c.toNat - s.first
    some [if distance % step = 0 then Char.ofNat (target + distance) else c]
  | .replaced target => some target

/-- What takes the place of a character. -/
def char? (c : Char) : Option (List Char) :=
  match table.span? c with
  | some s => Change.apply? s c
  | none => some [c]

/-- A text with every character mapped. -/
def text? (s : List Char) : Option (List Char) :=
  (s.mapM char?).map List.flatten

/-- Whether a character may stand in a mapped name: it stays as it is. -/
def isFixed (c : Char) : Bool :=
  char? c = some [c]

end NotebookGoto.Domain.Mapping
