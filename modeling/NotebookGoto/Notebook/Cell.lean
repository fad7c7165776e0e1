import NotebookGoto.Error

/-!
# Notebook cells

A notebook is a list of cells, of which only the code cells run. Its source is the code cells'
text, one after the other with a line feed between them, and a cursor in a cell is a cursor in
that source: as many lines further down as the code cells before it have lines. A cell has one
line more than line feeds, so a cell that ends in a line feed has an empty last line.
-/

namespace NotebookGoto

/-- What a cell holds. -/
inductive CellKind where
  | code | markdown | raw
  deriving DecidableEq, Repr

/-- A cell of a notebook. -/
structure Cell where
  kind : CellKind
  source : String
  deriving DecidableEq, Repr

namespace Notebook

open Text

/-- The lines of a text, between its line feeds. -/
def lines (s : String) : List (List Char) :=
  s.toList.splitOn '\n'

/-- The texts of the code cells. -/
def code (cells : List Cell) : List String :=
  (cells.filter (·.kind = .code)).map (·.source)

/-- The source that a notebook's code cells make up. -/
def source (cells : List Cell) : String :=
  String.ofList (['\n'].intercalate ((code cells).map String.toList))

/-- How many lines a text has, where that fits into a word. -/
def lineCount? (s : String) : Option UInt32 :=
  Decimal.word? (lines s).length

/-- A number of lines with those of a text added. -/
def addLines? (total : UInt32) (s : String) : Option UInt32 := do
  Decimal.add? total (← lineCount? s)

/-- How many lines of the source lie before a cell. They are counted in words, so there is no count
where the lines of one cell, or those of the cells up to one, do not fit. -/
def linesBefore? (cells : List Cell) (active : Nat) : Option UInt32 :=
  (code (cells.take active)).foldlM addLines? 0

/-- The lookup for a cursor in the cell with the index `active`, where `line` and `column` count
from zero inside that cell. -/
def lookup (cells : List Cell) (active : Nat) (line column : UInt32) (path : String) :
    Except Error Lookup :=
  match cells[active]? with
  | none => .error (.cell (.outOfRange active cells.length))
  | some cell =>
    if cell.kind ≠ .code then .error (.cell (.notCode active))
    else match linesBefore? cells active with
      | none => .error (.cell (.tooManyLines active))
      | some before =>
        -- The cursor's line is made to count from one before the lines above it are added.
        match (Decimal.add? line 1).bind (Decimal.add? · before) with
        | none => .error (.position 4294967295)
        | some line => .ok ⟨source cells, line, column, path⟩

end Notebook

end NotebookGoto
