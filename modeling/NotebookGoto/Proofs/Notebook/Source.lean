import NotebookGoto.Proofs.Notebook.Position

/-!
# Lines of a notebook's source

The source of a notebook is joined from its code cells, while the line of the cursor is counted over
the cells before the active one. The two agree because splitting a joined text at its line feeds
gives the lines of each part in turn (`lines_source`): the lines before a cell are exactly those
that `linesBefore` counts, also where a cell is empty or ends in a line feed.

* **`line?_source`**: where the lines of a code cell lie in the source.
* **`cursor_line_in_source`**: the line of a lookup is the cursor's line.
-/

namespace NotebookGoto.Notebook

open Text

/-! ## Code cells -/

theorem code_append (cells cells' : List Cell) :
    code (cells ++ cells') = code cells ++ code cells' := by
  rw [code, List.filter_append, List.map_append, code, code]

theorem code_cons {cell : Cell} (h : cell.kind = .code) (cells : List Cell) :
    code (cell :: cells) = cell.source :: code cells := by
  rw [code, List.filter_cons_of_pos (by simpa using h), List.map_cons, code]

/-- The code cells before an active one, the active one and those after it. -/
theorem code_eq_of_active {cells : List Cell} {active : Nat} {cell : Cell}
    (hcell : cells[active]? = some cell) (hcode : cell.kind = .code) :
    code cells = code (cells.take active) ++ cell.source :: code (cells.drop (active + 1)) := by
  obtain ⟨hlt, hget⟩ := List.getElem?_eq_some_iff.1 hcell
  have hdrop : cells.drop active = cell :: cells.drop (active + 1) := by
    rw [List.drop_eq_getElem_cons hlt, hget]
  calc
    code cells = code (cells.take active ++ cells.drop active) := by rw [List.take_append_drop]
    _ = code (cells.take active) ++ cell.source :: code (cells.drop (active + 1)) := by
      rw [hdrop, code_append, code_cons hcode]

/-! ## Lines -/

/-- The line of a text with a number, where the first line has the number one. -/
def line? (s : String) (number : Nat) : Option (List Char) :=
  if number = 0 then none else (lines s)[number - 1]?

theorem line?_add_one (s : String) (n : Nat) : line? s (n + 1) = (lines s)[n]? := by
  rw [line?, if_neg (Nat.succ_ne_zero n), Nat.add_sub_cancel]

/-- **The lines of a source** are those of its code cells, one cell after the other. Without any
code cell the source is empty, which is one line. -/
theorem lines_source {cells : List Cell} (h : code cells ≠ []) :
    lines (source cells) = (code cells).flatMap lines := by
  have hne : (code cells).map String.toList ≠ [] := fun e => h (List.map_eq_nil_iff.1 e)
  rw [lines, source, String.toList_ofList, splitOn_intercalate_flatMap '\n' hne, List.flatMap_map]
  rfl

/-- A code cell's lines lie in the source behind those of the cells before it. -/
theorem line?_source {cells : List Cell} {active : Nat} {cell : Cell}
    (hcell : cells[active]? = some cell) (hcode : cell.kind = .code) {k : Nat}
    (hk : k < (lines cell.source).length) :
    line? (source cells) (linesBefore cells active + 1 + k) = some (lines cell.source)[k] := by
  have hparts := code_eq_of_active hcell hcode
  have hne : code cells ≠ [] := by
    rw [hparts]
    exact List.append_ne_nil_of_right_ne_nil _ (List.cons_ne_nil _ _)
  have hlines : lines (source cells) = (code (cells.take active)).flatMap lines ++
      (lines cell.source ++ (code (cells.drop (active + 1))).flatMap lines) := by
    rw [lines_source hne, hparts, List.flatMap_append, List.flatMap_cons]
  have hindex : linesBefore cells active + 1 + k = linesBefore cells active + k + 1 := by omega
  rw [hindex, line?_add_one, hlines, linesBefore_eq_length,
    List.getElem?_append_right (Nat.le_add_right _ _), Nat.add_sub_cancel_left,
    List.getElem?_append_left hk, List.getElem?_eq_getElem hk]

/-! ## Lookups -/

/-- **The line of a lookup is the cursor's line.** The source of a lookup has the lines of all code
cells in their order. Counted from the line of the lookup less the cursor's line inside its cell,
they are the lines of that cell; so the cursor's own line, if the cell has it, is the line of the
lookup. -/
theorem cursor_line_in_source (cells : List Cell) (active : Nat) (line column : UInt32)
    (path : String) (l : Lookup) (h : lookup cells active line column path = .ok l) :
    lines l.source = (code cells).flatMap lines ∧
    ∃ cell, cells[active]? = some cell ∧ cell.kind = .code ∧ line.toNat < l.line.toNat ∧
      (∀ k, (hk : k < (lines cell.source).length) →
        line? l.source (l.line.toNat - line.toNat + k) = some (lines cell.source)[k]) ∧
      ((hk : line.toNat < (lines cell.source).length) →
        line? l.source l.line.toNat = some (lines cell.source)[line.toNat]) := by
  obtain ⟨⟨cell, hcell, hcode⟩, hsource, hline, -, -⟩ := lookup_eq_ok_iff.1 h
  have hne : code cells ≠ [] := by
    rw [code_eq_of_active hcell hcode]
    exact List.append_ne_nil_of_right_ne_nil _ (List.cons_ne_nil _ _)
  rw [hsource]
  refine ⟨lines_source hne, cell, hcell, hcode, by omega, ?_, ?_⟩
  · intro k hk
    have hnumber : l.line.toNat - line.toNat + k = linesBefore cells active + 1 + k := by omega
    rw [hnumber]
    exact line?_source hcell hcode hk
  · intro hk
    have hnumber : l.line.toNat = linesBefore cells active + 1 + line.toNat := by omega
    rw [hnumber]
    exact line?_source hcell hcode hk

/-- A cell that ends in a line feed, one that does not run and an empty one before the active
cell. -/
theorem cursor_line_behind_empty_cell :
    lookup [⟨.code, "import os\nx = 1\n"⟩, ⟨.markdown, "# Title\n\ntext"⟩, ⟨.code, ""⟩,
        ⟨.code, "\nfoo(x)\n"⟩, ⟨.code, "bar()"⟩] 3 1 4 "n.ipynb" =
      .ok ⟨"import os\nx = 1\n\n\n\nfoo(x)\n\nbar()", 6, 4, "n.ipynb"⟩ ∧
    line? "import os\nx = 1\n\n\n\nfoo(x)\n\nbar()" 6 = some "foo(x)".toList := by
  have hlookup : lookup [⟨.code, "import os\nx = 1\n"⟩, ⟨.markdown, "# Title\n\ntext"⟩, ⟨.code, ""⟩,
        ⟨.code, "\nfoo(x)\n"⟩, ⟨.code, "bar()"⟩] 3 1 4 "n.ipynb" =
      .ok ⟨"import os\nx = 1\n\n\n\nfoo(x)\n\nbar()", 6, 4, "n.ipynb"⟩ := by
    rfl
  obtain ⟨-, cell, hcell, -, -, -, hcursor⟩ := cursor_line_in_source _ _ _ _ _ _ hlookup
  cases hcell
  exact ⟨hlookup, hcursor (by decide)⟩

end NotebookGoto.Notebook
