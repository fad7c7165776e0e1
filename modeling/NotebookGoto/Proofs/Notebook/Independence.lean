import NotebookGoto.Proofs.Notebook.Source

/-!
# What a lookup does not depend on

A cursor stands in a code cell, and of all other cells only the code cells leave a trace in its
lookup. So the index of the active cell means no more than how many code cells stand before it
(`code_take_of_designates`), and a code cell behind the active one only makes the source longer at
its end (`source_append_cons`).

* **`lookup_of_code_cells`**: cells that do not run may be put in and left out anywhere, and behind
  the active cell so may those that do.
-/

namespace NotebookGoto.Notebook

open Text

/-! ## Cells that do not run -/

/-- The active cell is the code cell that stands behind `k` others. -/
def Designates (cells : List Cell) (active k : Nat) : Prop :=
  CodeAt cells active ∧ (code (cells.take active)).length = k

/-- Two outcomes that are the same lookup, or faults of one kind. -/
inductive OfOneKind : Except Error Lookup → Except Error Lookup → Prop
  | found (l : Lookup) : OfOneKind (.ok l) (.ok l)
  | cell (fault fault' : CellFault) : OfOneKind (.error (.cell fault)) (.error (.cell fault'))
  | position (n : UInt32) : OfOneKind (.error (.position n)) (.error (.position n))

/-- The code cells before the active one are the first ones of all. -/
theorem code_take_of_designates {cells : List Cell} {active k : Nat}
    (h : Designates cells active k) : code (cells.take active) = (code cells).take k := by
  obtain ⟨⟨cell, hcell, hcode⟩, rfl⟩ := h
  rw [code_eq_of_active hcell hcode, List.take_left]

theorem linesBefore_congr {cells cells' : List Cell} {active active' : Nat}
    (h : code (cells.take active) = code (cells'.take active')) :
    linesBefore cells active = linesBefore cells' active' := by
  rw [linesBefore, h, linesBefore]

theorem source_congr {cells cells' : List Cell} (h : code cells = code cells') :
    source cells = source cells' := by
  rw [source, h, source]

/-- The same code cells give the same lookup for a cursor in the same one of them. -/
theorem ofOneKind_lookup {cells cells' : List Cell} {active active' k : Nat}
    (line column : UInt32) (path : String) (hcode : code cells = code cells')
    (h : Designates cells active k) (h' : Designates cells' active' k) :
    OfOneKind (lookup cells active line column path) (lookup cells' active' line column path) := by
  have hbefore : code (cells.take active) = code (cells'.take active') := by
    rw [code_take_of_designates h, code_take_of_designates h', hcode]
  rw [lookup_of_codeAt line column path h.1, lookup_of_codeAt line column path h'.1,
    linesBefore_congr hbefore, source_congr hcode]
  -- The same numbers decide both. Only where they blame the cell does the index show.
  split
  · cases Decimal.word? (line.toNat + 1 + linesBefore cells' active') with
    | none => exact .position _
    | some n => exact .found _
  · exact .cell _ _

/-! ## Cells behind the active one -/

/-- Two outcomes that differ in nothing but what their sources hold behind a text. -/
inductive AlikeUpTo (text : String) : Except Error Lookup → Except Error Lookup → Prop
  | fault (e : Error) : AlikeUpTo text (.error e) (.error e)
  | found (rest rest' : String) (line column : UInt32) (path : String) :
    AlikeUpTo text (.ok ⟨text ++ rest, line, column, path⟩)
      (.ok ⟨text ++ rest', line, column, path⟩)

variable (before : List Cell) (cell : Cell) (after after' : List Cell)

theorem codeAt_append_cons_iff :
    CodeAt (before ++ cell :: after) before.length ↔ cell.kind = .code := by
  simp [CodeAt]

theorem code_singleton {cell : Cell} (h : cell.kind = .code) : code [cell] = [cell.source] :=
  code_cons h []

/-- The source up to a code cell ends in the text of that cell. -/
theorem exists_source_concat {cell : Cell} (h : cell.kind = .code) :
    ∃ front, source (before ++ [cell]) = front ++ cell.source := by
  obtain ⟨front, hfront⟩ := exists_intercalate_concat ['\n'] ((code before).map String.toList)
    cell.source.toList
  refine ⟨String.ofList front, String.toList_inj.1 ?_⟩
  rw [source, code_append, code_singleton h, List.map_append, List.map_singleton,
    String.toList_ofList, hfront, String.toList_append, String.toList_ofList]

/-- The cells behind a code cell follow it in the source, each on a new line. -/
theorem source_append_cons {cell : Cell} (h : cell.kind = .code) :
    source (before ++ cell :: after) = source (before ++ [cell]) ++
      String.ofList ((code after).flatMap fun s => '\n' :: s.toList) := by
  have hne : (code (before ++ [cell])).map String.toList ≠ [] := by
    rw [code_append, code_singleton h]
    simp
  have hsplit : before ++ cell :: after = (before ++ [cell]) ++ after := by simp
  rw [hsplit, source, source, code_append _ after, List.map_append, intercalate_append_eq _ hne,
    List.flatMap_map, String.ofList_append]
  rfl

/-- The cells behind the active one change no more of the outcome than what its source goes on
with. -/
theorem alikeUpTo_lookup (line column : UInt32) (path : String) :
    AlikeUpTo (source (before ++ [cell]))
      (lookup (before ++ cell :: after) before.length line column path)
      (lookup (before ++ cell :: after') before.length line column path) := by
  by_cases hcode : cell.kind = .code
  · have hat (rest : List Cell) : CodeAt (before ++ cell :: rest) before.length :=
      (codeAt_append_cons_iff before cell rest).2 hcode
    -- What stands before the active cell is the same, and so are the lines that are counted there.
    have hlines : linesBefore (before ++ cell :: after) before.length =
        linesBefore (before ++ cell :: after') before.length :=
      linesBefore_congr (by rw [List.take_left, List.take_left])
    rw [lookup_of_codeAt line column path (hat after),
      lookup_of_codeAt line column path (hat after'), hlines, source_append_cons before after hcode,
      source_append_cons before after' hcode]
    generalize linesBefore (before ++ cell :: after') before.length = n
    split
    · cases Decimal.word? (line.toNat + 1 + n) with
      | none => exact .fault _
      | some n => exact .found _ _ _ _ _
    · exact .fault _
  -- A cell that is no code cell is at fault whatever follows it.
  · have hget (rest : List Cell) : (before ++ cell :: rest)[before.length]? = some cell := by simp
    rw [lookup_of_not_code line column path (hget after) hcode,
      lookup_of_not_code line column path (hget after') hcode]
    exact .fault _

/-- **A lookup depends on the code cells alone, and behind the active one only its source does.**
Where the code cells of two notebooks are the same and the active cells are the same one of them,
the lookups are equal, or both fail for their cell or both for the cursor. Where two notebooks
differ behind the active cell, the lookups have the same line, column and path, and the same source
up to the text of that cell, or both fail with the same error. -/
theorem lookup_of_code_cells :
    (∀ (cells cells' : List Cell) (active active' k : Nat) (line column : UInt32) (path : String),
      code cells = code cells' → Designates cells active k → Designates cells' active' k →
        OfOneKind (lookup cells active line column path)
          (lookup cells' active' line column path)) ∧
    ∀ (before : List Cell) (cell : Cell) (after after' : List Cell) (line column : UInt32)
      (path : String),
      AlikeUpTo (source (before ++ [cell]))
        (lookup (before ++ cell :: after) before.length line column path)
        (lookup (before ++ cell :: after') before.length line column path) ∧
      (cell.kind = .code → ∃ front, source (before ++ [cell]) = front ++ cell.source) :=
  ⟨fun _ _ _ _ _ line column path hcode h h' => ofOneKind_lookup line column path hcode h h',
    fun before cell after after' line column path =>
      ⟨alikeUpTo_lookup before cell after after' line column path, exists_source_concat before⟩⟩

/-- Notes between two code cells, and other code behind them. -/
theorem lookup_of_code_among_notes :
    OfOneKind
      (lookup [⟨.markdown, "# A"⟩, ⟨.code, "x = 1\n"⟩, ⟨.raw, "r"⟩, ⟨.code, "x"⟩] 3 0 1 "n.ipynb")
      (lookup [⟨.code, "x = 1\n"⟩, ⟨.code, "x"⟩, ⟨.markdown, ""⟩] 1 0 1 "n.ipynb") ∧
    AlikeUpTo "x = 1\n\nx"
      (lookup [⟨.code, "x = 1\n"⟩, ⟨.code, "x"⟩] 1 0 1 "n.ipynb")
      (lookup [⟨.code, "x = 1\n"⟩, ⟨.code, "x"⟩, ⟨.code, "y\n"⟩] 1 0 1 "n.ipynb") := by
  obtain ⟨hnotes, hbehind⟩ := lookup_of_code_cells
  refine ⟨hnotes _ _ _ _ 1 0 1 "n.ipynb" (by decide) ⟨⟨_, rfl, rfl⟩, rfl⟩ ⟨⟨_, rfl, rfl⟩, rfl⟩, ?_⟩
  exact (hbehind [⟨.code, "x = 1\n"⟩] ⟨.code, "x"⟩ [] [⟨.code, "y\n"⟩] 0 1 "n.ipynb").1

end NotebookGoto.Notebook
