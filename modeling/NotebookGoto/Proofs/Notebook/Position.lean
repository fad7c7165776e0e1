import NotebookGoto.Notebook.Cell
import NotebookGoto.Template.Render

/-!
# The line of a lookup

The lines before the active cell are counted in words, one cell after the other, and the cursor's
line is added in words as well. Each of these steps gives up where its sum does not fit, and
together they come to the same as one exact sum that is looked at in the end: all that is added is
positive, so a sum on the way fits wherever the last one does.

* **`linesBefore?_eq`**: the count of the lines before a cell is their exact number, where that
  fits.
* **`lookup_of_codeAt`**: what becomes of a cursor in a code cell, told by the exact sums alone.
* **`lookup_told_by_exact_sum`**: when there is a lookup, and which error there is otherwise.
-/

namespace NotebookGoto.Notebook

open Text

/-! ## Counting in words -/

/-- How many lines the code cells before a cell have, be it more than a word can hold. -/
def linesBefore (cells : List Cell) (active : Nat) : Nat :=
  ((code (cells.take active)).map fun s => (lines s).length).foldl (· + ·) 0

/-- The number of lines before a cell counts the lines of the code cells before it. -/
theorem linesBefore_eq_length (cells : List Cell) (active : Nat) :
    linesBefore cells active = ((code (cells.take active)).flatMap lines).length := by
  rw [linesBefore, ← List.sum_eq_foldl_nat, List.length_flatMap]

/-- One step of the count. Where the lines of the text alone do not fit, neither does the sum. -/
theorem addLines?_eq (total : UInt32) (s : String) :
    addLines? total s = Decimal.word? (total.toNat + (lines s).length) := by
  have hadd (count : UInt32) :
      Decimal.add? total count = Decimal.word? (count.toNat + total.toNat) := by
    rw [Decimal.add?, Nat.add_comm]
  rw [Nat.add_comm]
  exact Decimal.word?_bind_eq hadd (lines s).length

/-- The whole count, started at any total. -/
theorem foldlM_addLines? (texts : List String) (total : UInt32) :
    texts.foldlM addLines? total = Decimal.word? (total.toNat + (texts.flatMap lines).length) := by
  induction texts generalizing total with
  | nil => exact (Decimal.word?_toNat total).symm
  | cons s texts ih =>
    rw [List.foldlM_cons, addLines?_eq, List.flatMap_cons, List.length_append, ← Nat.add_assoc]
    exact Decimal.word?_bind_eq ih (total.toNat + (lines s).length)

/-- **The count of the lines before a cell is exact**, and there is one just where it fits. -/
theorem linesBefore?_eq (cells : List Cell) (active : Nat) :
    linesBefore? cells active = Decimal.word? (linesBefore cells active) := by
  rw [linesBefore?, foldlM_addLines?, UInt32.toNat_zero, Nat.zero_add, linesBefore_eq_length]

/-- The line of the cursor, made to count from one and moved down. -/
theorem add?_one_bind (line before : UInt32) :
    (Decimal.add? line 1).bind (Decimal.add? · before) =
      Decimal.word? (line.toNat + 1 + before.toNat) :=
  Decimal.word?_bind_eq (fun _ => rfl) (line.toNat + 1)

/-! ## Lookups -/

/-- The active cell is there and is a code cell. -/
def CodeAt (cells : List Cell) (active : Nat) : Prop :=
  ∃ cell, cells[active]? = some cell ∧ cell.kind = .code

variable {cells : List Cell} {active : Nat}

theorem not_codeAt_iff : ¬ CodeAt cells active ↔
    cells.length ≤ active ∨ ∃ cell, cells[active]? = some cell ∧ cell.kind ≠ .code := by
  rw [← List.getElem?_eq_none_iff, CodeAt]
  cases cells[active]? <;> simp

variable (line column : UInt32) (path : String)

theorem lookup_of_none (h : cells[active]? = none) :
    lookup cells active line column path = .error (.cell (.outOfRange active cells.length)) := by
  rw [lookup, h]

theorem lookup_of_not_code {cell : Cell} (hcell : cells[active]? = some cell)
    (hkind : cell.kind ≠ .code) :
    lookup cells active line column path = .error (.cell (.notCode active)) := by
  rw [lookup, hcell]
  exact if_pos hkind

theorem exists_fault_of_not_codeAt (h : ¬ CodeAt cells active) :
    ∃ fault, lookup cells active line column path = .error (.cell fault) := by
  rcases not_codeAt_iff.1 h with hrange | ⟨cell, hcell, hkind⟩
  · exact ⟨_, lookup_of_none line column path (List.getElem?_eq_none hrange)⟩
  · exact ⟨_, lookup_of_not_code line column path hcell hkind⟩

/-- **What becomes of a cursor in a code cell** is told by the lines before the cell and by the sum
of these, the cursor's line and one. -/
theorem lookup_of_codeAt (h : CodeAt cells active) :
    lookup cells active line column path =
      if linesBefore cells active ≤ 4294967295 then
        match Decimal.word? (line.toNat + 1 + linesBefore cells active) with
        | some n => .ok ⟨source cells, n, column, path⟩
        | none => .error (.position 4294967295)
      else .error (.cell (.tooManyLines active)) := by
  obtain ⟨cell, hcell, hcode⟩ := h
  simp only [lookup, hcell, hcode, ne_eq, not_true_eq_false, if_false, linesBefore?_eq,
    add?_one_bind]
  have hmax : UInt32.size = 4294967295 + 1 := rfl
  -- There is no count just where the exact number does not fit.
  cases hbefore : Decimal.word? (linesBefore cells active) with
  | none =>
    have hsize := Decimal.word?_eq_none_iff.1 hbefore
    rw [if_neg (by omega)]
  | some before =>
    have hcount := Decimal.word?_eq_some_iff.1 hbefore
    have hlt := before.toNat_lt
    rw [← hcount, if_pos (by omega)]
    dsimp only
    cases Decimal.word? (line.toNat + 1 + before.toNat) <;> rfl

variable {l : Lookup}

/-- **What a lookup is.** The active cell is a code cell, the source is the notebook's, and the line
is the exact sum of the cursor's line, one, and the lines before the cell; so that sum fits into a
word. -/
theorem lookup_eq_ok_iff {line column : UInt32} {path : String} :
    lookup cells active line column path = .ok l ↔
      CodeAt cells active ∧
        l.source = source cells ∧ l.line.toNat = line.toNat + 1 + linesBefore cells active ∧
        l.column = column ∧ l.path = path := by
  by_cases hcode : CodeAt cells active
  · rw [lookup_of_codeAt line column path hcode, and_iff_right hcode]
    constructor
    · intro h
      split at h
      · cases hsum : Decimal.word? (line.toNat + 1 + linesBefore cells active) with
        | none =>
          rw [hsum] at h
          cases h
        | some sum =>
          rw [hsum] at h
          cases h
          exact ⟨rfl, Decimal.word?_eq_some_iff.1 hsum, rfl, rfl⟩
      · cases h
    · rintro ⟨hsource, hline, rfl, rfl⟩
      -- The lines before the cell are fewer than the sum, so they fit into a word as well.
      have hlt := l.line.toNat_lt
      rw [if_pos (by omega), Decimal.word?_eq_some_iff.2 hline, ← hsource]
  · obtain ⟨fault, hfault⟩ := exists_fault_of_not_codeAt line column path hcode
    rw [hfault]
    exact iff_of_false nofun fun h => hcode h.1

/-- There is a lookup where its line fits into a word. -/
theorem exists_lookup_iff :
    (∃ l, lookup cells active line column path = .ok l) ↔
      CodeAt cells active ∧ line.toNat + 1 + linesBefore cells active ≤ 4294967295 := by
  constructor
  · rintro ⟨l, h⟩
    obtain ⟨hcode, -, hline, -⟩ := lookup_eq_ok_iff.1 h
    have hlt := l.line.toNat_lt
    exact ⟨hcode, by omega⟩
  · rintro ⟨hcode, hle⟩
    have hlt : line.toNat + 1 + linesBefore cells active < UInt32.size := Nat.lt_succ_of_le hle
    exact ⟨⟨source cells, .ofNatLT _ hlt, column, path⟩,
      lookup_eq_ok_iff.2 ⟨hcode, rfl, UInt32.toNat_ofNatLT, rfl, rfl⟩⟩

/-- The cell is at fault where it is none, where it is no code cell, and where the lines before it
are too many by themselves. -/
theorem exists_cell_fault_iff :
    (∃ fault, lookup cells active line column path = .error (.cell fault)) ↔
      ¬ CodeAt cells active ∨ 4294967295 < linesBefore cells active := by
  by_cases hcode : CodeAt cells active
  · rw [lookup_of_codeAt line column path hcode]
    by_cases hbefore : linesBefore cells active ≤ 4294967295
    · rw [if_pos hbefore]
      -- What is left is a lookup or a fault of the cursor.
      refine iff_of_false ?_ (not_or.2 ⟨fun h => h hcode, by omega⟩)
      rintro ⟨fault, h⟩
      cases hsum : Decimal.word? (line.toNat + 1 + linesBefore cells active) <;> simp [hsum] at h
    · rw [if_neg hbefore]
      exact iff_of_true ⟨_, rfl⟩ (.inr (by omega))
  · exact iff_of_true (exists_fault_of_not_codeAt line column path hcode) (.inl hcode)

/-- The cursor is at fault where it alone makes the line too large. -/
theorem exists_position_fault_iff :
    (∃ n, lookup cells active line column path = .error (.position n)) ↔
      CodeAt cells active ∧ linesBefore cells active ≤ 4294967295 ∧
        4294967295 < line.toNat + 1 + linesBefore cells active := by
  by_cases hcode : CodeAt cells active
  · rw [lookup_of_codeAt line column path hcode, and_iff_right hcode]
    by_cases hbefore : linesBefore cells active ≤ 4294967295
    · rw [if_pos hbefore, and_iff_right hbefore]
      cases hsum : Decimal.word? (line.toNat + 1 + linesBefore cells active) with
      | none => exact iff_of_true ⟨_, rfl⟩ (Decimal.word?_eq_none_iff.1 hsum)
      | some n =>
        have hlt := n.toNat_lt
        rw [← Decimal.word?_eq_some_iff.1 hsum]
        exact iff_of_false (fun ⟨_, h⟩ => nomatch h) (by omega)
    -- Too many lines before the cell are noticed before the cursor's line is looked at.
    · rw [if_neg hbefore]
      exact iff_of_false (fun ⟨_, h⟩ => nomatch h) fun h => hbefore h.1
  · obtain ⟨fault, hfault⟩ := exists_fault_of_not_codeAt line column path hcode
    rw [hfault]
    exact iff_of_false (fun ⟨_, h⟩ => nomatch h) fun h => hcode h.1

/-- **There is a lookup just where the exact sum fits.** With `n` lines of the source before the
active cell, the index has to name a code cell and the cursor's line, one and `n` have to come to no
more than the greatest word. The line is then that sum, so a template is rendered for it. Without a
code cell, or with too many lines before it, the fault is the cell's, and in all other cases it is
the cursor's. -/
theorem lookup_told_by_exact_sum (cells : List Cell) (active : Nat) (line column : UInt32)
    (path : String) :
    ((∃ l, lookup cells active line column path = .ok l) ↔
      CodeAt cells active ∧ line.toNat + 1 + linesBefore cells active ≤ 4294967295) ∧
    (∀ l, lookup cells active line column path = .ok l →
      l.line.toNat = line.toNat + 1 + linesBefore cells active ∧ 1 ≤ l.line ∧
        l.column = column ∧ l.path = path ∧ l.OnLine ∧
        ∀ template, ∃ code, Template.render template l = .ok code) ∧
    ((∃ fault, lookup cells active line column path = .error (.cell fault)) ↔
      cells.length ≤ active ∨ (∃ cell, cells[active]? = some cell ∧ cell.kind ≠ .code) ∨
        4294967295 < linesBefore cells active) ∧
    ((∃ n, lookup cells active line column path = .error (.position n)) ↔
      CodeAt cells active ∧ linesBefore cells active ≤ 4294967295 ∧
        4294967295 < line.toNat + 1 + linesBefore cells active) := by
  refine ⟨exists_lookup_iff line column path, fun l h => ?_, ?_,
    exists_position_fault_iff line column path⟩
  · obtain ⟨-, -, hline, hcolumn, hpath⟩ := lookup_eq_ok_iff.1 h
    have hone : 1 ≤ l.line := by
      rw [UInt32.le_iff_toNat_le, UInt32.toNat_one]
      omega
    exact ⟨hline, hone, hcolumn, hpath, one_le_line_iff.1 hone, fun template =>
      ⟨_, Template.render_eq_ok hone template⟩⟩
  · rw [exists_cell_fault_iff, not_codeAt_iff, or_assoc]

/-- The last line that a word can hold, and the cursor one line further down. -/
theorem lookup_at_last_line :
    (∃ l, lookup [⟨.code, "a\nb"⟩, ⟨.raw, "x\ny"⟩, ⟨.code, "c"⟩] 2 4294967292 7 "n.ipynb" = .ok l ∧
      l.line.toNat = 4294967295) ∧
    ∃ n, lookup [⟨.code, "a\nb"⟩, ⟨.raw, "x\ny"⟩, ⟨.code, "c"⟩] 2 4294967293 7 "n.ipynb" =
      .error (.position n) := by
  have hcode : CodeAt [⟨.code, "a\nb"⟩, ⟨.raw, "x\ny"⟩, ⟨.code, "c"⟩] 2 :=
    ⟨⟨.code, "c"⟩, rfl, rfl⟩
  have hbefore : linesBefore [⟨.code, "a\nb"⟩, ⟨.raw, "x\ny"⟩, ⟨.code, "c"⟩] 2 = 2 := by
    rfl
  obtain ⟨hlookup, hspec, -, -⟩ := lookup_told_by_exact_sum
    [⟨.code, "a\nb"⟩, ⟨.raw, "x\ny"⟩, ⟨.code, "c"⟩] 2 4294967292 7 "n.ipynb"
  obtain ⟨-, -, -, hposition⟩ := lookup_told_by_exact_sum
    [⟨.code, "a\nb"⟩, ⟨.raw, "x\ny"⟩, ⟨.code, "c"⟩] 2 4294967293 7 "n.ipynb"
  rw [hbefore] at hlookup hspec hposition
  obtain ⟨l, hl⟩ := hlookup.2 ⟨hcode, by decide⟩
  exact ⟨⟨l, hl, (hspec l hl).1⟩, hposition.2 ⟨hcode, by decide, by decide⟩⟩

end NotebookGoto.Notebook
