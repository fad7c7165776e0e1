import Mathlib.Data.List.Count
import NotebookGoto.Proofs.Template.Leftmost
import NotebookGoto.Proofs.Template.Literal
import NotebookGoto.Template.Jedi

/-!
# The lines of the code

No token holds a line feed, so a template is rendered line by line (`substitute_intercalate`). In
the code for the kernel four lines name a placeholder, each at its end behind an assignment, and the
other lines name none. What is put into these lines holds no line feed either, so the code has the
lines of the template, and the text of a notebook stays inside its literal.

* **`lines_substitute_jedi`**: the lines of the code.
* **`jedi_code_is_its_template`**: what differs from the template, and what that denotes.
-/

namespace NotebookGoto

open Text

/-! ## Line by line -/

namespace Placeholder

theorem newline_not_mem_token (p : Placeholder) : '\n' ∉ p.token.toList := by
  cases p <;> decide

/-- The token at the head of a text does not reach over the end of its line. -/
theorem strip?_append_newline (s t : List Char) :
    strip? (s ++ '\n' :: t) = (strip? s).map fun m => (m.1, m.2 ++ '\n' :: t) := by
  rw [strip?, strip?, List.map_findSome?]
  congr 1
  funext p
  rw [afterPrefix?_append_cons p.newline_not_mem_token, Function.comp_apply, Option.map_map,
    Option.map_map]
  rfl

end Placeholder

namespace Template

theorem substitute_of_strip? {c : Char} {s r : List Char} {p : Placeholder}
    (h : Placeholder.strip? (c :: s) = some (p, r)) (l : Lookup) :
    substitute l (c :: s) = p.literal l ++ substitute l r := by
  rw [substitute]
  split
  · rename_i h'
    rw [h] at h'
    cases h'
    rfl
  · rename_i h'
    rw [h] at h'
    cases h'

theorem substitute_of_none {c : Char} {s : List Char} (h : Placeholder.strip? (c :: s) = none)
    (l : Lookup) : substitute l (c :: s) = c :: substitute l s := by
  rw [substitute]
  split
  · rename_i h'
    rw [h] at h'
    cases h'
  · rfl

/-- A line is rendered by itself, whatever follows it. -/
theorem substitute_append_newline (l : Lookup) (s t : List Char) :
    substitute l (s ++ '\n' :: t) = substitute l s ++ '\n' :: substitute l t := by
  fun_induction substitute l s with
  | case1 =>
    have hnone : Placeholder.strip? ('\n' :: t) = none := Placeholder.strip?_append_newline [] t
    rw [List.nil_append, substitute_of_none hnone, List.nil_append]
  | case2 c rest p rest' h ih =>
    have hstrip : Placeholder.strip? (c :: (rest ++ '\n' :: t)) = some (p, rest' ++ '\n' :: t) := by
      rw [← List.cons_append, Placeholder.strip?_append_newline, h]
      rfl
    rw [List.cons_append, substitute_of_strip? hstrip, ih, List.append_assoc]
  | case3 c rest h ih =>
    have hstrip : Placeholder.strip? (c :: (rest ++ '\n' :: t)) = none := by
      rw [← List.cons_append, Placeholder.strip?_append_newline, h]
      rfl
    rw [List.cons_append, substitute_of_none hstrip, ih, List.cons_append]

/-- **A template is rendered line by line.** -/
theorem substitute_intercalate (l : Lookup) (ls : List (List Char)) :
    substitute l (['\n'].intercalate ls) = ['\n'].intercalate (ls.map (substitute l)) := by
  induction ls with
  | nil => rw [List.map_nil, List.intercalate_nil, substitute]
  | cons s ls ih =>
    cases ls with
    | nil => rw [List.map_singleton, List.intercalate_singleton, List.intercalate_singleton]
    | cons t ls =>
      rw [List.map_cons, List.map_cons, List.intercalate_cons_cons, List.intercalate_cons_cons,
        List.append_assoc, List.singleton_append, substitute_append_newline, ih, List.append_assoc,
        List.singleton_append, List.map_cons]

end Template

/-! ## The lines that name a placeholder -/

namespace Placeholder

/-- What stands before the token in the line of a placeholder. -/
def assignment : Placeholder → String
  | .source => "    _notebook_source = "
  | .line => "    _cursor_line = "
  | .column => "    _cursor_column = "
  | .path => "    _notebook_path = "

/-- The line of a placeholder. -/
def wholeLine (p : Placeholder) : List Char :=
  p.assignment.toList ++ p.token.toList

theorem leftmostCut_wholeLine (p : Placeholder) :
    Template.LeftmostCut p.wholeLine ⟨[(p.assignment.toList, p)], []⟩ := by
  have hleft : ∀ i < p.assignment.toList.length, ∀ q ∈ all,
      ¬ q.token.toList <+: p.wholeLine.drop i := by
    cases p <;> decide +kernel
  refine .token p.wholeLine _ [] p ⟨[], []⟩ ?_ (fun i hi q => hleft i hi q (mem_all q))
    (.tail [] ?_)
  · rw [wholeLine, List.append_nil]
  · intro q h
    exact q.token_toList_ne_nil (List.infix_nil.1 h)

/-- Literals hold no controls. -/
theorem all_isPrinted_literal (p : Placeholder) (l : Lookup) :
    (p.literal l).all Json.isPrinted = true := by
  cases p with
  | source => exact Json.all_isPrinted_writeString l.source.toList
  | line => exact (Json.Datum.word l.line).all_isPrinted_write
  | column => exact (Json.Datum.word l.column).all_isPrinted_write
  | path => exact Json.all_isPrinted_writeString l.path.toList

end Placeholder

namespace Template

/-- A line of the template, with values in the place of the placeholders. -/
def fillLine (values : Placeholder → List Char) (line : List Char) : List Char :=
  match Placeholder.all.find? (fun p => line = p.wholeLine) with
  | some p => p.assignment.toList ++ values p
  | none => line

theorem fillLine_wholeLine (values : Placeholder → List Char) (p : Placeholder) :
    fillLine values p.wholeLine = p.assignment.toList ++ values p := by
  have hfind : Placeholder.all.find? (fun q => p.wholeLine = q.wholeLine) = some p := by
    cases p <;> decide +kernel
  rw [fillLine, hfind]

/-- The lines of a list of literals, as the characters of which each literal is made. -/
theorem map_toList_cons {cs : List Char} {ss : List String} {ls : List (List Char)}
    (h : ss.map String.toList = ls) : (String.ofList cs :: ss).map String.toList = cs :: ls := by
  rw [List.map_cons, String.toList_ofList, h]

/-- A line of the template holds no control, and no token but at the end of a whole line. -/
theorem jediLines_check : ∀ line ∈ jediLines.map String.toList,
    line.all Json.isPrinted = true ∧
      ∀ p ∈ Placeholder.all, occurs p.token.toList line = true → line = p.wholeLine := by
  -- To decide this on the literals would be to decode each of them from its bytes.
  have hchars : ∃ ls, jediLines.map String.toList = ls ∧ ∀ line ∈ ls,
      line.all Json.isPrinted = true ∧
        ∀ p ∈ Placeholder.all, occurs p.token.toList line = true → line = p.wholeLine :=
    ⟨_, by repeat (first | exact List.map_nil | apply map_toList_cons), by decide +kernel⟩
  obtain ⟨ls, hls, hcheck⟩ := hchars
  rwa [hls]

theorem lines_jedi : jedi.toList.splitOn '\n' = jediLines.map String.toList := by
  have hlines : ∀ line ∈ jediLines.map String.toList, '\n' ∉ line := fun line hline =>
    Json.newline_not_mem_of_all_isPrinted (jediLines_check line hline).1
  rw [jedi, String.toList_intercalate]
  exact List.splitOn_intercalate '\n' hlines (by decide)

/-- The template has one line for each placeholder. -/
theorem count_wholeLine (p : Placeholder) : (jedi.toList.splitOn '\n').count p.wholeLine = 1 := by
  have hcount : jediLines.count (p.assignment ++ p.token) = 1 := by
    cases p <;> decide +kernel
  have hinjective : Function.Injective String.toList := fun _ _ => String.toList_injective
  rw [lines_jedi, Placeholder.wholeLine, ← String.toList_append,
    List.count_map_of_injective _ _ hinjective, hcount]

/-- What rendering makes of a line of the template. -/
theorem substitute_jediLine {line : List Char} (hline : line ∈ jediLines.map String.toList)
    (l : Lookup) : substitute l line = fillLine (fun p => p.literal l) line := by
  by_cases hwhole : ∃ p : Placeholder, line = p.wholeLine
  · obtain ⟨p, rfl⟩ := hwhole
    rw [fillLine_wholeLine, p.leftmostCut_wholeLine.substitute_eq]
    simp [Cut.fill, Cut.fillWith]
  · have hfind : Placeholder.all.find? (fun p => line = p.wholeLine) = none := by
      rw [List.find?_eq_none]
      intro p _ hp
      exact hwhole ⟨p, of_decide_eq_true hp⟩
    have hcut : LeftmostCut line ⟨[], line⟩ := by
      refine .tail _ fun p h => hwhole ⟨p, ?_⟩
      exact (jediLines_check line hline).2 p p.mem_all (occurs_iff.2 h)
    rw [fillLine, hfind, hcut.substitute_eq]
    rfl

/-- A line holds no control, whatever literals stand in it. -/
theorem all_isPrinted_fillLine {line : List Char} (hline : line ∈ jediLines.map String.toList)
    (l : Lookup) : (fillLine (fun p => p.literal l) line).all Json.isPrinted = true := by
  rw [fillLine]
  cases Placeholder.all.find? (fun p => line = p.wholeLine) with
  | none => exact (jediLines_check line hline).1
  | some p =>
    have hassignment : p.assignment.toList.all Json.isPrinted = true := by cases p <;> decide
    rw [List.all_append, hassignment, p.all_isPrinted_literal]
    rfl

/-- The code is joined from the lines of the template, each filled by itself. -/
theorem substitute_jedi (l : Lookup) :
    substitute l jedi.toList = ['\n'].intercalate
      ((jedi.toList.splitOn '\n').map (fillLine fun p => p.literal l)) := by
  have hlines : (jediLines.map String.toList).map (substitute l) =
      (jediLines.map String.toList).map (fillLine fun p => p.literal l) :=
    List.map_congr_left fun line hline => substitute_jediLine hline l
  rw [lines_jedi, ← hlines, ← substitute_intercalate, jedi, String.toList_intercalate]
  rfl

/-- **The lines of the code.** -/
theorem lines_substitute_jedi (l : Lookup) :
    (substitute l jedi.toList).splitOn '\n' =
      (jedi.toList.splitOn '\n').map (fillLine fun p => p.literal l) := by
  have hlines : ∀ line ∈ (jedi.toList.splitOn '\n').map (fillLine fun p => p.literal l),
      '\n' ∉ line := by
    rw [lines_jedi, List.forall_mem_map]
    intro line hline
    exact Json.newline_not_mem_of_all_isPrinted (all_isPrinted_fillLine hline l)
  have hne : (jedi.toList.splitOn '\n').map (fillLine fun p => p.literal l) ≠ [] := by
    rw [lines_jedi]
    exact List.cons_ne_nil _ _
  rw [substitute_jedi, List.splitOn_intercalate '\n' hlines hne]

theorem isPrinted_of_mem_code {l : Lookup} {c : Char} (hc : c ∈ substitute l jedi.toList)
    (hnewline : c ≠ '\n') : Json.isPrinted c = true := by
  rw [substitute_jedi, lines_jedi] at hc
  rcases mem_of_mem_intercalate hc with hc | ⟨filled, hfilled, hc⟩
  · exact absurd (List.mem_singleton.1 hc) hnewline
  · obtain ⟨line, hline, rfl⟩ := List.mem_map.1 hfilled
    exact List.all_eq_true.1 (all_isPrinted_fillLine hline l) c hc

/-- Lines that are filled alike are filled with the same values. -/
theorem values_eq_of_lines_eq {values values' : Placeholder → List Char}
    (h : (jedi.toList.splitOn '\n').map (fillLine values) =
      (jedi.toList.splitOn '\n').map (fillLine values')) (p : Placeholder) :
    values p = values' p := by
  have hmem : p.wholeLine ∈ jedi.toList.splitOn '\n' := by
    rw [← List.one_le_count_iff, count_wholeLine]
  have hline := List.map_inj_left.1 h p.wholeLine hmem
  rw [fillLine_wholeLine, fillLine_wholeLine] at hline
  exact List.append_cancel_left hline

/-- Literals determine a lookup. -/
theorem lookup_eq_of_literal_eq {l l' : Lookup}
    (h : ∀ p : Placeholder, p.literal l = p.literal l') : l = l' := by
  have hword {m n : UInt32} (e : Decimal.digits m.toNat = Decimal.digits n.toNat) : m = n := by
    have hvalue := congrArg Decimal.value e
    rw [Decimal.value_digits, Decimal.value_digits] at hvalue
    exact UInt32.toNat_inj.1 hvalue
  cases l
  cases l'
  rw [Lookup.mk.injEq]
  exact ⟨Python.eq_of_writeString_eq (h .source), hword (h .line), hword (h .column),
    Python.eq_of_writeString_eq (h .path)⟩

/-- **No text of a notebook leaves its literal.** The code for a lookup has the lines of the
template, of which those of the four placeholders, each of which occurs once, are filled: with the
two numbers in decimal, and with two literals that end with their last character and denote the
source and the path. There is no control in it but the line feeds. So the code determines the
lookup. -/
theorem jedi_code_is_its_template :
    (∀ l : Lookup, 1 ≤ l.line → ∃ code, render jedi l = .ok code ∧
      (code.toList.splitOn '\n').length = (jedi.toList.splitOn '\n').length ∧
      (∀ c ∈ code.toList, c.toNat < 0x20 → c = '\n') ∧
      ∃ values : Placeholder → List Char,
        code.toList.splitOn '\n' = (jedi.toList.splitOn '\n').map (fillLine values) ∧
        Python.literal? (values .source) = some (Python.codePoints l.source, []) ∧
        values .line = Decimal.digits l.line.toNat ∧
        values .column = Decimal.digits l.column.toNat ∧
        Python.literal? (values .path) = some (Python.codePoints l.path, [])) ∧
    (∀ p : Placeholder, (jedi.toList.splitOn '\n').count p.wholeLine = 1) ∧
    ∀ l l' : Lookup, 1 ≤ l.line → 1 ≤ l'.line → render jedi l = render jedi l' → l = l' := by
  refine ⟨?_, count_wholeLine, ?_⟩
  · intro l hline
    refine ⟨_, render_eq_ok hline jedi, ?_, ?_, fun p => p.literal l, ?_, ?_, rfl, rfl, ?_⟩
    · rw [String.toList_ofList, lines_substitute_jedi, List.length_map]
    · intro c hc hlow
      rw [String.toList_ofList] at hc
      by_contra hnewline
      have hprinted := isPrinted_of_mem_code hc hnewline
      rw [Json.isPrinted, decide_eq_true_iff] at hprinted
      omega
    · rw [String.toList_ofList, lines_substitute_jedi]
    · exact Python.literal?_writeString l.source
    · exact Python.literal?_writeString l.path
  · intro l l' hline hline' hcode
    rw [render_eq_ok hline, render_eq_ok hline'] at hcode
    have hchars := congrArg String.toList (Except.ok.inj hcode)
    rw [String.toList_ofList, String.toList_ofList] at hchars
    have hlines := congrArg (List.splitOn '\n') hchars
    rw [lines_substitute_jedi, lines_substitute_jedi] at hlines
    exact lookup_eq_of_literal_eq fun p => values_eq_of_lines_eq hlines p

/-- A source that ends its literal if nothing is escaped, and a path with a token in it. -/
theorem jedi_code_of_hostile_source :
    (∃ code, render jedi ⟨"\\\"\nimport os", 7, 0, "__CURSOR_LINE__\x00"⟩ = .ok code ∧
      ∃ values : Placeholder → List Char,
        code.toList.splitOn '\n' = (jedi.toList.splitOn '\n').map (fillLine values) ∧
        Python.literal? (values .source) = some (Python.codePoints "\\\"\nimport os", []) ∧
        values .line = ['7'] ∧ values .column = ['0'] ∧
        Python.literal? (values .path) = some (Python.codePoints "__CURSOR_LINE__\x00", [])) ∧
    render jedi ⟨"\\n", 1, 0, "n.ipynb"⟩ ≠ render jedi ⟨"\n", 1, 0, "n.ipynb"⟩ := by
  obtain ⟨hcode, -, hinjective⟩ := jedi_code_is_its_template
  constructor
  · obtain ⟨code, hrender, -, -, values, hlines, hsource, hline, hcolumn, hpath⟩ :=
      hcode ⟨"\\\"\nimport os", 7, 0, "__CURSOR_LINE__\x00"⟩ (by decide)
    exact ⟨code, hrender, values, hlines, hsource, hline, hcolumn, hpath⟩
  · intro hsame
    have hlookup := hinjective _ _ (by decide) (by decide) hsame
    exact absurd (congrArg Lookup.source hlookup) (by decide)

end Template

end NotebookGoto
