import NotebookGoto.Error

/-!
# Rendering a template

Rendering puts a lookup's literals in the place of the tokens in a template. The template is read
once from left to right: where a token starts its literal is written and the token is skipped,
anywhere else one character is copied. What has been written is never looked at again, so a
notebook that holds a token itself comes through as it is.
-/

namespace NotebookGoto.Template

/-- A template with the literals of a lookup in the place of its tokens. -/
def substitute (l : Lookup) : List Char → List Char
  | [] => []
  | c :: rest =>
    match _h : Placeholder.strip? (c :: rest) with
    | some (p, rest') => p.literal l ++ substitute l rest'
    | none => c :: substitute l rest
termination_by s => s.length
decreasing_by
  · exact Placeholder.length_of_strip? _h
  · simp

/-- The code for a lookup. There is none for a cursor that stands on no line. -/
def render (template : String) (l : Lookup) : Except Error String :=
  if l.OnLine then .ok (String.ofList (substitute l template.toList))
  else .error (.position l.line)

/-- On a line every template is rendered. -/
theorem render_eq_ok {l : Lookup} (h : 1 ≤ l.line) (template : String) :
    render template l = .ok (String.ofList (substitute l template.toList)) := by
  have hon : l.OnLine := one_le_line_iff.1 h
  rw [render, if_pos hon]

/-- At line zero none is. -/
theorem render_eq_error {l : Lookup} (h : l.line = 0) (template : String) :
    render template l = .error (.position 0) := by
  have hoff : ¬ l.OnLine := fun hon => hon h
  rw [render, if_neg hoff, h]

/-- The placeholders whose token does not occur in a text. -/
def missing (code : String) : List Placeholder :=
  Placeholder.all.filter fun p => !Text.occurs p.token.toList code.toList

theorem mem_missing_iff {code : String} {p : Placeholder} :
    p ∈ missing code ↔ ¬ p.token.toList <:+: code.toList := by
  rw [missing, List.mem_filter, Bool.not_eq_true', ← Bool.not_eq_true, Text.occurs_iff]
  exact and_iff_right p.mem_all

theorem missing_sublist (code : String) : (missing code).Sublist Placeholder.all :=
  List.filter_sublist

end NotebookGoto.Template
