import NotebookGoto.Json.Record
import NotebookGoto.Lookup

/-!
# Placeholders

A template names the four parts of a lookup by placeholders. Each has a token, by which it is
recognised in the template, and for a lookup a literal, which takes the token's place: a text as
a string between double quotes with its escapes, a number in decimal.
-/

namespace NotebookGoto

/-- A part of a lookup that a template names. -/
inductive Placeholder where
  | source | line | column | path
  deriving DecidableEq, Repr

namespace Placeholder

/-- All placeholders, in the order in which they are listed and looked for. -/
def all : List Placeholder :=
  [.source, .line, .column, .path]

theorem mem_all (p : Placeholder) : p ∈ all := by
  cases p <;> decide

/-- The token of a placeholder in a template. -/
def token : Placeholder → String
  | .source => "__NOTEBOOK_SOURCE__"
  | .line => "__CURSOR_LINE__"
  | .column => "__CURSOR_COLUMN__"
  | .path => "__NOTEBOOK_PATH__"

/-- What takes the place of a placeholder's token. -/
def literal (l : Lookup) : Placeholder → List Char
  | .source => Json.writeString l.source.toList
  | .line => Text.Decimal.digits l.line.toNat
  | .column => Text.Decimal.digits l.column.toNat
  | .path => Json.writeString l.path.toList

/-- The placeholder whose token starts a text, and the text after the token. -/
def strip? (s : List Char) : Option (Placeholder × List Char) :=
  all.findSome? fun p => (Text.afterPrefix? p.token.toList s).map (p, ·)

theorem eq_append_of_strip? {s r : List Char} {p : Placeholder} (h : strip? s = some (p, r)) :
    s = p.token.toList ++ r := by
  obtain ⟨q, _, hq⟩ := List.exists_of_findSome?_eq_some h
  obtain ⟨t, ht, e⟩ := Option.map_eq_some_iff.1 hq
  cases e
  exact Text.afterPrefix?_eq_some_iff.1 ht

theorem token_toList_ne_nil (p : Placeholder) : p.token.toList ≠ [] := by
  cases p <;> decide

theorem length_of_strip? {s r : List Char} {p : Placeholder} (h : strip? s = some (p, r)) :
    r.length < s.length := by
  have := List.length_pos_iff.2 (token_toList_ne_nil p)
  rw [eq_append_of_strip? h, List.length_append]
  omega

end Placeholder

end NotebookGoto
