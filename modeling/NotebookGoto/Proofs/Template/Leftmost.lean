import Mathlib.Data.List.Infix
import NotebookGoto.Proofs.Json.Writing
import NotebookGoto.Template.Render

/-!
# Rendering replaces the leftmost tokens

What rendering should do can be said without saying how the template is read. A template is *cut*
at its tokens: take the leftmost place at which any token stands, then the leftmost place in the
text after that token, and so on until no token is left. Every template has exactly one such cut,
and a rendered template is its cut with a literal in the place of each token. Nor does it take the
renderer to say what a literal is: a string as JSON writes and reads it, or a number in decimal.

* **`LeftmostCut`**: the cut of a template, as a relation.
* **`LeftmostCut.unique`**: no template has two cuts. Two tokens never stand at one place, since
  none is the start of another (`token_unique`).
* **`exists_leftmostCut`**: `substitute` fills a cut. Its recursion moves one character at a time
  and a cut moves one token at a time, so a character that is copied is put in front of the first
  stretch of the cut of the rest.
* **`render_eq_fill_leftmostCut`**: what is rendered, with the literals that are put in.
-/

namespace NotebookGoto

open Text

/-! ## Tokens at the head of a text -/

namespace Placeholder

/-- No placeholder is found exactly where no token starts. -/
theorem strip?_eq_none_iff {s : List Char} :
    strip? s = none ↔ ∀ p : Placeholder, ¬ p.token.toList <+: s := by
  rw [strip?, List.findSome?_eq_none_iff]
  constructor
  · intro h p
    exact Text.afterPrefix?_eq_none_iff.1 (Option.map_eq_none_iff.1 (h p (mem_all p)))
  · intro h p _
    exact Option.map_eq_none_iff.2 (Text.afterPrefix?_eq_none_iff.2 (h p))

/-- No token is the start of another one. -/
theorem eq_of_prefix_token {p q : Placeholder} (h : p.token.toList <+: q.token.toList) :
    p = q := by
  revert h
  cases p <;> cases q <;> decide

/-- At most one token starts a text: of two starts of one text the shorter is the start of the
other. -/
theorem token_unique {p q : Placeholder} {s : List Char} (hp : p.token.toList <+: s)
    (hq : q.token.toList <+: s) : p = q := by
  rcases List.prefix_or_prefix_of_prefix hp hq with h | h
  · exact eq_of_prefix_token h
  · exact (eq_of_prefix_token h).symm

end Placeholder

namespace Template

/-! ## Cuts -/

/-- A template cut at tokens: each stretch of other text with the placeholder whose token ends it,
and what follows the last token. -/
structure Cut where
  stretches : List (List Char × Placeholder)
  tail : List Char
  deriving DecidableEq

/-- A cut with values in the place of the tokens. The stretches stay as they are. -/
def Cut.fillWith (values : Placeholder → List Char) (d : Cut) : List Char :=
  d.stretches.flatMap (fun m => m.1 ++ values m.2) ++ d.tail

/-- A cut with the literals of a lookup in the place of the tokens. -/
def Cut.fill (l : Lookup) (d : Cut) : List Char :=
  d.fillWith fun p => p.literal l

/-- A cut at the leftmost tokens. Either the template holds no token at all, or `p` is one of which
no other starts further to the left, and what follows it is cut in the same way. -/
inductive LeftmostCut : List Char → Cut → Prop where
  | tail (s : List Char) (absent : ∀ p : Placeholder, ¬ p.token.toList <:+: s) :
      LeftmostCut s ⟨[], s⟩
  | token (s stretch rest : List Char) (p : Placeholder) (d : Cut)
      (here : s = stretch ++ (p.token.toList ++ rest))
      (leftmost : ∀ i < stretch.length, ∀ q : Placeholder, ¬ q.token.toList <+: s.drop i)
      (next : LeftmostCut rest d) :
      LeftmostCut s ⟨(stretch, p) :: d.stretches, d.tail⟩

/-- Of two stretches that both end at a leftmost token neither is the shorter one. -/
theorem stretch_length_le {s stretch stretch' rest' : List Char} {p' : Placeholder}
    (here' : s = stretch' ++ (p'.token.toList ++ rest'))
    (leftmost : ∀ i < stretch.length, ∀ q : Placeholder, ¬ q.token.toList <+: s.drop i) :
    stretch.length ≤ stretch'.length := by
  by_contra hlt
  refine leftmost stretch'.length (by omega) p' ?_
  rw [here', List.drop_left]
  exact List.prefix_append _ _

/-- **A template has one cut.** Induction on the first cut: both end their first stretch at the same
place, there stands one token, and the rest is the same text. -/
theorem LeftmostCut.unique {s : List Char} {d d' : Cut} (h : LeftmostCut s d)
    (h' : LeftmostCut s d') : d = d' := by
  induction h generalizing d' with
  | tail s absent =>
    cases h' with
    | tail => rfl
    | token _ stretch rest p _ here =>
      have hin : p.token.toList <:+: s :=
        ⟨stretch, rest, by rw [here, List.append_assoc]⟩
      exact absurd hin (absent p)
  | token s stretch rest p d here leftmost _ ih =>
    cases h' with
    | tail _ absent =>
      have hin : p.token.toList <:+: s :=
        ⟨stretch, rest, by rw [here, List.append_assoc]⟩
      exact absurd hin (absent p)
    | token _ stretch' rest' p' d' here' leftmost' next' =>
      -- With stretches of one length what stands behind them is the same text too.
      have hlen : stretch.length = stretch'.length :=
        Nat.le_antisymm (stretch_length_le here' leftmost) (stretch_length_le here leftmost')
      obtain ⟨hstretch, hafter⟩ := List.append_inj (here.symm.trans here') hlen
      have hp : p = p' :=
        Placeholder.token_unique (List.prefix_append _ rest)
          (by rw [hafter]; exact List.prefix_append _ _)
      subst hstretch hp
      have hrest : rest = rest' := List.append_cancel_left hafter
      subst hrest
      rw [ih next']

/-! ## The cut that is filled -/

/-- A character at which no token starts goes in front of the first stretch of a cut, or of its
tail where it has no token. -/
theorem LeftmostCut.cons {c : Char} {s : List Char} {d : Cut} (h : LeftmostCut s d)
    (hc : ∀ p : Placeholder, ¬ p.token.toList <+: c :: s) :
    ∃ e, LeftmostCut (c :: s) e ∧ ∀ l, e.fill l = c :: d.fill l := by
  cases h with
  | tail _ absent =>
    refine ⟨⟨[], c :: s⟩, .tail _ fun p hin => ?_, fun l => rfl⟩
    rcases List.infix_cons_iff.1 hin with hpre | hlater
    · exact hc p hpre
    · exact absent p hlater
  | token _ stretch rest p d here leftmost next =>
    refine ⟨⟨(c :: stretch, p) :: d.stretches, d.tail⟩,
      .token _ (c :: stretch) rest p d (by rw [here, List.cons_append]) ?_ next, fun l => rfl⟩
    -- The place of `c` itself is excluded by `hc`, the later ones are places of the old stretch.
    intro i hi q
    cases i with
    | zero => exact hc q
    | succ i =>
      rw [List.drop_succ_cons]
      exact leftmost i (by simpa using hi) q

/-- **Substituting fills a cut.** Induction on the recursion of `substitute`; the cut does not
depend on the lookup. -/
theorem exists_leftmostCut (l : Lookup) (s : List Char) :
    ∃ d, LeftmostCut s d ∧ substitute l s = d.fill l := by
  fun_induction substitute l s with
  | case1 =>
    refine ⟨⟨[], []⟩, .tail _ fun p hin => ?_, rfl⟩
    exact p.token_toList_ne_nil (List.infix_nil.1 hin)
  | case2 c rest p rest' h ih =>
    -- A token at the head ends an empty stretch.
    obtain ⟨d, hd, hfill⟩ := ih
    refine ⟨⟨([], p) :: d.stretches, d.tail⟩,
      .token _ [] rest' p d (Placeholder.eq_append_of_strip? h)
        (fun i hi => absurd hi (by simp)) hd, ?_⟩
    rw [hfill]
    simp [Cut.fill, Cut.fillWith]
  | case3 c rest h ih =>
    -- A character at which no token starts belongs to the first stretch of what follows.
    obtain ⟨d, hd, hfill⟩ := ih
    obtain ⟨e, he, hcons⟩ := hd.cons (Placeholder.strip?_eq_none_iff.1 h)
    exact ⟨e, he, by rw [hfill, hcons]⟩

/-- Substituting in a template fills its cut. -/
theorem LeftmostCut.substitute_eq {s : List Char} {d : Cut} (h : LeftmostCut s d) (l : Lookup) :
    substitute l s = d.fill l := by
  obtain ⟨d', hd', hfill⟩ := exists_leftmostCut l s
  rw [hfill, hd'.unique h]

/-! ## Literals -/

/-- A text is the string literal of another one: it is what JSON writes for it, which is a single
token that denotes just this text. -/
def IsString (s : String) (literal : List Char) : Prop :=
  literal = Json.writeString s.toList ∧ (Json.Token.string (s.toList.map some)).Written literal

/-- A text is the numeral of a number: its decimal digits, of which the first is no zero but in the
numeral of zero itself, and which denote the number. -/
def IsNumeral (n : UInt32) (literal : List Char) : Prop :=
  literal = Decimal.digits n.toNat ∧ Json.Number.Written ⟨false, literal, [], none⟩ literal ∧
    Decimal.value literal = n.toNat

theorem isString_writeString (s : String) : IsString s (Json.writeString s.toList) :=
  ⟨rfl, Json.written_writeString s.toList⟩

theorem isNumeral_digits (n : UInt32) : IsNumeral n (Decimal.digits n.toNat) :=
  ⟨rfl, Json.Number.written_digits n.toNat, Decimal.value_digits n.toNat⟩

/-! ## Rendering -/

/-- **Rendering is the filling of the leftmost cut.** In the place of the tokens stand the string
literals of the source and of the path and the numerals of the line and of the column. At line zero
there is nothing to render. -/
theorem render_eq_fill_leftmostCut (template : String) (l : Lookup) :
    (l.line = 0 → render template l = .error (.position 0)) ∧
    (1 ≤ l.line → ∃ d, LeftmostCut template.toList d ∧
      (∀ d', LeftmostCut template.toList d' → d' = d) ∧
      ∃ values : Placeholder → List Char,
        IsString l.source (values .source) ∧ IsNumeral l.line (values .line) ∧
        IsNumeral l.column (values .column) ∧ IsString l.path (values .path) ∧
        render template l = .ok (String.ofList (d.fillWith values))) := by
  constructor
  · intro h
    exact render_eq_error h template
  · intro h
    obtain ⟨d, hd, hfill⟩ := exists_leftmostCut l template.toList
    refine ⟨d, hd, fun d' hd' => hd'.unique hd, fun p => p.literal l, isString_writeString l.source,
      isNumeral_digits l.line, isNumeral_digits l.column, isString_writeString l.path, ?_⟩
    rw [render_eq_ok h, hfill]
    rfl

/-- A template with all tokens in it, of which two share underscores. -/
def crossing : String :=
  "__NOTEBOOK_SOURCE__ __CURSOR_LINE__CURSOR_COLUMN__ __NOTEBOOK_PATH__ __CURSOR_COLUMN__"

/-- Where two tokens share their underscores the one further to the left counts, and what it leaves
of the other one is copied. A token in the source stays what it is. -/
theorem render_shared_underscores :
    (1 : UInt32) ≤ 7 ∧
    LeftmostCut crossing.toList ⟨[([], .source), ([' '], .line), ("CURSOR_COLUMN__ ".toList, .path),
      ([' '], .column)], []⟩ ∧
    render crossing ⟨"\"\n__CURSOR_LINE__", 7, 30, "p\\q"⟩ =
      .ok "\"\\\"\\n__CURSOR_LINE__\" 7CURSOR_COLUMN__ \"p\\\\q\" 30" ∧
    render crossing ⟨"\"\n__CURSOR_LINE__", 0, 30, "p\\q"⟩ = .error (.position 0) := by
  have hcut : LeftmostCut crossing.toList ⟨[([], .source), ([' '], .line),
      ("CURSOR_COLUMN__ ".toList, .path), ([' '], .column)], []⟩ := by
    refine .token _ [] _ .source ⟨_, _⟩ rfl (fun i hi => absurd hi (by simp)) ?_
    refine .token _ [' '] _ .line ⟨_, _⟩ rfl (fun i hi q => ?_) ?_
    · cases q <;> revert i <;> decide
    refine .token _ "CURSOR_COLUMN__ ".toList _ .path ⟨_, _⟩ rfl (fun i hi q => ?_) ?_
    · cases q <;> revert i <;> decide
    refine .token _ [' '] _ .column ⟨_, _⟩ rfl (fun i hi q => ?_) ?_
    · cases q <;> revert i <;> decide
    exact .tail _ fun p => by cases p <;> decide
  obtain ⟨d, -, hunique, values, hsource, hline, hcolumn, hpath, hrender⟩ :=
    (render_eq_fill_leftmostCut crossing ⟨"\"\n__CURSOR_LINE__", 7, 30, "p\\q"⟩).2 (by decide)
  refine ⟨by decide, hcut, ?_, (render_eq_fill_leftmostCut crossing _).1 rfl⟩
  rw [hrender, ← hunique _ hcut]
  simp only [Cut.fillWith, List.flatMap_cons, List.flatMap_nil, hsource.1, hline.1, hcolumn.1,
    hpath.1]
  rfl

end Template

end NotebookGoto
