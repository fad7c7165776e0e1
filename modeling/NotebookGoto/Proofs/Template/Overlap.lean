import NotebookGoto.Proofs.Probe
import NotebookGoto.Proofs.Template.Leftmost

/-!
# Tokens that share underscores

A probe is content with a template in which all tokens occur. Rendering replaces a token only where
the one to its left leaves it whole: tokens start and end with underscores, two of them may share
these, and then the second is no token any more once the first has been replaced.

* **`Free`**: whether a place is reached by no replaced token from before, said of the text alone.
* **`LeftmostCut.mem_placeholders_iff`**: the placeholders that are replaced are those of which a
  token stands free.
* **`Stands.reach_le`**: no token reaches further into another than its two last underscores.
* **`found_template_replaced_iff`**: what a template in which a probe misses nothing is worth to the
  renderer.
-/

namespace NotebookGoto.Template

/-! ## Places of tokens -/

/-- Whether the token of a placeholder stands at a place of a text. -/
def Stands (s : List Char) (i : Nat) (p : Placeholder) : Prop :=
  p.token.toList <+: s.drop i

instance (s : List Char) (i : Nat) (p : Placeholder) : Decidable (Stands s i p) := by
  unfold Stands
  infer_instance

/-- Whether no token reaches over a place from before, other than one that is itself reached over by
a free one. -/
def Free (s : List Char) (i : Nat) : Prop :=
  ∀ j, (_ : j < i) → ∀ q : Placeholder, Stands s j q → i < j + q.token.toList.length → ¬ Free s j
termination_by i

/-- Whether no two tokens share a character. -/
def Apart (s : List Char) : Prop :=
  ∀ i j p q, Stands s i p → Stands s j q → j < i → j + q.token.toList.length ≤ i

variable {s : List Char} {i j : Nat} {p q : Placeholder}

theorem infix_iff_exists_stands : p.token.toList <:+: s ↔ ∃ i, Stands s i p := by
  constructor
  · rintro ⟨a, b, rfl⟩
    refine ⟨a.length, ?_⟩
    rw [Stands, List.append_assoc, List.drop_left]
    exact List.prefix_append _ _
  · rintro ⟨i, h⟩
    exact h.isInfix.trans (List.drop_suffix i s).isInfix

theorem Stands.unique (hp : Stands s i p) (hq : Stands s i q) : p = q :=
  Placeholder.token_unique hp hq

theorem stands_append (front rest : List Char) (i : Nat) :
    Stands (front ++ rest) (front.length + i) p ↔ Stands rest i p := by
  rw [Stands, Stands, ← List.drop_drop, List.drop_left]

theorem free_of_none (h : ∀ j < i, ∀ q, ¬ Stands s j q) : Free s i := by
  rw [Free]
  intro j hj q hq
  exact absurd hq (h j hj q)

theorem Free.not_free (hj : Free s j) (hq : Stands s j q) (hji : j < i)
    (hi : i < j + q.token.toList.length) : ¬ Free s i := by
  intro h
  rw [Free] at h
  exact h j hji q hq hi hj

theorem Apart.free (hs : Apart s) (hp : Stands s i p) : Free s i := by
  rw [Free]
  intro j hj q hq hi
  have := hs i j p q hp hq hj
  omega

/-! ## How far tokens reach into each other -/

/-- Of two tokens that share characters the first ends at most two characters behind the start of
the second. -/
theorem Stands.reach_le (hq : Stands s j q) (hp : Stands s i p) (hji : j < i)
    (hi : i < j + q.token.toList.length) : j + q.token.toList.length ≤ i + 2 := by
  have hfew : ∀ m < q.token.toList.length, 0 < m →
      (p.token.toList <+: q.token.toList.drop m ∨ q.token.toList.drop m <+: p.token.toList) →
        q.token.toList.length ≤ m + 2 := by
    cases p <;> cases q <;> decide
  obtain ⟨r, hr⟩ := hq
  have hrest : s.drop i = q.token.toList.drop (i - j) ++ r := by
    have hdrop : (q.token.toList ++ r).drop (i - j) = q.token.toList.drop (i - j) ++ r :=
      List.drop_append_of_le_length (by omega)
    rw [hr, List.drop_drop, Nat.add_sub_cancel' (Nat.le_of_lt hji)] at hdrop
    exact hdrop
  rw [Stands, hrest] at hp
  have hcompare := List.prefix_or_prefix_of_prefix hp (List.prefix_append _ r)
  have := hfew (i - j) (by omega) (by omega) hcompare
  omega

/-! ## What a cut replaces -/

/-- The placeholders whose tokens a cut replaces, in their order. -/
def Cut.placeholders (d : Cut) : List Placeholder :=
  d.stretches.map (·.2)

section

variable {stretch rest : List Char} {p₀ : Placeholder}

/-- Behind the leftmost token a text is free where it is free by itself. -/
theorem free_append_iff
    (hleft : ∀ j < stretch.length, ∀ q, ¬ Stands (stretch ++ p₀.token.toList ++ rest) j q)
    (i : Nat) :
    Free (stretch ++ p₀.token.toList ++ rest) ((stretch ++ p₀.token.toList).length + i) ↔
      Free rest i := by
  generalize hs : stretch ++ p₀.token.toList ++ rest = s at *
  have hfirst : Stands s stretch.length p₀ := by
    rw [← hs, List.append_assoc, Stands, List.drop_left]
    exact List.prefix_append _ _
  have hlength : (stretch ++ p₀.token.toList).length =
      stretch.length + p₀.token.toList.length := List.length_append
  have hshift (i : Nat) (q : Placeholder) :
      Stands s ((stretch ++ p₀.token.toList).length + i) q ↔ Stands rest i q := by
    rw [← hs]
    exact stands_append _ _ _
  induction i using Nat.strongRecOn with
  | ind i ih =>
    rw [Free, Free]
    constructor
    · intro h j hj q hq hi hfree
      exact h _ (by omega) q ((hshift j q).2 hq) (by omega) ((ih j hj).2 hfree)
    · intro h j hj q hq hi hfree
      -- A place before the rest lies in front of the first token, at it or inside it.
      by_cases hrest : (stretch ++ p₀.token.toList).length ≤ j
      · obtain ⟨j', rfl⟩ := Nat.exists_eq_add_of_le hrest
        have hj' : j' < i := by omega
        exact h j' hj' q ((hshift j' q).1 hq) (by omega) ((ih j' hj').1 hfree)
      · rcases Nat.lt_trichotomy j stretch.length with hlt | rfl | hgt
        · exact hleft j hlt q hq
        · have := hq.unique hfirst
          subst this
          omega
        · exact (free_of_none hleft).not_free hfirst hgt (by omega) hfree

end

/-- **What is replaced stands free.** Induction on the cut: the leftmost token is free, nothing
inside it is, and what stands behind it is free in the rest. -/
theorem LeftmostCut.mem_placeholders_iff {d : Cut} (h : LeftmostCut s d) (p : Placeholder) :
    p ∈ d.placeholders ↔ ∃ i, Stands s i p ∧ Free s i := by
  induction h with
  | tail s absent =>
    refine iff_of_false List.not_mem_nil ?_
    rintro ⟨i, hi, -⟩
    exact absent p (infix_iff_exists_stands.2 ⟨i, hi⟩)
  | token s stretch rest p₀ d here leftmost _ ih =>
    rw [← List.append_assoc] at here
    subst here
    have hfirst : Stands (stretch ++ p₀.token.toList ++ rest) stretch.length p₀ := by
      rw [List.append_assoc, Stands, List.drop_left]
      exact List.prefix_append _ _
    have hfree := free_of_none leftmost
    have hmem : p ∈ Cut.placeholders ⟨(stretch, p₀) :: d.stretches, d.tail⟩ ↔
        p = p₀ ∨ p ∈ d.placeholders := List.mem_cons
    rw [hmem, ih]
    constructor
    · rintro (rfl | ⟨i, hi, hrest⟩)
      · exact ⟨stretch.length, hfirst, hfree⟩
      · exact ⟨_, (stands_append _ rest i).2 hi, (free_append_iff leftmost i).2 hrest⟩
    · rintro ⟨i, hi, hplace⟩
      by_cases hrest : (stretch ++ p₀.token.toList).length ≤ i
      · obtain ⟨i', rfl⟩ := Nat.exists_eq_add_of_le hrest
        exact .inr ⟨i', (stands_append _ rest i').1 hi, (free_append_iff leftmost i').1 hplace⟩
      · rw [List.length_append] at hrest
        rcases Nat.lt_trichotomy i stretch.length with hlt | rfl | hgt
        · exact absurd hi (leftmost i hlt p)
        · exact .inl (hi.unique hfirst)
        · exact absurd hplace (hfree.not_free hfirst hgt (by omega))

/-- A token that is not free starts in the underscores with which a free one ends. -/
theorem exists_free_of_not_free (hp : Stands s i p) (h : ¬ Free s i) :
    ∃ j q, Stands s j q ∧ Free s j ∧ j < i ∧
      (j + q.token.toList.length = i + 1 ∨ j + q.token.toList.length = i + 2) := by
  rw [Free] at h
  push Not at h
  obtain ⟨j, hj, q, hq, hi, hfree⟩ := h
  have := hq.reach_le hp hj hi
  exact ⟨j, q, hq, hfree, hj, by omega⟩

/-! ## Templates that a probe has found -/

/-- A probe that finds something has been told a template in which no placeholder is missing. -/
theorem missing_of_run {probe : Probe} {network : Probe.Network} {finding : Probe.Finding}
    {template : String} (hrun : probe.run network = .ok finding)
    (hfetch : probe.fetch network .code = .ok template) : missing template = [] := by
  rw [Probe.run] at hrun
  cases hhello : probe.fetch network .hello with
  | error e =>
    rw [hhello] at hrun
    cases hrun
  | ok greeting =>
    rw [hhello, hfetch] at hrun
    cases hmissing : missing template with
    | nil => rfl
    | cons p placeholders =>
      simp only [bind, Except.bind, hmissing] at hrun
      cases hrun

/-- **When a template that a probe has found is usable.** In it every token occurs. Rendering
replaces those placeholders of which a token stands free, and no others; a token that does not stand
free shares one or two underscores with the end of a free one. So where no two tokens share any, all
placeholders are replaced. -/
theorem found_template_replaced_iff (probe : Probe) (network : Probe.Network)
    (finding : Probe.Finding) (template : String) (l : Lookup)
    (hrun : probe.run network = .ok finding)
    (hfetch : probe.fetch network .code = .ok template) (hline : 1 ≤ l.line) :
    ∃ d, LeftmostCut template.toList d ∧
      render template l = .ok (String.ofList (d.fill l)) ∧
      (∀ p, ∃ i, Stands template.toList i p) ∧
      (∀ p, p ∈ d.placeholders ↔
        ∃ i, Stands template.toList i p ∧ Free template.toList i) ∧
      (∀ i p, Stands template.toList i p → ¬ Free template.toList i →
        ∃ j q, Stands template.toList j q ∧ Free template.toList j ∧ j < i ∧
          (j + q.token.toList.length = i + 1 ∨ j + q.token.toList.length = i + 2)) ∧
      (Apart template.toList → ∀ p, p ∈ d.placeholders) := by
  obtain ⟨d, hd, hfill⟩ := exists_leftmostCut l template.toList
  have hstands (p : Placeholder) : ∃ i, Stands template.toList i p := by
    rw [← infix_iff_exists_stands]
    by_contra hp
    have hmem := mem_missing_iff.2 hp
    rw [missing_of_run hrun hfetch] at hmem
    cases hmem
  refine ⟨d, hd, ?_, hstands, hd.mem_placeholders_iff, fun i p => exists_free_of_not_free,
    fun hapart p => ?_⟩
  · rw [render_eq_ok hline, hfill]
  · obtain ⟨i, hi⟩ := hstands p
    exact (hd.mem_placeholders_iff p).2 ⟨i, hi, hapart.free hi⟩

/-- A site with a template of its own. -/
def siteOf (template : String) : Http.Site where
  baseUrl := "/"
  extensionName := "e"
  token := ⟨"t"⟩
  template := template

/-- A probe is told the template of such a site, and is content if nothing is missing in it. -/
theorem found_siteOf {template : String} (h : missing template = []) :
    (Probe.forSite Probe.loopback (siteOf template) "t").fetch (.ofSite (siteOf template)) .code =
        .ok template ∧
      (Probe.forSite Probe.loopback (siteOf template) "t").run (.ofSite (siteOf template)) =
        .ok ⟨Endpoint.greeting, template.utf8ByteSize⟩ := by
  have hbase : Http.Route.IsBase "/" [] := ⟨nofun, 0, by decide⟩
  have hname : Http.Route.IsName "e" ['e'] := ⟨by decide, 0, 0, by decide⟩
  have hsends (e : Endpoint) : Probe.loopback.Sends (Http.Route.path "/" "e" e) :=
    ⟨Text.forall_mem_of_all (by decide), by cases e <;> decide⟩
  have hne : (siteOf template).token.secret ≠ "" := by
    show ("t" : String) ≠ ""
    decide
  have htrim : String.ofList (Text.trim "t".toList) = (siteOf template).token.secret := by
    show _ = "t"
    decide
  constructor
  · exact Probe.fetch_of_presents (s := siteOf template) hbase hname (by decide) (hsends .code)
      ((Probe.presents_asked_iff (by decide) hne).2 htrim)
  · rw [(Probe.run_of_trim_eq (s := siteOf template) hbase hname (by decide) hsends hne htrim).2]
    have hmissing : missing (siteOf template).template = [] := h
    rw [hmissing]
    rfl

/-- A template in which each token stands free somewhere, though two of them share underscores with
the token before them. Of these the first is left, and so the second is replaced. -/
def chained : String :=
  "__CURSOR_LINE__CURSOR_COLUMN__NOTEBOOK_PATH__ __CURSOR_COLUMN__ __NOTEBOOK_SOURCE__"

theorem leftmostCut_chained : LeftmostCut chained.toList
    ⟨[([], .line), ("CURSOR_COLUMN".toList, .path), ([' '], .column), ([' '], .source)], []⟩ := by
  refine .token _ [] _ .line ⟨_, _⟩ rfl (fun i hi => absurd hi (by simp)) ?_
  refine .token _ "CURSOR_COLUMN".toList _ .path ⟨_, _⟩ rfl (fun i hi q => ?_) ?_
  · cases q <;> revert i <;> decide
  refine .token _ [' '] _ .column ⟨_, _⟩ rfl (fun i hi q => ?_) ?_
  · cases q <;> revert i <;> decide
  refine .token _ [' '] _ .source ⟨_, _⟩ rfl (fun i hi q => ?_) ?_
  · cases q <;> revert i <;> decide
  exact .tail _ fun p => by cases p <;> decide

theorem chained_stands_free :
    (Probe.forSite Probe.loopback (siteOf chained) "t").run (.ofSite (siteOf chained)) =
        .ok ⟨Endpoint.greeting, chained.utf8ByteSize⟩ ∧
      render chained ⟨"s", 7, 3, "p"⟩ = .ok "7CURSOR_COLUMN\"p\" 3 \"s\"" ∧
      ∀ p, ∃ i, Stands chained.toList i p ∧ Free chained.toList i := by
  have hmissing : missing chained = [] := by decide
  obtain ⟨hfetch, hrun⟩ := found_siteOf hmissing
  obtain ⟨d, hd, hrender, -, hfree, -⟩ := found_template_replaced_iff _ _ _ chained ⟨"s", 7, 3, "p"⟩
    hrun hfetch (by decide)
  obtain rfl := hd.unique leftmostCut_chained
  exact ⟨hrun, hrender, fun p => (hfree p).1 (by cases p <;> decide)⟩

/-- A template in which all tokens occur, one of them only with the underscores of another. -/
def shared : String :=
  "__NOTEBOOK_SOURCE__ __CURSOR_LINE__CURSOR_COLUMN__ __NOTEBOOK_PATH__"

/-- **A probe is content with a template that cannot be used.** The column is not put into it. -/
theorem shared_found_but_not_replaced :
    (Probe.forSite Probe.loopback (siteOf shared) "t").run (.ofSite (siteOf shared)) =
        .ok ⟨Endpoint.greeting, shared.utf8ByteSize⟩ ∧
      missing shared = [] ∧
      (∃ d, LeftmostCut shared.toList d ∧ .column ∉ d.placeholders) ∧
      render shared ⟨"s", 7, 3, "p"⟩ = .ok "\"s\" 7CURSOR_COLUMN__ \"p\"" ∧
      ∀ column, render shared ⟨"s", 7, column, "p"⟩ = render shared ⟨"s", 7, 3, "p"⟩ := by
  have hcut : LeftmostCut shared.toList
      ⟨[([], .source), ([' '], .line), ("CURSOR_COLUMN__ ".toList, .path)], []⟩ := by
    refine .token _ [] _ .source ⟨_, _⟩ rfl (fun i hi => absurd hi (by simp)) ?_
    refine .token _ [' '] _ .line ⟨_, _⟩ rfl (fun i hi q => ?_) ?_
    · cases q <;> revert i <;> decide
    refine .token _ "CURSOR_COLUMN__ ".toList _ .path ⟨_, _⟩ rfl (fun i hi q => ?_) ?_
    · cases q <;> revert i <;> decide
    exact .tail _ fun p => by cases p <;> decide
  have hrender (column : UInt32) :
      render shared ⟨"s", 7, column, "p"⟩ = render shared ⟨"s", 7, 3, "p"⟩ := by
    have hline (column : UInt32) : 1 ≤ (⟨"s", 7, column, "p"⟩ : Lookup).line := by
      show (1 : UInt32) ≤ 7
      decide
    rw [render_eq_ok (hline column), render_eq_ok (hline 3), hcut.substitute_eq, hcut.substitute_eq]
    simp only [Cut.fill, Cut.fillWith, List.flatMap_cons, List.flatMap_nil, Placeholder.literal]
  have hmissing : missing shared = [] := by decide
  refine ⟨(found_siteOf hmissing).2, hmissing, ⟨_, hcut, by decide⟩, ?_, hrender⟩
  rw [render_eq_ok (by decide), hcut.substitute_eq]
  rfl

end NotebookGoto.Template
